import AccessReport.Json.Reader

/-!
Where in a text a fault was noticed, and reading texts that are given as bytes.
-/

namespace AccessReport
namespace Json

structure Position where
  -- counted from one
  line   : Nat
  -- the bytes of the line up to there
  column : Nat
deriving DecidableEq, Repr

def Position.text (p : Position) : String :=
  "line " ++ natText p.line ++ " column " ++ natText p.column

-- The position of a fault in the text that was read. Of a character that is out of place only the
-- first byte was seen.
def Fault.position (f : Fault) (text : List Char) : Position :=
  let seen := text.take (text.length - f.unread.length)
  let line := seen.reverse.takeWhile (· ≠ '\n')
  let column := match line with
    | [] => 0
    | c :: cs =>
      (if f.cause.category = .endOfText then Utf8.byteLength [c] else 1) + Utf8.byteLength cs
  ⟨1 + seen.count '\n', column⟩

def Fault.describe (f : Fault) (text : List Char) : String :=
  f.cause.message ++ " at " ++ (f.position text).text

-- The text that bytes are meant to be.
def textOf (bs : List UInt8) : List Char :=
  Utf8.decodeLossy bs

-- Reads bytes. Where they are no text, that is noticed at the end of the string that they are in,
-- if no other fault comes first.
def readBytes {α} (read : List Char → Except Fault α) (bs : List UInt8) : Except Fault α :=
  let parts := Utf8.decodeParts bs
  let text := textOf bs
  let valid := (parts.takeWhile (·.isSome)).length
  let inString : Fault := ⟨.invalidText, ((text.drop (valid + 1)).dropWhile (· ≠ '"')).drop 1⟩
  match read text with
  | .ok a => if valid = parts.length then .ok a else .error inString
  | .error fault =>
    if valid = parts.length || text.length ≤ fault.unread.length + valid + 1 then .error fault
    else .error inString

end Json
end AccessReport

import AccessReport.Number.Decimal
import AccessReport.Text.Case
import AccessReport.Text.Quoted.Table

/-!
Text in quotes, for messages and inspection.
-/

namespace AccessReport
namespace Quoted

def hexDigit (n : Nat) : Char :=
  if n % 16 < 10 then Char.ofNat ('0'.toNat + n % 16) else Char.ofNat ('a'.toNat + n % 16 - 10)

def hexText (n : Nat) : List Char :=
  go n []
where
  go (n : Nat) (tail : List Char) : List Char :=
    if n < 16 then hexDigit n :: tail else go (n / 16) (hexDigit n :: tail)
  termination_by n

def isSpelled (c : Char) : Bool :=
  c.toNat < 0x20 || Case.inRanges spelledRanges c.toNat

def quoteChar (c : Char) : List Char :=
  if c = '\x00' then ['\\', '0']
  else if c = '\t' then ['\\', 't']
  else if c = '\r' then ['\\', 'r']
  else if c = '\n' then ['\\', 'n']
  else if c = '"' || c = '\\' then ['\\', c]
  else if isSpelled c then ['\\', 'u', '\x7b'] ++ hexText c.toNat ++ ['\x7d']
  else [c]

-- The text between quotes, with everything escaped that could not be seen.
def quote (s : String) : String :=
  String.ofList ('"' :: s.toList.flatMap quoteChar ++ ['"'])

end Quoted
end AccessReport

import AccessReport.Json.Value
import AccessReport.Text.Quoted

/-!
What can be wrong with a JSON text, either with its form or with the data it holds.
-/

namespace AccessReport
namespace Json

-- What a value is at first sight: a scalar, or the start of a list or an object.
inductive Token where
  | null
  | bool (b : Bool)
  | number (n : Number)
  | string (s : String)
  | sequence
  | map

def Token.text : Token → String
  | null => "null"
  | bool b => if b then "boolean `true`" else "boolean `false`"
  | number (.float x) => "floating point `" ++ Double.text x ++ "`"
  | number n => "integer `" ++ n.text ++ "`"
  | string s => "string " ++ Quoted.quote s
  | sequence => "sequence"
  | map => "map"

inductive Cause where
  | endInValue
  | endInList
  | endInObject
  | endInString
  | expectedColon
  | expectedListCommaOrEnd
  | expectedObjectCommaOrEnd
  | expectedIdent
  | expectedValue
  | invalidEscape
  | invalidNumber
  | numberOutOfRange
  | invalidText
  | controlCharacter
  | keyNotString
  | loneSurrogate
  | unpairedSurrogate
  | trailingComma
  | trailingCharacters
  | tooDeep
  | invalidType (found : Token) (expected : String)
  | invalidValue (found : Token) (expected : String)
  | invalidLength (length : Nat) (expected : String)
  | missingField (name : String)
  | duplicateField (name : String)
  | invalidData (message : String)

inductive Category where
  | syntactic
  | data
  | endOfText
deriving DecidableEq

def Cause.category : Cause → Category
  | endInValue | endInList | endInObject | endInString => .endOfText
  | invalidType .. | invalidValue .. | invalidLength .. | missingField _ | duplicateField _
  | invalidData _ => .data
  | _ => .syntactic

def Cause.message : Cause → String
  | endInValue => "EOF while parsing a value"
  | endInList => "EOF while parsing a list"
  | endInObject => "EOF while parsing an object"
  | endInString => "EOF while parsing a string"
  | expectedColon => "expected `:`"
  | expectedListCommaOrEnd => "expected `,` or `]`"
  | expectedObjectCommaOrEnd => "expected `,` or `\x7d`"
  | expectedIdent => "expected ident"
  | expectedValue => "expected value"
  | invalidEscape => "invalid escape"
  | invalidNumber => "invalid number"
  | numberOutOfRange => "number out of range"
  | invalidText => "invalid unicode code point"
  | controlCharacter => "control character (\\u0000-\\u001F) found while parsing a string"
  | keyNotString => "key must be a string"
  | loneSurrogate => "lone leading surrogate in hex escape"
  | unpairedSurrogate => "unexpected end of hex escape"
  | trailingComma => "trailing comma"
  | trailingCharacters => "trailing characters"
  | tooDeep => "recursion limit exceeded"
  | invalidType found expected => "invalid type: " ++ found.text ++ ", expected " ++ expected
  | invalidValue found expected => "invalid value: " ++ found.text ++ ", expected " ++ expected
  | invalidLength n expected => "invalid length " ++ natText n ++ ", expected " ++ expected
  | missingField name => "missing field `" ++ name ++ "`"
  | duplicateField name => "duplicate field `" ++ name ++ "`"
  | invalidData message => message

-- A cause, and what was left of the text when it was noticed.
structure Fault where
  cause  : Cause
  unread : List Char

-- What a reader answers unless it finds a fault: a value and the rest of the text.
abbrev Read (α : Type) := α × List Char

def fail {α} (cause : Cause) (unread : List Char) : Except Fault α :=
  .error ⟨cause, unread⟩

-- A fault noticed at the next character, which counts as read.
def failAt {α} (cause : Cause) (unread : List Char) : Except Fault α :=
  .error ⟨cause, unread.tail⟩

end Json
end AccessReport

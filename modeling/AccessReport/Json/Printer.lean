import AccessReport.Json.Value
import AccessReport.Text.Quoted

/-!
Writing JSON text, on one line or indented.
-/

namespace AccessReport
namespace Json

-- Quotes, backslashes and control characters are escaped.
def escapeChar (c : Char) : List Char :=
  match c with
  | '"' => ['\\', '"']
  | '\\' => ['\\', '\\']
  | '\x08' => ['\\', 'b']
  | '\x0c' => ['\\', 'f']
  | '\n' => ['\\', 'n']
  | '\r' => ['\\', 'r']
  | '\t' => ['\\', 't']
  | c =>
    if c.toNat < 0x20 then
      ['\\', 'u', '0', '0', Quoted.hexDigit (c.toNat / 16), Quoted.hexDigit c.toNat]
    else [c]

def quoteChars (s : String) : List Char :=
  '"' :: (s.toList.flatMap escapeChar ++ ['"'])

def scalarChars : Value → List Char
  | .bool true => ['t', 'r', 'u', 'e']
  | .bool false => ['f', 'a', 'l', 's', 'e']
  | .number n => n.text.toList
  | .string s => quoteChars s
  | _ => ['n', 'u', 'l', 'l']

mutual

def compactChars : Value → List Char
  | .array items => '[' :: compactItems true items
  | .object entries => '{' :: compactEntries true entries
  | v => scalarChars v

def compactItems (first : Bool) : List Value → List Char
  | [] => [']']
  | v :: vs => (if first then [] else [',']) ++ compactChars v ++ compactItems false vs

def compactEntries (first : Bool) : List (String × Value) → List Char
  | [] => ['}']
  | (k, v) :: es =>
    (if first then [] else [',']) ++ quoteChars k ++ ':' :: compactChars v ++ compactEntries false es

end

def compact (v : Value) : String :=
  String.ofList (compactChars v)

def newLine (depth : Nat) : List Char :=
  '\n' :: List.replicate (2 * depth) ' '

mutual

def prettyChars (depth : Nat) : Value → List Char
  | .array [] => ['[', ']']
  | .object [] => ['{', '}']
  | .array items => '[' :: prettyItems depth true items
  | .object entries => '{' :: prettyEntries depth true entries
  | v => scalarChars v

def prettyItems (depth : Nat) (first : Bool) : List Value → List Char
  | [] => newLine depth ++ [']']
  | v :: vs =>
    (if first then [] else [',']) ++ newLine (depth + 1) ++ prettyChars (depth + 1) v ++
      prettyItems depth false vs

def prettyEntries (depth : Nat) (first : Bool) : List (String × Value) → List Char
  | [] => newLine depth ++ ['}']
  | (k, v) :: es =>
    (if first then [] else [',']) ++ newLine (depth + 1) ++ quoteChars k ++
      ':' :: ' ' :: prettyChars (depth + 1) v ++ prettyEntries depth false es

end

-- The text of a value with an entry a line, indented by two spaces a level.
def pretty (v : Value) : String :=
  String.ofList (prettyChars 0 v)

end Json
end AccessReport

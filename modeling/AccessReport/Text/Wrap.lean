import AccessReport.Text.Blank

/-!
Greedy line filling. Continuation lines keep the indentation of the text, and a word longer than a
line is cut into pieces that fill lines.
-/

namespace AccessReport
namespace Wrap

-- Cuts a word into pieces of `room` characters and a rest.
def pieces (room : Nat) (word : List Char) : List (List Char) :=
  if _ : 0 < room ∧ room < word.length then
    word.take room :: pieces room (word.drop room)
  else
    [word]
termination_by word.length
decreasing_by simp; omega

-- Puts as many pieces as fit on each line, one space apart.
def fill (room : Nat) (line : List Char) : List (List Char) → List (List Char)
  | [] => [line]
  | p :: ps =>
    if line.isEmpty then fill room p ps
    else if line.length + 1 + p.length ≤ room then fill room (line ++ ' ' :: p) ps
    else line :: fill room p ps

def indent (text : List Char) : List Char :=
  text.takeWhile Text.isBlank

-- The characters that a line holds after the indentation, at least one.
def room (text : List Char) (maxChars : Nat) : Nat :=
  max (maxChars - (indent text).length) 1

-- The lines of a text that is laid out in at most `maxChars` characters a line.
def wrap (text : List Char) (maxChars : Nat) : List (List Char) :=
  if text.length ≤ maxChars then
    [text]
  else
    let room := room text maxChars
    let body := Text.words (Text.trimStart text)
    (fill room [] (body.flatMap (pieces room))).map (indent text ++ ·)

theorem fill_ne_nil (room : Nat) (line : List Char) (ps : List (List Char)) :
    fill room line ps ≠ [] := by
  induction ps generalizing line with
  | nil => simp [fill]
  | cons p ps ih =>
    rw [fill]
    split
    · exact ih p
    · split
      · exact ih _
      · simp

theorem wrap_ne_nil (text : List Char) (maxChars : Nat) : wrap text maxChars ≠ [] := by
  unfold wrap
  split
  · simp
  · simp [fill_ne_nil]

end Wrap
end AccessReport

/-!
Blank characters, and cutting text at them.
-/

namespace AccessReport
namespace Text

-- Characters with the property White_Space.
def isBlank (c : Char) : Bool :=
  let n := c.toNat
  (0x9 ≤ n && n ≤ 0xD) || n = 0x20 || n = 0x85 || n = 0xA0 || n = 0x1680 ||
  (0x2000 ≤ n && n ≤ 0x200A) || n = 0x2028 || n = 0x2029 || n = 0x202F || n = 0x205F || n = 0x3000

def trimStart (cs : List Char) : List Char :=
  cs.dropWhile isBlank

def trimEnd (cs : List Char) : List Char :=
  (cs.reverse.dropWhile isBlank).reverse

def trim (cs : List Char) : List Char :=
  trimEnd (trimStart cs)

-- The stretches between the characters with `p`, empty ones included.
def cut (p : Char → Bool) : List Char → List (List Char)
  | [] => [[]]
  | c :: cs =>
    if p c then
      [] :: cut p cs
    else match cut p cs with
      | [] => [[c]]
      | w :: ws => (c :: w) :: ws

-- The nonempty stretches between blanks.
def words (cs : List Char) : List (List Char) :=
  (cut isBlank cs).filter (!·.isEmpty)

-- The stretches between line feeds.
def lines (cs : List Char) : List (List Char) :=
  cut (· = '\n') cs

-- Joins texts with a separator between them.
def join (separator : List Char) : List (List Char) → List Char
  | [] => []
  | [w] => w
  | w :: ws => w ++ separator ++ join separator ws

theorem cut_ne_nil (p : Char → Bool) (cs : List Char) : cut p cs ≠ [] := by
  cases cs with
  | nil => simp [cut]
  | cons c cs =>
    rw [cut]
    split
    · simp
    · split <;> simp

theorem not_mem_of_mem_cut {p : Char → Bool} {cs w : List Char} (h : w ∈ cut p cs) :
    ∀ c ∈ w, p c = false := by
  induction cs generalizing w with
  | nil => simp_all [cut]
  | cons c cs ih =>
    rw [cut] at h
    split at h
    · cases h with
      | head => simp
      | tail _ h => exact ih h
    case isFalse hc =>
      split at h <;> rename_i he
      · exact absurd he (cut_ne_nil p cs)
      · cases h with
        | head => simpa [hc] using ih (he ▸ .head _)
        | tail _ h => exact ih (he ▸ .tail _ h)

end Text
end AccessReport

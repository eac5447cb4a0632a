import AccessReport.Json.Printer
import AccessReport.Json.Record
import AccessReport.Proofs.Reading

namespace AccessReport

open Decimal

-- A number is written without zeros in front.
theorem Decimal.head?_digitsOf (n : Nat) : ∃ d ds, digitsOf n = d :: ds ∧ (d = '0' → n = 0) := by
  have go (n : Nat) (tail : List Char) :
      ∃ d ds, digitsOf.go n tail = d :: ds ∧ (d = '0' → n = 0) := by
    induction n, tail using digitsOf.go.induct with
    | case1 n tail h =>
      have hdigit : ∀ k < 10, digitOf k = '0' → k = 0 := by decide
      rw [digitsOf.go, if_pos h]
      exact ⟨_, _, rfl, hdigit n h⟩
    | case2 n tail h ih =>
      obtain ⟨d, ds, heq, hd⟩ := ih
      rw [digitsOf.go, if_neg h]
      refine ⟨d, ds, heq, fun hzero => ?_⟩
      have := hd hzero
      omega
  exact go n []

namespace Json

/-! ### Strings -/

variable {c : Char} {cs rest : List Char} {state state' : StringState}

theorem hexValue_hexDigit (n : Nat) : hexValue (Quoted.hexDigit n) = some (n % 16) := by
  have hall : ∀ k < 16, hexValue (Quoted.hexDigit k) = some k := by decide
  have hmod : Quoted.hexDigit (n % 16) = Quoted.hexDigit n := by simp [Quoted.hexDigit]
  rw [← hmod]
  exact hall (n % 16) (Nat.mod_lt n (by decide))

theorem stringBody_of_step {strict : Bool} {read : List Char}
    (hstep : stringStep strict state c cs = .ok (state', read)) (hc : state = .plain → c ≠ '"') :
    stringBody strict state (c :: cs) =
      (stringBody strict state' cs).map fun x => (read ++ x.1, x.2) := by
  rw [stringBody, hstep]
  · dsimp only
    cases stringBody strict state' cs <;> rfl
  · exact hc

-- A step that reads no character.
theorem stringBody_of_silent {strict : Bool}
    (hstep : stringStep strict state c cs = .ok (state', [])) (hc : state = .plain → c ≠ '"') :
    stringBody strict state (c :: cs) = stringBody strict state' cs := by
  rw [stringBody_of_step hstep hc]
  cases stringBody strict state' cs <;> rfl

theorem stringBody_simpleEscape {e : Char} (he : e ≠ 'u') (h : simpleEscape e = some c)
    (cs : List Char) : stringBody true .plain ('\\' :: e :: cs) =
      (stringBody true .plain cs).map fun x => (c :: x.1, x.2) := by
  have hmark : stringStep true .plain '\\' (e :: cs) = .ok (.escaped, []) := rfl
  have hread : stringStep true .escaped e cs = .ok (.plain, [c]) := by
    rw [stringStep, if_neg he, h]
  rw [stringBody_of_silent hmark fun _ => by decide, stringBody_of_step hread nofun]
  rfl

theorem stringBody_hexDigit {high : Option Nat} {count value : Nat} (hcount : count ≠ 3) (n : Nat)
    (cs : List Char) : stringBody true (.hex high count value) (Quoted.hexDigit n :: cs) =
      stringBody true (.hex high (count + 1) (value * 16 + n % 16)) cs := by
  refine stringBody_of_silent ?_ nofun
  rw [stringStep, hexValue_hexDigit]
  exact if_neg hcount

-- Control characters are spelled by two digits behind two zeros.
theorem stringBody_control (hc : c.toNat < 0x20) (cs : List Char) :
    stringBody true .plain
        ('\\' :: 'u' :: '0' :: '0' :: Quoted.hexDigit (c.toNat / 16) :: Quoted.hexDigit c.toNat ::
          cs) =
      (stringBody true .plain cs).map fun x => (c :: x.1, x.2) := by
  have hmark (cs : List Char) : stringBody true .plain ('\\' :: 'u' :: cs) =
      stringBody true (.hex none 0 0) cs := by
    have hslash : stringStep true .plain '\\' ('u' :: cs) = .ok (.escaped, []) := rfl
    have hunicode : stringStep true .escaped 'u' cs = .ok (.hex none 0 0, []) := rfl
    rw [stringBody_of_silent hslash fun _ => by decide, stringBody_of_silent hunicode nofun]
  have hzero : '0' = Quoted.hexDigit 0 := by decide
  have hlast : stringStep true (.hex none 3 (c.toNat / 16)) (Quoted.hexDigit c.toNat) cs =
      .ok (.plain, [c]) := by
    rw [stringStep, hexValue_hexDigit]
    have hvalue : c.toNat / 16 * 16 + c.toNat % 16 = c.toNat := Nat.div_add_mod' ..
    have hplain : isLowSurrogate c.toNat = false ∧ isHighSurrogate c.toNat = false := by
      simp only [isLowSurrogate, isHighSurrogate, Bool.and_eq_false_iff, decide_eq_false_iff_not]
      omega
    simp [closeHex, hvalue, hplain, Char.ofNat_toNat]
  have htens : c.toNat / 16 % 16 = c.toNat / 16 := by omega
  rw [hmark, hzero, stringBody_hexDigit (by decide), stringBody_hexDigit (by decide),
    stringBody_hexDigit (by decide)]
  simp only [Nat.zero_mod, Nat.zero_mul, Nat.zero_add, htens]
  rw [stringBody_of_step hlast nofun]
  rfl

-- A character is read from its escape.
theorem stringBody_escapeChar (c : Char) (cs : List Char) :
    stringBody true .plain (escapeChar c ++ cs) =
      (stringBody true .plain cs).map fun x => (c :: x.1, x.2) := by
  unfold escapeChar
  split
  case h_8 hquote hslash _ _ _ _ _ =>
    split
    case isTrue hc => exact stringBody_control hc cs
    case isFalse hc =>
      have hstep : stringStep true .plain c cs = .ok (.plain, [c]) := by
        rw [stringStep, if_neg hslash, if_neg hc]
      exact stringBody_of_step hstep fun _ => hquote
  all_goals exact stringBody_simpleEscape (by decide) rfl cs

theorem stringBody_quoted (s rest : List Char) :
    stringBody true .plain (s.flatMap escapeChar ++ '"' :: rest) = .ok (s, rest) := by
  induction s with
  | nil => rfl
  | cons c s ih =>
    rw [List.flatMap_cons, List.append_assoc, stringBody_escapeChar, ih]
    rfl

/-! ### Numbers -/

variable {ds : List Char}

-- The number that digits make of the digits in front of them.
def foldDigits (significand : Nat) (ds : List Char) : Nat :=
  ds.foldl (fun n c => n * 10 + digitValue c) significand

theorem le_foldDigits (significand : Nat) (ds : List Char) :
    significand ≤ foldDigits significand ds := by
  induction ds generalizing significand with
  | nil => exact Nat.le_refl _
  | cons d ds ih =>
    have htail := ih (significand * 10 + digitValue d)
    rw [foldDigits, List.foldl_cons, ← foldDigits]
    omega

theorem foldDigits_digitsOf {n : Nat} {d : Char} (h : digitsOf n = d :: ds) :
    foldDigits (digitValue d) ds = n := by
  have hvalue := ofDigits_digitsOf n
  rw [h, ofDigits, List.foldl_cons, Nat.zero_mul, Nat.zero_add] at hvalue
  exact hvalue

theorem wholeDigits_append {significand : Nat} (hds : ∀ c ∈ ds, isDigit c = true)
    (hrest : ∀ c ∈ rest.head?, isDigit c = false) (hmax : foldDigits significand ds ≤ maxWord) :
    wholeDigits significand (ds ++ rest) = (foldDigits significand ds, 0, rest) := by
  induction ds generalizing significand with
  | nil =>
    cases rest with
    | nil => rfl
    | cons c rest => simp [wholeDigits, hrest c rfl, foldDigits]
  | cons d ds ih =>
    rw [foldDigits, List.foldl_cons, ← foldDigits] at hmax ⊢
    have hle := Nat.le_trans (le_foldDigits _ ds) hmax
    rw [List.cons_append, wholeDigits, if_pos (hds d (.head _)), if_neg (Nat.not_lt.2 hle),
      ih (fun c hc => hds c (.tail _ hc)) hmax]

-- What may follow a scalar in a record.
def Stops (rest : List Char) : Prop :=
  ∀ c ∈ rest.head?, c = ',' ∨ c = '}' ∨ isSpace c = true

-- No number goes on there.
theorem Stops.ends_number (h : Stops rest) :
    ∀ c ∈ rest.head?, isDigit c = false ∧ c ≠ '.' ∧ c ≠ 'e' ∧ c ≠ 'E' := by
  intro c hc
  obtain rfl | rfl | hspace := h c hc
  · decide
  · decide
  · simp only [isSpace, Bool.or_eq_true, decide_eq_true_eq] at hspace
    obtain ((rfl | rfl) | rfl) | rfl := hspace <;> decide

theorem number_digitsOf {n : Nat} (hn : n ≤ maxWord) (hrest : Stops rest) :
    number false (digitsOf n ++ rest) = .ok (.natural n, rest) := by
  obtain ⟨d, ds, hdigits, hzero⟩ := head?_digitsOf n
  have hall : ∀ c ∈ d :: ds, isDigit c = true := fun c hc =>
    isDigit_of_mem_digitsOf (hdigits ▸ hc)
  have hvalue := foldDigits_digitsOf hdigits
  have hwhole : (if d = '0' then (0, 0, ds ++ rest) else wholeDigits (digitValue d) (ds ++ rest)) =
      (n, 0, rest) := by
    split
    case isTrue h =>
      obtain rfl := hzero h
      have hone : digitsOf 0 = [digitOf 0] := by
        rw [digitsOf, digitsOf.go, if_pos (by decide)]
      obtain ⟨-, rfl⟩ := List.cons_eq_cons.1 (hone.symm.trans hdigits)
      rfl
    case isFalse h =>
      rw [wholeDigits_append (fun c hc => hall c (.tail _ hc))
        (fun c hc => (hrest.ends_number c hc).1) (hvalue ▸ hn), hvalue]
  rw [hdigits, List.cons_append, number, hall d (.head _), hwhole, if_neg (by decide)]
  cases rest with
  | nil => rfl
  | cons c rest =>
    obtain ⟨hdigit, hpoint, hexp, hexp'⟩ := hrest.ends_number c rfl
    dsimp only
    split
    case h_1 heq => exact absurd (List.cons_eq_cons.1 heq).1 hpoint
    case h_2 heq =>
      obtain ⟨rfl, rfl⟩ := List.cons_eq_cons.1 heq
      simp [hexp, hexp', hdigit, number.wholeNumber]
    case h_3 heq => cases heq

/-! ### Tokens -/

-- The scalars that records hold.
inductive Scalar : Value → Prop
  | null : Scalar .null
  | string (s : String) : Scalar (.string s)
  | natural {n : Nat} : n ≤ maxWord → Scalar (.number (.natural n))

theorem skipSpace_append {gap : List Char} (hgap : ∀ c ∈ gap, isSpace c = true) (cs : List Char) :
    skipSpace (gap ++ cs) = skipSpace cs :=
  List.dropWhile_append_of_pos hgap

theorem skipSpace_cons (hc : isSpace c = false) (cs : List Char) : skipSpace (c :: cs) = c :: cs :=
  List.dropWhile_cons_of_neg (by simp [hc])

theorem token_append {gap : List Char} (hgap : ∀ c ∈ gap, isSpace c = true) (cs : List Char) :
    token (gap ++ cs) = token cs := by
  rw [token, token, skipSpace_append hgap]

theorem token_quoteChars (s : String) (rest : List Char) :
    token (quoteChars s ++ rest) = .ok (.string s, rest) := by
  have hbody := stringBody_quoted s.toList rest
  rw [quoteChars, List.cons_append, List.append_assoc, List.singleton_append, token,
    skipSpace_cons (by decide)]
  dsimp only
  rw [hbody]
  simp [bind, Except.bind]

theorem token_digitsOf {n : Nat} (hn : n ≤ maxWord) (hrest : Stops rest) :
    token (digitsOf n ++ rest) = .ok (.number (.natural n), rest) := by
  obtain ⟨d, ds, hdigits, -⟩ := head?_digitsOf n
  have hd : isDigit d = true := isDigit_of_mem_digitsOf (n := n) (by simp [hdigits])
  have hspace : isSpace d = false := by
    rw [Bool.eq_false_iff]
    intro hspace
    simp only [isSpace, Bool.or_eq_true, decide_eq_true_eq] at hspace
    obtain ((rfl | rfl) | rfl) | rfl := hspace <;> cases hd
  have hnumber := number_digitsOf hn hrest
  rw [hdigits, List.cons_append] at hnumber ⊢
  rw [token, skipSpace_cons hspace]
  dsimp only
  split
  case h_8 => rw [if_pos hd, hnumber]; rfl
  all_goals cases hd

theorem token_scalarChars {v : Value} (hv : Scalar v) (hrest : Stops rest) :
    token (scalarChars v ++ rest) = .ok (.ofValue v, rest) := by
  cases hv with
  | null => rfl
  | string s => exact token_quoteChars s rest
  | natural hn =>
    rw [scalarChars, Number.text, toList_natText]
    exact token_digitsOf hn hrest

end Json
end AccessReport

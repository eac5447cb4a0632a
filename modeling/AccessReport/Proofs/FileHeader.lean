import AccessReport.Pdf.Version
import AccessReport.Proofs.Reading
import Mathlib.Data.List.Infix
import Mathlib.Order.Nat

namespace AccessReport

/-! ### The first occurrence of a pattern -/

namespace Bytes

variable {pattern bs : Bytes} {i w : Nat}

structure FirstAt (pattern bs : Bytes) (i : Nat) : Prop where
  occurs : pattern <+: bs.drop i
  first  : ∀ j < i, ¬ pattern <+: bs.drop j

theorem FirstAt.le_length (h : FirstAt pattern bs i) : i ≤ bs.length := by
  -- behind the end there is no more to be found than at the end
  refine Nat.le_of_not_lt fun hlt => h.first bs.length hlt ?_
  rw [List.drop_length, ← List.drop_of_length_le (Nat.le_of_lt hlt)]
  exact h.occurs

theorem exists_firstAt (h : pattern <+: bs.drop i) : ∃ j, FirstAt pattern bs j := by
  classical
  have hex : ∃ i, pattern <+: bs.drop i := ⟨i, h⟩
  exact ⟨Nat.find hex, Nat.find_spec hex, fun _ hj => Nat.find_min hex hj⟩

theorem after?_isSome_iff : (after? pattern bs).isSome = true ↔ pattern <+: bs := by
  induction pattern generalizing bs with
  | nil => simp [after?]
  | cons p pattern ih =>
    cases bs with
    | nil => simp [after?]
    | cons b bs =>
      rw [after?, List.cons_prefix_cons]
      split
      case isTrue h => simp [ih, h]
      case isFalse h => simp [h]

theorem find?_of_firstAt (h : FirstAt pattern bs i) : find? pattern bs = some (bs.drop i) := by
  induction bs generalizing i with
  | nil =>
    have hoccurs := h.occurs
    rw [List.drop_nil, List.prefix_nil] at hoccurs
    simp [find?, hoccurs]
  | cons b bs ih =>
    rw [find?]
    cases i with
    | zero =>
      have hhere : pattern <+: b :: bs := h.occurs
      rw [if_pos (after?_isSome_iff.2 hhere), List.drop_zero]
    | succ i =>
      have hnot : ¬ pattern <+: b :: bs := h.first 0 (Nat.succ_pos i)
      have htail : FirstAt pattern bs i := ⟨h.occurs, fun j hj => h.first (j + 1) (by omega)⟩
      rw [if_neg (mt after?_isSome_iff.1 hnot), ih htail, List.drop_succ_cons]

theorem find?_eq_none (h : ∀ i, ¬ pattern <+: bs.drop i) : find? pattern bs = none := by
  induction bs with
  | nil =>
    have hne : pattern ≠ [] := fun he => h 0 (he ▸ List.nil_prefix)
    simp [find?, hne]
  | cons b bs ih =>
    have hnot : ¬ pattern <+: b :: bs := h 0
    rw [find?, if_neg (mt after?_isSome_iff.1 hnot), ih fun i => h (i + 1)]

theorem indexOf?_eq_some_iff : indexOf? pattern bs = some i ↔ FirstAt pattern bs i := by
  have hindex {j : Nat} (hj : FirstAt pattern bs j) : indexOf? pattern bs = some j := by
    rw [indexOf?, find?_of_firstAt hj, Option.map_some, List.length_drop,
      Nat.sub_sub_self hj.le_length]
  constructor
  case mp =>
    intro h
    by_cases hex : ∃ j, pattern <+: bs.drop j
    · obtain ⟨_, hj⟩ := hex
      obtain ⟨j, hj⟩ := exists_firstAt hj
      obtain rfl := Option.some.inj ((hindex hj).symm.trans h)
      exact hj
    · rw [indexOf?, find?_eq_none (not_exists.1 hex)] at h
      cases h
  case mpr => exact hindex

theorem prefix_drop_take_iff (hne : pattern ≠ []) :
    pattern <+: (bs.take w).drop i ↔ pattern <+: bs.drop i ∧ i + pattern.length ≤ w := by
  have hpos := List.length_pos_iff_ne_nil.2 hne
  rw [List.drop_take, List.prefix_take_iff]
  exact and_congr_right fun _ => by omega

-- What is found in a window is what is found without it, if it ends inside.
theorem firstAt_take_iff (hne : pattern ≠ []) :
    FirstAt pattern (bs.take w) i ↔ FirstAt pattern bs i ∧ i + pattern.length ≤ w := by
  constructor
  case mp =>
    intro h
    obtain ⟨hoccurs, hw⟩ := (prefix_drop_take_iff hne).1 h.occurs
    exact ⟨⟨hoccurs, fun j hj hp =>
      h.first j hj ((prefix_drop_take_iff hne).2 ⟨hp, by omega⟩)⟩, hw⟩
  case mpr =>
    rintro ⟨h, hw⟩
    exact ⟨(prefix_drop_take_iff hne).2 ⟨h.occurs, hw⟩, fun j hj hp =>
      h.first j hj ((prefix_drop_take_iff hne).1 hp).1⟩

theorem FirstAt.append (h : FirstAt pattern bs i) (more : Bytes) :
    FirstAt pattern (bs ++ more) i := by
  have hi := h.le_length
  refine ⟨?_, fun j hj hp => h.first j hj ?_⟩
  · rw [List.drop_append_of_le_length hi]
    exact h.occurs.trans (List.prefix_append ..)
  · -- an earlier occurrence would end before the first one does
    rw [List.drop_append_of_le_length (by omega)] at hp
    have hlength := h.occurs.length_le
    rw [List.length_drop] at hlength
    exact List.prefix_of_prefix_length_le hp (List.prefix_append ..)
      (by rw [List.length_drop]; omega)

end Bytes

/-! ### Characters of one byte -/

namespace Utf8

variable {b : UInt8} {bs : List UInt8} {c : Char} {cs : List Char}

theorem decodeLossy_nil : decodeLossy [] = [] := by
  rw [decodeLossy, decodeParts, List.map_nil]

theorem decodeLossy_ne_nil (b : UInt8) (bs : List UInt8) : decodeLossy (b :: bs) ≠ [] := by
  rw [decodeLossy, decodeParts]
  split <;> simp

theorem decodeLossy_cons_of_lt (h : b < 0x80) :
    decodeLossy (b :: bs) = Char.ofNat b.toNat :: decodeLossy bs := by
  have hb : announce b = some (0, b.toNat, 0x80, 0xBF) := if_pos h
  rw [decodeLossy, decodeParts, hb]
  simp [continuation, decodeLossy]

-- The bytes that follow only make a character larger.
theorem le_of_continuation {k n : Nat} {low high : UInt8} {rest : List UInt8}
    (h : continuation k n low high bs = (some c, rest)) :
    ∃ m, n * 0x40 ^ k ≤ m ∧ c = Char.ofNat m := by
  induction k generalizing n low high bs with
  | zero =>
    cases h
    exact ⟨n, by simp, rfl⟩
  | succ k ih =>
    cases bs with
    | nil => cases h
    | cons b bs =>
      rw [continuation] at h
      split at h
      case isTrue =>
        obtain ⟨m, hm, hc⟩ := ih h
        refine ⟨m, Nat.le_trans ?_ hm, hc⟩
        rw [Nat.pow_succ', ← Nat.mul_assoc]
        exact Nat.mul_le_mul_right _ (Nat.le_add_right ..)
      case isFalse => cases h

-- No character below U+0080 is written with more than one byte.
theorem le_of_announce {k n : Nat} {low high x : UInt8}
    (h : announce b = some (k + 1, n, low, high)) (hx : low ≤ x) :
    0x80 ≤ (n * 0x40 + (x.toNat - 0x80)) * 0x40 ^ k := by
  have hcases : k = 0 ∧ 2 ≤ n ∨ (k = 1 ∨ k = 2) ∧ (1 ≤ n ∨ 0x90 ≤ low) := by
    simp only [announce, UInt8.lt_iff_toNat_lt, ← UInt8.toNat_inj, UInt8.reduceToNat] at h
    repeat' split at h
    all_goals grind
  obtain ⟨rfl, hn⟩ | ⟨hk, hn⟩ := hcases
  · omega
  · have hfirst : 2 ≤ n * 0x40 + (x.toNat - 0x80) := by
      obtain hn | hlow := hn
      · omega
      · have : 0x90 ≤ x.toNat := UInt8.le_iff_toNat_le.1 (UInt8.le_trans hlow hx)
        omega
    obtain rfl | rfl := hk <;> omega

theorem le_of_several {k n : Nat} {low high : UInt8} {rest : List UInt8} (hb : ¬ b < 0x80)
    (ha : announce b = some (k, n, low, high))
    (h : continuation k n low high bs = (some c, rest)) : ∃ m, 0x80 ≤ m ∧ c = Char.ofNat m := by
  cases k with
  | zero =>
    simp only [announce, if_neg hb] at ha
    repeat' split at ha
    all_goals cases ha
  | succ k =>
    cases bs with
    | nil => cases h
    | cons x bs =>
      rw [continuation] at h
      split at h
      case isTrue hx =>
        simp only [Bool.and_eq_true, decide_eq_true_eq] at hx
        obtain ⟨m, hm, hc⟩ := le_of_continuation h
        exact ⟨m, Nat.le_trans (le_of_announce ha hx.1) hm, hc⟩
      case isFalse => cases h

theorem toNat_ofNat_cases (n : Nat) : (Char.ofNat n).toNat = n ∨ Char.ofNat n = '\x00' := by
  by_cases h : n.isValidChar
  · left
    rw [Char.ofNat, dif_pos h]
    rfl
  · right
    rw [Char.ofNat, dif_neg h]
    rfl

-- A character below U+0080 is read from its own byte only.
theorem exists_of_decodeLossy (h : decodeLossy bs = c :: cs) (hc : c.toNat < 0x80)
    (hne : c ≠ '\x00') : ∃ b rest, bs = b :: rest ∧ b.toNat = c.toNat ∧ decodeLossy rest = cs := by
  cases bs with
  | nil =>
    rw [decodeLossy_nil] at h
    cases h
  | cons b bs =>
    by_cases hb : b < 0x80
    · rw [decodeLossy_cons_of_lt hb] at h
      obtain ⟨rfl, hrest⟩ := List.cons_eq_cons.1 h
      exact ⟨b, bs, rfl, ((toNat_ofNat_cases b.toNat).resolve_right hne).symm, hrest⟩
    · -- anything else is read as U+FFFD or as a larger character
      exfalso
      have hreplaced : c ≠ '\uFFFD' := by
        rintro rfl
        exact absurd hc (by decide)
      rw [decodeLossy, decodeParts] at h
      split at h
      case h_1 => exact hreplaced (List.cons_eq_cons.1 h).1.symm
      case h_2 k n low high ha =>
        have hhead := (List.cons_eq_cons.1 h).1
        rcases hread : continuation k n low high bs with ⟨_ | d, rest⟩ <;> rw [hread] at hhead
        case none => exact hreplaced hhead.symm
        case some =>
          obtain ⟨m, hm, rfl⟩ := le_of_several hb ha hread
          obtain rfl : Char.ofNat m = c := hhead
          have := (toNat_ofNat_cases m).resolve_right hne
          omega

end Utf8

/-! ### The version behind the header -/

namespace Pdf

variable {data : Bytes} {bs : Bytes} {start : Nat}

-- A digit, a point and a digit.
inductive VersionBytes : Bytes → Prop
  | mk {major minor : UInt8} : 0x30 ≤ major ∧ major ≤ 0x39 → 0x30 ≤ minor ∧ minor ≤ 0x39 →
      VersionBytes [major, 0x2E, minor]

theorem isDigit_ofNat_iff (b : UInt8) :
    Decimal.isDigit (Char.ofNat b.toNat) = true ↔ 0x30 ≤ b ∧ b ≤ 0x39 := by
  have hchar (c : Char) : Decimal.isDigit c = true ↔ 0x30 ≤ c.toNat ∧ c.toNat ≤ 0x39 := by
    simp only [Decimal.isDigit, Bool.and_eq_true, decide_eq_true_eq]
    exact Iff.rfl
  have hvalid : b.toNat.isValidChar := .inl (Nat.lt_trans b.toNat_lt (by decide))
  have hb : (Char.ofNat b.toNat).toNat = b.toNat := by
    rw [Char.ofNat, dif_pos hvalid]
    rfl
  rw [hchar, hb, UInt8.le_iff_toNat_le, UInt8.le_iff_toNat_le]
  exact Iff.rfl

theorem VersionBytes.length_eq (h : VersionBytes bs) : bs.length = versionLength := by
  cases h
  rfl

theorem VersionBytes.decodeLossy_eq (h : VersionBytes bs) :
    Utf8.decodeLossy bs = bs.map fun b => Char.ofNat b.toNat := by
  obtain ⟨hmajor, hminor⟩ := h
  have hsmall {b : UInt8} (hb : b ≤ 0x39) : b < 0x80 := UInt8.lt_of_le_of_lt hb (by decide)
  rw [Utf8.decodeLossy_cons_of_lt (hsmall hmajor.2), Utf8.decodeLossy_cons_of_lt (by decide),
    Utf8.decodeLossy_cons_of_lt (hsmall hminor.2), Utf8.decodeLossy_nil]
  rfl

theorem isVersion_iff {cs : List Char} : isVersion cs = true ↔ ∃ major minor,
    cs = [major, '.', minor] ∧ Decimal.isDigit major = true ∧ Decimal.isDigit minor = true := by
  constructor
  case mp =>
    intro h
    unfold isVersion at h
    split at h
    case h_1 major point minor =>
      simp only [Bool.and_eq_true, decide_eq_true_eq] at h
      obtain ⟨⟨hmajor, rfl⟩, hminor⟩ := h
      exact ⟨major, minor, rfl, hmajor, hminor⟩
    case h_2 => cases h
  case mpr =>
    rintro ⟨major, minor, rfl, hmajor, hminor⟩
    simp [isVersion, hmajor, hminor]

-- No other bytes are read as a digit, a point and a digit.
theorem isVersion_decodeLossy_iff : isVersion (Utf8.decodeLossy bs) = true ↔ VersionBytes bs := by
  constructor
  case mp =>
    intro h
    obtain ⟨major, minor, hcs, hmajor, hminor⟩ := isVersion_iff.1 h
    have hdigit {c : Char} (hc : Decimal.isDigit c = true) : c.toNat < 0x80 ∧ c ≠ '\x00' := by
      constructor
      · exact Nat.lt_of_le_of_lt (Decimal.toNat_of_isDigit hc).2 (by decide)
      · rintro rfl
        cases hc
    obtain ⟨b₁, rest₁, rfl, hb₁, hrest₁⟩ :=
      Utf8.exists_of_decodeLossy hcs (hdigit hmajor).1 (hdigit hmajor).2
    obtain ⟨b₂, rest₂, rfl, hb₂, hrest₂⟩ :=
      Utf8.exists_of_decodeLossy hrest₁ (by decide) (by decide)
    obtain ⟨b₃, rest₃, rfl, hb₃, hrest₃⟩ :=
      Utf8.exists_of_decodeLossy hrest₂ (hdigit hminor).1 (hdigit hminor).2
    obtain rfl : rest₃ = [] := by
      cases rest₃ with
      | nil => rfl
      | cons b rest => exact absurd hrest₃ (Utf8.decodeLossy_ne_nil b rest)
    obtain rfl : b₂ = 0x2E := UInt8.toNat_inj.1 hb₂
    rw [← Char.ofNat_toNat major, ← hb₁, isDigit_ofNat_iff] at hmajor
    rw [← Char.ofNat_toNat minor, ← hb₃, isDigit_ofNat_iff] at hminor
    exact .mk hmajor hminor
  case mpr =>
    intro h
    rw [h.decodeLossy_eq]
    obtain ⟨hmajor, hminor⟩ := h
    exact isVersion_iff.2
      ⟨_, _, rfl, (isDigit_ofNat_iff _).2 hmajor, (isDigit_ofNat_iff _).2 hminor⟩

-- The mark for the first time, early enough to be the header.
structure HeaderAt (data : Bytes) (start : Nat) : Prop where
  firstAt : Bytes.FirstAt headerMark data start
  within  : start + headerMark.length ≤ searchWindow

-- What follows the header.
def behind (data : Bytes) (start : Nat) : Bytes :=
  data.drop (start + headerMark.length)

def versionAt (data : Bytes) (start : Nat) : Bytes :=
  (behind data start).take versionLength

-- What is made of the bytes behind a header.
def judge (bs : Bytes) : Except Failure String :=
  if (bs.take versionLength).length < versionLength then .error .unknownFormat
  else
    let text := Utf8.decodeLossy (bs.take versionLength)
    if isVersion text then .ok (String.ofList text)
    else .error (.unsupportedVersion (String.ofList text))

theorem indexOf?_headerMark_iff : Bytes.indexOf? headerMark (data.take searchWindow) = some start ↔
    HeaderAt data start := by
  rw [Bytes.indexOf?_eq_some_iff, Bytes.firstAt_take_iff (by decide)]
  exact ⟨fun ⟨hfirst, hwithin⟩ => ⟨hfirst, hwithin⟩, fun ⟨hfirst, hwithin⟩ => ⟨hfirst, hwithin⟩⟩

theorem version_of_not_headerAt (h : ∀ start, ¬ HeaderAt data start) :
    version data = .error .unknownFormat := by
  have hnone : Bytes.indexOf? headerMark (data.take searchWindow) = none :=
    Option.eq_none_iff_forall_ne_some.2 fun start hs => h start (indexOf?_headerMark_iff.1 hs)
  rw [version, hnone]

theorem exists_headerAt (h : version data ≠ .error .unknownFormat) :
    ∃ start, HeaderAt data start := by
  by_contra hnone
  exact h (version_of_not_headerAt (not_exists.1 hnone))

theorem HeaderAt.version_eq (h : HeaderAt data start) :
    version data = judge (behind data start) := by
  rw [version, indexOf?_headerMark_iff.2 h]
  rfl

theorem HeaderAt.version_cases (h : HeaderAt data start) :
    ((behind data start).length < versionLength ∧ version data = .error .unknownFormat) ∨
    (VersionBytes (versionAt data start) ∧
      version data = .ok (Bytes.toText (versionAt data start))) ∨
    (versionLength ≤ (behind data start).length ∧ ¬ VersionBytes (versionAt data start) ∧
      version data = .error (.unsupportedVersion
        (String.ofList (Utf8.decodeLossy (versionAt data start))))) := by
  have hlength : ((behind data start).take versionLength).length < versionLength ↔
      (behind data start).length < versionLength := by
    rw [List.length_take]
    omega
  rw [h.version_eq, judge]
  by_cases hshort : (behind data start).length < versionLength
  · exact .inl ⟨hshort, if_pos (hlength.2 hshort)⟩
  · rw [if_neg (mt hlength.1 hshort)]
    by_cases hversion : VersionBytes (versionAt data start)
    · refine .inr <| .inl ⟨hversion, ?_⟩
      rw [← versionAt, if_pos (isVersion_decodeLossy_iff.2 hversion), hversion.decodeLossy_eq]
      rfl
    · refine .inr <| .inr ⟨Nat.le_of_not_lt hshort, hversion, ?_⟩
      rw [← versionAt, if_neg (mt isVersion_decodeLossy_iff.1 hversion)]

theorem VersionBytes.le_length (h : VersionBytes (versionAt data start)) :
    versionLength ≤ (behind data start).length := by
  have hlength := h.length_eq
  rw [versionAt, List.length_take] at hlength
  omega

theorem version_eq_ok_iff {v : String} : version data = .ok v ↔ ∃ start, HeaderAt data start ∧
    VersionBytes (versionAt data start) ∧ v = Bytes.toText (versionAt data start) := by
  constructor
  case mp =>
    intro hv
    obtain ⟨start, h⟩ : ∃ start, HeaderAt data start := exists_headerAt (by simp [hv])
    obtain ⟨_, heq⟩ | ⟨hversion, heq⟩ | ⟨_, _, heq⟩ := h.version_cases <;>
      cases heq.symm.trans hv
    exact ⟨start, h, hversion, rfl⟩
  case mpr =>
    rintro ⟨start, h, hversion, rfl⟩
    obtain ⟨hshort, _⟩ | ⟨_, heq⟩ | ⟨_, hnot, _⟩ := h.version_cases
    · exact absurd hshort (Nat.not_lt.2 hversion.le_length)
    · exact heq
    · exact absurd hversion hnot

theorem version_eq_unsupported_iff {s : String} : version data = .error (.unsupportedVersion s) ↔
    ∃ start, HeaderAt data start ∧ versionLength ≤ (behind data start).length ∧
      ¬ VersionBytes (versionAt data start) ∧
      s = String.ofList (Utf8.decodeLossy (versionAt data start)) := by
  constructor
  case mp =>
    intro hs
    obtain ⟨start, h⟩ : ∃ start, HeaderAt data start := exists_headerAt (by simp [hs])
    obtain ⟨_, heq⟩ | ⟨_, heq⟩ | ⟨hlength, hnot, heq⟩ := h.version_cases <;>
      cases heq.symm.trans hs
    exact ⟨start, h, hlength, hnot, rfl⟩
  case mpr =>
    rintro ⟨start, h, hlength, hnot, rfl⟩
    obtain ⟨hshort, _⟩ | ⟨hversion, _⟩ | ⟨_, _, heq⟩ := h.version_cases
    · exact absurd hshort (Nat.not_lt.2 hlength)
    · exact absurd hversion hnot
    · exact heq

theorem version_eq_unknown_iff : version data = .error .unknownFormat ↔
    ∀ start, HeaderAt data start → (behind data start).length < versionLength := by
  constructor
  case mp =>
    intro hu start h
    obtain ⟨hshort, _⟩ | ⟨_, heq⟩ | ⟨_, _, heq⟩ := h.version_cases
    · exact hshort
    · cases heq.symm.trans hu
    · cases heq.symm.trans hu
  case mpr =>
    intro hall
    by_contra hne
    obtain ⟨start, h⟩ := exists_headerAt hne
    obtain ⟨_, heq⟩ | ⟨hversion, _⟩ | ⟨hlength, _⟩ := h.version_cases
    · exact hne heq
    · exact absurd (hall start h) (Nat.not_lt.2 hversion.le_length)
    · exact absurd (hall start h) (Nat.not_lt.2 hlength)

/-! ### Bytes around the data -/

theorem HeaderAt.append (h : HeaderAt data start) (more : Bytes) :
    HeaderAt (data ++ more) start :=
  ⟨h.firstAt.append more, h.within⟩

theorem HeaderAt.behind_append (h : HeaderAt data start) (more : Bytes) :
    behind (data ++ more) start = behind data start ++ more := by
  have hmark := h.firstAt.occurs.length_le
  have hstart := h.firstAt.le_length
  rw [List.length_drop] at hmark
  exact List.drop_append_of_le_length (by omega)

theorem version_append {v : String} (h : version data = .ok v) (more : Bytes) :
    version (data ++ more) = .ok v := by
  obtain ⟨start, hstart, hversion, rfl⟩ := version_eq_ok_iff.1 h
  have heq : versionAt (data ++ more) start = versionAt data start := by
    rw [versionAt, versionAt, hstart.behind_append,
      List.take_append_of_le_length hversion.le_length]
  exact version_eq_ok_iff.2 ⟨start, hstart.append more, heq ▸ hversion, heq ▸ rfl⟩

theorem headerAt_append {before : Bytes} (hmark : headerMark <+: data)
    (hfirst : ∀ i < before.length, ¬ headerMark <+: (before ++ data).drop i)
    (hwithin : before.length + headerMark.length ≤ searchWindow) :
    HeaderAt (before ++ data) before.length :=
  ⟨⟨by rwa [List.drop_left], hfirst⟩, hwithin⟩

theorem version_append_left {before : Bytes} (hmark : headerMark <+: data)
    (hfirst : ∀ i < before.length, ¬ headerMark <+: (before ++ data).drop i)
    (hwithin : before.length + headerMark.length ≤ searchWindow) :
    version (before ++ data) = version data := by
  have hdata : HeaderAt data 0 := ⟨⟨hmark, fun _ hi => absurd hi (Nat.not_lt_zero _)⟩, by decide⟩
  rw [(headerAt_append hmark hfirst hwithin).version_eq, hdata.version_eq, behind, behind,
    List.drop_length_add_append, Nat.zero_add]

-- The version is read behind the first mark that ends within the window, however far behind, and
-- neither bytes at the end nor bytes in front of the mark matter.
theorem version_header (data : Bytes) :
    (∀ v, version data = .ok v ↔ ∃ start, HeaderAt data start ∧
      VersionBytes (versionAt data start) ∧ v = Bytes.toText (versionAt data start)) ∧
    (∀ s, version data = .error (.unsupportedVersion s) ↔ ∃ start, HeaderAt data start ∧
      versionLength ≤ (behind data start).length ∧ ¬ VersionBytes (versionAt data start) ∧
      s = String.ofList (Utf8.decodeLossy (versionAt data start))) ∧
    (version data = .error .unknownFormat ↔
      ∀ start, HeaderAt data start → (behind data start).length < versionLength) ∧
    (∀ v, version data = .ok v → ∀ more, version (data ++ more) = .ok v) ∧
    (∀ before : Bytes, headerMark <+: data →
      (∀ i < before.length, ¬ headerMark <+: (before ++ data).drop i) →
      before.length + headerMark.length ≤ searchWindow →
      version (before ++ data) = version data) :=
  ⟨fun _ => version_eq_ok_iff, fun _ => version_eq_unsupported_iff, version_eq_unknown_iff,
    fun _ h more => version_append h more, fun _ => version_append_left⟩

-- A mark that ends with the window, and its version behind the window.
theorem version_header_edge :
    let before : Bytes := List.replicate 1019 0
    let data := Bytes.ofText "%PDF-1.7"
    headerMark <+: data ∧ (∀ i < before.length, ¬ headerMark <+: (before ++ data).drop i) ∧
      before.length + headerMark.length ≤ searchWindow ∧
      version (before ++ data) = .ok "1.7" ∧
      version (before ++ data ++ [0x0A]) = .ok "1.7" := by
  intro before data
  have hmark : headerMark <+: data := by decide
  have hlength : before.length = 1019 := List.length_replicate
  have hwithin : before.length + headerMark.length ≤ searchWindow := by
    rw [hlength]
    decide
  have hfirst : ∀ i < before.length, ¬ headerMark <+: (before ++ data).drop i := by
    intro i hi hp
    obtain ⟨k, hk⟩ : ∃ k, 1019 - i = k + 1 := ⟨1019 - i - 1, by omega⟩
    rw [List.drop_append_of_le_length (Nat.le_of_lt hi), List.drop_replicate, hk] at hp
    exact absurd (List.cons_prefix_cons.1 hp).1 (by decide)
  have hdata : version data = .ok "1.7" := (version_header data).1 "1.7" |>.2
    ⟨0, ⟨⟨hmark, fun _ hi => absurd hi (Nat.not_lt_zero _)⟩, by decide⟩,
      .mk (by decide) (by decide), by decide⟩
  have hboth : version (before ++ data) = .ok "1.7" :=
    ((version_header data).2.2.2.2 before hmark hfirst hwithin).trans hdata
  exact ⟨hmark, hfirst, hwithin, hboth,
    (version_header (before ++ data)).2.2.2.1 "1.7" hboth [0x0A]⟩

end Pdf
end AccessReport

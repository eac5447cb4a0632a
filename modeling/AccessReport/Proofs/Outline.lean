import AccessReport.Proofs.LineLength

namespace AccessReport

namespace Normalized

-- What has a line of its own in a listing: a text on its own, an entry or an item.
inductive Mark where
  | root
  | entry (key : String)
  | item
deriving DecidableEq

-- `value` is there for what is not nested.
structure Row where
  depth : Nat
  mark  : Mark
  value : Option Scalar

namespace Row

-- What comes first on the line.
def opening (r : Row) : List Char :=
  match r.mark with
  | .root => []
  | .entry key => List.replicate (2 * r.depth) ' ' ++ key.toList ++ [':']
  | .item => List.replicate (2 * r.depth) ' ' ++ ['-']

def text (r : Row) : List Char :=
  match r.value with
  | some s => s.display.toList
  | none => []

-- A space comes before the text, and behind that of an item.
def line (r : Row) : List Char :=
  match r.mark, r.value with
  | .root, _ => r.text
  | .item, some _ => r.opening ++ ' ' :: r.text ++ [' ']
  | _, _ => r.opening ++ ' ' :: r.text

-- No line feed is put on the line.
structure OneLine (r : Row) : Prop where
  mark : ∀ key, r.mark = .entry key → '\n' ∉ key.toList
  text : '\n' ∉ r.text

end Row

def scalar? : Normalized → Option Scalar
  | scalar s => some s
  | _ => none

mutual

-- All entries and items in a tree with what is in them behind them.
def rows (depth : Nat) : Normalized → List Row
  | scalar _ => []
  | sequence items => itemRows depth items
  | mapping entries => entryRows depth entries

def itemRows (depth : Nat) : List Normalized → List Row
  | [] => []
  | t :: ts => ⟨depth, .item, t.scalar?⟩ :: rows (depth + 1) t ++ itemRows depth ts

def entryRows (depth : Nat) : List (String × Normalized) → List Row
  | [] => []
  | (k, t) :: es => ⟨depth, .entry k, t.scalar?⟩ :: rows (depth + 1) t ++ entryRows depth es

end

def outline : Normalized → List Row
  | scalar s => [⟨0, .root, some s⟩]
  | t => rows 0 t

variable {r : Row} {t : Normalized} {depth : Nat}

/-! ### Lines and rows -/

theorem toList_itemLine (depth : Nat) (t : Normalized) :
    (itemLine depth (t.ownText " ")).toList = Row.line ⟨depth, .item, t.scalar?⟩ := by
  cases t <;> simp [itemLine, toList_pad, ownText, scalar?, Row.line, Row.opening, Row.text]

theorem toList_entryLine (depth : Nat) (k : String) (t : Normalized) :
    (entryLine depth k (t.ownText "")).toList = Row.line ⟨depth, .entry k, t.scalar?⟩ := by
  cases t <;> simp [entryLine, toList_pad, ownText, scalar?, Row.line, Row.opening, Row.text]

theorem itemRows_eq (depth : Nat) (items : List Normalized) : itemRows depth items =
    items.flatMap fun t => ⟨depth, .item, t.scalar?⟩ :: t.rows (depth + 1) := by
  induction items with
  | nil => rfl
  | cons t ts ih => rw [itemRows, ih, List.flatMap_cons]

theorem entryRows_eq (depth : Nat) (entries : List (String × Normalized)) :
    entryRows depth entries =
      entries.flatMap fun e => ⟨depth, .entry e.1, e.2.scalar?⟩ :: e.2.rows (depth + 1) := by
  induction entries with
  | nil => rfl
  | cons e es ih => rw [entryRows, ih, List.flatMap_cons]

theorem map_itemLines (depth : Nat) (items : List Normalized) :
    (itemLines depth items).map String.toList = items.flatMap fun t =>
      Row.line ⟨depth, .item, t.scalar?⟩ :: (t.innerLines (depth + 1)).map String.toList := by
  induction items with
  | nil => rfl
  | cons t ts ih =>
    rw [itemLines_cons, List.map_append, List.map_cons, toList_itemLine, ih, List.flatMap_cons]

theorem map_entryLines (depth : Nat) (entries : List (String × Normalized)) :
    (entryLines depth entries).map String.toList = entries.flatMap fun e =>
      Row.line ⟨depth, .entry e.1, e.2.scalar?⟩ ::
        (e.2.innerLines (depth + 1)).map String.toList := by
  induction entries with
  | nil => rfl
  | cons e es ih =>
    rw [entryLines_cons, List.map_append, List.map_cons, toList_entryLine, ih, List.flatMap_cons]

theorem map_innerLines (t : Normalized) : ∀ depth,
    (t.innerLines depth).map String.toList = (t.rows depth).map Row.line := by
  induction t using Normalized.induction with
  | scalar s => exact fun _ => rfl
  | sequence items ih =>
    intro depth
    rw [innerLines, map_itemLines, rows, itemRows_eq, List.map_flatMap]
    exact List.flatMap_congr fun t ht => congrArg (_ :: ·) (ih t ht (depth + 1))
  | mapping entries ih =>
    intro depth
    rw [innerLines, map_entryLines, rows, entryRows_eq, List.map_flatMap]
    exact List.flatMap_congr fun e he => congrArg (_ :: ·) (ih e he (depth + 1))

theorem map_listingLines (t : Normalized) :
    t.listingLines.map String.toList = t.outline.map Row.line := by
  cases t with
  | scalar s => rfl
  | sequence items => exact map_innerLines (.sequence items) 0
  | mapping entries => exact map_innerLines (.mapping entries) 0

theorem Settled.outline_ne_nil (h : t.Settled) : t.outline ≠ [] := by
  cases h with
  | text | number | boolean => exact List.cons_ne_nil _ _
  | @sequence items hne _ =>
    obtain ⟨t, ts, rfl⟩ := List.exists_cons_of_ne_nil hne
    exact List.cons_ne_nil _ _
  | @mapping entries hne _ =>
    obtain ⟨e, es, rfl⟩ := List.exists_cons_of_ne_nil hne
    exact List.cons_ne_nil _ _

theorem lines_listing_eq_flatMap (h : t.outline ≠ []) :
    Text.lines t.listing.toList = t.outline.flatMap fun r => Text.lines r.line := by
  rw [toList_listing, map_listingLines, Text.lines,
    Text.cut_join_eq_flatMap (by simpa using h) (by simp), List.flatMap_map]
  rfl

theorem mark_ne_root (t : Normalized) : ∀ depth, ∀ r ∈ t.rows depth, r.mark ≠ .root := by
  induction t using Normalized.induction with
  | scalar s => exact fun _ => nofun
  | sequence items ih =>
    intro depth r hr
    rw [rows, itemRows_eq] at hr
    obtain ⟨t, ht, hr⟩ := List.mem_flatMap.1 hr
    obtain rfl | hr := List.mem_cons.1 hr
    · exact nofun
    · exact ih t ht _ r hr
  | mapping entries ih =>
    intro depth r hr
    rw [rows, entryRows_eq] at hr
    obtain ⟨e, he, hr⟩ := List.mem_flatMap.1 hr
    obtain rfl | hr := List.mem_cons.1 hr
    · exact nofun
    · exact ih e he _ r hr

/-! ### Line feeds -/

namespace Row

theorem opening_prefix (r : Row) : r.opening <+: r.line := by
  obtain ⟨depth, mark, value⟩ := r
  cases mark with
  | root => exact List.nil_prefix
  | entry key => exact ⟨_, rfl⟩
  | item =>
    cases value with
    | none => exact ⟨_, rfl⟩
    | some s => exact ⟨_, (List.append_assoc ..).symm⟩

theorem notMem_line_iff : '\n' ∉ r.line ↔ r.OneLine := by
  obtain ⟨depth, mark, value⟩ := r
  have hone : OneLine ⟨depth, mark, value⟩ ↔
      (∀ key, mark = .entry key → '\n' ∉ key.toList) ∧ '\n' ∉ Row.text ⟨depth, mark, value⟩ :=
    ⟨fun h => ⟨h.mark, h.text⟩, fun h => ⟨h.1, h.2⟩⟩
  rw [hone]
  cases mark <;> cases value <;> simp [line, opening, text]

-- A space comes behind the text of an item, and in front of that of an entry.
theorem getLast?_line_iff : r.line.getLast? = some '\n' ↔
    r.mark ≠ .item ∧ r.text.getLast? = some '\n' := by
  obtain ⟨depth, mark, value⟩ := r
  cases mark with
  | root => simp [line]
  | entry key =>
    have hline : line ⟨depth, .entry key, value⟩ = opening ⟨depth, .entry key, value⟩ ++
        ' ' :: text ⟨depth, .entry key, value⟩ := by
      cases value <;> rfl
    rw [hline, List.getLast?_append_cons]
    cases text ⟨depth, .entry key, value⟩ with
    | nil => simp
    | cons c cs => simp [List.getLast?_cons_cons]
  | item =>
    have hline : ∃ cs, line ⟨depth, .item, value⟩ = cs ++ [' '] := by
      cases value with
      | none => exact ⟨_, rfl⟩
      | some s => exact ⟨_, rfl⟩
    obtain ⟨cs, hcs⟩ := hline
    simp [hcs]

theorem line_ne_nil (h : r.mark ≠ .root) : r.line ≠ [] := by
  obtain ⟨depth, mark, value⟩ := r
  cases mark <;> cases value <;> simp_all [line]

end Row

theorem getLast?_listing (t : Normalized) :
    t.listing.toList.getLast? = t.outline.getLast?.bind fun r => r.line.getLast? := by
  have hnested (rs : List Row) (hrs : ∀ r ∈ rs, r.mark ≠ .root) :
      (Text.join ['\n'] (rs.map Row.line)).getLast? =
        rs.getLast?.bind fun r => r.line.getLast? := by
    obtain rfl | ⟨rs, r, rfl⟩ := rs.eq_nil_or_concat
    · rfl
    · rw [List.concat_eq_append] at hrs ⊢
      have hr := Row.line_ne_nil (hrs r (by simp))
      rw [List.getLast?_concat, List.map_append, List.map_singleton, Option.bind_some]
      by_cases hne : rs.map Row.line = []
      · rw [hne]
        rfl
      · rw [Text.join_concat _ hne, List.getLast?_append_of_ne_nil _ hr]
  rw [toList_listing, map_listingLines]
  cases t with
  | scalar s => rfl
  | sequence items => exact hnested _ <| mark_ne_root (.sequence items) 0
  | mapping entries => exact hnested _ <| mark_ne_root (.mapping entries) 0

theorem lines_listing_eq_map_iff (h : t.outline ≠ []) :
    Text.lines t.listing.toList = t.outline.map Row.line ↔ ∀ r ∈ t.outline, r.OneLine := by
  rw [lines_listing_eq_flatMap h]
  constructor
  · intro heq r hr
    have hline : r.line ∈ t.outline.flatMap fun r => Text.lines r.line :=
      heq ▸ List.mem_map_of_mem hr
    obtain ⟨r', -, hcut⟩ := List.mem_flatMap.1 hline
    exact Row.notMem_line_iff.1 fun hfeed => by
      simpa using Text.not_mem_of_mem_cut hcut _ hfeed
  · intro hone
    rw [List.map_eq_flatMap]
    refine List.flatMap_congr fun r hr => Text.cut_of_forall fun c hc => ?_
    exact decide_eq_false fun hfeed => Row.notMem_line_iff.2 (hone r hr) (hfeed ▸ hc)

end Normalized

namespace Content

open Normalized

-- The lines of a listing are those of the entries and items in their order, each behind its mark;
-- they are one for each just if no label and no text has a line feed.
theorem lines_listing_normalize (c : Content) :
    let t := c.normalize
    Text.lines t.listing.toList = t.outline.flatMap (fun r => Text.lines r.line) ∧
    (∀ r ∈ t.outline, r.opening <+: r.line) ∧
    (Text.lines t.listing.toList = t.outline.map Row.line ↔ ∀ r ∈ t.outline, r.OneLine) ∧
    (t.listing.toList.getLast? = some '\n' ↔ ∃ r, t.outline.getLast? = some r ∧
      r.mark ≠ .item ∧ r.text.getLast? = some '\n') := by
  have hne := (settled_normalize c).outline_ne_nil
  refine ⟨lines_listing_eq_flatMap hne, fun r _ => r.opening_prefix,
    lines_listing_eq_map_iff hne, ?_⟩
  rw [getLast?_listing, Option.bind_eq_some_iff]
  exact exists_congr fun r => and_congr_right fun _ => Row.getLast?_line_iff

-- A text with a line feed in it can look like an entry of its own.
example : (mapping [("a", .scalar (.text "1\nB: 2"))]).preview =
    (mapping [("a", .scalar (.text "1")), ("b", .scalar (.text "2"))]).preview := by
  decide +kernel

end Content
end AccessReport

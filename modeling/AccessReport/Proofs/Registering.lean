import AccessReport.Attachment.Renderer
import AccessReport.Proofs.Labels
import AccessReport.Report.Template
import Mathlib.Data.List.Dedup
import Mathlib.Data.List.DropRight
import Mathlib.Data.List.Perm.Basic

namespace AccessReport

/-! ### Tables after any calls -/

-- The last call under a key.
def last? {α : Type} (key : α → String) (calls : List α) (k : String) : Option α :=
  (calls.filter (key · = k)).getLast?

namespace Registry

variable {α β : Type} {key : α → String} {value : α → β} {r : Registry β} {calls : List α}

theorem last?_concat (calls : List α) (c : α) (k : String) :
    last? key (calls ++ [c]) k = if key c = k then some c else last? key calls k := by
  rw [last?, List.filter_append]
  split
  case isTrue h => simp [h]
  case isFalse h => simp [h, last?]

theorem isSome_last?_iff {k : String} :
    (last? key calls k).isSome = true ↔ ∃ c ∈ calls, key c = k := by
  simp [last?]

theorem find?_register (r : Registry β) (key k : String) (v : β) :
    (r.register key v).find? k = if key = k then some v else r.find? k := by
  have hfilter (h : key ≠ k) (es : List (String × β)) :
      (es.filter (·.1 ≠ key)).lookup k = es.lookup k := by
    induction es with
    | nil => rfl
    | cons e es ih =>
      obtain ⟨k', v'⟩ := e
      by_cases he : k' = key
      · have hk : (k == k') = false := beq_eq_false_iff_ne.2 fun hk => h (he.symm.trans hk.symm)
        rw [List.filter_cons_of_neg (by simpa using he), List.lookup_cons, hk]
        exact ih
      · rw [List.filter_cons_of_pos (by simpa using he), List.lookup_cons, List.lookup_cons, ih]
  rw [register, find?, List.lookup_cons]
  split
  case h_1 h => rw [if_pos (beq_iff_eq.1 h).symm]
  case h_2 h =>
    have hne : key ≠ k := fun he => beq_eq_false_iff_ne.1 h he.symm
    rw [if_neg hne, hfilter hne, find?]

-- What a table holds after some calls, each of which registers a value under a key.
structure Records (key : α → String) (value : α → β) (calls : List α) (r : Registry β) : Prop where
  find?_eq : ∀ k, r.find? k = (last? key calls k).map value
  nodup    : (r.entries.map (·.1)).Nodup

namespace Records

theorem empty : Records key value [] (.empty : Registry β) where
  find?_eq _ := rfl
  nodup := List.nodup_nil

theorem register (h : Records key value calls r) (c : α) :
    Records key value (calls ++ [c]) (r.register (key c) (value c)) where
  find?_eq k := by
    rw [find?_register, last?_concat, h.find?_eq]
    split <;> rfl
  nodup := by
    rw [Registry.register, List.map_cons, List.nodup_cons]
    constructor
    · simp
    · exact h.nodup.sublist (List.filter_sublist.map _)

theorem foldl (h : Records key value calls r) (more : List α) :
    Records key value (calls ++ more)
      (more.foldl (fun r c => r.register (key c) (value c)) r) := by
  induction more generalizing calls r with
  | nil => rwa [List.append_nil]
  | cons c more ih =>
    have htail := ih (h.register c)
    rwa [List.append_assoc] at htail

theorem contains_iff (h : Records key value calls r) {k : String} :
    r.contains k = true ↔ ∃ c ∈ calls, key c = k := by
  rw [contains, h.find?_eq, Option.isSome_map, isSome_last?_iff]

theorem perm_dedup (h : Records key value calls r) :
    (r.entries.map (·.1)).Perm (calls.map key).dedup := by
  rw [List.perm_ext_iff_of_nodup h.nodup (List.nodup_dedup _)]
  intro k
  have hk : k ∈ r.entries.map (·.1) ↔ r.contains k = true := by
    simp only [contains, find?, List.lookup_isSome_iff, List.mem_map, beq_iff_eq]
    exact exists_congr fun e => and_congr_right fun _ => eq_comm
  rw [hk, h.contains_iff, List.mem_dedup, List.mem_map]

theorem keys_perm (h : Records key value calls r) : r.keys.Perm (calls.map key).dedup :=
  (List.mergeSort_perm _ _).trans h.perm_dedup

theorem size_eq (h : Records key value calls r) : r.size = (calls.map key).dedup.length := by
  rw [size, ← h.perm_dedup.length_eq, List.length_map]

end Records

end Registry

/-! ### Media types -/

namespace Text

theorem trim_of_ends {cs : List Char} (ha : ∀ a ∈ cs.head?, isBlank a = false)
    (hz : ∀ z ∈ cs.getLast?, isBlank z = false) : trim cs = cs := by
  obtain rfl | hne := eq_or_ne cs []
  · rfl
  · have hhead := List.head?_eq_some_head hne
    have hlast := List.getLast?_eq_some_getLast hne
    exact trim_eq_self (List.singleton_prefix_iff_head?_eq_some.2 hhead)
      (List.singleton_suffix_iff_getLast?_eq_some.2 hlast) ⟨ha _ hhead, hz _ hlast⟩

theorem getLast?_trim (cs : List Char) : ∀ z ∈ (trim cs).getLast?, isBlank z = false := by
  intro z hz
  have hne : trim cs ≠ [] := by
    rintro he
    rw [he] at hz
    cases hz
  have hlast := List.rdropWhile_last_not isBlank (trimStart cs) hne
  rw [List.getLast?_eq_some_getLast hne] at hz
  obtain rfl := Option.some.inj hz
  exact Bool.eq_false_iff.2 hlast

theorem head?_trim (cs : List Char) : ∀ a ∈ (trim cs).head?, isBlank a = false := by
  intro a ha
  have hprefix : [a] <+: trimStart cs :=
    (List.singleton_prefix_iff_head?_eq_some.2 ha).trans (List.rdropWhile_prefix ..)
  have hstart : (trimStart cs).head? = some a := List.singleton_prefix_iff_head?_eq_some.1 hprefix
  rw [trimStart, ← List.find?_not_eq_head?_dropWhile] at hstart
  simpa using List.find?_some hstart

end Text

namespace Case

open Text

variable {before cs : List Char} {c x : Char}

theorem isBlank_of_mem_lowerChar (hc : isBlank c = false) (h : x ∈ lowerChar c) :
    isBlank x = false := by
  cases hs : Label.isSeparator c with
  | false => exact Label.isBlank_of_isSeparator (isSeparator_of_mem_lowerChar hs h)
  | true =>
    rw [lowerChar_of_isSeparator hs, List.mem_singleton] at h
    rwa [h]

theorem isBlank_of_mem_lowerAt (hc : isBlank c = false) (h : x ∈ lowerAt before c cs) :
    isBlank x = false := by
  obtain hl | hl := lowerAt_cases before c cs <;> rw [hl] at h
  · exact isBlank_of_mem_lowerChar hc h
  · rw [List.mem_singleton] at h
    subst h
    decide

theorem head?_lower (h : ∀ c ∈ cs.head?, isBlank c = false) :
    ∀ x ∈ (lower cs).head?, isBlank x = false := by
  intro x hx
  cases cs with
  | nil => cases hx
  | cons c cs =>
    rw [lower_cons, List.head?_append_of_ne_nil _ (lowerChar_ne_nil c)] at hx
    exact isBlank_of_mem_lowerChar (h c rfl) (List.mem_of_head? hx)

theorem go_ne_nil (hne : cs ≠ []) : lower.go before cs ≠ [] := by
  obtain ⟨c, cs, rfl⟩ := List.exists_cons_of_ne_nil hne
  rw [go_cons]
  exact List.append_ne_nil_of_left_ne_nil lowerAt_ne_nil _

theorem getLast?_go (h : ∀ c ∈ cs.getLast?, isBlank c = false) :
    ∀ x ∈ (lower.go before cs).getLast?, isBlank x = false := by
  induction cs generalizing before with
  | nil => nofun
  | cons c cs ih =>
    intro x hx
    obtain rfl | hne := eq_or_ne cs []
    · rw [go_cons, lower.go, List.append_nil] at hx
      exact isBlank_of_mem_lowerAt (h c rfl) (List.mem_of_getLast? hx)
    · rw [List.getLast?_cons_of_ne_nil hne] at h
      rw [go_cons, List.getLast?_append_of_ne_nil _ (go_ne_nil hne)] at hx
      exact ih h x hx

theorem lower_lower (cs : List Char) : lower (lower cs) = lower cs :=
  go_of_fixed fun _ h => lowerChar_of_mem_go h

theorem lowerRuns_semicolon : lowerRuns.all (·.isOutside [(0x3B, 0x3B)]) = true := by
  decide +kernel

-- No other character has a semicolon as its lower case.
theorem ne_semicolon_of_mem_lowerChar (hc : c ≠ ';') (h : x ∈ lowerChar c) : x ≠ ';' := by
  by_cases hdotted : c = 'İ'
  · rw [lowerChar, if_pos hdotted] at h
    simp only [List.mem_cons, List.not_mem_nil, or_false] at h
    obtain rfl | rfl := h <;> decide
  · cases hr : Run.find lowerRuns c.toNat with
    | none =>
      rw [lowerChar_of_find_none hdotted hr, List.mem_singleton] at h
      rwa [h]
    | some r =>
      rw [lowerChar_of_find hdotted hr, List.mem_singleton] at h
      obtain ⟨hmem, hholds⟩ := Run.holds_of_find hr
      have hnot := Run.not_within_of_isOutside (List.all_eq_true.1 lowerRuns_semicolon r hmem)
        (lowerRuns_laws hr).1 hholds (0x3B, 0x3B) (.head _)
      rw [h]
      rintro he
      exact hnot (by rw [he]; decide)

theorem semicolon_notMem_go (h : ';' ∉ cs) : ';' ∉ lower.go before cs := by
  induction cs generalizing before with
  | nil => nofun
  | cons c cs ih =>
    rw [List.mem_cons, not_or] at h
    rw [go_cons, List.mem_append]
    rintro (hx | hx)
    · obtain hl | hl := lowerAt_cases before c cs <;> rw [hl] at hx
      · exact ne_semicolon_of_mem_lowerChar (Ne.symm h.1) hx rfl
      · exact absurd (List.mem_singleton.1 hx) (by decide)
    · exact ih h.2 hx

end Case

namespace RendererRegistry

open Case Text

theorem toList_mediaType (t : String) :
    (mediaType t).toList = lower (trim (t.toList.takeWhile (· ≠ ';'))) :=
  String.toList_ofList

theorem semicolon_notMem_mediaType (t : String) : ';' ∉ (mediaType t).toList := by
  rw [toList_mediaType]
  refine semicolon_notMem_go fun h => ?_
  have hsub := (List.rdropWhile_prefix _ _).subset h
  have hmem := List.mem_takeWhile_imp ((List.dropWhile_suffix _).subset hsub)
  simp at hmem

theorem trim_mediaType (t : String) : trim (mediaType t).toList = (mediaType t).toList := by
  rw [toList_mediaType]
  exact trim_of_ends (head?_lower (head?_trim _)) (getLast?_go (getLast?_trim _))

-- Media types are their own media types.
theorem mediaType_mediaType (t : String) : mediaType (mediaType t) = mediaType t := by
  have htake : (mediaType t).toList.takeWhile (· ≠ ';') = (mediaType t).toList :=
    List.takeWhile_eq_self_iff.2 fun c hc => by
      simpa using fun he : c = ';' => semicolon_notMem_mediaType t (he ▸ hc)
  have hlower : lower (mediaType t).toList = (mediaType t).toList := by
    rw [toList_mediaType, lower_lower]
  rw [mediaType, htake, trim_mediaType, hlower, String.ofList_toList]

/-! ### Registries after any calls -/

variable {r start : RendererRegistry} {first calls : List (String × Renderer)}

def registerAll (r : RendererRegistry) (calls : List (String × Renderer)) : RendererRegistry :=
  calls.foldl (fun r c => r.register c.1 c.2) r

-- Every renderer with its own content types, in the order in which they are registered.
def declared : List (String × Renderer) :=
  Renderer.all.flatMap fun renderer => renderer.contentTypes.map fun t => (t, renderer)

-- The registries to start with, and what is registered in them.
inductive Initial : RendererRegistry → List (String × Renderer) → Prop
  | empty : Initial .empty []
  | standard : Initial .standard declared

abbrev Records (calls : List (String × Renderer)) (r : RendererRegistry) : Prop :=
  Registry.Records (fun c : String × Renderer => mediaType c.1) (·.2) calls r.byType

theorem Records.registerAll (h : Records first r) (calls : List (String × Renderer)) :
    Records (first ++ calls) (r.registerAll calls) := by
  have hfoldl : (r.registerAll calls).byType =
      calls.foldl (fun r c => r.register (mediaType c.1) c.2) r.byType :=
    (List.foldl_hom RendererRegistry.byType fun _ _ => rfl).symm
  rw [Records, hfoldl]
  exact h.foldl calls

theorem standard_eq : standard = empty.registerAll declared :=
  rfl

theorem Initial.records (h : Initial start first) : Records first start := by
  cases h with
  | empty => exact .empty
  | standard =>
    rw [standard_eq]
    exact Records.registerAll .empty declared

theorem Records.resolve_eq (h : Records calls r) (q : String) : r.resolve q =
    ((last? (mediaType ·.1) calls (mediaType q)).map (·.2)).getD .placeholder := by
  rw [resolve, h.find?_eq]

-- A listed type is registered under itself, and so it is what it is resolved to.
theorem Records.of_mem_contentTypes (h : Records calls r) {t : String} (ht : t ∈ r.contentTypes) :
    mediaType t = t ∧ r.supports t = true ∧
      (last? (mediaType ·.1) calls t).map (·.2) = some (r.resolve t) := by
  obtain ⟨c, hc, rfl⟩ : ∃ c ∈ calls, mediaType c.1 = t := by
    have hmem := h.keys_perm.mem_iff.1 ht
    rwa [List.mem_dedup, List.mem_map] at hmem
  have hfix := mediaType_mediaType c.1
  have hsome : (last? (mediaType ·.1) calls (mediaType c.1)).isSome = true :=
    Registry.isSome_last?_iff.2 ⟨c, hc, rfl⟩
  obtain ⟨d, hd⟩ := Option.isSome_iff_exists.1 hsome
  refine ⟨hfix, ?_, ?_⟩
  · rw [supports, hfix]
    exact h.contains_iff.2 ⟨c, hc, rfl⟩
  · rw [h.resolve_eq, hfix, hd]
    rfl

end RendererRegistry

namespace TemplateRegistry

def registerAll (r : TemplateRegistry) (ts : List Template) : TemplateRegistry :=
  ts.foldl register r

theorem records_registerAll (ts : List Template) : Registry.Records (fun t => key t.service) id ts
    (registerAll {} ts).byService := by
  have hfoldl : (registerAll {} ts).byService =
      ts.foldl (fun r t => r.register (key t.service) t) .empty :=
    (List.foldl_hom TemplateRegistry.byService fun _ _ => rfl).symm
  rw [hfoldl]
  exact Registry.Records.empty.foldl ts

end TemplateRegistry

-- The last registration of a media type, or of a service in any case, is the one that counts.
theorem registered_last {start : RendererRegistry} {first : List (String × Renderer)}
    (h : RendererRegistry.Initial start first) (calls : List (String × Renderer))
    (ts : List Template) :
    let r := start.registerAll calls
    let all := first ++ calls
    let s := TemplateRegistry.registerAll {} ts
    let lowered (cs : List Char) : String := String.ofList (Case.lower cs)
    let media (t : String) : String := lowered (Text.trim (t.toList.takeWhile (· ≠ ';')))
    (∀ q, r.resolve q = ((last? (media ·.1) all (media q)).map (·.2)).getD .placeholder) ∧
    (∀ q, r.supports q = true ↔ ∃ c ∈ all, media c.1 = media q) ∧
    r.contentTypes.Nodup ∧
    r.contentTypes.Perm (all.map (media ·.1)).dedup ∧
    (∀ t ∈ r.contentTypes, media t = t ∧ r.supports t = true ∧
      (last? (media ·.1) all t).map (·.2) = some (r.resolve t)) ∧
    (∀ service, s.find? service =
      last? (fun t : Template => lowered t.service.toList) ts (lowered service.toList)) ∧
    (∀ service, s.contains service = (s.find? service).isSome) ∧
    s.size = (ts.map fun t => lowered t.service.toList).dedup.length := by
  intro r all s lowered media
  have hr : RendererRegistry.Records all r := h.records.registerAll calls
  have hs := TemplateRegistry.records_registerAll ts
  refine ⟨hr.resolve_eq, fun q => hr.contains_iff, ?_, hr.keys_perm,
    fun t => hr.of_mem_contentTypes, fun service => ?_, fun _ => rfl, hs.size_eq⟩
  · exact hr.keys_perm.nodup_iff.2 (List.nodup_dedup _)
  · exact (hs.find?_eq _).trans (congrFun Option.map_id _)

theorem registered_last_image : RendererRegistry.Initial .standard RendererRegistry.declared ∧
    let r := RendererRegistry.standard.registerAll
      [("Image/PNG; q=1", .placeholder), (" text/CSV", .word)]
    let s := TemplateRegistry.registerAll {}
      [⟨"prison", fun _ => .ok "first"⟩, ⟨"PRISON", fun _ => .ok "second"⟩]
    r.resolve " image/png" = .placeholder ∧ r.resolve "IMAGE/GIF" = .image ∧
      r.supports "text/csv;x" = true ∧ r.supports "text/plain" = false ∧
      (s.find? "Prison").map (·.service) = some "PRISON" ∧ s.size = 1 := by
  obtain ⟨hresolve, hsupports, -, -, -, hfind, -, hsize⟩ := registered_last .standard
    [("Image/PNG; q=1", .placeholder), (" text/CSV", .word)]
    [⟨"prison", fun _ => .ok "first"⟩, ⟨"PRISON", fun _ => .ok "second"⟩]
  refine ⟨.standard, (hresolve _).trans ?_, (hresolve _).trans ?_, (hsupports _).2 ?_,
    Bool.eq_false_iff.2 fun h => ?_, (congrArg _ (hfind _)).trans ?_, hsize.trans ?_⟩
  · decide +kernel
  · decide +kernel
  · decide +kernel
  · exact absurd ((hsupports _).1 h) (by decide +kernel)
  · decide +kernel
  · decide +kernel

end AccessReport

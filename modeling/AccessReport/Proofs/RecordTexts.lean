import AccessReport.Proofs.ScalarTexts

namespace AccessReport

namespace Json

/-! ### Records as they are written -/

-- The ways in which values are written.
inductive Writer : (Value → String) → Prop
  | compact : Writer Json.compact
  | pretty  : Writer Json.pretty

-- The blanks around the entries of an object and around their values.
structure Layout where
  entry : List Char
  value : List Char
  close : List Char
  blank : ∀ c ∈ entry ++ value ++ close, isSpace c = true

variable {l : Layout} {rest : List Char}

namespace Layout

theorem blank_entry (l : Layout) : ∀ c ∈ l.entry, isSpace c = true :=
  fun c hc => l.blank c (by simp [hc])

theorem blank_value (l : Layout) : ∀ c ∈ l.value, isSpace c = true :=
  fun c hc => l.blank c (by simp [hc])

theorem blank_close (l : Layout) : ∀ c ∈ l.close, isSpace c = true :=
  fun c hc => l.blank c (by simp [hc])

def compact : Layout where
  entry := []
  value := []
  close := []
  blank := nofun

def indented : Layout where
  entry := newLine 1
  value := [' ']
  close := newLine 0
  blank := by simp [newLine, isSpace]

-- What is in front of an entry.
def comma (first : Bool) : List Char :=
  if first then [] else [',']

def entries (l : Layout) (first : Bool) : List (String × Value) → List Char
  | [] => l.close ++ ['}']
  | e :: es => comma first ++ l.entry ++ quoteChars e.1 ++ ':' :: l.value ++ scalarChars e.2 ++
      l.entries false es

-- How objects of scalars are written.
def text (l : Layout) (es : List (String × Value)) : String :=
  String.ofList ('{' :: l.entries true es)

theorem compactChars_scalar {v : Value} (hv : Scalar v) : compactChars v = scalarChars v := by
  cases hv <;> rfl

theorem prettyChars_scalar {v : Value} (hv : Scalar v) (depth : Nat) :
    prettyChars depth v = scalarChars v := by
  cases hv <;> simp [prettyChars]

theorem compact_object {es : List (String × Value)} (hes : ∀ e ∈ es, Scalar e.2) :
    Json.compact (.object es) = compact.text es := by
  have hentries (first : Bool) (es : List (String × Value)) (hes : ∀ e ∈ es, Scalar e.2) :
      compactEntries first es = compact.entries first es := by
    induction es generalizing first with
    | nil => rfl
    | cons e es ih =>
      rw [compactEntries, compactChars_scalar (hes e (.head _)),
        ih false fun e he => hes e (.tail _ he)]
      simp [entries, compact, comma]
  rw [Json.compact, compactChars, hentries true es hes, text]

theorem pretty_object {es : List (String × Value)} (hne : es ≠ []) (hes : ∀ e ∈ es, Scalar e.2) :
    pretty (.object es) = indented.text es := by
  have hentries (first : Bool) (es : List (String × Value)) (hes : ∀ e ∈ es, Scalar e.2) :
      prettyEntries 0 first es = indented.entries first es := by
    induction es generalizing first with
    | nil => rfl
    | cons e es ih =>
      rw [prettyEntries, prettyChars_scalar (hes e (.head _)),
        ih false fun e he => hes e (.tail _ he)]
      simp [entries, indented, comma]
  obtain ⟨e, es, rfl⟩ := List.exists_cons_of_ne_nil hne
  rw [pretty, prettyChars, hentries true _ hes, text]
  exact nofun

-- Objects that are not empty are written in one of the layouts.
theorem exists_of_writer {write : Value → String} (hwrite : Writer write)
    {es : List (String × Value)} (hne : es ≠ []) (hes : ∀ e ∈ es, Scalar e.2) :
    ∃ l : Layout, write (.object es) = l.text es := by
  cases hwrite with
  | compact => exact ⟨compact, compact_object hes⟩
  | pretty => exact ⟨indented, pretty_object hne hes⟩

theorem stops_entries (l : Layout) (es : List (String × Value)) : Stops (l.entries false es) := by
  intro c hc
  cases es with
  | nil =>
    cases hclose : l.close with
    | nil =>
      rw [entries, hclose] at hc
      exact .inr (.inl (Option.some.inj hc).symm)
    | cons d ds =>
      rw [entries, hclose] at hc
      obtain rfl : d = c := Option.some.inj hc
      exact .inr (.inr (l.blank_close d (by simp [hclose])))
  | cons e es => exact .inl (Option.some.inj hc).symm

end Layout

/-! ### Records as they are read -/

namespace Record

variable {σ : Type} {r : Record σ} {s s' s'' : σ} {f : Field σ} {e : String × Value}
  {es : List (String × Value)} {cs rest : List Char}
  {other : (depth : Nat) → String → σ → List Char → Except Fault (Read σ)} {depth fuel : Nat}

-- The value of an entry is read as its field has it.
theorem readEntry_of_field (hfind : r.fields.find? (·.name = e.1) = some f)
    (hset : f.isSet s = false) : r.readEntry other depth (fuel + 1) s
      (e.1.toList.flatMap escapeChar ++ '"' :: ':' :: cs) =
        f.read depth s cs >>= fun x => r.readObject other depth fuel false x.1 x.2 := by
  have hcolon : skipSpace (':' :: cs) = ':' :: cs := skipSpace_cons (by decide) cs
  rw [readEntry, stringBody_quoted]
  simp only [bind, Except.bind, String.ofList_toList, hfind, Option.any_some, hset, hcolon,
    Bool.false_eq_true, if_false, ne_eq, not_true_eq_false]

theorem readObject_entries (first : Bool) : r.readObject other depth (fuel + 1) first s
    (l.entries first (e :: es) ++ rest) = r.readEntry other depth fuel s
      (e.1.toList.flatMap escapeChar ++ '"' :: ':' ::
        (l.value ++ (scalarChars e.2 ++ (l.entries false es ++ rest)))) := by
  have hentries : l.entries first (e :: es) ++ rest = Layout.comma first ++ (l.entry ++ '"' ::
      (e.1.toList.flatMap escapeChar ++ '"' :: ':' ::
        (l.value ++ (scalarChars e.2 ++ (l.entries false es ++ rest))))) := by
    simp [Layout.entries, quoteChars]
  rw [hentries, readObject]
  cases first with
  | true =>
    rw [Layout.comma, if_pos rfl, List.nil_append, skipSpace_append l.blank_entry,
      skipSpace_cons (by decide)]
    rfl
  | false =>
    rw [Layout.comma, if_neg (by decide), List.singleton_append, skipSpace_cons (by decide)]
    dsimp only
    rw [skipSpace_append l.blank_entry, skipSpace_cons (by decide)]
    rfl

theorem readObject_close (first : Bool) (hmissing : r.missing? s = none) :
    r.readObject other depth (fuel + 1) first s (l.entries first [] ++ rest) = .ok (s, rest) := by
  have hclose : skipSpace (l.close ++ '}' :: rest) = '}' :: rest := by
    rw [skipSpace_append l.blank_close, skipSpace_cons (by decide)]
  rw [Layout.entries, List.append_assoc, List.singleton_append, readObject, hclose]
  dsimp only
  rw [if_pos rfl, hmissing]

theorem isSet_scalarField {α : Type} {name : String} {get : σ → Option α} {set : σ → α → σ}
    {g : Token → Except Cause α} {byName byRank : Bool} (hset : get s = none) :
    (scalarField name get set g byName byRank).isSet s = false := by
  change (get s).isSome = false
  rw [hset]
  rfl

theorem scalarField_read {α : Type} {name : String} {get : σ → Option α} {set : σ → α → σ}
    {g : Token → Except Cause α} {byName byRank : Bool} {t : Token}
    (ht : token cs = .ok (t, rest)) : (scalarField name get set g byName byRank).read depth s cs =
      match g t with
      | .ok a => .ok (set s a, rest)
      | .error cause => fail cause (t.behind rest) := by
  have hscalar : scalar g cs = match g t with
      | .ok a => .ok (a, rest)
      | .error cause => fail cause (t.behind rest) := by
    rw [scalar, ht]
    rfl
  change scalar g cs >>= (fun x => .ok (set s x.1, x.2)) = _
  rw [hscalar]
  cases g t <;> rfl

-- What an entry makes of the fields read so far.
structure Takes (r : Record σ) (s : σ) (e : String × Value) (s' : σ) : Prop where
  scalar : Scalar e.2
  reads  : ∃ f, r.fields.find? (·.name = e.1) = some f ∧ f.isSet s = false ∧
    ∀ depth cs rest, token cs = .ok (.ofValue e.2, rest) → f.read depth s cs = .ok (s', rest)

theorem Takes.scalarField {α : Type} {name key : String} {get : σ → Option α} {set : σ → α → σ}
    {g : Token → Except Cause α} {byName byRank : Bool} {v : Value} {a : α} (hv : Scalar v)
    (hfind : r.fields.find? (·.name = key) = some (scalarField name get set g byName byRank))
    (hset : get s = none) (hg : g (.ofValue v) = .ok a) : r.Takes s (key, v) (set s a) where
  scalar := hv
  reads := by
    refine ⟨_, hfind, isSet_scalarField hset, fun depth cs rest ht => ?_⟩
    rw [scalarField_read ht, hg]

-- What some entries make of the fields, one after the other.
inductive Fills (r : Record σ) : σ → List (String × Value) → σ → Prop
  | nil (s : σ) : Fills r s [] s
  | cons {s s' s'' : σ} {e : String × Value} {es : List (String × Value)} :
      r.Takes s e s' → Fills r s' es s'' → Fills r s (e :: es) s''

theorem Fills.scalar (h : r.Fills s es s') : ∀ e ∈ es, Scalar e.2 := by
  induction h with
  | nil => exact List.forall_mem_nil _
  | cons ht _ ih => exact List.forall_mem_cons.2 ⟨ht.scalar, ih⟩

theorem token_value {v : Value} (hv : Scalar v) (hrest : Stops rest) :
    token (l.value ++ (scalarChars v ++ rest)) = .ok (.ofValue v, rest) := by
  rw [token_append l.blank_value, token_scalarChars hv hrest]

theorem stops_append (h : Stops cs) (hne : cs ≠ []) (rest : List Char) : Stops (cs ++ rest) := by
  obtain ⟨c, cs, rfl⟩ := List.exists_cons_of_ne_nil hne
  exact h

theorem entries_ne_nil (first : Bool) : l.entries first es ≠ [] := by
  cases es <;> simp [Layout.entries]

-- An entry takes two steps, and the closing brace one.
theorem Fills.readObject (h : r.Fills s es s') (hmissing : r.missing? s' = none)
    (hfuel : 2 * es.length < fuel) (first : Bool) :
    r.readObject other depth fuel first s (l.entries first es ++ rest) = .ok (s', rest) := by
  induction h generalizing fuel first with
  | nil s =>
    obtain ⟨fuel, rfl⟩ := Nat.exists_eq_add_one_of_ne_zero (Nat.ne_of_gt (Nat.zero_lt_of_lt hfuel))
    exact readObject_close first hmissing
  | @cons s s₁ s₂ e es ht _ ih =>
    obtain ⟨hscalar, f, hfind, hset, hread⟩ := ht
    rw [List.length_cons] at hfuel
    obtain ⟨fuel, rfl⟩ : ∃ n, fuel = n + 2 := ⟨fuel - 2, by omega⟩
    have hstops := stops_append (l.stops_entries es) (entries_ne_nil false) rest
    rw [readObject_entries, readEntry_of_field hfind hset,
      hread depth _ _ (token_value hscalar hstops)]
    exact ih hmissing (by omega) false

theorem length_le_entries (l : Layout) (es : List (String × Value)) (first : Bool) :
    es.length ≤ (l.entries first es).length := by
  induction es generalizing first with
  | nil => exact Nat.zero_le _
  | cons e es ih =>
    have htail := ih false
    simp only [Layout.entries, List.length_append, List.length_cons]
    omega

theorem token_text (l : Layout) (es : List (String × Value)) :
    token (l.text es).toList = .ok (.map, l.entries true es) := by
  rw [Layout.text, String.toList_ofList]
  rfl

theorem read_text (r : Record σ) (l : Layout) (es : List (String × Value)) (depth : Nat) :
    r.read depth (l.text es).toList = r.readObject skipOther (depth - 1)
      (2 * (l.entries true es).length + 2) true r.blank (l.entries true es) := by
  rw [read, token_text]
  rfl

-- A written object is read whole, as what its entries make of the fields.
theorem Fills.read_written {write : Value → String} (hwrite : Writer write)
    (h : r.Fills r.blank es s) (hmissing : r.missing? s = none) (hne : es ≠ []) (depth : Nat) :
    finish (r.read depth (write (.object es)).toList) = .ok s := by
  obtain ⟨l, htext⟩ := Layout.exists_of_writer hwrite hne h.scalar
  have hlength := length_le_entries l es true
  have hread : r.readObject skipOther (depth - 1) (2 * (l.entries true es).length + 2) true r.blank
      (l.entries true es) = .ok (s, []) := by
    rw [← List.append_nil (l.entries true es)]
    exact h.readObject hmissing (by simp; omega) true
  rw [htext, read_text, hread]
  rfl

-- An object is refused at its first entry where the field does not take the value.
theorem read_written_of_refused {write : Value → String} (hwrite : Writer write) {α : Type}
    {name : String} {get : σ → Option α} {set : σ → α → σ} {g : Token → Except Cause α}
    {byName byRank : Bool} {cause : Cause} (hes : ∀ x ∈ e :: es, Scalar x.2)
    (hfind : r.fields.find? (·.name = e.1) = some (scalarField name get set g byName byRank))
    (hset : get r.blank = none) (hg : g (.ofValue e.2) = .error cause) (depth : Nat) :
    ∃ unread, finish (r.read depth (write (.object (e :: es))).toList) =
      .error ⟨cause, unread⟩ := by
  obtain ⟨l, htext⟩ := Layout.exists_of_writer hwrite (List.cons_ne_nil e es) hes
  have hread (fuel : Nat) : r.readObject skipOther (depth - 1) (fuel + 2) true r.blank
      (l.entries true (e :: es)) =
        fail cause ((Token.ofValue e.2).behind (l.entries false es)) := by
    rw [← List.append_nil (l.entries true _), readObject_entries, List.append_nil,
      readEntry_of_field hfind (isSet_scalarField hset),
      scalarField_read (token_value (hes e (.head _)) (l.stops_entries es)), hg]
    rfl
  refine ⟨(Token.ofValue e.2).behind (l.entries false es), ?_⟩
  rw [htext, read_text, hread]
  rfl

end Record

end Json

end AccessReport

import Mathlib.Data.List.Induction
import AccessReport.Bundle.LazyFile

namespace AccessReport
namespace LazyFile

variable {σ : Type} {disk : Disk (StateM σ)} {path : String} {content : Bytes} {n : Nat}
  {f : LazyFile}

/-! ### Reads -/

-- One read: how much it asks for, what comes of it, and the world before and after it.
structure Turn (σ : Type) where
  size    : Nat
  before  : σ
  outcome : Except DiskFault Bytes
  after   : σ

namespace Turn

def Succeeds (t : Turn σ) : Prop :=
  ∃ out, t.outcome = .ok out

-- There is nothing for someone who wants something.
def Drains (t : Turn σ) : Prop :=
  0 < t.size ∧ t.outcome = .ok []

def bytes (t : Turn σ) : Bytes :=
  match t.outcome with
  | .ok out => out
  | .error _ => []

theorem Drains.succeeds {t : Turn σ} (h : t.Drains) : t.Succeeds :=
  ⟨[], h.2⟩

end Turn

def turn (disk : Disk (StateM σ)) (f : LazyFile) (size : Nat) (w : σ) : Turn σ × LazyFile :=
  let ((outcome, f'), w') := ((f.read disk size).run w).run
  (⟨size, w, outcome, w'⟩, f')

-- Reads one after the other, each in a world of its own: others may have changed it in between.
def turns (disk : Disk (StateM σ)) (f : LazyFile) : (calls : List (Nat × σ)) →
    List (Turn σ) × LazyFile
  | [] => ([], f)
  | (size, w) :: calls =>
    let (t, f') := f.turn disk size w
    let (ts, f'') := turns disk f' calls
    (t :: ts, f'')

def delivered (past : List (Turn σ)) : Bytes :=
  past.flatMap Turn.bytes

-- In a world a file cannot be opened, or it can and has a content.
def Offers (disk : Disk (StateM σ)) (path : String) (content : Bytes) (w : σ) : Prop :=
  (∃ fault, ((disk.look path).run w).run.1 = .error fault) ∨
    ((disk.look path).run w).run.1 = .ok (.file content)

/-! ### One read -/

theorem exists_handOut (n : Nat) (fetched bs : Bytes) :
    ∃ out fetched' bs', handOut n fetched (.file bs) = .ok (out, fetched', .file bs') ∧
      out ++ (fetched' ++ bs') = fetched ++ bs ∧ out.length ≤ n ∧
      (out = [] → 0 < n → fetched ++ bs = []) := by
  have htake (xs ys : Bytes) (hxs : xs = [] → ys = []) (h : xs.take n = []) (hn : 0 < n) :
      xs ++ ys = [] := by
    obtain h | h := List.take_eq_nil_iff.1 h
    · omega
    · rw [h, hxs h, List.nil_append]
  unfold handOut
  split
  case isTrue h =>
    have hne : fetched ≠ [] := by simpa using h
    refine ⟨_, _, bs, rfl, ?_, List.length_take_le .., htake fetched bs fun h => absurd h hne⟩
    rw [← List.append_assoc, List.take_append_drop]
  case isFalse h =>
    have hnil : fetched = [] := by simpa using h
    subst hnil
    dsimp only
    split
    case isTrue =>
      refine ⟨_, [], _, rfl, List.take_append_drop n bs, List.length_take_le .., fun h hn => ?_⟩
      simpa using htake bs [] (fun _ => rfl) h hn
    case isFalse =>
      refine ⟨_, _, _, rfl, ?_, List.length_take_le .., fun h hn => ?_⟩
      · rw [← List.append_assoc, List.take_append_drop, List.take_append_drop, List.nil_append]
      · rw [List.nil_append, ← List.take_append_drop fetchSize bs]
        refine htake _ _ (fun hnil => ?_) h hn
        obtain h | h := List.take_eq_nil_iff.1 hnil
        · cases h
        · rw [h, List.drop_nil]

theorem turn_drained (h : f.state = .drained) (w : σ) :
    f.turn disk n w = (⟨n, w, .ok [], w⟩, f) := by
  simp only [turn, read, h]
  rfl

theorem turn_opened {fetched : Bytes} {rest : Entry} (h : f.state = .opened fetched rest) (w : σ) :
    f.turn disk n w = (⟨n, w, (f.readOpened n fetched rest).1, w⟩,
      (f.readOpened n fetched rest).2) := by
  simp only [turn, read, h]
  rfl

theorem turn_pending_error {fault : DiskFault} (h : f.state = .pending) {w : σ}
    (hlook : ((disk.look f.path).run w).run.1 = .error fault) :
    f.turn disk n w = (⟨n, w, .error fault, ((disk.look f.path).run w).run.2⟩, f) := by
  simp only [turn, read, h, StateT.run_bind]
  generalize (disk.look f.path).run w = r at *
  obtain ⟨x, w'⟩ := r
  obtain rfl : x = .error fault := hlook
  rfl

theorem turn_pending_ok {entry : Entry} (h : f.state = .pending) {w : σ}
    (hlook : ((disk.look f.path).run w).run.1 = .ok entry) :
    f.turn disk n w = (⟨n, w, (f.readOpened n [] entry).1, ((disk.look f.path).run w).run.2⟩,
      (f.readOpened n [] entry).2) := by
  simp only [turn, read, h, StateT.run_bind]
  generalize (disk.look f.path).run w = r at *
  obtain ⟨x, w'⟩ := r
  obtain rfl : x = .ok entry := hlook
  rfl

theorem exists_readOpened (f : LazyFile) (n : Nat) (fetched bs : Bytes) :
    ∃ out fetched' bs', f.readOpened n fetched (.file bs) =
        (.ok out, { f with
          state := if out.isEmpty && 0 < n then .drained else .opened fetched' (.file bs') }) ∧
      out ++ (fetched' ++ bs') = fetched ++ bs ∧ out.length ≤ n ∧
      (out = [] → 0 < n → fetched ++ bs = []) := by
  obtain ⟨out, fetched', bs', hout, hrest, hlength, hend⟩ := exists_handOut n fetched bs
  refine ⟨out, fetched', bs', ?_, hrest, hlength, hend⟩
  simp only [readOpened, hout]

/-! ### What one read keeps -/

-- How the reads so far left the file. What was fetched is what follows what was delivered.
inductive Reached (content : Bytes) (past : List (Turn σ)) : State → Prop where
  | pending (unread : ∀ t ∈ past, ¬ t.Succeeds) : Reached content past .pending
  | opened {fetched unread : Bytes} (opened : ∃ t ∈ past, t.Succeeds)
      (undrained : ∀ t ∈ past, ¬ t.Drains)
      (rest : delivered past ++ (fetched ++ unread) = content) :
      Reached content past (.opened fetched (.file unread))
  | drained (drained : ∃ t ∈ past, t.Drains) (complete : delivered past = content) :
      Reached content past .drained

variable {past : List (Turn σ)} {w w' : σ}

theorem delivered_concat (past : List (Turn σ)) (t : Turn σ) :
    delivered (past ++ [t]) = delivered past ++ t.bytes := by
  simp [delivered]

theorem delivered_eq_nil (h : ∀ t ∈ past, ¬ t.Succeeds) : delivered past = [] := by
  refine List.flatMap_eq_nil_iff.2 fun t ht => ?_
  unfold Turn.bytes
  split
  case h_1 out hout => exact absurd ⟨out, hout⟩ (h t ht)
  case h_2 => rfl

theorem forall_mem_concat {p : Turn σ → Prop} (h : ∀ t ∈ past, p t) {t : Turn σ} (ht : p t) :
    ∀ s ∈ past ++ [t], p s := by
  intro s hs
  obtain hs | hs := List.mem_append.1 hs
  · exact h s hs
  · exact List.mem_singleton.1 hs ▸ ht

theorem exists_mem_concat {p : Turn σ → Prop} {t : Turn σ} (ht : p t) : ∃ s ∈ past ++ [t], p s :=
  ⟨t, List.mem_append_right past (List.mem_singleton_self t), ht⟩

theorem exists_mem_concat_of_exists {p : Turn σ → Prop} (h : ∃ s ∈ past, p s) (t : Turn σ) :
    ∃ s ∈ past ++ [t], p s :=
  have ⟨s, hs, hp⟩ := h
  ⟨s, List.mem_append_left [t] hs, hp⟩

theorem Reached.readOpened {fetched bs : Bytes} (hpast : ∀ t ∈ past, ¬ t.Drains)
    (hrest : delivered past ++ (fetched ++ bs) = content) :
    Reached content (past ++ [⟨n, w, (f.readOpened n fetched (.file bs)).1, w'⟩])
      (f.readOpened n fetched (.file bs)).2.state := by
  obtain ⟨out, fetched', bs', hread, hout, -, hend⟩ := exists_readOpened f n fetched bs
  rw [hread]
  split
  case isTrue h =>
    have ⟨hnil, hn⟩ : out = [] ∧ 0 < n := by simpa using h
    refine .drained (exists_mem_concat ⟨hn, by rw [hnil]⟩) ?_
    rw [delivered_concat, ← hrest, hend hnil hn, ← hnil]
    rfl
  case isFalse h =>
    refine .opened (exists_mem_concat ⟨out, rfl⟩) (forall_mem_concat hpast fun hdrains => h ?_) ?_
    · have hnil : out = [] := by simpa using hdrains.2
      simpa [hnil] using hdrains.1
    · rw [delivered_concat, List.append_assoc, ← hrest, ← hout]
      rfl

theorem Reached.turn (h : Reached content past f.state) (n : Nat)
    (hoffers : Offers disk f.path content w) :
    Reached content (past ++ [(f.turn disk n w).1]) (f.turn disk n w).2.state := by
  generalize hstate : f.state = state at h
  cases h with
  | pending hpast =>
    obtain ⟨fault, hlook⟩ | hlook := hoffers
    · rw [turn_pending_error hstate hlook, hstate]
      exact .pending (forall_mem_concat hpast fun ⟨_, hout⟩ => nomatch hout)
    · rw [turn_pending_ok hstate hlook]
      refine .readOpened (fun t ht hdrains => hpast t ht hdrains.succeeds) ?_
      rw [delivered_eq_nil hpast]
      rfl
  | opened _ hpast hrest =>
    rw [turn_opened hstate]
    exact .readOpened hpast hrest
  | drained hpast hcomplete =>
    rw [turn_drained hstate, hstate]
    refine .drained (exists_mem_concat_of_exists hpast _) ?_
    rw [delivered_concat, hcomplete]
    exact List.append_nil content

theorem readOpened_path (f : LazyFile) (n : Nat) (fetched : Bytes) (rest : Entry) :
    (f.readOpened n fetched rest).2.path = f.path := by
  unfold readOpened
  split <;> rfl

@[simp]
theorem turn_path (disk : Disk (StateM σ)) (f : LazyFile) (n : Nat) (w : σ) :
    (f.turn disk n w).2.path = f.path := by
  cases hstate : f.state with
  | pending =>
    cases hlook : ((disk.look f.path).run w).run.1 with
    | error => rw [turn_pending_error hstate hlook]
    | ok entry => rw [turn_pending_ok hstate hlook, readOpened_path]
  | opened fetched rest => rw [turn_opened hstate, readOpened_path]
  | drained => rw [turn_drained hstate]

/-! ### Reads one after the other -/

theorem turns_concat (disk : Disk (StateM σ)) (f : LazyFile) (calls : List (Nat × σ)) (n : Nat)
    (w : σ) :
    turns disk f (calls ++ [(n, w)]) =
      ((turns disk f calls).1 ++ [((turns disk f calls).2.turn disk n w).1],
        ((turns disk f calls).2.turn disk n w).2) := by
  induction calls generalizing f with
  | nil => rfl
  | cons call calls ih =>
    simp only [List.cons_append, turns, ih]

theorem reached_turns (disk : Disk (StateM σ)) (path : String) (content : Bytes)
    (calls : List (Nat × σ)) (hcalls : ∀ call ∈ calls, Offers disk path content call.2) :
    (turns disk { path } calls).2.path = path ∧
      Reached content (turns disk { path } calls).1 (turns disk { path } calls).2.state := by
  induction calls using List.reverseRecOn with
  | nil => exact ⟨rfl, .pending fun _ h => nomatch h⟩
  | append_singleton calls call ih =>
    obtain ⟨hpath, hreached⟩ := ih fun c hc => hcalls c (List.mem_append_left _ hc)
    have hcall := hcalls call (List.mem_append_right _ (List.mem_singleton_self call))
    rw [turns_concat]
    exact ⟨by rw [turn_path, hpath], hreached.turn call.1 (by rwa [hpath])⟩

/-! ### What can be told from the reads -/

-- What reads have delivered, and what is known of the file after them.
structure Told (path : String) (content : Bytes) (past : List (Turn σ)) (f : LazyFile) : Prop where
  samePath    : f.path = path
  inOrder     : delivered past <+: content
  complete    : (∃ t ∈ past, t.Drains) → delivered past = content
  pending_iff : f.state = .pending ↔ ∀ t ∈ past, ¬ t.Succeeds
  isOpen_iff  : f.isOpen = true ↔ (∃ t ∈ past, t.Succeeds) ∧ ∀ t ∈ past, ¬ t.Drains
  drained_iff : f.state = .drained ↔ ∃ t ∈ past, t.Drains

theorem Reached.told (h : Reached content past f.state) (hpath : f.path = path) :
    Told path content past f := by
  generalize hstate : f.state = state at h
  cases h with
  | pending hpast =>
    have hdrains : ¬ ∃ t ∈ past, t.Drains := fun ⟨t, ht, hd⟩ => hpast t ht hd.succeeds
    have hsucceeds : ¬ ∃ t ∈ past, t.Succeeds := fun ⟨t, ht, hs⟩ => hpast t ht hs
    exact {
      samePath := hpath
      inOrder := delivered_eq_nil hpast ▸ List.nil_prefix
      complete := fun h => absurd h hdrains
      pending_iff := iff_of_true hstate hpast
      isOpen_iff := iff_of_false (by simp [isOpen, hstate]) fun h => hsucceeds h.1
      drained_iff := iff_of_false (by simp [hstate]) hdrains }
  | opened hopened hpast hrest =>
    obtain ⟨t, ht, hs⟩ := hopened
    have hdrains : ¬ ∃ t ∈ past, t.Drains := fun ⟨t, ht, hd⟩ => hpast t ht hd
    exact {
      samePath := hpath
      inOrder := ⟨_, hrest⟩
      complete := fun h => absurd h hdrains
      pending_iff := iff_of_false (by simp [hstate]) fun h => h t ht hs
      isOpen_iff := iff_of_true (by simp [isOpen, hstate]) ⟨⟨t, ht, hs⟩, hpast⟩
      drained_iff := iff_of_false (by simp [hstate]) hdrains }
  | drained hpast hcomplete =>
    obtain ⟨t, ht, hd⟩ := hpast
    exact {
      samePath := hpath
      inOrder := hcomplete ▸ List.prefix_rfl
      complete := fun _ => hcomplete
      pending_iff := iff_of_false (by simp [hstate]) fun h => h t ht hd.succeeds
      isOpen_iff := iff_of_false (by simp [isOpen, hstate]) fun h => h.2 t ht hd
      drained_iff := iff_of_true hstate ⟨t, ht, hd⟩ }

-- What a read does that comes after others, by what those did.
structure Continues (disk : Disk (StateM σ)) (past : List (Turn σ)) (f : LazyFile) (t : Turn σ)
    (f' : LazyFile) : Prop where
  length_le : t.bytes.length ≤ t.size
  -- Every read tries to open the file until one succeeds. A failure leaves the file as it was.
  tries     : (∀ s ∈ past, ¬ s.Succeeds) →
    t.after = ((disk.look f.path).run t.before).run.2 ∧
      (t.Succeeds ↔ ∃ entry, ((disk.look f.path).run t.before).run.1 = .ok entry) ∧
      ∀ fault, ((disk.look f.path).run t.before).run.1 = .error fault →
        t.outcome = .error fault ∧ f' = f
  -- Later reads succeed, leave the world alone and do the same on any other disk.
  keeps     : (∃ s ∈ past, s.Succeeds) →
    t.Succeeds ∧ t.after = t.before ∧
      ∀ other : Disk (StateM σ), f.turn other t.size t.before = (t, f')
  ends      : (∃ s ∈ past, s.Drains) → t.outcome = .ok [] ∧ f' = f
  -- Who wants nothing learns nothing about the end.
  zero      : t.size = 0 → (f'.state = .drained ↔ f.state = .drained)

theorem readOpened_state_ne_drained (f : LazyFile) (fetched : Bytes) (rest : Entry) :
    (f.readOpened 0 fetched rest).2.state ≠ .drained := by
  unfold readOpened
  split <;> simp

theorem Continues.of_pending (hstate : f.state = .pending) (hpast : ∀ t ∈ past, ¬ t.Succeeds)
    (n : Nat) (hoffers : Offers disk f.path content w) :
    Continues disk past f (f.turn disk n w).1 (f.turn disk n w).2 := by
  have hnone : ¬ ∃ t ∈ past, t.Succeeds := fun ⟨t, ht, hs⟩ => hpast t ht hs
  have hdrains : ¬ ∃ t ∈ past, t.Drains := fun ⟨t, ht, hd⟩ => hpast t ht hd.succeeds
  obtain ⟨fault, hlook⟩ | hlook := hoffers
  · rw [turn_pending_error hstate hlook]
    refine ⟨Nat.zero_le n, fun _ => ⟨rfl, ?_, ?_⟩, fun h => absurd h hnone,
      fun h => absurd h hdrains, fun _ => Iff.rfl⟩
    · exact iff_of_false (fun ⟨_, hout⟩ => nomatch hout) fun ⟨_, hok⟩ => nomatch hlook ▸ hok
    · intro fault' h
      cases hlook.symm.trans h
      exact ⟨rfl, rfl⟩
  · obtain ⟨out, fetched, bs, hread, -, hlength, -⟩ := exists_readOpened f n [] content
    rw [turn_pending_ok hstate hlook]
    refine ⟨?_, fun _ => ⟨rfl, ?_, ?_⟩, fun h => absurd h hnone, fun h => absurd h hdrains, ?_⟩
    · rw [hread]
      exact hlength
    · exact iff_of_true ⟨out, by rw [hread]⟩ ⟨_, hlook⟩
    · intro fault h
      exact nomatch hlook ▸ h
    · rintro rfl
      exact iff_of_false (readOpened_state_ne_drained f [] _) (by simp [hstate])

theorem Continues.of_opened {fetched bs : Bytes} (hstate : f.state = .opened fetched (.file bs))
    (hpast : ∃ t ∈ past, t.Succeeds) (hdrains : ∀ t ∈ past, ¬ t.Drains) (n : Nat) (w : σ) :
    Continues disk past f (f.turn disk n w).1 (f.turn disk n w).2 := by
  obtain ⟨t, ht, hs⟩ := hpast
  obtain ⟨out, fetched', bs', hread, -, hlength, -⟩ := exists_readOpened f n fetched bs
  rw [turn_opened hstate]
  refine ⟨?_, fun h => absurd hs (h t ht), fun _ => ⟨⟨out, by rw [hread]⟩, rfl, ?_⟩,
    fun ⟨t, ht, hd⟩ => absurd hd (hdrains t ht), ?_⟩
  · rw [hread]
    exact hlength
  · intro other
    exact turn_opened hstate w
  · rintro rfl
    exact iff_of_false (readOpened_state_ne_drained f fetched _) (by simp [hstate])

theorem Continues.of_drained (hstate : f.state = .drained) (hpast : ∃ t ∈ past, t.Drains) (n : Nat)
    (w : σ) : Continues disk past f (f.turn disk n w).1 (f.turn disk n w).2 := by
  obtain ⟨t, ht, hd⟩ := hpast
  rw [turn_drained hstate]
  exact {
    length_le := Nat.zero_le n
    tries := fun h => absurd hd.succeeds (h t ht)
    keeps := fun _ => ⟨⟨[], rfl⟩, rfl, fun _ => turn_drained hstate w⟩
    ends := fun _ => ⟨rfl, rfl⟩
    zero := fun _ => Iff.rfl }

theorem Reached.continues (h : Reached content past f.state) (n : Nat)
    (hoffers : Offers disk f.path content w) :
    Continues disk past f (f.turn disk n w).1 (f.turn disk n w).2 := by
  generalize hstate : f.state = state at h
  cases h with
  | pending hpast => exact .of_pending hstate hpast n hoffers
  | opened hpast hdrains => exact .of_opened hstate hpast hdrains n w
  | drained hpast => exact .of_drained hstate hpast n w

-- Reads of any sizes hand out the content of a file in order. They open the file once, with the
-- first one that can, and close it with the first one that wants something when there is nothing.
theorem told_and_continues (disk : Disk (StateM σ)) (path : String) (content : Bytes)
    (calls : List (Nat × σ)) (n : Nat) (w : σ)
    (hcalls : ∀ call ∈ calls ++ [(n, w)], Offers disk path content call.2) :
    let (past, f) := turns disk { path } calls
    let (t, f') := f.turn disk n w
    Told path content past f ∧ Continues disk past f t f' ∧ Told path content (past ++ [t]) f' := by
  obtain ⟨hpath, hreached⟩ := reached_turns disk path content calls fun call hcall =>
    hcalls call (List.mem_append_left _ hcall)
  have hoffers := hcalls (n, w) (List.mem_append_right _ (List.mem_singleton_self _))
  rw [← hpath] at hoffers
  refine ⟨hreached.told hpath, hreached.continues n hoffers, (hreached.turn n hoffers).told ?_⟩
  rw [turn_path, hpath]

-- The file is missing at first, and again once it is open.
theorem told_and_continues_note :
    let gone : Folder := {}
    let there : Folder := { files := [(["note.txt"], [104, 105])] }
    let calls := [(3, gone), (0, there), (1, gone), (3, there)]
    (∀ call ∈ calls ++ [(3, gone)], Offers Folder.disk "note.txt" [104, 105] call.2) ∧
    let (past, f) := turns Folder.disk { path := "note.txt" } calls
    let (t, f') := f.turn Folder.disk 3 gone
    Told "note.txt" [104, 105] past f ∧ Continues Folder.disk past f t f' ∧
      Told "note.txt" [104, 105] (past ++ [t]) f' := by
  intro gone there calls
  have hgone : Offers Folder.disk "note.txt" [104, 105] gone := .inl ⟨.missing, rfl⟩
  have hthere : Offers Folder.disk "note.txt" [104, 105] there := .inr rfl
  have hcalls : ∀ call ∈ calls ++ [(3, gone)],
      Offers Folder.disk "note.txt" [104, 105] call.2 := by
    simp [calls, hgone, hthere]
  exact ⟨hcalls, told_and_continues Folder.disk "note.txt" [104, 105] calls 3 gone hcalls⟩

end LazyFile
end AccessReport

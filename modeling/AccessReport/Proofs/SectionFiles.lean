import AccessReport.Bundle.Manifest
import AccessReport.Proofs.Running

namespace AccessReport

variable {σ : Type} {disk : Disk (StateM σ)} {w w' : σ}

namespace FileEntry

def stored (service : String) (f : FileEntry) : StoredFile :=
  ⟨service, f.info, f.path⟩

-- Files are told apart by what they are described with: of those with one description the first is
-- meant.
def first (files : List FileEntry) (f : FileEntry) : FileEntry :=
  (files.find? (·.info = f.info)).getD f

def listed (files : List FileEntry) : List FileEntry :=
  files.map (first files)

-- The attachment that a file is, with its path seen from a folder.
def attachment (disk : Disk (StateM σ)) (folder : String) (f : FileEntry) : Attachment (StateM σ) :=
  AttachmentStore.attachment disk f.info (Path.join folder f.path)

variable {files : List FileEntry} {f : FileEntry}

theorem find?_eq_first (h : f ∈ files) :
    files.find? (·.info = f.info) = some (first files f) := by
  have hsome : (files.find? (·.info = f.info)).isSome := by
    simp only [List.find?_isSome, decide_eq_true_eq]
    exact ⟨f, h, rfl⟩
  obtain ⟨g, hg⟩ := Option.isSome_iff_exists.1 hsome
  simp [first, hg]

theorem info_first (h : f ∈ files) : (first files f).info = f.info := by
  simpa using List.find?_some (find?_eq_first h)

theorem first_mem (h : f ∈ files) : first files f ∈ files :=
  List.mem_of_find?_eq_some (find?_eq_first h)

-- Each file is meant by its own description just if no description has two paths.
theorem listed_eq_iff : listed files = files ↔
    ∀ f ∈ files, ∀ g ∈ files, f.info = g.info → f.path = g.path := by
  constructor
  · intro h f hf g hg hi
    have heq : ∀ x ∈ files, first files x = x := by
      simpa using List.map_eq_map_iff.1 (h.trans (List.map_id _).symm)
    have hfirst : some (first files f) = some (first files g) := by
      rw [← find?_eq_first hf, ← find?_eq_first hg, hi]
    rw [heq f hf, heq g hg] at hfirst
    rw [Option.some.inj hfirst]
  · intro h
    refine (List.map_congr_left fun f hf => ?_).trans (List.map_id _)
    have hinfo := info_first hf
    have hpath := h _ (first_mem hf) f hf hinfo
    calc first files f = ⟨(first files f).info, (first files f).path⟩ := rfl
      _ = f := by rw [hinfo, hpath]

-- What is meant by earlier and own files are the own ones just if there are no earlier ones, and no
-- description of the own ones has two paths.
theorem listed_append_eq_iff {before own : List FileEntry} : listed (before ++ own) = own ↔
    before = [] ∧ ∀ f ∈ own, ∀ g ∈ own, f.info = g.info → f.path = g.path := by
  constructor
  · intro h
    have hl : (listed (before ++ own)).length = own.length := congrArg List.length h
    simp only [listed, List.length_map, List.length_append, Nat.add_eq_right,
      List.length_eq_zero_iff] at hl
    subst hl
    exact ⟨rfl, listed_eq_iff.1 h⟩
  · rintro ⟨rfl, h⟩
    exact listed_eq_iff.2 h

end FileEntry

namespace ServiceEntry

-- The files of the entries that name a service, in order.
def filesOf (service : String) (es : List ServiceEntry) : List FileEntry :=
  (es.filter (·.name = service)).flatMap (·.attachments)

-- The store once some entries are taken up.
def storeOf (folder : String) (es : List ServiceEntry) : AttachmentStore :=
  ⟨folder, es.flatMap fun e => e.attachments.map (·.stored e.name)⟩

-- The section of an entry behind others: the files of the entry come after those that belong to
-- other entries of the same name.
structure Describes (disk : Disk (StateM σ)) (folder : String) (before : List FileEntry)
    (e : ServiceEntry) (s : Section (StateM σ)) : Prop where
  service     : s.service = e.name
  label       : s.label = e.label.getD e.name
  content     : s.content = e.content
  attachments : s.attachments =
    (FileEntry.listed (before ++ e.attachments)).map (·.attachment disk folder)

variable {folder service : String} {es before : List ServiceEntry} {e : ServiceEntry}

theorem filesOf_concat :
    filesOf e.name (before ++ [e]) = filesOf e.name before ++ e.attachments := by
  simp [filesOf]

theorem add_files (fs : List FileEntry) (s : AttachmentStore) :
    fs.foldl (fun s f => s.add service f.info f.path) s =
      { s with files := s.files ++ fs.map (·.stored service) } := by
  induction fs generalizing s with
  | nil => simp
  | cons f fs ih =>
    rw [List.foldl_cons, ih]
    simp [AttachmentStore.add, FileEntry.stored]

theorem storeOf_concat : storeOf folder (before ++ [e]) =
    e.attachments.foldl (fun s f => s.add e.name f.info f.path) (storeOf folder before) := by
  simp [add_files, storeOf]

theorem ofService_storeOf : (storeOf folder es).ofService service =
    (filesOf service es).map (·.stored service) := by
  induction es with
  | nil => rfl
  | cons e es ih =>
    have hown : (e.attachments.map (·.stored e.name)).filter (·.service = service) =
        if e.name = service then e.attachments.map (·.stored service) else [] := by
      split
      case isTrue h =>
        subst h
        exact List.filter_eq_self.2 (by simp [FileEntry.stored])
      case isFalse h =>
        exact List.filter_eq_nil_iff.2 (by simp [FileEntry.stored, h])
    simp only [AttachmentStore.ofService, storeOf] at ih
    simp only [AttachmentStore.ofService, storeOf, List.flatMap_cons, List.filter_append, ih, hown]
    by_cases h : e.name = service <;> simp [filesOf, h]

theorem list_storeOf : (storeOf folder es).list service = (filesOf service es).map (·.info) := by
  simp [AttachmentStore.list, ofService_storeOf, Function.comp_def, FileEntry.stored]

theorem path?_storeOf {f : FileEntry} (hf : f ∈ filesOf service es) :
    (storeOf folder es).path? service f.info =
      some (Path.join folder (FileEntry.first (filesOf service es) f).path) := by
  have hfind := FileEntry.find?_eq_first hf
  simp only [AttachmentStore.path?, ofService_storeOf, List.find?_map, Function.comp_def,
    FileEntry.stored, hfind]
  rfl

end ServiceEntry

namespace AttachmentStore

variable {store : AttachmentStore} {service : String} {info : AttachmentInfo}

theorem fetch_yields {a : Attachment (StateM σ)}
    (h : Yields (store.fetch disk service info) w a w') :
    ∃ path, store.path? service info = some path ∧ a = attachment disk info path := by
  unfold fetch at h
  cases hp : store.path? service info with
  | none =>
    rw [hp] at h
    exact absurd h Yields.not_throw
  | some path =>
    rw [hp] at h
    obtain ⟨_, _, _, hpure⟩ := Yields.bind_iff.1 h
    obtain ⟨rfl, _⟩ := Yields.pure_iff.1 hpure
    exact ⟨path, rfl, rfl⟩

theorem fetchAll_yields {folder : String} {es : List ServiceEntry}
    {as : List (Attachment (StateM σ))}
    (h : Yields ((ServiceEntry.storeOf folder es).fetchAll disk service) w as w') :
    as = (FileEntry.listed (ServiceEntry.filesOf service es)).map (·.attachment disk folder) := by
  rw [fetchAll, ServiceEntry.list_storeOf] at h
  have ht := (Yields.mapM_iff.1 h).eq_map (g := fun info => attachment disk info
      (((ServiceEntry.storeOf folder es).path? service info).getD ""))
    fun info _ a _ _ hf => by
      obtain ⟨path, hp, rfl⟩ := fetch_yields hf
      simp [hp]
  rw [ht, FileEntry.listed, List.map_map, List.map_map]
  refine List.map_congr_left fun f hf => ?_
  simp [ServiceEntry.path?_storeOf hf, FileEntry.attachment, FileEntry.info_first hf]

end AttachmentStore

namespace Manifest

variable {folder : String} {es : List ServiceEntry}

theorem sectionOf_yields {before : List ServiceEntry} {e : ServiceEntry} {s : Section (StateM σ)}
    {store : AttachmentStore}
    (h : Yields (sectionOf disk (ServiceEntry.storeOf folder before) e) w (s, store) w') :
    store = ServiceEntry.storeOf folder (before ++ [e]) ∧
      e.Describes disk folder (ServiceEntry.filesOf e.name before) s := by
  unfold sectionOf at h
  obtain ⟨as, _, has, hpure⟩ := Yields.bind_iff.1 h
  rw [← ServiceEntry.storeOf_concat] at has hpure
  obtain ⟨hs, _⟩ := Yields.pure_iff.1 hpure
  cases hs
  refine ⟨rfl, rfl, rfl, rfl, ?_⟩
  rw [← ServiceEntry.filesOf_concat]
  exact AttachmentStore.fetchAll_yields has

-- One section for each entry, with what the entries up to it describe.
theorem sections_yields (before : List ServiceEntry) {ss : List (Section (StateM σ))}
    (h : Yields (sections disk (ServiceEntry.storeOf folder before) es) w ss w') :
    ss.length = es.length ∧ ∀ (i : Nat) (e : ServiceEntry), es[i]? = some e → ∃ s, ss[i]? = some s ∧
      e.Describes disk folder (ServiceEntry.filesOf e.name (before ++ es.take i)) s := by
  induction es generalizing before ss w with
  | nil =>
    obtain ⟨rfl, _⟩ := Yields.pure_iff.1 h
    exact ⟨rfl, fun i e he => by simp at he⟩
  | cons e es ih =>
    obtain ⟨⟨s, store⟩, w₁, hs, hrest⟩ := Yields.bind_iff.1 h
    obtain ⟨ss, _, hss, hpure⟩ := Yields.bind_iff.1 hrest
    obtain ⟨rfl, rfl⟩ := Yields.pure_iff.1 hpure
    obtain ⟨rfl, hd⟩ := sectionOf_yields hs
    obtain ⟨hlength, hsections⟩ := ih (before ++ [e]) hss
    refine ⟨congrArg (· + 1) hlength, fun i e' he => ?_⟩
    cases i with
    | zero =>
      cases he
      exact ⟨s, rfl, by simpa using hd⟩
    | succ i =>
      obtain ⟨s', hs', hd'⟩ := hsections i e' he
      exact ⟨s', hs', by simpa using hd'⟩

-- There is one section for each entry, in order. It has the files of the entry behind those of all
-- earlier entries of the same name, each read at the path of the first one with its description: just
-- the files of the entry, each at its own path, if there are no earlier ones and no two of its own
-- have one description and different paths.
theorem request_sections {manifest : Manifest} {r : Request (StateM σ)}
    (h : Yields (manifest.request disk folder) w r w') :
    r.subject = manifest.subject ∧ r.sections.length = manifest.services.length ∧
      ∀ (i : Nat) (e : ServiceEntry), manifest.services[i]? = some e →
        ∃ s before, r.sections[i]? = some s ∧
          before = ServiceEntry.filesOf e.name (manifest.services.take i) ∧
          e.Describes disk folder before s ∧
          (FileEntry.listed (before ++ e.attachments) = e.attachments ↔
            before = [] ∧ ∀ f ∈ e.attachments, ∀ g ∈ e.attachments,
              f.info = g.info → f.path = g.path) := by
  obtain ⟨ss, _, hss, hpure⟩ := Yields.bind_iff.1 h
  obtain ⟨rfl, _⟩ := Yields.pure_iff.1 hpure
  obtain ⟨hlength, hsections⟩ := sections_yields [] hss
  refine ⟨rfl, hlength, fun i e he => ?_⟩
  obtain ⟨s, hs, hd⟩ := hsections i e he
  exact ⟨s, _, hs, rfl, hd, FileEntry.listed_append_eq_iff⟩

-- A service that is described twice, by entries with one attachment each.
def twice : Manifest where
  subject  := { name := "Joe Bloggs", caseReference := "SAR-1" }
  services := [
    { name := "court-case-service", attachments := [⟨⟨1, "a.txt", "A", "text/plain"⟩, "a.txt"⟩] },
    { name := "court-case-service", attachments := [⟨⟨2, "b.txt", "B", "text/plain"⟩, "b.txt"⟩] }]

def twiceFolder : Folder where
  files := [(["a.txt"], [97]), (["b.txt"], [98])]

theorem request_sections_twice : ∃ r w', Yields (twice.request Folder.disk ".") twiceFolder r w' ∧
    r.sections.length = 2 ∧ ∃ s, r.sections[1]? = some s ∧
      s.attachments = (twice.services.flatMap (·.attachments)).map (·.attachment Folder.disk ".") := by
  have ⟨r, w', h⟩ := Yields.exists_of_isSome (x := twice.request Folder.disk ".") (w := twiceFolder)
    (by decide +kernel)
  have ⟨_, hlength, hsections⟩ := request_sections h
  obtain ⟨s, before, hs, rfl, hd, _⟩ := hsections 1 _ rfl
  exact ⟨r, w', h, hlength, s, hs, hd.attachments⟩

end Manifest
end AccessReport

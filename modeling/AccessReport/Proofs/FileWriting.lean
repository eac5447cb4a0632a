import AccessReport.Proofs.FilePaths
import AccessReport.Proofs.Quiet

namespace AccessReport

variable {σ : Type}

namespace Disk

-- There is a file with a content under a path.
def Holds (disk : Disk (StateM σ)) (w : σ) (path : String) (content : Bytes) : Prop :=
  ((disk.look path).run w).run.1 = .ok (.file content)

-- Files of a folder, all under other names than one.
def Apart (folder name : String) (files : List (String × Bytes)) : Prop :=
  ∀ file ∈ files, ∃ other content,
    file = (Path.join folder other, content) ∧ Path.IsName other ∧ other ≠ name

variable {disk : Disk (StateM σ)} {folder name : String} {content : Bytes} {w w' : σ}

theorem Holds.eq {content' : Bytes} (h : disk.Holds w folder content)
    (h' : disk.Holds w folder content') : content = content' := by
  cases h.symm.trans h'
  rfl

end Disk

/-! ### Folders in memory -/

namespace Folder

variable {f : Folder} {place place' : List String} {content : Bytes}

-- All folders that a place is in are there.
def Reached (f : Folder) (place : List String) : Prop :=
  ∀ above, above.length < place.length → above <+: place → f.isFolder above = true

theorem Reached.concat (h : f.Reached place) (hfolder : f.isFolder place = true) (part : String) :
    f.Reached (place ++ [part]) := by
  intro above hlength habove
  cases List.prefix_concat_iff.1 habove with
  | inl heq => exact absurd (congrArg List.length heq) (Nat.ne_of_lt hlength)
  | inr habove =>
    by_cases heq : above.length = place.length
    · exact habove.eq_of_length heq ▸ hfolder
    · exact h above (Nat.lt_of_le_of_ne habove.length_le heq) habove

theorem Reached.dropLast (h : f.Reached place) : f.Reached place.dropLast := by
  intro above hlength habove
  rw [List.length_dropLast] at hlength
  exact h above (by omega) (habove.trans (List.dropLast_prefix place))

-- A path leads on through folders only.
theorem Reached.walk {parts : List String} (h : f.Reached place)
    (hwalk : f.walk place parts = .ok place') : f.Reached place' := by
  induction parts generalizing place with
  | nil =>
    cases hwalk
    exact h
  | cons part parts ih =>
    unfold Folder.walk at hwalk
    split at hwalk
    case isTrue hfolder =>
      split at hwalk
      case isTrue => exact ih h hwalk
      case isFalse =>
        split at hwalk
        case isTrue =>
          split at hwalk
          case isTrue => cases hwalk
          case isFalse => exact ih h.dropLast hwalk
        case isFalse => exact ih (h.concat hfolder part) hwalk
    case isFalse =>
      split at hwalk
      all_goals cases hwalk

end Folder
end AccessReport

import AccessReport.Proofs.FileWriting

namespace AccessReport

variable {σ : Type}

-- What became of the report of a manifest.
abbrev BatchResult := String × Except Failure (Report Float32)

namespace BatchResult

def file? (folder : String) : BatchResult → Option (String × Bytes)
  | (manifest, .ok report) => some (reportPath manifest (some folder), report.bytes)
  | (_, .error _) => none

-- The files of the reports that were made, in order.
def files (folder : String) (results : List BatchResult) : List (String × Bytes) :=
  results.filterMap (file? folder)

variable {folder manifest : String} {results : List BatchResult} {report : Report Float32}
  {failure : Failure}

end BatchResult

namespace Session

open BatchResult

variable {s : Session (StateM σ)} {l : LayoutArguments} {folder : String} {manifests : List String}
  {a : Assembler (StateM σ) Float32} {request : String → Request (StateM σ)}
  {results : List BatchResult} {w w' w₁ : σ}

theorem exists_last {m : String} {r : Report Float32} (h : (m, .ok r) ∈ results) :
    ∃ before m' r' after, results = before ++ (m', .ok r') :: after ∧ Path.stem m' = Path.stem m ∧
      ∀ m'' r'', (m'', .ok r'') ∈ after → Path.stem m'' ≠ Path.stem m' := by
  induction results generalizing m r with
  | nil => cases h
  | cons result results ih =>
    by_cases hlater : ∃ m' r', (m', .ok r') ∈ results ∧ Path.stem m' = Path.stem m
    · obtain ⟨m', r', hmem, hstem⟩ := hlater
      obtain ⟨before, m'', r'', after, rfl, hstem', hlast⟩ := ih hmem
      exact ⟨result :: before, m'', r'', after, rfl, hstem'.trans hstem, hlast⟩
    · have hnone : ∀ m' r', (m', .ok r') ∈ results → Path.stem m' ≠ Path.stem m :=
        fun m' r' hmem hstem => hlater ⟨m', r', hmem, hstem⟩
      cases h with
      | head => exact ⟨[], m, r, results, rfl, rfl, hnone⟩
      | tail _ h => exact absurd rfl (hnone m r h)

end Session
end AccessReport

import AccessReport.Bytes

/-!
Rows of samples that are given as differences from their neighbours: the sample before, the sample
above, their mean, or the one of three neighbours that is nearest to what the others predict.
-/

namespace AccessReport

inductive RowFilter where
  | plain
  | before
  | above
  | mean
  | nearest
deriving DecidableEq, Repr

namespace RowFilter

def ofByte? (b : UInt8) : Option RowFilter :=
  match b with
  | 0 => some plain
  | 1 => some before
  | 2 => some above
  | 3 => some mean
  | 4 => some nearest
  | _ => none

-- The neighbour nearest to `before + above - corner`, of equal ones the first.
def predict (before above corner : Nat) : Nat :=
  let p : Int := before + above - corner
  let a := (p - before).natAbs
  let b := (p - above).natAbs
  let c := (p - corner).natAbs
  if a ≤ b && a ≤ c then before else if b ≤ c then above else corner

def expected (f : RowFilter) (before above corner : UInt8) : UInt8 :=
  match f with
  | .plain => 0
  | .before => before
  | .above => above
  | .mean => UInt8.ofNat ((before.toNat + above.toNat) / 2)
  | .nearest => UInt8.ofNat (predict before.toNat above.toNat corner.toNat)

-- Restores a row; `lefts` and `corners` hold the samples before it in this row and in the row
-- above, as many as lie between a sample and the one it belongs together with, oldest first.
def restoreFrom (f : RowFilter) : (lefts corners up row : Bytes) → Bytes
  | _, _, _, [] => []
  | lefts, corners, up, x :: row =>
    let y := x + f.expected (lefts.headD 0) (up.headD 0) (corners.headD 0)
    y :: restoreFrom f (lefts.drop 1 ++ [y]) (corners.drop 1 ++ [up.headD 0]) up.tail row

-- Restores a row of samples of `step` bytes with the restored row above it.
def restore (f : RowFilter) (step : Nat) (up row : Bytes) : Bytes :=
  f.restoreFrom (List.replicate step 0) (List.replicate step 0) up row

end RowFilter
end AccessReport

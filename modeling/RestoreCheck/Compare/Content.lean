import RestoreCheck.Compare.View

/-!
# Comparing contents

Two files are read side by side: for each chunk that the left file delivers, as many bytes are taken
from the right one.  A comparison ends with the first chunk that differs, with the end of the left
file, where the right one has to end too, or with the first fault.
-/

namespace RestoreCheck

/-- Whether two contents agree. -/
inductive ContentVerdict where
  | same
  | different
  /-- the comparison was not finished -/
  | failed (cause : Fault)
deriving DecidableEq

/-- Compares chunks that end as `leftEnd` says with bytes that end as `rightEnd` says. -/
def compareChunks (leftEnd rightEnd : Option Fault) : List Bytes → Bytes → ContentVerdict
  | [], right =>
    match leftEnd, right, rightEnd with
    | some cause, _, _ => .failed cause
    | none, [], none => .same
    | none, [], some cause => .failed cause
    | none, _ :: _, _ => .different
  | chunk :: chunks, right =>
    let taken := right.take chunk.length
    if taken.length < chunk.length then .failed (rightEnd.getD .earlyEnd)
    else if taken = chunk then
      compareChunks leftEnd rightEnd chunks (right.drop chunk.length)
    else .different

/-- Compares two contents, read chunk by chunk. -/
def compareStreams (left right : Stream) : ContentVerdict :=
  compareChunks left.failure right.failure left.chunks right.bytes

/-- **The verdict on two regular files.**  Files of different stated lengths are not read. -/
def compareFiles (v : View) (left right : Path) (leftLength rightLength : Nat) : ContentVerdict :=
  if leftLength ≠ rightLength then .different
  else
    match v.content left, v.content right with
    | .error cause, _ => .failed cause
    | .ok _, .error cause => .failed cause
    | .ok a, .ok b => compareStreams a b

end RestoreCheck

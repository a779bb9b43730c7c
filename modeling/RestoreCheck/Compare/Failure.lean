import RestoreCheck.Entry.Attributes
import RestoreCheck.Fault
import RestoreCheck.Path

/-!
# Why two trees differ

A comparison ends with the first difference that it meets, or with the first thing that it cannot
read.
-/

namespace RestoreCheck

/-- The first difference between two trees. -/
inductive Failure where
  /-- two directories do not hold the same names and contents -/
  | structural (left right : Path) (leftOnly rightOnly different funny : List Bytes)
  /-- two entries of one name have different attributes -/
  | attributes (leftPath rightPath : Path) (left right : Attributes)
  /-- a directory cannot be listed, or an entry cannot be inspected -/
  | unreadable (path : Path) (cause : Fault)
deriving DecidableEq

namespace Failure

/-- **The text of a failure.** -/
def message : Failure → String
  | structural left right leftOnly rightOnly different funny =>
    Text.lossy left ++ " and " ++ Text.lossy right ++ " differ: left only "
      ++ Text.quotedList leftOnly ++ ", right only " ++ Text.quotedList rightOnly
      ++ ", differing " ++ Text.quotedList different ++ ", funny " ++ Text.quotedList funny
  | attributes leftPath rightPath left right =>
    "attributes of " ++ Text.lossy leftPath ++ " and " ++ Text.lossy rightPath
      ++ " differ\n  left:  " ++ left.text ++ "\n  right: " ++ right.text
  | unreadable path cause => "cannot read " ++ Text.lossy path ++ ": " ++ cause.message

/-- The text with which an assertion of equality fails. -/
def assertionText (f : Failure) : String :=
  "directory trees differ: " ++ f.message

end Failure

end RestoreCheck

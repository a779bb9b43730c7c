import RestoreCheck.Entry.Meta
import RestoreCheck.Files.Stream
import RestoreCheck.Path

/-!
# What a comparison sees of the files

`View` is the part of a file system that a comparison asks for: directories are listed, entries are
described, links are followed to what they lead to, and files are read.  A view answers every
question, with a value or a fault, and always the same; nothing more is assumed than that no
directory can be listed through a path of `Path.limit` bytes or more.
-/

namespace RestoreCheck

/-- What a path leads to after all links are followed. -/
inductive Target where
  /-- a directory -/
  | directory
  /-- a regular file of some stated length, which need not be what reading it delivers -/
  | file (length : Nat)
  /-- anything else -/
  | special
deriving DecidableEq

/-- What a comparison can ask about the files. -/
structure View where
  /-- the names in a directory, in any order -/
  list : Path → Except Fault (List Name)
  /-- the status of an entry, links not followed -/
  status : Path → Except Fault Meta
  /-- what a path leads to -/
  target : Path → Except Fault Target
  /-- the content that a path leads to -/
  content : Path → Except Fault Stream
  /-- only a short path leads to a directory -/
  length_lt_of_list : ∀ {p : Path} {names : List Name}, list p = .ok names → p.length < Path.limit

/-- Whether a path is a directory itself, and not a link to one. -/
def View.isDirectory (v : View) (p : Path) : Bool :=
  match v.status p with
  | .ok m => m.isDirectory
  | .error _ => false

end RestoreCheck

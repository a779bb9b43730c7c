import RestoreCheck.Scope.Scratch

/-!
# Scratch places held by number

A shelf opens scratch places, each a fresh one, and holds them by number.  Opening one under a
number that is in use closes the earlier place.
-/

namespace RestoreCheck

/-- The scratch places that are held, with the files they are in. -/
structure Shelf where
  /-- the directory for temporary files -/
  temp : Path
  /-- the files -/
  files : FileSystem
  /-- how many places were opened -/
  count : Nat
  /-- the place last opened under a number -/
  last : Register Nat
  /-- the places that are open -/
  opened : Register (Guard FileSystem Nat)

namespace Shelf

/-- A shelf without places. -/
def start (temp : Path) (files : FileSystem) : Shelf := ⟨temp, files, 0, .empty, .empty⟩

variable (s : Shelf) (id : Int)

/-- **Opens a place under a number.** -/
def acquire : Shelf :=
  match Scratch.acquire s.temp s.count s.files with
  | (.error _, files) => { s with files }
  | (.ok g, files) =>
    let (opened, files) := s.opened.hold Guard.drop id g files
    { s with files, opened, count := s.count + 1, last := s.last.put id s.count }

/-- **Closes the place of a number**, if one is open. -/
def release : Shelf :=
  let (opened, files) := s.opened.closeAt Guard.drop id s.files
  { s with files, opened }

/-- Changes the files.  A change that fails leaves them as they are. -/
def change (f : FileSystem → Except Fault FileSystem) : Shelf :=
  { s with files := (f s.files).toOption.getD s.files }

/-- The place last opened under a number. -/
def place : Nat := (s.last.get? id).getD s.count

/-- The directory of the place of a number. -/
def directory : Path := Scratch.directory s.temp (s.place id)

/-- The path of the place of a number. -/
def path : Path := Scratch.path s.temp (s.place id)

/-- How many places the numbers have between them. -/
def distinct : Nat := (s.last.entries.map Prod.snd).eraseDups.length

end Shelf

end RestoreCheck

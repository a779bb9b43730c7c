import RestoreCheck.Files.Host
import RestoreCheck.Program.Machine

/-!
# A machine with a directory of programs

`Machine.standard` is the standard host with an empty directory of programs, the one that is
searched.  `install` puts stubs there, and `litter` adds what looks like programs but cannot be run.
-/

namespace RestoreCheck.Machine

/-- The directory of programs. -/
def toolDirectory : Path := Host.workDirectory.join (.ofString "bin")

/-- **The standard host with an empty directory of programs.** -/
def standard : Machine where
  searchDirectory := toolDirectory
  stubs := []
  runs := []
  intermediate := .parted
  files := (Host.standard.makeDirectory toolDirectory).toOption.getD Host.standard

variable (m : Machine)

/-- Adds an entry to the directory of programs, if its name is free. -/
def place (name : Bytes) (kind : NodeKind) (permissions : UInt32) : Machine :=
  let made := m.files.make (m.searchDirectory ++ slash :: name) kind permissions
  { m with files := made.toOption.getD m.files }

/-- Adds a program.  One that has the name already gets the new behaviour. -/
def install (name : Bytes) (stub : Stub) : Machine :=
  let m := m.place name (.file 0 (.ok [])) 0o755
  match m.files.locate .target (m.searchDirectory ++ slash :: name) with
  | .ok l => { m with stubs := (l, stub) :: m.stubs.filter fun e => e.1 ≠ l }
  | .error _ => m

/-- Adds three entries that cannot be run: a file without permission, one that is no program, and a
directory. -/
def litter : Machine :=
  m.place (.ofString "noexec") (.file 0 (.ok [])) 0o644
    |>.place (.ofString "garbage") (.file 0 (.ok [])) 0o755
    |>.place (.ofString "dir") .directory 0o755

end RestoreCheck.Machine

import RestoreCheck.Files.Write
import RestoreCheck.Program.CommandLine

/-!
# Programs on a machine

A machine is a file system in which some files are programs.  A program is found by its path, or by
its name in the directory that is searched.  Those that can be run are stubs: each run is recorded,
may mark a mountpoint as mounted, writes a complaint and ends in a set way.  A detached command is
started by a process of its own, and the machine says what becomes of that one (`Intermediate`).
-/

namespace RestoreCheck

/-- What a stub does. -/
structure Stub where
  /-- how it ends -/
  status : Status
  /-- what it writes about errors -/
  complaint : Bytes
  /-- whether it marks the mountpoint among its arguments -/
  marks : Bool

/-- What becomes of the process that is to start a detached command. -/
inductive Intermediate where
  /-- it leaves the session, starts the command and ends -/
  | parted
  /-- it cannot be started itself -/
  | unstarted (cause : Errno)
  /-- it cannot leave the session, or cannot start the command, and ends with the code one -/
  | stuck (process : Nat)
  /-- a signal ends it, before it starts the command or after that -/
  | killed (process signal : Nat) (dumped startsCommand : Bool)
  /-- nobody can learn how it ends -/
  | unawaited (cause : Errno) (startsCommand : Bool)
deriving DecidableEq

/-- Whether the command is started after all. -/
def Intermediate.startsCommand : Intermediate → Bool
  | parted => true
  | unstarted _ | stuck _ => false
  | killed _ _ _ startsCommand | unawaited _ startsCommand => startsCommand

/-- Programs that run and end, whatever files there are. -/
structure Programs where
  /-- the directory in which programs are searched by name -/
  searchDirectory : Path
  /-- what the stubs do, by the place of their file -/
  stubs : List (Location × Stub)
  /-- the runs so far: the name of the program's file, then its arguments -/
  runs : List (List Bytes)
  /-- what becomes of the process that is to start a detached command -/
  intermediate : Intermediate

/-- Programs with the files around them. -/
structure Machine extends Programs where
  /-- the files -/
  files : FileSystem

namespace Machine

variable (m : Machine)

/-- The longest string that a program can be started with. -/
def argumentLimit : Nat := 131071

/-- The room that all the strings of a program have: a quarter of a stack of eight mebibytes. -/
def argumentRoom : Nat := 2097152

/-- The room that one string takes: the byte after its end and a reference to it count. -/
def argumentSize (s : Bytes) : Nat := s.length + 9

/-- The room that strings take. -/
def argumentSizes (strings : List Bytes) : Nat :=
  strings.foldl (fun room s => room + argumentSize s) 0

/-- Whether a program can be started with strings, the path of its file apart. -/
def fits (strings : List Bytes) : Bool :=
  strings.all (fun s => s.length ≤ argumentLimit) && argumentSizes strings ≤ argumentRoom

/-- The program at a path, to be started with some strings.  It has to be a regular file with the
permission to run it.  What the file holds is looked at last. -/
def programAt (strings : List Bytes) (p : Path) : Except Errno (Location × Stub) :=
  match m.files.lookup .target p with
  | .error (.system e) => .error e
  | .error _ => .error .noEntry
  | .ok (l, n) =>
    match n.kind with
    | .file _ _ =>
      if !n.grants .search then .error .denied
      else if !fits strings then .error .argumentsTooLong
      else
        match m.stubs.find? fun e => e.1 = l with
        | some e => .ok e
        | none => .error .noProgram
    | _ => .error .denied

/-- The program of a name.  One with a slash is a path; any other is searched for. -/
def findProgram (strings : List Bytes) (name : Bytes) : Except Errno (Location × Stub) :=
  if slash ∈ name then m.programAt strings name
  else if name = [] then .error .noEntry
  else
    match m.programAt strings (m.searchDirectory.join name) with
    | .error e => .error (if e = .notDirectory then .noEntry else e)
    | .ok program => .ok program

/-- The word after which a mountpoint stands. -/
def mountWord : Bytes := .ofString "mount"

/-- The name of the file that marks a directory as mounted. -/
def markerName : Bytes := .ofString ".mounted"

/-- The file that marks a directory as mounted. -/
def marker (mountpoint : Path) : Path :=
  mountpoint.join markerName

/-- The mountpoint among the arguments of a program. -/
def mountpointIn (arguments : List Bytes) : Option Path :=
  (arguments.dropWhile (· ≠ mountWord)).tail.head?

/-- Marks the mountpoint among the arguments of a program, if it can be marked. -/
def mark (arguments : List Bytes) (fs : FileSystem) : FileSystem :=
  match mountpointIn arguments with
  | some mountpoint =>
    (fs.createFile (mountpoint ++ slash :: markerName)).toOption.getD fs
  | none => fs

/-- The name of the file of a program. -/
def fileName (l : Location) : Bytes :=
  (l.head?.map Name.bytes).getD []

/-- Lets a stub run. -/
def runStub (program : Location × Stub) (arguments : List Bytes) : Machine :=
  { m with
    files := if program.2.marks then mark arguments m.files else m.files
    runs := m.runs ++ [fileName program.1 :: arguments] }

/-- Starts a program and lets it run to its end.  The strings hold no zero byte. -/
def run (i : CommandLine) : Except Errno Stub × Machine :=
  match m.findProgram i.argv i.program with
  | .error e => (.error e, m)
  | .ok program => (.ok program.2, m.runStub program i.arguments)

/-- Starts a prepared command and lets it run to its end, unless a string had to be replaced. -/
def start (i : CommandLine) : Except Fault Stub × Machine :=
  if i.holdsZero then (.error .zeroInArgument, m)
  else
    match m.run i.prepared with
    | (.error e, m) => (.error (.system e), m)
    | (.ok stub, m) => (.ok stub, m)

end Machine

end RestoreCheck

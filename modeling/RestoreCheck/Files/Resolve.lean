import RestoreCheck.Fault
import RestoreCheck.Files.FileSystem

/-!
# Where a path leads

`FileSystem.walk` follows the steps of a path from a location.  Every step needs a directory that
may be searched.  A symbolic link on the way is replaced by the steps of its target; at most forty
are replaced, so that links in a circle end in a fault.  A last name that does not exist is no fault
yet: it is where something new can be made.  What is meant by the last name is a `Goal`.

Following a link reads it, so a walk also tells which links it passed.
-/

namespace RestoreCheck

/-- What a path is followed for. -/
inductive Goal where
  /-- the place where its last name stands or would stand, whatever slash comes after the name -/
  | name
  /-- the entry of that name, even if it is a symbolic link -/
  | entry
  /-- what the entry leads to -/
  | target
  /-- the same, and a file is made if nothing is there: no slash may come after the last name -/
  | file
deriving DecidableEq

namespace Goal

/-- Whether a symbolic link in the last place is followed. -/
def follows : Goal → Bool
  | name | entry => false
  | target | file => true

/-- The steps of a path that count for a goal. -/
def steps (p : Path) : Goal → List Path.Step
  | name => p.namedSteps
  | _ => p.steps

end Goal

/-- Where a path leads. -/
inductive Found where
  /-- to something that exists -/
  | existing (location : Location)
  /-- to a name that does not exist in a directory that does -/
  | missing (directory : Location) (name : Name)
deriving DecidableEq

/-- How a walk went. -/
structure Walked where
  /-- where it led -/
  found : Except Errno Found
  /-- the symbolic links that it followed, in order -/
  passed : List Location

namespace Walked

/-- A walk that leads somewhere without following a link. -/
def arrived (f : Found) : Walked := ⟨.ok f, []⟩

/-- A walk that ends in a fault. -/
def stopped (e : Errno) : Walked := ⟨.error e, []⟩

/-- A walk after a link was followed. -/
def after (link : Location) (w : Walked) : Walked :=
  { w with passed := link :: w.passed }

end Walked

namespace FileSystem

/-- How many symbolic links are followed on the way along one path. -/
def linkLimit : Nat := 40

/-- The longest name, in bytes. -/
def nameLimit : Nat := 255

variable (fs : FileSystem)

/-- Whether the entries of a location can be reached. -/
def enterable (l : Location) : Except Errno Unit :=
  match fs.node? l with
  | none => .error .noEntry
  | some n =>
    if !n.isDirectory then .error .notDirectory
    else if !n.grants .search then .error .denied
    else .ok ()

/-- Where a walk along a link's target starts. -/
def linkStart (l : Location) (target : Path) : Location :=
  if target.isAbsolute then [] else l

/-- **Follows steps from a location.**  `links` more symbolic links may be followed. -/
def walk (links : Nat) (goal : Goal) (l : Location) (steps : List Path.Step) : Walked :=
  match steps with
  | [] => .arrived (.existing l)
  -- A slash after the last name asks for a directory but searches nothing.
  | .directory :: rest =>
    if fs.isDirectoryAt l then walk links goal l rest else .stopped .notDirectory
  | .stay :: rest =>
    match fs.enterable l with
    | .error e => .stopped e
    | .ok () => walk links goal l rest
  | .up :: rest =>
    match fs.enterable l with
    | .error e => .stopped e
    | .ok () => walk links goal l.tail rest
  | .enter n :: rest =>
    match fs.enterable l with
    | .error e => .stopped e
    | .ok () =>
      -- The slash may have come with the target of a link just as well.
      if goal = .file ∧ rest = [.directory] then .stopped .isDirectory
      else if nameLimit < n.bytes.length then .stopped .nameTooLong
      else
        -- A name that is missing is a place for something new only at the very end of the path.
        match fs.node? (n :: l) with
        | none => if rest = [] then .arrived (.missing l n) else .stopped .noEntry
        | some node =>
          match node.kind with
          | .symlink target =>
            if rest = [] ∧ goal.follows = false then .arrived (.existing (n :: l))
            else
              -- The target is walked instead of the link, before whatever follows it.
              match links with
              | 0 => .stopped .linkLoop
              | links + 1 =>
                (walk links goal (linkStart l target) (target.steps ++ rest)).after (n :: l)
          | _ => walk links goal (n :: l) rest
termination_by (links, steps.length)

/-- The location that a path starts from. -/
def start (p : Path) : Except Errno Location :=
  if p.isAbsolute then .ok []
  else
    match fs.cwd with
    | some l => .ok l
    | none => .error .noEntry

/-- Faults that a path has by itself. -/
def checkPath (p : Path) : Except Fault Unit :=
  if 0 ∈ p then .error .zeroInName
  else if p = [] then .error (.system .noEntry)
  else if Path.limit ≤ p.length then .error (.system .nameTooLong)
  else .ok ()

/-- A system error as a fault. -/
def reported {α : Type} (r : Except Errno α) : Except Fault α :=
  match r with
  | .ok a => .ok a
  | .error e => .error (.system e)

/-- The walk along a path, if it can begin at all. -/
def follow (goal : Goal) (p : Path) : Except Fault Walked :=
  match checkPath p with
  | .error f => .error f
  | .ok () => reported ((fs.start p).map fun l => fs.walk linkLimit goal l (goal.steps p))

/-- **Where a path leads.** -/
def find (goal : Goal) (p : Path) : Except Fault Found :=
  match fs.follow goal p with
  | .error f => .error f
  | .ok w => reported w.found

/-- The directory in which the last name of a path stands or would stand. -/
def directoryOf (p : Path) : Except Fault Location :=
  match checkPath p with
  | .error f => .error f
  | .ok () =>
    reported do
      let l ← fs.start p
      match ← (fs.walk linkLimit .target l p.namedSteps.dropLast).found with
      | .existing l => (fs.enterable l).map fun _ => l
      | .missing _ _ => .error .noEntry

/-- What stands under a name in a directory. -/
def findIn (directory : Location) (n : Name) : Except Errno Found :=
  (fs.walk 0 .name directory [.enter n]).found

/-- The symbolic links that are followed along a path, also if it leads nowhere. -/
def passed (goal : Goal) (p : Path) : List Location :=
  match fs.follow goal p with
  | .error _ => []
  | .ok w => w.passed

/-- The location that a path leads to. -/
def locate (goal : Goal) (p : Path) : Except Fault Location :=
  match fs.find goal p with
  | .error f => .error f
  | .ok (.existing l) => .ok l
  | .ok (.missing _ _) => .error (.system .noEntry)

/-- The node that a path leads to, and where it stands. -/
def lookup (goal : Goal) (p : Path) : Except Fault (Location × Node) :=
  match fs.locate goal p with
  | .error f => .error f
  | .ok l =>
    match fs.node? l with
    | some n => .ok (l, n)
    | none => .error (.system .noEntry)

end FileSystem

end RestoreCheck

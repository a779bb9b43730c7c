import RestoreCheck.Bytes.Sorted

/-!
# Paths

A path is a byte string whose parts are separated by slashes.  A part is a `Name`: it is not empty
and holds no slash.  `Path.join` puts a relative path under another one, and a path that is joined
with a name grows (`length_lt_length_join`), which bounds every descent into a tree.

Two paths name the same route if their `components` agree: repeated slashes, slashes at the end and
single dots inside do not matter.  `Path.steps` is the route itself, as it is walked.
-/

namespace RestoreCheck

/-- A path. -/
abbrev Path := Bytes

/-- The byte that separates the parts of a path. -/
def slash : UInt8 := 0x2F

/-- A file name. -/
structure Name where
  /-- its bytes -/
  bytes : Bytes
  /-- it is not empty -/
  bytes_ne_nil : bytes ≠ []
  /-- it has no slash in it -/
  slash_notMem : slash ∉ bytes
deriving DecidableEq

namespace Name

theorem ext {a b : Name} (h : a.bytes = b.bytes) : a = b := by
  cases a; cases b; cases h; rfl

/-- The name of the directory itself, a single dot. -/
def dot : Name := ⟨[0x2E], by decide, by decide⟩

/-- The name of the directory above, two dots. -/
def dotDot : Name := ⟨[0x2E, 0x2E], by decide, by decide⟩

/-- A byte string as a name, if it is one. -/
def ofBytes? (s : Bytes) : Option Name :=
  if h : s ≠ [] ∧ slash ∉ s then some ⟨s, h.1, h.2⟩ else none

/-- The names of a list in byte order, each once. -/
def ascending (names : List Name) : List Name :=
  Sorted.ofList Name.bytes names

@[simp] theorem mem_ascending {n : Name} {names : List Name} : n ∈ ascending names ↔ n ∈ names :=
  Sorted.mem_ofList fun _ _ => ext

end Name

namespace Path

/-- The length from which on a path is too long for the system. -/
def limit : Nat := 4096

/-- Whether a path starts at the root. -/
def isAbsolute (p : Path) : Bool :=
  p.head? = some slash

/-- **The path `q` under `p`.**  An absolute `q` stands for itself. -/
def join (p q : Path) : Path :=
  if isAbsolute q then q
  else if p = [] ∨ p.getLast? = some slash then p ++ q
  else p ++ slash :: q

/-- A path joined with a name is longer than before. -/
theorem length_lt_length_join (p : Path) (n : Name) : p.length < (join p n.bytes).length := by
  have hn : 0 < n.bytes.length := List.length_pos_iff.2 n.bytes_ne_nil
  have hr : isAbsolute n.bytes = false := by
    cases hb : n.bytes with
    | nil => rfl
    | cons b bs =>
      have : b ≠ slash := fun e => n.slash_notMem (by rw [hb, e]; exact List.mem_cons_self)
      simp [isAbsolute, this]
  simp only [join, hr]
  split
  · contradiction
  · split
    · rw [List.length_append]
      omega
    · rw [List.length_append, List.length_cons]
      omega

/-! ### Parts -/

/-- The names between the slashes of a path. -/
def parts : Path → List Name
  | [] => []
  | b :: rest =>
    if h : b = slash then parts rest
    else
      ⟨b :: rest.takeWhile (· ≠ slash), by simp, fun hm => by
        rcases List.mem_cons.1 hm with e | hm
        · exact h e.symm
        · simpa using List.all_eq_true.1 List.all_takeWhile _ hm⟩
      :: parts (rest.dropWhile (· ≠ slash))
termination_by p => p.length
decreasing_by
  · simp
  · have := (List.dropWhile_suffix (l := rest) (· ≠ slash)).length_le
    simp only [List.length_cons] at this ⊢
    omega

/-- What a path names as a route: where it starts, and its names without the single dots that
change nothing.  A dot at the very start of a relative path is kept. -/
def components (p : Path) : Bool × List Name :=
  match isAbsolute p, parts p with
  | true, names => (true, names.filter (· ≠ .dot))
  | false, [] => (false, [])
  | false, first :: names => (false, first :: names.filter (· ≠ .dot))

/-- Whether two paths name the same route. -/
def same (p q : Path) : Bool :=
  components p = components q

/-! ### Steps -/

/-- One step on the way along a path. -/
inductive Step where
  /-- into the entry of this name -/
  | enter (name : Name)
  /-- stay, by a single dot -/
  | stay
  /-- to the directory above, by two dots -/
  | up
  /-- no move, but only a directory will do: the path ends with a slash -/
  | directory
deriving DecidableEq

/-- The step that a name in a path stands for. -/
def Step.ofName (n : Name) : Step :=
  if n = .dot then .stay else if n = .dotDot then .up else .enter n

/-- Whether a path has a slash after its last name. -/
def endsInSlash (p : Path) : Bool :=
  p.getLast? = some slash && (parts p ≠ [])

/-- The steps of a path but for a slash at its end. -/
def namedSteps (p : Path) : List Step :=
  (parts p).map Step.ofName

/-- **The steps of a path.** -/
def steps (p : Path) : List Step :=
  namedSteps p ++ if endsInSlash p then [.directory] else []

end Path

end RestoreCheck

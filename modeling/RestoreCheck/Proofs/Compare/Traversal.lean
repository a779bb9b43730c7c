import RestoreCheck.Proofs.Compare.Attributes
import RestoreCheck.Proofs.Compare.Level

/-!
# The exhaustive traversal of two trees

`World.traversal` lists everything that could be done to compare two trees that stand still, and
does not stop at a failure: both directories are listed, their level is judged, the entries of each
common name are described, inspected and compared, and then the pairs of directories of the level
are traversed in the same way.  Where something cannot be read, only what would need it is left out.

`Event.outcome` is the first failure among events, and `Event.asked` the questions to the inspector
up to that failure.
-/

namespace RestoreCheck

/-- The fault of an operation, if it failed. -/
def faultOf? {α : Type} : Except Fault α → Option Fault
  | .ok _ => none
  | .error cause => some cause

theorem map_faultOf?_eq_none_iff {α β : Type} {r : Except Fault α} {f : Fault → β} :
    (faultOf? r).map f = none ↔ ∃ a, r = .ok a := by
  cases r <;> simp [faultOf?]

theorem Agree.faultOf?_eq {α : Type} {r : α → α → Prop} {x y : Except Fault α}
    (h : Agree r x y) : faultOf? x = faultOf? y := by
  cases h with
  | fault cause => rfl
  | value related => rfl

/-- An event of a traversal. -/
inductive Event where
  /-- a directory is listed -/
  | listing (path : Path) (fault : Option Fault)
  /-- the contents of two directories are judged -/
  | level (left right : Path) (found : Level)
  /-- the status of an entry is read -/
  | status (path : Path) (fault : Option Fault)
  /-- the inspector is asked for flags -/
  | flags (path : Path)
  /-- the inspector is asked for extended attributes -/
  | xattrs (path : Path) (fault : Option Fault)
  /-- the vectors of two entries are compared -/
  | vectors (leftPath rightPath : Path) (left right : Attributes)

namespace Event

/-- **The failure of an event**, if it is one. -/
def failure? : Event → Option Failure
  | listing path fault => fault.map (.unreadable path)
  | level left right found => if found.agrees then none else some (found.failure left right)
  | status path fault => fault.map (.unreadable path)
  | flags _ => none
  | xattrs path fault => fault.map (.unreadable path)
  | vectors leftPath rightPath left right =>
    if left = right then none else some (.attributes leftPath rightPath left right)

theorem failure?_vectors_eq_none_iff {a b : Path} {u v : Attributes} :
    (vectors a b u v).failure? = none ↔ u = v := by
  show (if u = v then none else some (Failure.attributes a b u v)) = none ↔ u = v
  by_cases h : u = v
  · rw [if_pos h]
    exact iff_of_true rfl h
  · rw [if_neg h]
    exact iff_of_false nofun h

theorem failure?_level_eq_none_iff {left right : Path} {found : Level} :
    (level left right found).failure? = none ↔ found.agrees = true := by
  show (if found.agrees = true then none else some (found.failure left right)) = none ↔ _
  cases found.agrees with
  | true => exact iff_of_true rfl rfl
  | false => exact iff_of_false nofun nofun

theorem failure?_level_of_agrees_eq_false {left right : Path} {found : Level}
    (h : found.agrees = false) :
    (level left right found).failure? = some (found.failure left right) := by
  show (if found.agrees = true then none else some (found.failure left right)) = _
  rw [h]
  rfl

/-- **The question to the inspector** in an event, if it asks one. -/
def query? : Event → Option Query
  | flags path => some (.flags path)
  | xattrs path _ => some (.xattrs path)
  | _ => none

/-- Whether an event is the reading of a status. -/
def isStatus : Event → Bool
  | status _ _ => true
  | _ => false

/-! ### Stopping at the first failure -/

/-- **How events end**: with the first failure, or well if none fails. -/
def outcome (events : List Event) : Except Failure Unit :=
  match events.findSome? failure? with
  | some failure => .error failure
  | none => .ok ()

/-- The events up to the first that fails, which is the last of them. -/
def upToFailure : List Event → List Event
  | [] => []
  | e :: events => if e.failure?.isSome then [e] else e :: upToFailure events

/-- **The questions asked** in events up to the first failure. -/
def asked (events : List Event) : List Query :=
  (upToFailure events).filterMap query?

theorem outcome_cons_of_none {e : Event} {events : List Event} (h : e.failure? = none) :
    outcome (e :: events) = outcome events := by
  unfold outcome
  rw [List.findSome?_cons, h]

theorem outcome_cons_of_some {e : Event} {events : List Event} {failure : Failure}
    (h : e.failure? = some failure) : outcome (e :: events) = .error failure := by
  unfold outcome
  rw [List.findSome?_cons, h]

/-- Events that end well are followed by the next ones. -/
theorem outcome_append_of_ok {xs ys : List Event} (h : outcome xs = .ok ()) :
    outcome (xs ++ ys) = outcome ys := by
  induction xs with
  | nil => rfl
  | cons e xs ih =>
    rw [List.cons_append]
    cases he : e.failure? with
    | none =>
      rw [outcome_cons_of_none he] at h ⊢
      exact ih h
    | some failure =>
      rw [outcome_cons_of_some he] at h
      cases h

/-- What follows a failure does not matter. -/
theorem outcome_append_of_error {xs ys : List Event} {failure : Failure}
    (h : outcome xs = .error failure) : outcome (xs ++ ys) = .error failure := by
  induction xs with
  | nil => cases h
  | cons e xs ih =>
    rw [List.cons_append]
    cases he : e.failure? with
    | none =>
      rw [outcome_cons_of_none he] at h ⊢
      exact ih h
    | some failure' =>
      rw [outcome_cons_of_some he] at h ⊢
      exact h

theorem outcome_append_congr {xs ys zs : List Event} (h : outcome ys = outcome zs) :
    outcome (xs ++ ys) = outcome (xs ++ zs) := by
  cases hxs : outcome xs with
  | ok u => rw [outcome_append_of_ok hxs, outcome_append_of_ok hxs, h]
  | error failure => rw [outcome_append_of_error hxs, outcome_append_of_error hxs]

theorem upToFailure_append_of_ok {xs ys : List Event} (h : outcome xs = .ok ()) :
    upToFailure (xs ++ ys) = xs ++ upToFailure ys := by
  induction xs with
  | nil => rfl
  | cons e xs ih =>
    cases he : e.failure? with
    | none =>
      rw [outcome_cons_of_none he] at h
      rw [List.cons_append, List.cons_append, upToFailure, he, if_neg (by simp), ih h]
    | some failure =>
      rw [outcome_cons_of_some he] at h
      cases h

theorem upToFailure_append_of_error {xs ys : List Event} {failure : Failure}
    (h : outcome xs = .error failure) : upToFailure (xs ++ ys) = upToFailure xs := by
  induction xs with
  | nil => cases h
  | cons e xs ih =>
    rw [List.cons_append, upToFailure, upToFailure]
    cases he : e.failure? with
    | none =>
      rw [outcome_cons_of_none he] at h
      rw [if_neg (by simp), if_neg (by simp), ih h]
    | some failure' => rw [if_pos (by simp), if_pos (by simp)]

theorem upToFailure_isPrefix_self (events : List Event) : upToFailure events <+: events := by
  induction events with
  | nil => exact List.prefix_rfl
  | cons e events ih =>
    rw [upToFailure]
    by_cases h : e.failure?.isSome = true
    · rw [if_pos h]
      exact ⟨events, rfl⟩
    · rw [if_neg h]
      exact (List.prefix_cons_inj e).2 ih

/-- Nothing that follows a failure is among the events up to the first one. -/
theorem upToFailure_isPrefix_of_failure {e : Event} {failure : Failure}
    (h : e.failure? = some failure) (xs ys : List Event) :
    upToFailure (xs ++ e :: ys) <+: xs ++ [e] := by
  induction xs with
  | nil =>
    rw [List.nil_append, List.nil_append, upToFailure, h]
    exact List.prefix_rfl
  | cons x xs ih =>
    rw [List.cons_append, List.cons_append, upToFailure]
    by_cases hx : x.failure?.isSome = true
    · rw [if_pos hx]
      exact ⟨xs ++ [e], rfl⟩
    · rw [if_neg hx]
      exact (List.prefix_cons_inj x).2 ih

theorem asked_eq_nil {events : List Event} (h : ∀ e ∈ events, e.query? = none) :
    asked events = [] := by
  unfold asked
  rw [List.filterMap_eq_nil_iff]
  intro e he
  exact h e ((upToFailure_isPrefix_self events).subset he)

/-- The questions of events that end well, and then those of the next ones. -/
theorem asked_append_of_ok {xs ys : List Event} (h : outcome xs = .ok ()) :
    asked (xs ++ ys) = asked xs ++ asked ys := by
  have hxs : upToFailure xs = xs := by
    have happend : upToFailure (xs ++ []) = xs ++ upToFailure [] := upToFailure_append_of_ok h
    rw [List.append_nil] at happend
    rw [happend]
    exact List.append_nil xs
  unfold asked
  rw [upToFailure_append_of_ok h, List.filterMap_append, hxs]

theorem asked_append_of_error {xs ys : List Event} {failure : Failure}
    (h : outcome xs = .error failure) : asked (xs ++ ys) = asked xs := by
  unfold asked
  rw [upToFailure_append_of_error h]

/-! ### Leaving events out -/

variable {p : Event → Bool} {events : List Event}

theorem outcome_filter (h : ∀ e ∈ events, p e = false → e.failure? = none) :
    outcome (events.filter p) = outcome events := by
  induction events with
  | nil => rfl
  | cons e events ih =>
    obtain ⟨he, hevents⟩ := List.forall_mem_cons.1 h
    cases hp : p e with
    | false =>
      rw [List.filter_cons_of_neg (by simp [hp]), outcome_cons_of_none (he hp)]
      exact ih hevents
    | true =>
      rw [List.filter_cons_of_pos hp]
      cases hfailure : e.failure? with
      | some failure => rw [outcome_cons_of_some hfailure, outcome_cons_of_some hfailure]
      | none =>
        rw [outcome_cons_of_none hfailure, outcome_cons_of_none hfailure]
        exact ih hevents

theorem asked_filter (h : ∀ e ∈ events, p e = false → e.failure? = none ∧ e.query? = none) :
    asked (events.filter p) = asked events := by
  unfold asked
  induction events with
  | nil => rfl
  | cons e events ih =>
    obtain ⟨he, hevents⟩ := List.forall_mem_cons.1 h
    cases hp : p e with
    | false =>
      obtain ⟨hfailure, hquery⟩ := he hp
      rw [List.filter_cons_of_neg (by simp [hp]), upToFailure, hfailure, if_neg (by simp),
        List.filterMap_cons_none hquery]
      exact ih hevents
    | true =>
      rw [List.filter_cons_of_pos hp, upToFailure, upToFailure]
      by_cases hfailure : e.failure?.isSome = true
      · rw [if_pos hfailure, if_pos hfailure]
      · rw [if_neg hfailure, if_neg hfailure, List.filterMap_cons, List.filterMap_cons,
          ih hevents]

/-! ### Ending well -/

/-- **Events end well** exactly if none of them fails. -/
theorem outcome_eq_ok_iff :
    outcome events = .ok () ↔ ∀ e ∈ events, e.failure? = none := by
  unfold outcome
  rw [← List.findSome?_eq_none_iff]
  cases events.findSome? failure? <;> simp

theorem outcome_cons_eq_ok_iff {e : Event} :
    outcome (e :: events) = .ok () ↔ e.failure? = none ∧ outcome events = .ok () := by
  rw [outcome_eq_ok_iff, outcome_eq_ok_iff, List.forall_mem_cons]

theorem outcome_append_eq_ok_iff {xs ys : List Event} :
    outcome (xs ++ ys) = .ok () ↔ outcome xs = .ok () ∧ outcome ys = .ok () := by
  rw [outcome_eq_ok_iff, outcome_eq_ok_iff, outcome_eq_ok_iff, List.forall_mem_append]

theorem outcome_flatMap_eq_ok_iff {α : Type} {l : List α} {f : α → List Event} :
    outcome (l.flatMap f) = .ok () ↔ ∀ a ∈ l, outcome (f a) = .ok () := by
  simp only [outcome_eq_ok_iff, List.mem_flatMap]
  constructor
  · intro h a ha e he
    exact h e ⟨a, ha, he⟩
  · rintro h e ⟨a, ha, he⟩
    exact h a ha e he

end Event

/-! ### The traversal -/

namespace World

variable (w : World) (o : Options) (k : Capabilities)

/-- The questions about one entry: flags, and then extended attributes. -/
def inspection (path : Path) : List Event :=
  (if o.ignoreFlags then [] else [.flags path]) ++
    if o.ignoreXattrs then [] else [.xattrs path (faultOf? (w.xattrs path))]

/-- The comparison of two vectors, where both could be made. -/
def comparison (leftPath rightPath : Path) : Except Fault Attributes → Except Fault Attributes →
    List Event
  | .ok left, .ok right => [.vectors leftPath rightPath left right]
  | _, _ => []

/-- What is done with two entries of one name whose statuses are known. -/
def pairEvents (name : Bytes) (a b : Path) (m n : Meta) : List Event :=
  let mounted := o.mountedView.applies m n
  w.inspection o a ++ (w.inspection o b ++
    comparison a b ((w.seen a m).attributes o k mounted name)
      ((w.seen b n).attributes o k mounted name))

/-- **What is done with the entries of one name** in two directories. -/
def entryEvents (left right : Path) (n : Name) : List Event :=
  let a := left.join n.bytes
  let b := right.join n.bytes
  .status a (faultOf? (w.view.status a)) :: .status b (faultOf? (w.view.status b)) ::
    match w.view.status a, w.view.status b with
    | .ok m, .ok m' => w.pairEvents o k n.bytes a b m m'
    | _, _ => []

/-- **The exhaustive traversal** of two directories.  It ends because a directory that can be listed
has a short path. -/
def traversal (left right : Path) : List Event :=
  .listing left (faultOf? (w.view.list left)) :: .listing right (faultOf? (w.view.list right)) ::
    match _h : w.view.list left, w.view.list right with
    | .ok leftNames, .ok rightNames =>
      let found := Level.ofNames w.view left right (Name.ascending leftNames)
        (Name.ascending rightNames)
      .level left right found :: (found.common.flatMap (w.entryEvents o k left right) ++
        found.subdirectories.flatMap fun n => traversal (left.join n.bytes) (right.join n.bytes))
    | _, _ => []
termination_by Path.limit - left.length
decreasing_by
  have hleft := w.view.length_lt_of_list _h
  have hjoin := Path.length_lt_length_join left n
  omega

variable {w o k} {left right : Path}

/-- Two directories with a level are judged, and then their entries and subdirectories follow. -/
theorem traversal_of_ok {found : Level} (h : Level.of w.view left right = .ok found) :
    w.traversal o k left right =
      .listing left none :: .listing right none :: .level left right found ::
        (found.common.flatMap (w.entryEvents o k left right) ++
          found.subdirectories.flatMap fun n =>
            w.traversal o k (left.join n.bytes) (right.join n.bytes)) := by
  obtain ⟨leftNames, rightNames, hleft, hright, rfl⟩ := Level.of_eq_ok_iff.1 h
  rw [traversal, hleft, hright]
  rfl

/-- Two directories without a level are listed, and the first that cannot be is the failure. -/
theorem traversal_of_error {failure : Failure} (h : Level.of w.view left right = .error failure) :
    w.traversal o k left right =
        [.listing left (faultOf? (w.view.list left)),
          .listing right (faultOf? (w.view.list right))] ∧
      Event.outcome (w.traversal o k left right) = .error failure := by
  rw [traversal]
  unfold Level.of at h
  cases hleft : w.view.list left with
  | error cause =>
    rw [hleft] at h
    obtain rfl : Failure.unreadable left cause = failure := Except.error.inj h
    exact ⟨rfl, Event.outcome_cons_of_some rfl⟩
  | ok leftNames =>
    cases hright : w.view.list right with
    | error cause =>
      rw [hleft, hright] at h
      obtain rfl : Failure.unreadable right cause = failure := Except.error.inj h
      exact ⟨rfl, rfl⟩
    | ok rightNames =>
      rw [hleft, hright] at h
      cases h

end World

end RestoreCheck

import Mathlib
import RestoreCheck.Proofs.Compare.FirstFailure

/-!
# Comparing two trees the other way round

A comparison looks at its left tree first in everything, and reads the right file by the chunks of
the left one.  Still the comparison of two trees the other way round ends in the mirror image of
what it ends in one way round (`Comparator.run_mirrored`), if every regular file either fails on its
first read or delivers the length that it states.

`Failure.Mirrors` is the relation of the two failures: one place, with what was found on the two
sides exchanged.  Only of two readings that fail on both sides is another one reported.  The proof
goes through the events of both traversals: pieces that end in mirror images do so one after the
other (`World.EndsMirrored.append`), readings of one thing on both sides come in another order
(`World.endsMirrored_readings`), and a level has the same common names, verdicts and subdirectories
either way round (`Level.of_mirror`).
-/

namespace RestoreCheck

/-- The path of a place below a root, given by the names on the way. -/
def Path.below (p : Path) (place : List Name) : Path :=
  place.foldl (fun q n => q.join n.bytes) p

theorem Path.join_below (p : Path) (place : List Name) (n : Name) :
    (p.below place).join n.bytes = p.below (place ++ [n]) := by
  unfold Path.below
  rw [List.foldl_append, List.foldl_cons, List.foldl_nil]

/-! ### Readings -/

/-- What is read of a path, and may be unreadable. -/
inductive Reading where
  | listing
  | status
  | xattrs

/-- Why a reading fails, if it does. -/
def World.fault? (w : World) (r : Reading) (p : Path) : Option Fault :=
  match r with
  | .listing => faultOf? (w.view.list p)
  | .status => faultOf? (w.view.status p)
  | .xattrs => faultOf? (w.xattrs p)

def Reading.event : Reading → Path → Option Fault → Event
  | listing => Event.listing
  | status => Event.status
  | xattrs => Event.xattrs

theorem Reading.failure?_event (r : Reading) (p : Path) (fault : Option Fault) :
    (r.event p fault).failure? = fault.map (.unreadable p) := by
  cases r <;> rfl

/-! ### Mirror images -/

/-- **Two failures are mirror images**, of comparing `left` with `right` and the other way round.
They are of one sort and at one place below the roots. -/
inductive Failure.Mirrors (w : World) (left right : Path) : Failure → Failure → Prop where
  /-- the names on one side only are exchanged -/
  | structural (place : List Name) (leftOnly rightOnly different funny : List Bytes) :
      Mirrors w left right
        (.structural (left.below place) (right.below place) leftOnly rightOnly different funny)
        (.structural (right.below place) (left.below place) rightOnly leftOnly different funny)
  /-- the two vectors are exchanged -/
  | attributes (place : List Name) (u v : Attributes) :
      Mirrors w left right
        (.attributes (left.below place) (right.below place) u v)
        (.attributes (right.below place) (left.below place) v u)
  /-- what can be read on the right only is reported on the left -/
  | onLeft (place : List Name) (r : Reading) {f : Fault}
      (fails : w.fault? r (left.below place) = some f)
      (other : w.fault? r (right.below place) = none) :
      Mirrors w left right (.unreadable (left.below place) f) (.unreadable (left.below place) f)
  /-- what can be read on the left only is reported on the right -/
  | onRight (place : List Name) (r : Reading) {g : Fault}
      (fails : w.fault? r (right.below place) = some g)
      (other : w.fault? r (left.below place) = none) :
      Mirrors w left right (.unreadable (right.below place) g) (.unreadable (right.below place) g)
  /-- what can be read on neither side is reported on the side that is read first -/
  | onBoth (place : List Name) (r : Reading) {f g : Fault}
      (fails_left : w.fault? r (left.below place) = some f)
      (fails_right : w.fault? r (right.below place) = some g) :
      Mirrors w left right (.unreadable (left.below place) f) (.unreadable (right.below place) g)

namespace World

variable {w : World} {o : Options} {k : Capabilities} {left right : Path}

/-- **Two ends are mirror images**: both comparisons end well, or in failures that are. -/
inductive EndsMirrored (w : World) (left right : Path) :
    Except Failure Unit → Except Failure Unit → Prop where
  | well : EndsMirrored w left right (.ok ()) (.ok ())
  | failing {f g : Failure} (failures : f.Mirrors w left right g) :
      EndsMirrored w left right (.error f) (.error g)

namespace EndsMirrored

variable {xs ys xs' ys' : List Event}

theorem append (h : EndsMirrored w left right (Event.outcome xs) (Event.outcome ys))
    (h' : EndsMirrored w left right (Event.outcome xs') (Event.outcome ys')) :
    EndsMirrored w left right (Event.outcome (xs ++ xs')) (Event.outcome (ys ++ ys')) := by
  cases hxs : Event.outcome xs with
  | ok u =>
    cases hys : Event.outcome ys with
    | ok u =>
      rw [Event.outcome_append_of_ok hxs, Event.outcome_append_of_ok hys]
      exact h'
    | error g =>
      rw [hxs, hys] at h
      cases h
  | error f =>
    cases hys : Event.outcome ys with
    | ok u =>
      rw [hxs, hys] at h
      cases h
    | error g =>
      rw [Event.outcome_append_of_error hxs, Event.outcome_append_of_error hys, ← hxs, ← hys]
      exact h

theorem flatMap {α : Type} {l : List α} {f g : α → List Event}
    (h : ∀ a ∈ l, EndsMirrored w left right (Event.outcome (f a)) (Event.outcome (g a))) :
    EndsMirrored w left right (Event.outcome (l.flatMap f)) (Event.outcome (l.flatMap g)) := by
  induction l with
  | nil => exact .well
  | cons a l ih =>
    obtain ⟨ha, hl⟩ := List.forall_mem_cons.1 h
    rw [List.flatMap_cons, List.flatMap_cons]
    exact ha.append (ih hl)

end EndsMirrored

/-- **One reading of both sides**, left first or right first.  What follows matters only if both
readings succeed. -/
theorem endsMirrored_readings (r : Reading) (place : List Name) {xs ys : List Event}
    (h : w.fault? r (left.below place) = none → w.fault? r (right.below place) = none →
      EndsMirrored w left right (Event.outcome xs) (Event.outcome ys)) :
    EndsMirrored w left right
      (Event.outcome (r.event (left.below place) (w.fault? r (left.below place)) ::
        r.event (right.below place) (w.fault? r (right.below place)) :: xs))
      (Event.outcome (r.event (right.below place) (w.fault? r (right.below place)) ::
        r.event (left.below place) (w.fault? r (left.below place)) :: ys)) := by
  have hfailure (p : Path) : (r.event p (w.fault? r p)).failure? =
      (w.fault? r p).map (.unreadable p) := r.failure?_event p (w.fault? r p)
  have hleft := hfailure (left.below place)
  have hright := hfailure (right.below place)
  cases hl : w.fault? r (left.below place) with
  | none =>
    rw [hl] at hleft
    cases hr : w.fault? r (right.below place) with
    | none =>
      rw [hr] at hright
      rw [Event.outcome_cons_of_none hleft, Event.outcome_cons_of_none hright,
        Event.outcome_cons_of_none hright, Event.outcome_cons_of_none hleft]
      exact h hl hr
    | some g =>
      rw [hr] at hright
      rw [Event.outcome_cons_of_none hleft, Event.outcome_cons_of_some hright,
        Event.outcome_cons_of_some hright]
      exact .failing (.onRight place r hr hl)
  | some f =>
    rw [hl] at hleft
    cases hr : w.fault? r (right.below place) with
    | none =>
      rw [hr] at hright
      rw [Event.outcome_cons_of_some hleft, Event.outcome_cons_of_none hright,
        Event.outcome_cons_of_some hleft]
      exact .failing (.onLeft place r hl hr)
    | some g =>
      rw [hr] at hright
      rw [Event.outcome_cons_of_some hleft, Event.outcome_cons_of_some hright]
      exact .failing (.onBoth place r hl hr)

end World

/-! ### Entries -/

theorem ViewRule.applies_comm (rule : ViewRule) (m n : Meta) :
    rule.applies m n = rule.applies n m := by
  cases rule with
  | detect =>
    show decide (m.device ≠ n.device) = decide (n.device ≠ m.device)
    rw [decide_eq_decide]
    exact ne_comm
  | right => rfl
  | never => rfl

namespace World

variable {w : World} {o : Options} {k : Capabilities} {left right : Path} {place : List Name}

/-- Asking for flags does not fail, so of two inspections only the readings of extended attributes
count. -/
theorem outcome_inspections (a b : Path) (xs : List Event) :
    Event.outcome (w.inspection o a ++ (w.inspection o b ++ xs)) =
      Event.outcome (if o.ignoreXattrs then xs else
        Reading.xattrs.event a (w.fault? .xattrs a) ::
          Reading.xattrs.event b (w.fault? .xattrs b) :: xs) := by
  unfold inspection
  cases o.ignoreFlags with
  | true => cases o.ignoreXattrs <;> rfl
  | false =>
    have hflags (p : Path) (ys : List Event) : Event.outcome (.flags p :: ys) = Event.outcome ys :=
      Event.outcome_cons_of_none rfl
    cases o.ignoreXattrs with
    | true =>
      show Event.outcome (.flags a :: .flags b :: xs) = _
      rw [hflags, hflags]
      rfl
    | false =>
      show Event.outcome (.flags a :: ([.xattrs a (faultOf? (w.xattrs a))] ++ .flags b ::
        .xattrs b (faultOf? (w.xattrs b)) :: xs)) = _
      rw [hflags]
      exact Event.outcome_append_congr (hflags b _)

theorem exists_attributes_of_readable {p : Path} {m : Meta} (mounted : Bool) (name : Bytes)
    (h : o.ignoreXattrs = false → w.fault? .xattrs p = none) :
    ∃ v, (w.seen p m).attributes o k mounted name = .ok v := by
  refine (Seen.readable_iff k mounted name).1 fun hignore => ?_
  have hfault : faultOf? (w.xattrs p) = none := h hignore
  show ∃ x, w.xattrs p = .ok x
  cases hx : w.xattrs p with
  | ok x => exact ⟨x, rfl⟩
  | error cause =>
    rw [hx] at hfault
    cases hfault

/-- The vectors of two entries are equal, or not, either way round. -/
theorem endsMirrored_comparison {name : Bytes} {m m' : Meta} {mounted : Bool}
    (hl : o.ignoreXattrs = false → w.fault? .xattrs (left.below place) = none)
    (hr : o.ignoreXattrs = false → w.fault? .xattrs (right.below place) = none) :
    let u := (w.seen (left.below place) m).attributes o k mounted name
    let v := (w.seen (right.below place) m').attributes o k mounted name
    EndsMirrored w left right
      (Event.outcome (comparison (left.below place) (right.below place) u v))
      (Event.outcome (comparison (right.below place) (left.below place) v u)) := by
  obtain ⟨u, hu⟩ := exists_attributes_of_readable (k := k) (m := m) mounted name hl
  obtain ⟨v, hv⟩ := exists_attributes_of_readable (k := k) (m := m') mounted name hr
  dsimp only
  rw [hu, hv, comparison, comparison]
  by_cases huv : u = v
  · rw [Event.outcome_cons_of_none (Event.failure?_vectors_eq_none_iff.2 huv),
      Event.outcome_cons_of_none (Event.failure?_vectors_eq_none_iff.2 huv.symm)]
    exact .well
  · have hone : (Event.vectors (left.below place) (right.below place) u v).failure? =
        some (.attributes (left.below place) (right.below place) u v) := if_neg huv
    have hother : (Event.vectors (right.below place) (left.below place) v u).failure? =
        some (.attributes (right.below place) (left.below place) v u) := if_neg (Ne.symm huv)
    rw [Event.outcome_cons_of_some hone, Event.outcome_cons_of_some hother]
    exact .failing (.attributes place u v)

theorem endsMirrored_pairEvents (name : Bytes) (m m' : Meta) :
    EndsMirrored w left right
      (Event.outcome (w.pairEvents o k name (left.below place) (right.below place) m m'))
      (Event.outcome (w.pairEvents o k name (right.below place) (left.below place) m' m)) := by
  unfold pairEvents
  dsimp only
  rw [o.mountedView.applies_comm m' m, outcome_inspections, outcome_inspections]
  cases hignore : o.ignoreXattrs with
  | true =>
    have hread (p : Path) (h : o.ignoreXattrs = false) : w.fault? .xattrs p = none :=
      absurd (hignore.symm.trans h) nofun
    exact endsMirrored_comparison (hread _) (hread _)
  | false =>
    refine endsMirrored_readings .xattrs place fun hl hr => ?_
    exact endsMirrored_comparison (fun _ => hl) fun _ => hr

/-- **The entries of one name** are compared the same either way round. -/
theorem endsMirrored_entryEvents (n : Name) :
    EndsMirrored w left right
      (Event.outcome (w.entryEvents o k (left.below place) (right.below place) n))
      (Event.outcome (w.entryEvents o k (right.below place) (left.below place) n)) := by
  unfold entryEvents
  rw [Path.join_below, Path.join_below]
  refine endsMirrored_readings .status (place ++ [n]) fun hl hr => ?_
  change faultOf? (w.view.status (left.below (place ++ [n]))) = none at hl
  change faultOf? (w.view.status (right.below (place ++ [n]))) = none at hr
  cases hm : w.view.status (left.below (place ++ [n])) with
  | error f =>
    rw [hm] at hl
    cases hl
  | ok m =>
    cases hm' : w.view.status (right.below (place ++ [n])) with
    | error f =>
      rw [hm'] at hr
      cases hr
    | ok m' => exact endsMirrored_pairEvents n.bytes m m'

end World

/-! ### Levels -/

namespace Level

/-- A level the other way round. -/
def mirror (l : Level) : Level :=
  { l with leftOnly := l.rightOnly, rightOnly := l.leftOnly }

theorem agrees_mirror (l : Level) : l.mirror.agrees = l.agrees := by
  unfold agrees mirror
  rw [Bool.and_comm l.rightOnly.isEmpty]

variable {v : View} {left right : Path}

theorem ofNames_mirror (h : v.DeliversLengths) {leftNames rightNames : List Name}
    (hleft : Sorted.Ascending Name.bytes leftNames)
    (hright : Sorted.Ascending Name.bytes rightNames) :
    ofNames v right left rightNames leftNames =
      (ofNames v left right leftNames rightNames).mirror := by
  have hcommon : rightNames.filter (· ∈ leftNames) = leftNames.filter (· ∈ rightNames) := by
    have hl : Sorted.Ascending Name.bytes (rightNames.filter (· ∈ leftNames)) :=
      List.Pairwise.filter _ hright
    have hr : Sorted.Ascending Name.bytes (leftNames.filter (· ∈ rightNames)) :=
      List.Pairwise.filter _ hleft
    refine hl.eq_of_mem_iff hr fun n => ?_
    rw [List.mem_filter, List.mem_filter, decide_eq_true_eq, decide_eq_true_eq]
    exact and_comm
  have hverdict (n : Name) := entryVerdict_comm h (right.join n.bytes) (left.join n.bytes)
  have hdirectory (n : Name) :
      (v.isDirectory (right.join n.bytes) && v.isDirectory (left.join n.bytes)) =
        (v.isDirectory (left.join n.bytes) && v.isDirectory (right.join n.bytes)) :=
    Bool.and_comm _ _
  unfold ofNames mirror
  simp only [hcommon, hverdict, hdirectory]

/-- **Two directories have one level either way round**, but for its sides. -/
theorem of_mirror (h : v.DeliversLengths) {found : Level}
    (hfound : Level.of v left right = .ok found) : Level.of v right left = .ok found.mirror := by
  obtain ⟨leftNames, rightNames, hleft, hright, rfl⟩ := of_eq_ok_iff.1 hfound
  refine of_eq_ok_iff.2 ⟨rightNames, leftNames, hright, hleft, ?_⟩
  exact (ofNames_mirror h (Sorted.pairwise_ofList leftNames)
    (Sorted.pairwise_ofList rightNames)).symm

end Level

/-! ### Traversals -/

namespace World

variable {w : World} {o : Options} {k : Capabilities} {left right : Path}

/-- What is found at a level is found either way round, and so stops both comparisons or none. -/
theorem endsMirrored_level (place : List Name) (found : Level) :
    EndsMirrored w left right
      (Event.outcome [.level (left.below place) (right.below place) found])
      (Event.outcome [.level (right.below place) (left.below place) found.mirror]) := by
  cases hagrees : found.agrees with
  | true =>
    have hmirror : found.mirror.agrees = true := found.agrees_mirror.trans hagrees
    rw [Event.outcome_cons_of_none (Event.failure?_level_eq_none_iff.2 hagrees),
      Event.outcome_cons_of_none (Event.failure?_level_eq_none_iff.2 hmirror)]
    exact .well
  | false =>
    have hmirror : found.mirror.agrees = false := found.agrees_mirror.trans hagrees
    rw [Event.outcome_cons_of_some (Event.failure?_level_of_agrees_eq_false hagrees),
      Event.outcome_cons_of_some (Event.failure?_level_of_agrees_eq_false hmirror)]
    exact .failing (.structural place _ _ _ _)

/-- **A traversal ends in the mirror image of the other one.**  The induction follows the descent,
from any place below the two roots. -/
theorem endsMirrored_traversal (h : w.view.DeliversLengths) (place : List Name) :
    EndsMirrored w left right
      (Event.outcome (w.traversal o k (left.below place) (right.below place)))
      (Event.outcome (w.traversal o k (right.below place) (left.below place))) := by
  generalize ha : left.below place = a
  generalize hb : right.below place = b
  induction a, b using traversal.induct w generalizing place with
  | case1 a b ih =>
    subst ha hb
    cases hlevel : Level.of w.view (left.below place) (right.below place) with
    | error failure =>
      -- One of the directories cannot be listed, so the other way round there is no level either.
      cases hother : Level.of w.view (right.below place) (left.below place) with
      | error failure' =>
        rw [(traversal_of_error hlevel).1, (traversal_of_error hother).1]
        exact endsMirrored_readings .listing place fun _ _ => .well
      | ok found =>
        rw [Level.of_mirror h hother] at hlevel
        cases hlevel
    | ok found =>
      have hother := Level.of_mirror h hlevel
      obtain ⟨leftNames, rightNames, hleft, -, -⟩ := Level.of_eq_ok_iff.1 hlevel
      have hlisting (p : Path) (xs : List Event) :
          Event.outcome (.listing p none :: xs) = Event.outcome xs :=
        Event.outcome_cons_of_none rfl
      have hentries : EndsMirrored w left right
          (Event.outcome (found.common.flatMap
            (w.entryEvents o k (left.below place) (right.below place))))
          (Event.outcome (found.common.flatMap
            (w.entryEvents o k (right.below place) (left.below place)))) :=
        .flatMap fun n _ => endsMirrored_entryEvents n
      rw [traversal_of_ok hlevel, traversal_of_ok hother, hlisting, hlisting, hlisting, hlisting]
      refine (endsMirrored_level place found).append (hentries.append (.flatMap fun n _ => ?_))
      exact ih leftNames hleft n (place ++ [n]) (left.join_below place n).symm
        (right.join_below place n).symm

end World

/-! ### Files that deliver what they state -/

/-- Whether a regular file that can be read has the length that it states. -/
def Node.deliversLength (n : Node) : Bool :=
  match n.kind with
  | .file length (.ok data) => data.length = length
  | _ => true

/-- **A file system whose files are as long as they state** delivers what it states; files that
cannot be read are no matter. -/
theorem FileSystem.deliversLengths_view {fs : FileSystem}
    (h : fs.nodes.all Node.deliversLength = true) : fs.view.DeliversLengths := by
  intro p length s htarget hcontent
  change fs.target p = .ok (.file length) at htarget
  change fs.content p = .ok s at hcontent
  unfold FileSystem.target at htarget
  unfold FileSystem.content at hcontent
  cases hlookup : fs.lookup .target p with
  | error f =>
    rw [hlookup] at htarget
    cases htarget
  | ok r =>
    obtain ⟨l, n⟩ := r
    have hn : n.deliversLength = true :=
      Array.all_eq_true_iff_forall_mem.1 h n (mem_nodes_of_lookup hlookup)
    unfold Node.deliversLength at hn
    rw [hlookup] at htarget hcontent
    dsimp only at htarget hcontent
    cases hkind : n.kind with
    | file stated content =>
      rw [hkind] at hn htarget hcontent
      obtain rfl : stated = length := by simpa using htarget
      cases hgrants : n.grants .read with
      | false => simp [hgrants] at hcontent
      | true =>
        rw [hgrants] at hcontent
        cases content with
        | ok data =>
          obtain rfl : Stream.ofBytes data = s := by simpa using hcontent
          right
          rw [Stream.bytes_ofBytes]
          exact of_decide_eq_true hn
        | error e =>
          obtain rfl : Stream.failing (.system e) = s := by simpa using hcontent
          exact .inl ⟨rfl, nofun⟩
    | directory | symlink | fifo | socket | charDevice | blockDevice =>
      rw [hkind] at htarget
      cases htarget

/-- **Comparing two trees the other way round ends in the mirror image.**  Both comparisons end
well, or both end in a failure of one sort at one place below the roots, with what was found on the
two sides exchanged. -/
theorem Comparator.run_mirrored {σ : Type} (c : Comparator σ) (h : c.inspector.IsSteady) (s : σ)
    (hfiles : (c.inspector.view s).DeliversLengths) (left right : Path) :
    World.EndsMirrored (c.inspector.world s) left right (c.run left right s).1
      (c.run right left s).1 := by
  rw [c.run_eq_traversal h, c.run_eq_traversal h]
  exact World.endsMirrored_traversal hfiles []

/-- Two files of one length and other bytes, in the directories `a` and `b`. -/
theorem Comparator.strict_run_mirrored :
    let file (data : Bytes) : Node := FileSystem.plain (.file data.length (.ok data))
    let fs := FileSystem.trio 0o755 (file [0x30]) (file [0x31]) (file [])
    strict.inspector.IsSteady ∧ (strict.inspector.view fs).DeliversLengths ∧
      World.EndsMirrored (strict.inspector.world fs) [0x61] [0x62]
        (strict.run [0x61] [0x62] fs).1 (strict.run [0x62] [0x61] fs).1 ∧
      (strict.run [0x61] [0x62] fs).1 = .error (.structural [0x61] [0x62] [] [] [[0x66]] []) := by
  intro file fs
  have hfiles : fs.view.DeliversLengths := FileSystem.deliversLengths_view (by cbv)
  exact ⟨Inspector.isSteady_ofFiles, hfiles,
    strict.run_mirrored Inspector.isSteady_ofFiles fs hfiles [0x61] [0x62], by cbv⟩

end RestoreCheck

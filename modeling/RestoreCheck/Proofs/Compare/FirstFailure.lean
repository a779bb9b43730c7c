import RestoreCheck.Proofs.Compare.Traversal

/-!
# A comparison ends with the first failure of its traversal

In a world that stands still a comparison goes through the exhaustive traversal of two trees up to
the first event that fails, and no further: it ends with the failure of that event, and it has asked
the inspector what the events up to there ask, in that order (`run_eq_traversal`).

`Performs` says this of any part of a comparison.  Parts that follow one another perform one list of
events after the other (`Performs.bind`), so each function is settled by its own events.
-/

namespace RestoreCheck

open Event

variable {σ α β : Type}

/-- **A part of a comparison performs events**: in the state `s` and after any questions, it asks
what the events up to the first failure ask, and ends with the failure of the events, if there is
one, and else with a value. -/
structure Performs (s : σ) (x : Walk σ α) (events : List Event) (r : Except Failure α) : Prop where
  /-- what it does -/
  run_eq : ∀ queries, x.run ⟨s, queries⟩ = (r, ⟨s, queries ++ asked events⟩)
  /-- how it ends -/
  outcome_eq : outcome events = r.map fun _ => ()

/-- A path is unreadable if its reading fails. -/
def orUnreadable (path : Path) (r : Except Fault α) : Except Failure α :=
  r.mapError (.unreadable path)

theorem orUnreadable_eq_error_iff {path : Path} {r : Except Fault α} {failure : Failure} :
    orUnreadable path r = .error failure ↔
      ∃ cause, r = .error cause ∧ failure = .unreadable path cause := by
  cases r with
  | ok a => exact iff_of_false nofun (by simp)
  | error cause =>
    have hfailed : orUnreadable path (.error cause : Except Fault α) =
        .error (.unreadable path cause) := rfl
    simp [hfailed, eq_comm]

namespace Performs

variable {s : σ} {x : Walk σ α} {events events' : List Event}

theorem pure (s : σ) (a : α) : Performs s (pure a) [] (.ok a) where
  run_eq queries := by
    show (Except.ok a, (⟨s, queries⟩ : Progress σ)) = _
    rw [show asked [] = [] from rfl, List.append_nil]
  outcome_eq := rfl

/-- A part that asks nothing. -/
theorem silent {r : Except Failure α} (hrun : ∀ queries, x.run ⟨s, queries⟩ = (r, ⟨s, queries⟩))
    (hasked : asked events = []) (hr : outcome events = r.map fun _ => ()) :
    Performs s x events r where
  run_eq queries := by rw [hrun, hasked, List.append_nil]
  outcome_eq := hr

theorem bind {f : α → Walk σ β} {a : α} {r : Except Failure β}
    (hx : Performs s x events (.ok a)) (hf : Performs s (f a) events' r) :
    Performs s (x >>= f) (events ++ events') r where
  run_eq queries := by
    rw [run_bind_of_ok (hx.run_eq queries), hf.run_eq, asked_append_of_ok hx.outcome_eq,
      List.append_assoc]
  outcome_eq := by
    rw [outcome_append_of_ok hx.outcome_eq]
    exact hf.outcome_eq

theorem bind_error {f : α → Walk σ β} {failure : Failure}
    (hx : Performs s x events (.error failure)) (events' : List Event) :
    Performs s (x >>= f) (events ++ events') (.error failure) where
  run_eq queries := by
    rw [run_bind_of_error (hx.run_eq queries), asked_append_of_error hx.outcome_eq]
  outcome_eq := outcome_append_of_error hx.outcome_eq

theorem map {r : Except Failure α} (hx : Performs s x events r) (f : α → β) :
    Performs s (f <$> x) events (r.map f) := by
  rw [map_eq_pure_bind, ← List.append_nil events]
  cases r with
  | error failure => exact hx.bind_error []
  | ok a => exact hx.bind (.pure s (f a))

/-- A part that gives no value ends as its events do. -/
theorem of_exists {x : Walk σ Unit} (h : ∃ r, Performs s x events r) :
    Performs s x events (outcome events) := by
  obtain ⟨r, hx⟩ := h
  have hr : outcome events = r := by
    rw [hx.outcome_eq]
    cases r with
    | error failure => rfl
    | ok u => rfl
  rw [hr]
  exact hx

/-- Parts that give no value perform one list of events after the other. -/
theorem andThen {x : Walk σ Unit} {y : Unit → Walk σ Unit}
    (hx : Performs s x events (outcome events))
    (hy : outcome events = .ok () → Performs s (y ()) events' (outcome events')) :
    Performs s (x >>= y) (events ++ events') (outcome (events ++ events')) := by
  cases h : outcome events with
  | error failure =>
    rw [h] at hx
    rw [outcome_append_of_error h]
    exact hx.bind_error events'
  | ok u =>
    rw [h] at hx
    rw [outcome_append_of_ok h]
    exact hx.bind (hy h)

theorem forM {γ : Type} {f : γ → Walk σ Unit} {events : γ → List Event} {l : List γ}
    (h : ∀ a ∈ l, Performs s (f a) (events a) (outcome (events a))) :
    Performs s (l.forM f) (l.flatMap events) (outcome (l.flatMap events)) := by
  induction l with
  | nil => exact .pure s ()
  | cons a l ih =>
    rw [List.flatMap_cons]
    show Performs s (f a >>= fun _ => l.forM f) _ _
    exact (h a List.mem_cons_self).andThen fun _ => ih fun b hb => h b (List.mem_cons_of_mem a hb)

/-- The reading of something that may fail is one event. -/
theorem reading {e : Event} {path : Path} {answer : Except Fault α}
    (hfailure : e.failure? = (faultOf? answer).map (.unreadable path))
    (hrun : ∀ queries, x.run ⟨s, queries⟩ =
      (orUnreadable path answer, ⟨s, queries ++ [e].filterMap query?⟩)) :
    Performs s x [e] (orUnreadable path answer) where
  run_eq queries := by
    have hasked : asked [e] = [e].filterMap query? := by
      unfold asked upToFailure
      cases e.failure?.isSome with
      | true => rfl
      | false => rfl
    rw [hrun, hasked]
  outcome_eq := by
    cases answer with
    | ok a => exact outcome_cons_of_none hfailure
    | error cause => exact outcome_cons_of_some hfailure

end Performs

/-! ### The parts of a comparison -/

section

variable {c : Comparator σ} {s : σ}

theorem performs_status (path : Path) :
    Performs s (c.status path) [.status path (faultOf? ((c.inspector.world s).view.status path))]
      (orUnreadable path ((c.inspector.world s).view.status path)) := by
  refine .reading rfl fun queries => ?_
  have hview : c.view.run ⟨s, queries⟩ = (.ok (c.inspector.view s), ⟨s, queries⟩) := rfl
  unfold Comparator.status
  rw [run_bind_of_ok hview, show [Event.status path _].filterMap query? = [] from rfl,
    List.append_nil]
  show _ = (orUnreadable path ((c.inspector.view s).status path), _)
  cases (c.inspector.view s).status path with
  | ok m => rfl
  | error cause => rfl

variable (h : c.inspector.IsSteady)
include h

theorem performs_askFlags (path : Path) (m : Meta) :
    Performs s (c.askFlags path m) [.flags path] (.ok ((c.inspector.world s).flags path m)) where
  run_eq queries := by
    show (Except.ok (c.inspector.flags path m s).1,
      (⟨(c.inspector.flags path m s).2, queries ++ [.flags path]⟩ : Progress σ)) = _
    rw [h.flags_snd]
    rfl
  outcome_eq := rfl

theorem performs_askXattrs (path : Path) :
    Performs s (c.askXattrs path) [.xattrs path (faultOf? ((c.inspector.world s).xattrs path))]
      (orUnreadable path ((c.inspector.world s).xattrs path)) := by
  refine .reading rfl fun queries => ?_
  have hask : (modifyGet fun p : Progress σ =>
      ((c.inspector.xattrs path p.state).1, (⟨(c.inspector.xattrs path p.state).2,
        p.queries ++ [.xattrs path]⟩ : Progress σ)) : Walk σ _).run ⟨s, queries⟩ =
      (.ok (c.inspector.xattrs path s).1, ⟨s, queries ++ [.xattrs path]⟩) := by
    show (_, (⟨(c.inspector.xattrs path s).2, _⟩ : Progress σ)) = _
    rw [h.xattrs_snd]
  unfold Comparator.askXattrs
  rw [run_bind_of_ok hask]
  show _ = (orUnreadable path (c.inspector.xattrs path s).1, _)
  cases (c.inspector.xattrs path s).1 with
  | ok x => rfl
  | error cause => rfl

theorem performs_flags (path : Path) (m : Meta) :
    Performs s (if c.options.ignoreFlags then pure none else some <$> c.askFlags path m)
      (if c.options.ignoreFlags then [] else [.flags path])
      (.ok (if c.options.ignoreFlags then none
        else some ((c.inspector.world s).seen path m).flags)) := by
  cases c.options.ignoreFlags with
  | true => exact .pure s none
  | false => exact (performs_askFlags h path m).map some

theorem performs_xattrs (path : Path) (m : Meta) :
    Performs s
      (if c.options.ignoreXattrs then pure none else (some ∘ dropLabel) <$> c.askXattrs path)
      (if c.options.ignoreXattrs then []
        else [.xattrs path (faultOf? ((c.inspector.world s).xattrs path))])
      (orUnreadable path (((c.inspector.world s).seen path m).comparedXattrs c.options)) := by
  unfold Seen.comparedXattrs
  cases c.options.ignoreXattrs with
  | true => exact .pure s none
  | false =>
    have hask := (performs_askXattrs (s := s) h path).map (some ∘ dropLabel)
    show Performs s _ _
      (orUnreadable path (((c.inspector.world s).xattrs path).map fun x => some (dropLabel x)))
    cases hread : (c.inspector.world s).xattrs path with
    | ok x =>
      rw [hread] at hask
      exact hask
    | error cause =>
      rw [hread] at hask
      exact hask

omit h in
/-- A vector is made of the answers to two questions, flags first.  The program begins to make it as
soon as it has the flags; nothing is asked for that. -/
theorem attributes_eq_bind (c : Comparator σ) (name : Bytes) (path : Path) (m : Meta)
    (mounted : Bool) :
    c.attributes name path m mounted =
      (if c.options.ignoreFlags then pure none else some <$> c.askFlags path m) >>= fun flags =>
      (if c.options.ignoreXattrs then pure none
        else (some ∘ dropLabel) <$> c.askXattrs path) >>= fun xattrs =>
      pure { Attributes.base name m (!(mounted && m.isDirectory)) with
        flags, xattrs
        mtime := (c.options.timeRule? c.capabilities mounted).map (·.apply m.mtime) } := by
  unfold Comparator.attributes
  cases c.options.ignoreFlags <;> cases c.options.ignoreXattrs <;> rfl

/-- An entry is inspected by the two questions, one after the other, and its vector made. -/
theorem performs_inspection (name : Bytes) (path : Path) (m : Meta) (mounted : Bool) :
    Performs s (c.attributes name path m mounted)
      ((c.inspector.world s).inspection c.options path)
      (orUnreadable path (((c.inspector.world s).seen path m).attributes c.options c.capabilities
        mounted name)) := by
  have hxattrs := performs_xattrs (s := s) h path m
  rw [attributes_eq_bind]
  refine (performs_flags h path m).bind ?_
  unfold Seen.attributes
  rw [← List.append_nil (if c.options.ignoreXattrs then _ else _)]
  cases hx : ((c.inspector.world s).seen path m).comparedXattrs c.options with
  | error cause =>
    rw [hx] at hxattrs
    exact hxattrs.bind_error []
  | ok x =>
    rw [hx] at hxattrs
    refine hxattrs.bind ?_
    show Performs s _ [] (.ok (Seen.vector _ _ _ _ _ x))
    rw [Seen.vector_eq_base]
    exact .pure s _

/-- The entries of a pair are inspected, left before right, and then their vectors are compared. -/
theorem performs_pair (name : Bytes) (a b : Path) (m m' : Meta) :
    ∃ r, Performs s
      (c.attributes name a m (c.options.mountedView.applies m m') >>= fun left =>
        c.attributes name b m' (c.options.mountedView.applies m m') >>= fun right =>
          if left ≠ right then throw (.attributes a b left right) else pure ())
      ((c.inspector.world s).pairEvents c.options c.capabilities name a b m m') r := by
  unfold World.pairEvents
  dsimp only
  have hleft := performs_inspection (s := s) h name a m (c.options.mountedView.applies m m')
  have hright := performs_inspection (s := s) h name b m' (c.options.mountedView.applies m m')
  cases hl : ((c.inspector.world s).seen a m).attributes c.options c.capabilities
      (c.options.mountedView.applies m m') name with
  | error cause =>
    rw [hl] at hleft
    exact ⟨_, hleft.bind_error _⟩
  | ok left =>
    rw [hl] at hleft
    cases hr : ((c.inspector.world s).seen b m').attributes c.options c.capabilities
        (c.options.mountedView.applies m m') name with
    | error cause =>
      rw [hr] at hright
      exact ⟨_, hleft.bind (hright.bind_error _)⟩
    | ok right =>
      rw [hr] at hright
      have hasked : asked [vectors a b left right] = [] :=
        asked_eq_nil fun e he => by rw [List.mem_singleton.1 he]; rfl
      refine ⟨_, hleft.bind (hright.bind (.of_exists ?_))⟩
      by_cases heq : left = right
      · have hfailure : (vectors a b left right).failure? = none := if_pos heq
        rw [if_neg (not_not_intro heq)]
        refine ⟨.ok (), .silent (fun _ => rfl) hasked ?_⟩
        exact outcome_cons_of_none hfailure
      · have hfailure : (vectors a b left right).failure? =
            some (.attributes a b left right) := if_neg heq
        rw [if_pos heq]
        refine ⟨.error (.attributes a b left right), .silent (fun _ => rfl) hasked ?_⟩
        exact outcome_cons_of_some hfailure

theorem performs_compareName (left right : Path) (n : Name) :
    Performs s (c.compareName left right n)
      ((c.inspector.world s).entryEvents c.options c.capabilities left right n)
      (outcome ((c.inspector.world s).entryEvents c.options c.capabilities left right n)) := by
  refine .of_exists ?_
  have hleft := performs_status (c := c) (s := s) (left.join n.bytes)
  have hright := performs_status (c := c) (s := s) (right.join n.bytes)
  unfold World.entryEvents
  dsimp only
  cases hl : (c.inspector.world s).view.status (left.join n.bytes) with
  | error cause =>
    rw [hl] at hleft
    exact ⟨_, hleft.bind_error _⟩
  | ok m =>
    rw [hl] at hleft
    cases hr : (c.inspector.world s).view.status (right.join n.bytes) with
    | error cause =>
      rw [hr] at hright
      exact ⟨_, hleft.bind (hright.bind_error _)⟩
    | ok m' =>
      rw [hr] at hright
      obtain ⟨r, hpair⟩ := performs_pair h n.bytes (left.join n.bytes) (right.join n.bytes) m m'
      exact ⟨r, hleft.bind (hright.bind hpair)⟩

omit h in
theorem run_compareLevel (left right : Path) (queries : List Query) :
    (c.compareLevel left right).run ⟨s, queries⟩ =
      ((Level.of (c.inspector.view s) left right).bind fun found =>
        if found.agrees then .ok found else .error (found.failure left right), ⟨s, queries⟩) := by
  have hview : c.view.run ⟨s, queries⟩ = (.ok (c.inspector.view s), ⟨s, queries⟩) := rfl
  unfold Comparator.compareLevel
  rw [run_bind_of_ok hview]
  cases Level.of (c.inspector.view s) left right with
  | error failure => rfl
  | ok found =>
    show ((if found.agrees = true then _ else _ : Walk σ Level).run _) = (if found.agrees = true
      then _ else _, _)
    cases found.agrees with
    | true => rfl
    | false => rfl

omit h in
theorem performs_compareLevel {left right : Path} {found : Level}
    (hlevel : Level.of (c.inspector.view s) left right = .ok found) :
    Performs s (c.compareLevel left right)
      [listing left none, listing right none, level left right found]
      (if found.agrees then .ok found else .error (found.failure left right)) := by
  refine .silent (fun queries => ?_) (asked_eq_nil (by simp [query?])) ?_
  · rw [run_compareLevel, hlevel]
    rfl
  · rw [outcome_cons_of_none rfl, outcome_cons_of_none rfl]
    cases hagrees : found.agrees with
    | true => exact outcome_cons_of_none (failure?_level_eq_none_iff.2 hagrees)
    | false => exact outcome_cons_of_some (failure?_level_of_agrees_eq_false hagrees)

omit h in
theorem performs_compareLevel_of_error {left right : Path} {failure : Failure} {f g : Option Fault}
    (hlevel : Level.of (c.inspector.view s) left right = .error failure)
    (houtcome : outcome [listing left f, listing right g] = .error failure) :
    Performs s (c.compareLevel left right) [listing left f, listing right g] (.error failure) := by
  refine .silent (fun queries => ?_) (asked_eq_nil (by simp [query?])) houtcome
  rw [run_compareLevel, hlevel]
  rfl

/-- **A comparison performs its traversal.**  The induction follows the descent: a pair of
directories performs the events of its own level, and then those of each pair below. -/
theorem performs_compare (left right : Path) :
    Performs s (c.compare left right)
      ((c.inspector.world s).traversal c.options c.capabilities left right)
      (outcome ((c.inspector.world s).traversal c.options c.capabilities left right)) := by
  induction left, right using Comparator.compare.induct with
  | case1 left right ih =>
    refine .of_exists ?_
    rw [Comparator.compare]
    cases hlevel : Level.of (c.inspector.view s) left right with
    | error failure =>
      obtain ⟨htraversal, houtcome⟩ :=
        World.traversal_of_error (w := c.inspector.world s) (o := c.options) (k := c.capabilities)
          hlevel
      rw [htraversal] at houtcome ⊢
      exact ⟨_, (performs_compareLevel_of_error hlevel houtcome).bind_error []⟩
    | ok found =>
      -- Both directories were listed, so the test before the descent holds.
      have hshort : left.length < Path.limit := Level.length_lt_of_eq_ok hlevel
      have hfound := performs_compareLevel hlevel
      rw [World.traversal_of_ok hlevel]
      simp only [dif_pos hshort]
      cases hagrees : found.agrees with
      | false =>
        rw [hagrees] at hfound
        exact ⟨_, hfound.bind_error _⟩
      | true =>
        rw [hagrees] at hfound
        refine ⟨_, hfound.bind (Performs.andThen ?_ fun _ => ?_)⟩
        · exact .forM fun n _ => performs_compareName h left right n
        · exact .forM fun n _ => ih hshort n

theorem Comparator.run_eq_traversal (left right : Path) :
    c.run left right s =
      (outcome ((c.inspector.world s).traversal c.options c.capabilities left right),
        ⟨s, asked ((c.inspector.world s).traversal c.options c.capabilities left right)⟩) := by
  unfold Comparator.run
  rw [(performs_compare h left right).run_eq, List.nil_append]

end

/-- **A comparison stops at the first failure** of the exhaustive traversal.  It ends with the
failure of the first event that fails, or well if none does, and it has asked the inspector exactly
what the events up to there ask, in their order.  The readings of statuses count as events of their
own, both of a pair before the first question; where all of them succeed they may be left out.  No
question is asked at a level where something was found, or after it. -/
theorem Comparator.run_eq_first_failure (c : Comparator σ) (h : c.inspector.IsSteady)
    (left right : Path) (s : σ) :
    let events := (c.inspector.world s).traversal c.options c.capabilities left right
    c.run left right s = (outcome events, ⟨s, asked events⟩) ∧
      ((∀ path cause, Event.status path (some cause) ∉ events) →
        c.run left right s =
          (outcome (events.filter fun e => !e.isStatus),
            ⟨s, asked (events.filter fun e => !e.isStatus)⟩)) ∧
      ∀ before a b found after,
        events = before ++ Event.level a b found :: after → found.agrees = false →
          (c.run left right s).2.queries <+: before.filterMap query? := by
  intro events
  have hrun : c.run left right s = (outcome events, ⟨s, asked events⟩) :=
    c.run_eq_traversal h left right
  refine ⟨hrun, ?_, ?_⟩
  · intro hstatus
    -- A status that could be read neither fails nor asks for anything.
    have hsilent : ∀ e ∈ events, (!e.isStatus) = false → e.failure? = none ∧ e.query? = none := by
      intro e he hkind
      cases e with
      | status path fault =>
        cases fault with
        | none => exact ⟨rfl, rfl⟩
        | some cause => exact absurd he (hstatus path cause)
      | listing | level | flags | xattrs | vectors => cases hkind
    rw [hrun, outcome_filter fun e he hkind => (hsilent e he hkind).1, asked_filter hsilent]
  · intro before a b found after hsplit hfound
    have hfailure : (Event.level a b found).failure? = some (found.failure a b) := by
      show (if found.agrees = true then none else some (found.failure a b)) = _
      rw [hfound]
      rfl
    have hprefix := (upToFailure_isPrefix_of_failure hfailure before after).filterMap query?
    rw [List.filterMap_append] at hprefix
    rw [hrun, hsplit, ← List.append_nil (before.filterMap query?)]
    exact hprefix

theorem Comparator.strict_run_eq_first_failure :
    Comparator.strict.inspector.IsSteady ∧
      let s := FileSystem.twoLinks [0x2E] [0x78]
      let events := (Comparator.strict.inspector.world s).traversal Comparator.strict.options
        Comparator.strict.capabilities [0x61] [0x62]
      Comparator.strict.run [0x61] [0x62] s = (outcome events, ⟨s, asked events⟩) ∧
        ((∀ path cause, Event.status path (some cause) ∉ events) →
          Comparator.strict.run [0x61] [0x62] s =
            (outcome (events.filter fun e => !e.isStatus),
              ⟨s, asked (events.filter fun e => !e.isStatus)⟩)) ∧
        ∀ before a b found after,
          events = before ++ Event.level a b found :: after → found.agrees = false →
            (Comparator.strict.run [0x61] [0x62] s).2.queries <+: before.filterMap query? :=
  ⟨Inspector.isSteady_ofFiles,
    Comparator.strict.run_eq_first_failure Inspector.isSteady_ofFiles [0x61] [0x62]
      (FileSystem.twoLinks [0x2E] [0x78])⟩

end RestoreCheck

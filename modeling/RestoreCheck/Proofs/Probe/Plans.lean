import RestoreCheck.Proofs.Probe.Growth

/-!
# Probes that go by a plan

Every probe has a plan, the calls that it makes in order (`Capability.plan`), and says that its
capability is there if what came back reads as it should (`Capability.readsBack`).  One action
follows any plan (`Primitives.planned`), and all probes are that action (`Primitives.probe_eq`).

A call and what came of it is a `Trial`.  A plan is followed until a call fails
(`Primitives.Follows`), and `Primitives.Goes` lists all the ways in which a probe can go, with what
it asked for on the way and its trials (`Primitives.exists_goes`).
-/

namespace RestoreCheck

variable {σ α β : Type}

/-! ### Plans -/

namespace Capability

open Primitives (linkTarget entryTarget atSecond birthDay changeDay accessDay)

/-- Whether the probe of a capability asks for symbolic links on the way. -/
def asksLinks : Capability → Bool
  | utime | birthTime => true
  | symlinks | hardLinks | fifos | flags => false

/-- How many scratch places the probe of a capability opens. -/
def places : Capability → Nat
  | hardLinks => 2
  | symlinks | fifos | utime | birthTime | flags => 1

/-- The call that makes an entry on which times are set. -/
def entryCall (links : Bool) (path : Path) : ProbeCall :=
  if links then .symlink entryTarget path else .createFile path

/-- **The plan of a probe**, which may depend on whether there are symbolic links.  Only that of
hard links has a use for a second path. -/
def plan (c : Capability) (links : Bool) (first second : Path) : List ProbeCall :=
  match c with
  | symlinks => [.symlink linkTarget first, .lstat first, .readLink first]
  | hardLinks => [.createFile first, .hardLink first second, .stat first, .stat second]
  | fifos => [.makeFifo first]
  | utime => [entryCall links first, .setTimes first 1000 2000, .lstat first]
  | birthTime =>
    [entryCall links first, .setTimes first accessDay birthDay,
      .setTimes first accessDay changeDay, .lstat first]
  | flags => [.createFile first, .setNodump first]

/-- **Whether the replies to a whole plan read back** what was done. -/
def readsBack : Capability → List ProbeReply → Bool
  | symlinks, [_, _, .target path] => path.same linkTarget
  | hardLinks, [_, _, .status a, .status b] => a.nlink = 2 && b.nlink = 2 && a.number = b.number
  | fifos, _ => true
  | utime, [_, _, .status status] =>
    status.accessed = atSecond 1000 && status.modified = atSecond 2000
  | birthTime, [_, _, _, .status status] =>
    status.born = some (atSecond birthDay) && status.modified = atSecond changeDay
      && status.accessed = atSecond accessDay
  | flags, _ => true
  | _, _ => false

end Capability

namespace Primitives

variable (p : Primitives σ)

/-- The gate of a capability, which is open where there is none. -/
def gateOf : Capability → σ → Bool × σ
  | .hardLinks => p.hasHardLinks
  | .birthTime => p.hasBirthTime
  | .flags => p.hasFlags
  | .symlinks | .fifos | .utime => fun s => (true, s)

/-- Tries a call, whatever it gives back. -/
def tryCall (call : ProbeCall) : Probing σ ProbeReply :=
  attempt call (p.perform call)

/-- Runs a step in the scratch places of a capability. -/
def withPlaces (c : Capability) (step : Path → Path → Probing σ α) : Probing σ α :=
  p.withScratch fun first =>
    if c.places = 2 then p.withScratch fun second => step first second else step first first

/-- Asks for symbolic links if the plan of a capability depends on them. -/
def askLinks (c : Capability) : Probing σ Bool :=
  if c.asksLinks then liftM p.symlinks else pure false

/-- Follows the plan of a capability on two paths. -/
def followPlan (c : Capability) (first second : Path) : Probing σ Bool := do
  let links ← p.askLinks c
  let replies ← (c.plan links first second).mapM p.tryCall
  return c.readsBack replies

/-- **A probe that goes by the plan of a capability.** -/
def planned (c : Capability) : Probing σ Bool := do
  if !(← gate (p.gateOf c)) then
    return false
  p.withPlaces c (p.followPlan c)

/-! ### All probes go by their plans -/

variable {p}

/-- What goes on with a reply goes on with what it holds. -/
theorem attempt_bind {call : ProbeCall} {f : σ → Except Fault α × σ} {reply : α → ProbeReply}
    (hcall : ∀ s, p.perform call s = ((f s).1.map reply, (f s).2)) {k : α → Probing σ β}
    {rest : List ProbeCall} {g : List ProbeReply → Probing σ β}
    (h : ∀ a, k a = rest.mapM p.tryCall >>= fun replies => g (reply a :: replies)) :
    attempt call f >>= k = (call :: rest).mapM p.tryCall >>= g := by
  have hrest : (call :: rest).mapM p.tryCall >>= g =
      p.tryCall call >>= fun r => rest.mapM p.tryCall >>= fun replies => g (r :: replies) := by
    simp [List.mapM_cons]
  rw [hrest]
  -- Both run the call once.  What differs is what they keep of the reply.
  funext s
  have hattempt : (attempt call f).run s =
      ((f s.state).1, { s.record (.tried call) with state := (f s.state).2 }) := rfl
  have htry : (p.tryCall call).run s =
      ((p.perform call s.state).1,
        { s.record (.tried call) with state := (p.perform call s.state).2 }) := rfl
  rw [hcall] at htry
  cases hf : (f s.state).1 with
  | error cause =>
    rw [hf] at hattempt htry
    exact (run_bind_of_error hattempt).trans (run_bind_of_error htry).symm
  | ok a =>
    rw [hf] at hattempt htry
    refine (run_bind_of_ok hattempt).trans (Eq.trans ?_ (run_bind_of_ok htry).symm)
    rw [h a]

theorem planned_of_ungated {c : Capability} (hgate : p.gateOf c = fun s => (true, s)) :
    p.planned c = p.withPlaces c (p.followPlan c) := by
  unfold planned
  rw [hgate]
  rfl

theorem withPlaces_of_ne {c : Capability} (hc : c ≠ .hardLinks) (step : Path → Path → Probing σ α) :
    p.withPlaces c step = p.withScratch fun first => step first first := by
  cases c with
  | hardLinks => exact absurd rfl hc
  | symlinks | fifos | utime | birthTime | flags => rfl

theorem followPlan_of_not_asksLinks {c : Capability} (hc : c.asksLinks = false)
    (first second : Path) : p.followPlan c first second =
      (c.plan false first second).mapM p.tryCall >>= fun replies => pure (c.readsBack replies) := by
  unfold followPlan askLinks
  rw [hc, if_neg Bool.false_ne_true, pure_bind]

/-- Making an entry is asking for symbolic links and then making what there can be. -/
theorem makeEntry_bind {c : Capability} (hc : c.asksLinks = true) (path : Path)
    {rest : List ProbeCall} {k : Unit → Probing σ β} {g : List ProbeReply → Probing σ β}
    (h : k () = rest.mapM p.tryCall >>= fun replies => g (.done :: replies)) :
    p.makeEntry path >>= k = p.askLinks c >>= fun links =>
      (Capability.entryCall links path :: rest).mapM p.tryCall >>= g := by
  have hmake : p.makeEntry path = p.askLinks c >>= fun links =>
      if links then p.trySymlink entryTarget path else p.tryCreateFile path := by
    unfold askLinks
    rw [hc]
    rfl
  rw [hmake, bind_assoc]
  refine bind_congr fun links => ?_
  cases links with
  | true => exact attempt_bind (fun _ => rfl) fun _ => h
  | false => exact attempt_bind (fun _ => rfl) fun _ => h

-- One case of `attempt_bind` for each call of a probe, in order.
theorem symlinkProbe_eq : p.symlinkProbe = p.planned .symlinks := by
  rw [planned_of_ungated rfl, withPlaces_of_ne (by decide)]
  refine congrArg p.withScratch (funext fun path => ?_)
  rw [followPlan_of_not_asksLinks rfl]
  refine attempt_bind (fun _ => rfl) fun _ => attempt_bind (fun _ => rfl) fun status =>
    attempt_bind (fun _ => rfl) fun target => ?_
  simp [Capability.readsBack]

theorem hardLinkProbe_eq : p.hardLinkProbe = p.planned .hardLinks := by
  have hprobe (first second : Path) : p.followPlan .hardLinks first second = do
      p.tryCreateFile first
      p.tryHardLink first second
      let a ← p.tryStat first
      let b ← p.tryStat second
      return a.nlink = 2 && b.nlink = 2 && a.number = b.number := by
    rw [followPlan_of_not_asksLinks rfl]
    refine (attempt_bind (fun _ => rfl) fun _ => attempt_bind (fun _ => rfl) fun _ =>
      attempt_bind (fun _ => rfl) fun a => attempt_bind (fun _ => rfl) fun b => ?_).symm
    simp [Capability.readsBack]
  have hplaces : p.withPlaces .hardLinks (p.followPlan .hardLinks) =
      p.withScratch fun first => p.withScratch fun second =>
        p.followPlan .hardLinks first second := rfl
  unfold planned hardLinkProbe
  rw [hplaces]
  simp only [hprobe]
  rfl

theorem fifoProbe_eq : p.fifoProbe = p.planned .fifos := by
  rw [planned_of_ungated rfl, withPlaces_of_ne (by decide)]
  refine congrArg p.withScratch (funext fun path => ?_)
  rw [followPlan_of_not_asksLinks rfl]
  refine attempt_bind (fun _ => rfl) fun _ => ?_
  simp [Capability.readsBack]

theorem utimeProbe_eq : p.utimeProbe = p.planned .utime := by
  rw [planned_of_ungated rfl, withPlaces_of_ne (by decide)]
  refine congrArg p.withScratch (funext fun path => makeEntry_bind rfl path ?_)
  refine attempt_bind (fun _ => rfl) fun _ => attempt_bind (fun _ => rfl) fun status => ?_
  simp [Capability.readsBack]

theorem birthTimeProbe_eq : p.birthTimeProbe = p.planned .birthTime := by
  have hprobe (path : Path) : p.followPlan .birthTime path path = do
      p.makeEntry path
      p.trySetTimes path accessDay birthDay
      p.trySetTimes path accessDay changeDay
      let status ← p.tryLstat path
      return status.born = some (atSecond birthDay) && status.modified = atSecond changeDay
        && status.accessed = atSecond accessDay := by
    refine (makeEntry_bind rfl path ?_).symm
    refine attempt_bind (fun _ => rfl) fun _ => attempt_bind (fun _ => rfl) fun _ =>
      attempt_bind (fun _ => rfl) fun status => ?_
    simp [Capability.readsBack]
  unfold planned birthTimeProbe
  rw [withPlaces_of_ne (by decide)]
  simp only [hprobe]
  rfl

theorem flagProbe_eq : p.flagProbe = p.planned .flags := by
  have hprobe (path : Path) : p.followPlan .flags path path = do
      p.tryCreateFile path
      p.trySetNodump path
      return true := by
    rw [followPlan_of_not_asksLinks rfl]
    refine (attempt_bind (fun _ => rfl) fun _ => attempt_bind (fun _ => rfl) fun _ => ?_).symm
    simp [Capability.readsBack]
  unfold planned flagProbe
  rw [withPlaces_of_ne (by decide)]
  simp only [hprobe]
  rfl

/-- **Every probe goes by its plan.** -/
theorem probe_eq (c : Capability) : p.probe c = p.planned c := by
  cases c with
  | symlinks => exact symlinkProbe_eq
  | hardLinks => exact hardLinkProbe_eq
  | fifos => exact fifoProbe_eq
  | utime => exact utimeProbe_eq
  | birthTime => exact birthTimeProbe_eq
  | flags => exact flagProbe_eq

end Primitives

/-! ### Following a plan -/

/-- A call that was tried, and what came of it. -/
structure Trial where
  call : ProbeCall
  outcome : Except Fault ProbeReply

/-- What is recorded of a trial. -/
def Trial.event (x : Trial) : ProbeEvent :=
  .tried x.call

namespace Primitives

/-- **A plan is followed** from one state of the files to another, until a call fails. -/
inductive Follows (p : Primitives σ) : List ProbeCall → σ → List Trial → σ → Prop
  | done {s : σ} : Follows p [] s [] s
  | failed {call : ProbeCall} {rest : List ProbeCall} {s t : σ} {cause : Fault}
      (perform : p.perform call s = (.error cause, t)) :
      Follows p (call :: rest) s [⟨call, .error cause⟩] t
  | went {call : ProbeCall} {rest : List ProbeCall} {s t u : σ} {reply : ProbeReply}
      {trials : List Trial} (perform : p.perform call s = (.ok reply, t))
      (next : Follows p rest t trials u) :
      Follows p (call :: rest) s (⟨call, .ok reply⟩ :: trials) u

variable {p : Primitives σ} {calls : List ProbeCall} {s t : σ} {trials : List Trial}

theorem Follows.calls_prefix (h : p.Follows calls s trials t) :
    trials.map Trial.call <+: calls := by
  induction h with
  | done => exact List.prefix_rfl
  | failed perform => exact List.cons_prefix_cons.2 ⟨rfl, List.nil_prefix⟩
  | went perform next ih => exact List.cons_prefix_cons.2 ⟨rfl, ih⟩

/-- **Only the last trial can have failed.** -/
theorem Follows.isOk_of_mem_dropLast (h : p.Follows calls s trials t) {x : Trial}
    (hx : x ∈ trials.dropLast) : x.outcome.isOk = true := by
  induction h with
  | done => cases hx
  | failed perform => cases hx
  | @went call rest s t u reply trials perform next ih =>
    cases trials with
    | nil => cases hx
    | cons y trials =>
      rw [List.dropLast_cons_of_ne_nil (List.cons_ne_nil y trials), List.mem_cons] at hx
      rcases hx with rfl | hx
      · rfl
      · exact ih hx

/-- **A plan is left early only after a failure.** -/
theorem Follows.complete_or_failed (h : p.Follows calls s trials t) :
    trials.map Trial.call = calls ∨
      ∃ x cause, trials.getLast? = some x ∧ x.outcome = .error cause := by
  induction h with
  | done => exact .inl rfl
  | failed perform => exact .inr ⟨_, _, rfl, rfl⟩
  | @went call rest s t u reply trials perform next ih =>
    rcases ih with hcalls | ⟨x, cause, hlast, hfailed⟩
    · left
      rw [List.map_cons, hcalls]
    · right
      have htrials : trials ≠ [] := by
        rintro rfl
        cases hlast
      refine ⟨x, cause, ?_, hfailed⟩
      rwa [List.getLast?_cons_of_ne_nil htrials]

/-- **All replies are there** if the whole plan was followed and no call failed. -/
theorem Follows.mapM_outcome_eq_ok_iff (h : p.Follows calls s trials t)
    {replies : List ProbeReply} : trials.mapM Trial.outcome = .ok replies ↔
      trials.map Trial.call = calls ∧ trials.map Trial.outcome = replies.map .ok := by
  induction h generalizing replies with
  | done => cases replies <;> simp [pure, Except.pure]
  | failed perform =>
    rw [List.mapM_cons]
    refine iff_of_false nofun ?_
    rintro ⟨-, houtcome⟩
    cases replies with
    | nil => cases houtcome
    | cons reply replies => cases (List.cons.inj houtcome).1
  | @went call rest s t u reply trials perform next ih =>
    rw [List.mapM_cons]
    constructor
    · intro hok
      cases hrest : trials.mapM Trial.outcome with
      | error cause =>
        rw [hrest] at hok
        cases hok
      | ok later =>
        rw [hrest] at hok
        obtain rfl : reply :: later = replies := Except.ok.inj hok
        obtain ⟨hcalls, houtcome⟩ := ih.1 hrest
        exact ⟨by rw [List.map_cons, hcalls], by rw [List.map_cons, List.map_cons, houtcome]⟩
    · rintro ⟨hcalls, houtcome⟩
      cases replies with
      | nil => cases houtcome
      | cons first later =>
        obtain ⟨hfirst, hlater⟩ := List.cons.inj houtcome
        obtain rfl : reply = first := Except.ok.inj hfirst
        rw [ih.2 ⟨(List.cons.inj hcalls).2, hlater⟩]
        rfl

/-- **Calls that are tried in order** follow their plan. -/
theorem exists_follows (p : Primitives σ) (calls : List ProbeCall) (s : Survey σ) :
    ∃ trials state, p.Follows calls s.state trials state ∧
      (calls.mapM p.tryCall).run s = (trials.mapM Trial.outcome,
        { s with state, events := s.events ++ trials.map Trial.event }) := by
  induction calls generalizing s with
  | nil => exact ⟨[], s.state, .done, by simp; rfl⟩
  | cons call rest ih =>
    have htry : (p.tryCall call).run s =
        ((p.perform call s.state).1,
          { s.record (.tried call) with state := (p.perform call s.state).2 }) := rfl
    rcases hperform : p.perform call s.state with ⟨outcome, state⟩
    rw [hperform] at htry
    rw [List.mapM_cons]
    cases outcome with
    | error cause =>
      exact ⟨_, _, .failed hperform, run_bind_of_error htry⟩
    | ok reply =>
      obtain ⟨trials, last, hfollows, hrun⟩ := ih { s.record (.tried call) with state }
      refine ⟨_, _, .went hperform hfollows, ?_⟩
      have hevents : (s.record (.tried call)).events ++ trials.map Trial.event =
          s.events ++ (⟨call, .ok reply⟩ :: trials).map Trial.event :=
        List.append_assoc s.events [.tried call] _
      rw [run_bind_of_ok htry, List.mapM_cons, ← hevents]
      cases houtcome : trials.mapM Trial.outcome with
      | error cause =>
        rw [houtcome] at hrun
        rw [run_bind_of_error hrun]
        rfl
      | ok replies =>
        rw [houtcome] at hrun
        rw [run_bind_of_ok hrun]
        rfl

end Primitives

/-! ### How probes go -/

/-- What happened while a probe ran. -/
structure ProbeCourse where
  /-- whether there are symbolic links, as far as it asked -/
  links : Bool
  /-- what was recorded while it asked for them, the calls of their probe among it -/
  asked : List ProbeEvent
  /-- its own trials, which come after that -/
  trials : List Trial

/-- All that was recorded while a probe ran. -/
def ProbeCourse.events (course : ProbeCourse) : List ProbeEvent :=
  course.asked ++ course.trials.map Trial.event

/-- What trials say about a capability: whether the replies read back, if there are all of them. -/
def Capability.reading (c : Capability) (trials : List Trial) : Except Fault Bool :=
  (trials.mapM Trial.outcome).map c.readsBack

/-- The survey after trials that left the files in some state. -/
def Survey.after (s : Survey σ) (trials : List Trial) (state : σ) : Survey σ :=
  { s with state, events := s.events ++ trials.map Trial.event }

namespace Primitives

/-- The plan of a capability on the scratch paths from the `n`th on. -/
def planAt (p : Primitives σ) (c : Capability) (links : Bool) (n : Nat) : List ProbeCall :=
  c.plan links (p.scratch n) (p.scratch (n + 1))

/-- **The gate is open and the scratch places of a probe are opened.** -/
inductive Placed (p : Primitives σ) (c : Capability) (s : Survey σ) : Survey σ → Prop
  | one {state state' : σ} (places : c.places = 1) (gate : p.gateOf c s.state = (true, state))
      (opened : p.openScratch s.scratchUsed state = (.ok (), state')) :
      Placed p c s { s with state := state', scratchUsed := s.scratchUsed + 1 }
  | two {state state' state'' : σ} (places : c.places = 2)
      (gate : p.gateOf c s.state = (true, state))
      (opened : p.openScratch s.scratchUsed state = (.ok (), state'))
      (opened' : p.openScratch (s.scratchUsed + 1) state' = (.ok (), state'')) :
      Placed p c s { s with state := state'', scratchUsed := s.scratchUsed + 2 }

/-- **How the probe of a capability goes.**  What closing its scratch places does to the files is
left open. -/
inductive Goes (p : Primitives σ) :
    Capability → Survey σ → ProbeCourse → Except Fault Bool → Survey σ → Prop
  /-- its gate is closed -/
  | closed {c : Capability} {s : Survey σ} {links : Bool} {state : σ}
      (gate : p.gateOf c s.state = (false, state)) :
      Goes p c s ⟨links, [], []⟩ (.ok false) { s with state }
  /-- a scratch place cannot be opened -/
  | unplaced {c : Capability} {s : Survey σ} {links : Bool} {k used : Nat} {cause : Fault}
      {state state' last : σ} (gate : (p.gateOf c s.state).1 = true)
      (failed : p.openScratch k state = (.error cause, state')) (used_gt : s.scratchUsed < used) :
      Goes p c s ⟨links, [], []⟩ (.error cause) { s with state := last, scratchUsed := used }
  /-- its plan does not depend on symbolic links -/
  | alone {c : Capability} {s placed : Survey σ} {trials : List Trial} {state last : σ}
      (asks : c.asksLinks = false) (placing : p.Placed c s placed)
      (follows : p.Follows (p.planAt c false s.scratchUsed) placed.state trials state) :
      Goes p c s ⟨false, [], trials⟩ (c.reading trials) (placed.after trials last)
  /-- it is known whether there are symbolic links -/
  | told {c : Capability} {s placed : Survey σ} {links : Bool} {trials : List Trial} {state last : σ}
      (asks : c.asksLinks = true) (placing : p.Placed c s placed)
      (answer : s.answers .symlinks = some links)
      (follows : p.Follows (p.planAt c links s.scratchUsed) placed.state trials state) :
      Goes p c s ⟨links, [.answered .symlinks links], trials⟩ (c.reading trials)
        ((placed.record (.answered .symlinks links)).after trials last)
  /-- symbolic links are probed for -/
  | probed {c : Capability} {s placed between : Survey σ} {inner : ProbeCourse}
      {r : Except Fault Bool} {trials : List Trial} {state last : σ} (asks : c.asksLinks = true)
      (placing : p.Placed c s placed) (answer : s.answers .symlinks = none)
      (probe : Goes p .symlinks (placed.record (.started .symlinks)) inner r between)
      (follows : p.Follows (p.planAt c (verdict r) s.scratchUsed) between.state trials state) :
      Goes p c s
        ⟨verdict r, .started .symlinks :: (inner.events ++ [.answered .symlinks (verdict r)]),
          trials⟩
        (c.reading trials)
        (((between.settle .symlinks (verdict r)).record
          (.answered .symlinks (verdict r))).after trials last)

variable {p : Primitives σ} {c : Capability} {s t : Survey σ}

theorem run_withScratch_of_ok {step : Path → Probing σ α} {state : σ} {r : Except Fault α}
    (h : p.openScratch s.scratchUsed s.state = (.ok (), state))
    (hstep : (step (p.scratch s.scratchUsed)).run
      { s with state, scratchUsed := s.scratchUsed + 1 } = (r, t)) :
    (p.withScratch step).run s = (r, { t with state := p.closeScratch s.scratchUsed t.state }) := by
  have hopen : p.openPlace.run s =
      ((p.openScratch s.scratchUsed s.state).1.map fun _ => s.scratchUsed,
        { s with state := (p.openScratch s.scratchUsed s.state).2
                 scratchUsed := s.scratchUsed + 1 }) := rfl
  rw [h] at hopen
  unfold withScratch
  rw [run_bind_of_ok hopen]
  have hclose {n : Nat} {x : Probing σ α} {u : Survey σ} (hx : x.run u = (r, t)) :
      (p.closingPlace n x).run u = (r, { t with state := p.closeScratch n t.state }) := by
    have hrun : (p.closingPlace n x).run u = ((x.run u).1,
        { (x.run u).2 with state := p.closeScratch n (x.run u).2.state }) := rfl
    rw [hrun, hx]
  exact hclose hstep

theorem run_withScratch_of_error {step : Path → Probing σ α} {state : σ} {cause : Fault}
    (h : p.openScratch s.scratchUsed s.state = (.error cause, state)) :
    (p.withScratch step).run s =
      (.error cause, { s with state, scratchUsed := s.scratchUsed + 1 }) := by
  have hopen : p.openPlace.run s =
      ((p.openScratch s.scratchUsed s.state).1.map fun _ => s.scratchUsed,
        { s with state := (p.openScratch s.scratchUsed s.state).2
                 scratchUsed := s.scratchUsed + 1 }) := rfl
  rw [h] at hopen
  exact run_bind_of_error hopen

/-- A plan on one path has no use for a second one. -/
theorem followPlan_congr (hc : c.places = 1) (first second second' : Path) :
    p.followPlan c first second = p.followPlan c first second' := by
  cases c with
  | hardLinks => cases hc
  | symlinks | fifos | utime | birthTime | flags => rfl

/-- **A probe whose gate is open** opens its scratch places and follows its plan in them, unless one
cannot be opened. -/
theorem exists_placed (c : Capability) {s : Survey σ} {state : σ}
    (gate : p.gateOf c s.state = (true, state)) :
    (∃ k cause before after last used, p.openScratch k before = (.error cause, after) ∧
      s.scratchUsed < used ∧ (p.withPlaces c (p.followPlan c)).run { s with state } =
        (.error cause, { s with state := last, scratchUsed := used })) ∨
    ∃ placed, p.Placed c s placed ∧ ∀ r t,
      (p.followPlan c (p.scratch s.scratchUsed) (p.scratch (s.scratchUsed + 1))).run placed =
        (r, t) →
      ∃ last, (p.withPlaces c (p.followPlan c)).run { s with state } =
        (r, { t with state := last }) := by
  unfold withPlaces
  rcases hopen : p.openScratch s.scratchUsed state with ⟨opened, state'⟩
  cases opened with
  | error cause =>
    exact .inl ⟨_, _, _, _, _, _, hopen, Nat.lt_succ_self _,
      run_withScratch_of_error (s := { s with state }) hopen⟩
  | ok u =>
    by_cases hplaces : c.places = 2
    · rcases hopen' : p.openScratch (s.scratchUsed + 1) state' with ⟨opened', state''⟩
      cases opened' with
      | error cause =>
        -- The first place was opened, and is closed again.
        refine .inl ⟨_, _, _, _, p.closeScratch s.scratchUsed state'', s.scratchUsed + 2, hopen',
          by omega, ?_⟩
        refine run_withScratch_of_ok (s := { s with state })
          (t := { s with state := state'', scratchUsed := s.scratchUsed + 2 }) hopen ?_
        rw [if_pos hplaces]
        exact run_withScratch_of_error
          (s := { s with state := state', scratchUsed := s.scratchUsed + 1 }) hopen'
      | ok u =>
        refine .inr ⟨_, .two hplaces gate hopen hopen', fun r t hrun =>
          ⟨p.closeScratch s.scratchUsed (p.closeScratch (s.scratchUsed + 1) t.state), ?_⟩⟩
        refine run_withScratch_of_ok (s := { s with state })
          (t := { t with state := p.closeScratch (s.scratchUsed + 1) t.state }) hopen ?_
        rw [if_pos hplaces]
        exact run_withScratch_of_ok
          (s := { s with state := state', scratchUsed := s.scratchUsed + 1 }) hopen' hrun
    · have hone : c.places = 1 := by cases c <;> first | rfl | exact absurd rfl hplaces
      refine .inr ⟨_, .one hone gate hopen, fun r t hrun =>
        ⟨p.closeScratch s.scratchUsed t.state, ?_⟩⟩
      refine run_withScratch_of_ok (s := { s with state }) hopen ?_
      rw [if_neg hplaces]
      show (p.followPlan c (p.scratch s.scratchUsed) (p.scratch s.scratchUsed)).run _ = _
      rw [followPlan_congr hone]
      exact hrun

/-- A plan is followed when it is known whether there are symbolic links. -/
theorem exists_run_followPlan {placed between : Survey σ} {links : Bool} (n : Nat)
    (h : (p.askLinks c).run placed = (.ok links, between)) :
    ∃ trials state, p.Follows (p.planAt c links n) between.state trials state ∧
      (p.followPlan c (p.scratch n) (p.scratch (n + 1))).run placed =
        (c.reading trials, between.after trials state) := by
  obtain ⟨trials, state, hfollows, hrun⟩ := exists_follows p (p.planAt c links n) between
  refine ⟨trials, state, hfollows, ?_⟩
  unfold followPlan Capability.reading
  rw [run_bind_of_ok h]
  cases houtcome : trials.mapM Trial.outcome with
  | error cause =>
    rw [houtcome] at hrun
    exact run_bind_of_error hrun
  | ok replies =>
    rw [houtcome] at hrun
    exact run_bind_of_ok hrun

/-- A probe goes in one of the ways if its plan does once its scratch places are open. -/
theorem exists_goes_of_placed (c : Capability) (s : Survey σ)
    (h : ∀ placed, p.Placed c s placed → ∃ course r t,
      (p.followPlan c (p.scratch s.scratchUsed) (p.scratch (s.scratchUsed + 1))).run placed =
        (r, t) ∧ ∀ last, p.Goes c s course r { t with state := last }) :
    ∃ course, p.Goes c s course ((p.probe c).run s).1 ((p.probe c).run s).2 := by
  rw [probe_eq]
  have hgate : (gate (p.gateOf c) : Probing σ Bool).run s =
      (.ok (p.gateOf c s.state).1, { s with state := (p.gateOf c s.state).2 }) := rfl
  rcases gate : p.gateOf c s.state with ⟨isOpen, state⟩
  rw [gate] at hgate
  unfold planned
  rw [run_bind_of_ok hgate]
  cases isOpen with
  | false => exact ⟨⟨false, [], []⟩, .closed gate⟩
  | true =>
    show ∃ course, p.Goes c s course ((p.withPlaces c (p.followPlan c)).run { s with state }).1
      ((p.withPlaces c (p.followPlan c)).run { s with state }).2
    rcases exists_placed c gate with
      ⟨k, cause, before, after, last, used, failed, hused, hrun⟩ | ⟨placed, placing, hplaced⟩
    · rw [hrun]
      exact ⟨⟨false, [], []⟩, .unplaced (congrArg Prod.fst gate) failed hused⟩
    · obtain ⟨course, r, t, hfollow, hgoes⟩ := h placed placing
      obtain ⟨last, hrun⟩ := hplaced r t hfollow
      rw [hrun]
      exact ⟨course, hgoes last⟩

theorem exists_goes_of_not_asksLinks (hc : c.asksLinks = false) (s : Survey σ) :
    ∃ course, p.Goes c s course ((p.probe c).run s).1 ((p.probe c).run s).2 := by
  refine exists_goes_of_placed c s fun placed placing => ?_
  have hask : (p.askLinks c).run placed = (.ok false, placed) := by
    unfold askLinks
    rw [hc]
    rfl
  obtain ⟨trials, state, hfollows, hrun⟩ := exists_run_followPlan s.scratchUsed hask
  exact ⟨_, _, _, hrun, fun last => .alone hc placing hfollows⟩

/-- **Every probe goes in one of the ways.** -/
theorem exists_goes (p : Primitives σ) (c : Capability) (s : Survey σ) :
    ∃ course, p.Goes c s course ((p.probe c).run s).1 ((p.probe c).run s).2 := by
  cases hc : c.asksLinks with
  | false => exact exists_goes_of_not_asksLinks hc s
  | true =>
    refine exists_goes_of_placed c s fun placed placing => ?_
    have hask : (p.askLinks c).run placed =
        (.ok (p.symlinks placed).1, (p.symlinks placed).2) := by
      unfold askLinks
      rw [hc]
      rfl
    have hanswers : placed.answers = s.answers := by cases placing <;> rfl
    cases hanswer : s.answers .symlinks with
    | some links =>
      rw [symlinks, settled_of_some ((congrFun hanswers _).trans hanswer)] at hask
      obtain ⟨trials, state, hfollows, hrun⟩ := exists_run_followPlan s.scratchUsed hask
      exact ⟨_, _, _, hrun, fun last => .told hc placing hanswer hfollows⟩
    | none =>
      -- The probe that is nested asks for nothing, so that it goes as is known already.
      obtain ⟨inner, hinner⟩ :=
        exists_goes_of_not_asksLinks (c := .symlinks) rfl (placed.record (.started .symlinks))
      rcases hprobe : p.symlinkProbe.run (placed.record (.started .symlinks)) with ⟨r, between⟩
      rw [show p.probe .symlinks = p.symlinkProbe from rfl, hprobe] at hinner
      rw [symlinks, settled_of_none ((congrFun hanswers _).trans hanswer) hprobe] at hask
      obtain ⟨trials, state, hfollows, hrun⟩ := exists_run_followPlan s.scratchUsed hask
      exact ⟨_, _, _, hrun, fun last => .probed hc placing hanswer hinner hfollows⟩

end Primitives

end RestoreCheck

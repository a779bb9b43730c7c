import RestoreCheck.Proofs.Probe.Plans
import RestoreCheck.Proofs.Probe.Questions

/-!
# Probes keep to their plans, apart from each other

However a probe goes, its own calls are the start of its plan, on scratch paths that nobody has
named before, and end with the first that fails.  Its capability is there exactly if they are the
whole plan and the replies read back (`Primitives.KeepsToPlan`, `Primitives.Goes.keepsToPlan`).

A call belongs to the probe that started last and was not answered for (`ProbeEvent.owned`).  Calls
of different probes name different paths, since every scratch place is opened once
(`Primitives.KeptApart`).
-/

namespace RestoreCheck

variable {σ : Type}

/-! ### What a probe does -/

namespace Primitives

variable {p : Primitives σ} {c : Capability} {s t placed : Survey σ} {course : ProbeCourse}
  {r : Except Fault Bool}

theorem Placed.gate_eq (h : p.Placed c s placed) : (p.gateOf c s.state).1 = true := by
  cases h with
  | one places gate opened => rw [gate]
  | two places gate opened opened' => rw [gate]

theorem Placed.events_eq (h : p.Placed c s placed) : placed.events = s.events := by
  cases h <;> rfl

theorem Placed.scratchUsed_eq (h : p.Placed c s placed) :
    placed.scratchUsed = s.scratchUsed + c.places := by
  cases h with
  | one places gate opened => rw [places]
  | two places gate opened opened' => rw [places]

theorem Goes.events_eq (h : p.Goes c s course r t) : t.events = s.events ++ course.events := by
  induction h with
  | closed gate | unplaced gate failed used_gt => exact (List.append_nil _).symm
  | alone asks placing follows =>
    show _ ++ _ = _ ++ ([] ++ _)
    rw [placing.events_eq, List.nil_append]
  | told asks placing answer follows =>
    show (_ ++ [_]) ++ _ = _ ++ ([_] ++ _)
    rw [placing.events_eq, List.append_assoc]
  | @probed c s placed between inner r trials state last asks placing answer probe follows ih =>
    show (between.events ++ [_]) ++ _ = _
    rw [ih, Survey.record, placing.events_eq]
    simp [ProbeCourse.events]

theorem Goes.asked_eq_nil (h : p.Goes c s course r t) (hc : c.asksLinks = false) :
    course.asked = [] := by
  cases h with
  | closed gate | unplaced gate failed used_gt | alone asks placing follows => rfl
  | told asks placing answer follows | probed asks placing answer probe follows =>
    rw [hc] at asks
    cases asks

theorem Goes.scratchUsed_le (h : p.Goes c s course r t) : s.scratchUsed ≤ t.scratchUsed := by
  induction h with
  | closed gate => exact Nat.le_refl _
  | unplaced gate failed used_gt => exact Nat.le_of_lt used_gt
  | alone asks placing follows | told asks placing answer follows =>
    exact Nat.le.intro placing.scratchUsed_eq.symm
  | probed asks placing answer probe follows ih =>
    exact Nat.le_trans (Nat.le.intro placing.scratchUsed_eq.symm) ih

theorem Goes.places_le (h : p.Goes c s course r t) (htrials : course.trials ≠ []) :
    s.scratchUsed + c.places ≤ t.scratchUsed := by
  cases h with
  | closed gate | unplaced gate failed used_gt => exact absurd rfl htrials
  | alone asks placing follows | told asks placing answer follows =>
    exact Nat.le_of_eq placing.scratchUsed_eq.symm
  | probed asks placing answer probe follows =>
    exact Nat.le_trans (Nat.le_of_eq placing.scratchUsed_eq.symm) probe.scratchUsed_le

/-- **A plan names its own paths only**, the second one only for hard links. -/
theorem mem_paths_of_mem_plan {links : Bool} {first second path : Path} {call : ProbeCall}
    (hcall : call ∈ c.plan links first second) (hpath : path ∈ call.paths) :
    path = first ∨ c = .hardLinks ∧ path = second := by
  have hall : ∀ call ∈ c.plan links first second, ∀ path ∈ call.paths,
      path = first ∨ c = .hardLinks ∧ path = second := by
    cases c <;> cases links <;> simp [Capability.plan, Capability.entryCall, ProbeCall.paths]
  exact hall call hcall path hpath

theorem plan_ne_nil (c : Capability) (links : Bool) (first second : Path) :
    c.plan links first second ≠ [] := by
  cases c <;> exact List.cons_ne_nil _ _

/-! ### Reading the replies -/

/-- **A capability is there** exactly if the whole plan was followed and its replies read back. -/
theorem Follows.reading_eq_true_iff {calls : List ProbeCall} {before after : σ}
    {trials : List Trial} (h : p.Follows calls before trials after) :
    c.reading trials = .ok true ↔ ∃ replies, trials.map Trial.call = calls ∧
      trials.map Trial.outcome = replies.map .ok ∧ c.readsBack replies = true := by
  unfold Capability.reading
  constructor
  · intro htrue
    cases houtcome : trials.mapM Trial.outcome with
    | error cause =>
      rw [houtcome] at htrue
      cases htrue
    | ok replies =>
      rw [houtcome] at htrue
      obtain ⟨hcalls, hreplies⟩ := h.mapM_outcome_eq_ok_iff.1 houtcome
      exact ⟨replies, hcalls, hreplies, Except.ok.inj htrue⟩
  · rintro ⟨replies, hcalls, hreplies, hreads⟩
    rw [h.mapM_outcome_eq_ok_iff.2 ⟨hcalls, hreplies⟩]
    exact congrArg Except.ok hreads

/-- A call that fails is the reason for which the probe does. -/
theorem Follows.reading_eq_error {calls : List ProbeCall} {before after : σ} {trials : List Trial}
    (h : p.Follows calls before trials after) {x : Trial} {cause : Fault} (hx : x ∈ trials)
    (hfailed : x.outcome = .error cause) : c.reading trials = .error cause := by
  unfold Capability.reading
  induction h with
  | done => cases hx
  | failed perform =>
    obtain rfl := List.mem_singleton.1 hx
    cases hfailed
    rfl
  | @went call rest before between after reply trials perform next ih =>
    rcases List.mem_cons.1 hx with rfl | hx
    · cases hfailed
    · have hlater := ih hx
      rw [List.mapM_cons]
      cases houtcome : trials.mapM Trial.outcome with
      | error cause' =>
        rw [houtcome] at hlater
        exact hlater
      | ok replies =>
        rw [houtcome] at hlater
        cases hlater

/-! ### How a probe keeps to its plan -/

/-- **How a probe asks for symbolic links**: it is told what was found out before, or else their
probe goes, which is on a scratch place of its own. -/
inductive AsksLinks (p : Primitives σ) (s : Survey σ) : Bool → List ProbeEvent → Prop
  | told {links : Bool} (answer : s.answers .symlinks = some links) :
      AsksLinks p s links [.answered .symlinks links]
  | probed {placed between : Survey σ} {inner : ProbeCourse} {r : Except Fault Bool}
      (answer : s.answers .symlinks = none) (fresh : s.scratchUsed < placed.scratchUsed)
      (probe : p.Goes .symlinks (placed.record (.started .symlinks)) inner r between) :
      AsksLinks p s (verdict r)
        (.started .symlinks :: (inner.events ++ [.answered .symlinks (verdict r)]))

/-- **What a probe does**, from a survey `s` to a survey `t`, and with what result. -/
structure KeepsToPlan (p : Primitives σ) (c : Capability) (s : Survey σ) (course : ProbeCourse)
    (r : Except Fault Bool) (t : Survey σ) : Prop where
  /-- It is recorded what it asks for, and then its own calls. -/
  events_eq : t.events = s.events ++ course.events
  /-- Behind a gate that is closed nothing is done. -/
  closed : (p.gateOf c s.state).1 = false → course.events = [] ∧ r = .ok false
  /-- A probe asks for symbolic links only if its plan depends on them, and then before its calls.
  -/ asked : (c.asksLinks = false ∨ course.trials = []) ∧ course.asked = [] ∨
    c.asksLinks = true ∧ p.AsksLinks s course.links course.asked
  /-- Its calls are the start of its plan, on fresh scratch paths, -/
  calls_prefix :
    course.trials.map Trial.call <+: p.planAt c course.links s.scratchUsed
  /-- and each but the last went well. -/
  only_last_failed : ∀ x ∈ course.trials.dropLast, x.outcome.isOk = true
  /-- The plan is left early only after a call that failed, -/
  complete_or_failed : (p.gateOf c s.state).1 = true →
    (∀ n state, (p.openScratch n state).1 = .ok ()) →
    course.trials.map Trial.call = p.planAt c course.links s.scratchUsed ∨
      ∃ x cause, course.trials.getLast? = some x ∧ x.outcome = .error cause
  /-- with the fault of that call. -/
  failed : ∀ x ∈ course.trials, ∀ cause, x.outcome = .error cause → r = .error cause
  /-- The calls name scratch paths that were not in use, of which hard links take two, -/
  paths : ∀ x ∈ course.trials, ∀ path ∈ x.call.paths,
    path = p.scratch s.scratchUsed ∨ c = .hardLinks ∧ path = p.scratch (s.scratchUsed + 1)
  distinct : p.scratch s.scratchUsed ≠ p.scratch (s.scratchUsed + 1)
  /-- and the places are used from then on. -/
  used : course.trials ≠ [] → s.scratchUsed + c.places ≤ t.scratchUsed
  /-- The capability is there exactly if the whole plan was followed and the replies read back. -/
  supported_iff : r = .ok true ↔ ∃ replies,
    course.trials.map Trial.call = p.planAt c course.links s.scratchUsed ∧
      course.trials.map Trial.outcome = replies.map .ok ∧ c.readsBack replies = true

/-- **A probe whose plan is followed** keeps to it. -/
theorem Follows.keepsToPlan {links : Bool} {asked : List ProbeEvent} {trials : List Trial}
    {before after : σ} (gate : (p.gateOf c s.state).1 = true)
    (h : p.Follows (p.planAt c links s.scratchUsed) before trials after)
    (hgoes : p.Goes c s ⟨links, asked, trials⟩ (c.reading trials) t)
    (hasked : c.asksLinks = false ∧ asked = [] ∨ c.asksLinks = true ∧ p.AsksLinks s links asked) :
    p.KeepsToPlan c s ⟨links, asked, trials⟩ (c.reading trials) t where
  events_eq := hgoes.events_eq
  closed hclosed := by
    rw [gate] at hclosed
    cases hclosed
  asked := hasked.imp_left fun h => ⟨.inl h.1, h.2⟩
  calls_prefix := h.calls_prefix
  only_last_failed x hx := h.isOk_of_mem_dropLast hx
  complete_or_failed _ _ := h.complete_or_failed
  failed x hx cause hfailed := h.reading_eq_error hx hfailed
  paths x hx path hpath :=
    mem_paths_of_mem_plan (h.calls_prefix.subset (List.mem_map_of_mem hx)) hpath
  distinct heq := by
    have hn := p.scratch_injective heq
    omega
  used := hgoes.places_le
  supported_iff := h.reading_eq_true_iff

/-- **A probe that makes no call** keeps to its plan as well. -/
theorem Goes.keepsToPlan_of_silent {links : Bool} (hgoes : p.Goes c s ⟨links, [], []⟩ r t)
    (hclosed : (p.gateOf c s.state).1 = false → r = .ok false)
    (hopen : (p.gateOf c s.state).1 = true → ¬∀ n state, (p.openScratch n state).1 = .ok ())
    (hr : r ≠ .ok true) : p.KeepsToPlan c s ⟨links, [], []⟩ r t where
  events_eq := hgoes.events_eq
  closed h := ⟨rfl, hclosed h⟩
  asked := .inl ⟨.inr rfl, rfl⟩
  calls_prefix := List.nil_prefix
  only_last_failed x hx := nomatch hx
  complete_or_failed h h' := absurd h' (hopen h)
  failed x hx := nomatch hx
  paths x hx := nomatch hx
  distinct heq := by
    have hn := p.scratch_injective heq
    omega
  used h := absurd rfl h
  supported_iff := by
    refine iff_of_false hr ?_
    rintro ⟨replies, hcalls, -⟩
    exact plan_ne_nil _ _ _ _ hcalls.symm

theorem Goes.keepsToPlan (h : p.Goes c s course r t) : p.KeepsToPlan c s course r t := by
  have hgoes := h
  cases h with
  | closed gate =>
    refine hgoes.keepsToPlan_of_silent (fun _ => rfl) (fun hopen => ?_) nofun
    rw [gate] at hopen
    cases hopen
  | @unplaced _ _ _ k used cause state state' last gate failed used_gt =>
    refine hgoes.keepsToPlan_of_silent (fun hclosed => ?_) (fun _ hplaces => ?_) nofun
    · rw [gate] at hclosed
      cases hclosed
    · have hopened := hplaces k state
      rw [failed] at hopened
      cases hopened
  | alone asks placing follows =>
    exact follows.keepsToPlan placing.gate_eq hgoes (.inl ⟨asks, rfl⟩)
  | told asks placing answer follows =>
    exact follows.keepsToPlan placing.gate_eq hgoes (.inr ⟨asks, .told answer⟩)
  | @probed _ _ placed between inner r trials state last asks placing answer probe follows =>
    have hfresh : s.scratchUsed < placed.scratchUsed := by
      have hplaces : 0 < c.places := by cases c <;> decide
      rw [placing.scratchUsed_eq]
      omega
    exact follows.keepsToPlan placing.gate_eq hgoes (.inr ⟨asks, .probed answer hfresh probe⟩)

end Primitives

/-! ### Whose call it is -/

namespace ProbeEvent

/-- The probes that are running after an event, the one that started last first. -/
def next (running : List Capability) : ProbeEvent → List Capability
  | started c => c :: running
  | tried _ => running
  | answered c _ => if running.head? = some c then running.tail else running

/-- The call of an event, with the probe it belongs to: the one that started last. -/
def owned? (running : List Capability) (e : ProbeEvent) : Option (Capability × ProbeCall) :=
  match running, e.call? with
  | c :: _, some call => some (c, call)
  | _, _ => none

/-- **The calls among events, each with the probe it belongs to**: the one that started last and was
not answered for. -/
def owned : List Capability → List ProbeEvent → List (Capability × ProbeCall)
  | _, [] => []
  | running, e :: rest => (owned? running e).toList ++ owned (next running e) rest

variable {running : List Capability} {events later : List ProbeEvent} {c : Capability}

theorem owned_append : owned running (events ++ later) =
    owned running events ++ owned (events.foldl next running) later := by
  induction events generalizing running with
  | nil => rfl
  | cons e events ih => rw [List.cons_append, owned, owned, ih, List.append_assoc, List.foldl_cons]

theorem owned_answered (running : List Capability) (c : Capability) (answer : Bool) :
    owned running [.answered c answer] = [] := by
  cases running <;> rfl

/-- A probe that makes calls goes on running. -/
theorem foldl_next_trials (trials : List Trial) :
    (trials.map Trial.event).foldl next running = running := by
  induction trials with
  | nil => rfl
  | cons x trials ih => exact ih

theorem owned_trials (trials : List Trial) :
    owned (c :: running) (trials.map Trial.event) = trials.map fun x => (c, x.call) := by
  induction trials with
  | nil => rfl
  | cons x trials ih =>
    rw [List.map_cons, List.map_cons, ← ih]
    rfl

theorem next_answered_self (c : Capability) (running : List Capability) (answer : Bool) :
    next (c :: running) (.answered c answer) = running := if_pos rfl

theorem next_answered_of_ne {d : Capability} (h : d ≠ c) (answer : Bool) :
    next (c :: running) (.answered d answer) = c :: running :=
  if_neg fun heq => h (Option.some.inj heq).symm

/-- **From the start of a probe to its answer** nothing changes for those that were running. -/
theorem foldl_next_probe (h : events.foldl next (c :: running) = c :: running) (answer : Bool) :
    (started c :: (events ++ [answered c answer])).foldl next running = running := by
  rw [List.foldl_cons, List.foldl_append, next, h, List.foldl_cons, List.foldl_nil,
    next_answered_self]

theorem owned_probe (answer : Bool) :
    owned running (started c :: (events ++ [answered c answer])) = owned (c :: running) events := by
  have hstarted : owned? running (started c) = none := by cases running <;> rfl
  rw [owned, hstarted, owned_append, owned_answered, next, List.append_nil]
  rfl

theorem filterMap_call?_probe (answer : Bool) :
    (started c :: (events ++ [answered c answer])).filterMap call? = events.filterMap call? := by
  rw [List.filterMap_cons_none rfl, List.filterMap_append]
  exact List.append_nil _

end ProbeEvent

open ProbeEvent (owned owned_append owned_answered owned_trials owned_probe foldl_next_trials
  foldl_next_probe filterMap_call?_probe next_answered_self next_answered_of_ne)

namespace Primitives

variable {p : Primitives σ} {c : Capability} {s t : Survey σ} {course : ProbeCourse}
  {r : Except Fault Bool} {calls later : List (Capability × ProbeCall)} {m n k : Nat}

/-! ### Paths of their own -/

/-- **Calls that only name some scratch paths**, from the `m`th on and before the `n`th. -/
def Within (p : Primitives σ) (m n : Nat) (calls : List (Capability × ProbeCall)) : Prop :=
  ∀ x ∈ calls, ∀ path ∈ x.2.paths, ∃ k, m ≤ k ∧ k < n ∧ path = p.scratch k

/-- **Calls of different probes** name different paths. -/
def Apart (calls : List (Capability × ProbeCall)) : Prop :=
  ∀ x ∈ calls, ∀ y ∈ calls, x.1 ≠ y.1 → ∀ path ∈ x.2.paths, path ∉ y.2.paths

theorem Within.mono {m' n' : Nat} (h : p.Within m n calls) (hm : m' ≤ m) (hn : n ≤ n') :
    p.Within m' n' calls := by
  intro x hx path hpath
  obtain ⟨k, hk, hk', heq⟩ := h x hx path hpath
  exact ⟨k, Nat.le_trans hm hk, Nat.lt_of_lt_of_le hk' hn, heq⟩

theorem Within.append (h : p.Within m n calls) (h' : p.Within m n later) :
    p.Within m n (calls ++ later) := by
  intro x hx
  exact (List.mem_append.1 hx).elim (h x) (h' x)

theorem Within.notMem_paths (h : p.Within m k calls) (h' : p.Within k n later)
    {x y : Capability × ProbeCall} (hx : x ∈ calls) (hy : y ∈ later) {path : Path}
    (hpath : path ∈ x.2.paths) : path ∉ y.2.paths := by
  intro hpath'
  obtain ⟨i, -, hi, rfl⟩ := h x hx path hpath
  obtain ⟨j, hj, -, heq⟩ := h' y hy _ hpath'
  have hij := p.scratch_injective heq
  omega

/-- Calls on earlier scratch paths are apart from calls on later ones. -/
theorem Apart.append (h : Apart calls) (h' : Apart later) (hcalls : p.Within m k calls)
    (hlater : p.Within k n later) : Apart (calls ++ later) := by
  intro x hx y hy hne path hpath
  rcases List.mem_append.1 hx with hx | hx
  · rcases List.mem_append.1 hy with hy | hy
    · exact h x hx y hy hne path hpath
    · exact hcalls.notMem_paths hlater hx hy hpath
  · rcases List.mem_append.1 hy with hy | hy
    · exact fun hpath' => hcalls.notMem_paths hlater hy hx hpath' hpath
    · exact h' x hx y hy hne path hpath

def callsOf (c : Capability) (trials : List Trial) : List (Capability × ProbeCall) :=
  trials.map fun x => (c, x.call)

theorem apart_callsOf (c : Capability) (trials : List Trial) : Apart (callsOf c trials) := by
  intro x hx y hy hne
  obtain ⟨_, -, rfl⟩ := List.mem_map.1 hx
  obtain ⟨_, -, rfl⟩ := List.mem_map.1 hy
  exact absurd rfl hne

/-- A probe names the paths of its own scratch places. -/
theorem KeepsToPlan.within (h : p.KeepsToPlan c s course r t) :
    p.Within s.scratchUsed (s.scratchUsed + c.places) (callsOf c course.trials) := by
  intro y hy path hpath
  obtain ⟨x, hx, rfl⟩ := List.mem_map.1 hy
  rcases h.paths x hx path hpath with hfirst | ⟨rfl, hsecond⟩
  · have hplaces : 0 < c.places := by cases c <;> decide
    exact ⟨_, Nat.le_refl _, by omega, hfirst⟩
  · exact ⟨_, Nat.le_succ _, Nat.lt_succ_self _, hsecond⟩

/-! ### What belongs to a probe -/

/-- **What belongs to a probe that goes**: its own calls, and to that of symbolic links the calls of
that one, which come first. -/
structure Owns (p : Primitives σ) (c : Capability) (s : Survey σ) (course : ProbeCourse)
    (t : Survey σ) (inside : List Trial) : Prop where
  owned_eq : ∀ running, owned (c :: running) course.events =
    callsOf .symlinks inside ++ callsOf c course.trials
  running_eq : ∀ running, course.events.foldl ProbeEvent.next (c :: running) = c :: running
  calls_eq : course.events.filterMap ProbeEvent.call? =
    (callsOf .symlinks inside ++ callsOf c course.trials).map Prod.snd
  /-- a nested probe has scratch places of its own -/
  within : p.Within (s.scratchUsed + c.places) t.scratchUsed (callsOf .symlinks inside)

theorem filterMap_call?_trials (c : Capability) (trials : List Trial) :
    (trials.map Trial.event).filterMap ProbeEvent.call? = (callsOf c trials).map Prod.snd := by
  induction trials with
  | nil => rfl
  | cons x trials ih => exact congrArg (x.call :: ·) ih

theorem Goes.exists_owns (h : p.Goes c s course r t) : ∃ inside, p.Owns c s course t inside := by
  have hnone : p.Within (s.scratchUsed + c.places) t.scratchUsed (callsOf .symlinks []) :=
    fun _ hx => nomatch hx
  cases h with
  | closed gate | unplaced gate failed used_gt =>
    exact ⟨[], fun _ => rfl, fun _ => rfl, rfl, hnone⟩
  | @alone _ _ placed trials state last asks placing follows =>
    have hevents : ProbeCourse.events ⟨false, [], trials⟩ = trials.map Trial.event :=
      List.nil_append _
    refine ⟨[], fun _ => ?_, fun _ => ?_, ?_, hnone⟩
    · rw [hevents, owned_trials]
      rfl
    · rw [hevents, foldl_next_trials]
    · rw [hevents]
      exact filterMap_call?_trials c trials
  | @told _ _ placed links trials state last asks placing answer follows =>
    have hne : Capability.symlinks ≠ c := by
      rintro rfl
      cases asks
    refine ⟨[], fun running => ?_, fun running => ?_, ?_, hnone⟩
    · rw [ProbeCourse.events, owned_append, owned_answered, List.foldl_cons, List.foldl_nil,
        next_answered_of_ne hne, owned_trials]
      rfl
    · rw [ProbeCourse.events, List.foldl_append, List.foldl_cons, List.foldl_nil,
        next_answered_of_ne hne, foldl_next_trials]
    · exact filterMap_call?_trials c trials
  | @probed _ _ placed between inner r trials state last asks placing answer probe follows =>
    have hevents : inner.events = inner.trials.map Trial.event := by
      rw [ProbeCourse.events, probe.asked_eq_nil rfl, List.nil_append]
    refine ⟨inner.trials, fun running => ?_, fun running => ?_, ?_, ?_⟩
    · rw [ProbeCourse.events, hevents, owned_append, owned_probe, owned_trials,
        foldl_next_probe (foldl_next_trials _), owned_trials]
      rfl
    · rw [ProbeCourse.events, hevents, List.foldl_append, foldl_next_probe (foldl_next_trials _),
        foldl_next_trials]
    · have hinside := filterMap_call?_trials .symlinks inner.trials
      have hown := filterMap_call?_trials c trials
      rw [ProbeCourse.events, hevents, List.filterMap_append, filterMap_call?_probe, hinside, hown,
        List.map_append]
    · -- The nested probe starts when the places of the other one are in use.
      intro x hx path hpath
      have hkeeps := probe.keepsToPlan
      obtain ⟨y, hy, -⟩ := List.mem_map.1 hx
      have hused := hkeeps.used (List.ne_nil_of_mem hy)
      obtain ⟨k, hk, hk', heq⟩ := hkeeps.within x hx path hpath
      exact ⟨k, placing.scratchUsed_eq ▸ hk, Nat.lt_of_lt_of_le hk' hused, heq⟩

/-- The calls that belong to a probe name new paths, -/
theorem Owns.within_owned {inside : List Trial} (h : p.Owns c s course t inside)
    (hgoes : p.Goes c s course r t) :
    p.Within s.scratchUsed t.scratchUsed (callsOf .symlinks inside ++ callsOf c course.trials) := by
  refine (h.within.mono (Nat.le_add_right _ _) (Nat.le_refl _)).append fun x hx => ?_
  obtain ⟨y, hy, -⟩ := List.mem_map.1 hx
  have hused := hgoes.places_le (List.ne_nil_of_mem hy)
  exact hgoes.keepsToPlan.within.mono (Nat.le_refl _) hused x hx

/-- and if one of them is of a nested probe, other paths than the others do. -/
theorem Owns.apart {inside : List Trial} (h : p.Owns c s course t inside)
    (hgoes : p.Goes c s course r t) :
    Apart (callsOf .symlinks inside ++ callsOf c course.trials) := by
  have hrev := (apart_callsOf c course.trials).append (apart_callsOf .symlinks inside)
    hgoes.keepsToPlan.within h.within
  -- The nested calls were made first, but on the later paths.
  intro x hx y hy
  have hcomm (x : Capability × ProbeCall)
      (hx : x ∈ callsOf .symlinks inside ++ callsOf c course.trials) :
      x ∈ callsOf c course.trials ++ callsOf .symlinks inside :=
    List.mem_append.2 (List.mem_append.1 hx).symm
  exact hrev x (hcomm x hx) y (hcomm y hy)

/-! ### All probes of a survey -/

/-- **A survey whose probes have kept apart.** -/
structure KeptApart (p : Primitives σ) (s : Survey σ) : Prop where
  /-- No probe is running, -/
  idle : s.events.foldl ProbeEvent.next [] = []
  /-- every call belongs to a probe, -/
  owned_eq : (owned [] s.events).map Prod.snd = s.calls
  /-- all calls name scratch paths that were opened, -/
  within : p.Within 0 s.scratchUsed (owned [] s.events)
  /-- and those of different probes name different paths. -/
  apart : Apart (owned [] s.events)

theorem keptApart_start (p : Primitives σ) (precision : Precision) (state : σ) :
    p.KeptApart (.start precision state) :=
  ⟨rfl, rfl, fun _ hx => (nomatch hx), fun _ hx => (nomatch hx)⟩

theorem KeptApart.record_answered (h : p.KeptApart s) (c : Capability) (answer : Bool) :
    p.KeptApart (s.record (.answered c answer)) := by
  have howned : owned [] (s.record (.answered c answer)).events = owned [] s.events := by
    rw [Survey.record, owned_append, owned_answered, List.append_nil]
  refine ⟨?_, ?_, howned ▸ h.within, howned ▸ h.apart⟩
  · rw [Survey.record, List.foldl_append, h.idle]
    rfl
  · rw [howned, h.owned_eq, Survey.calls, Survey.calls, Survey.record, List.filterMap_append]
    exact (List.append_nil _).symm

/-- **A question keeps probes apart.** -/
theorem KeptApart.supports (h : p.KeptApart s) (c : Capability) :
    p.KeptApart (p.supports c s).2 := by
  unfold Primitives.supports
  cases hanswer : s.answers c with
  | some answer =>
    rw [settled_of_some hanswer]
    exact h.record_answered c answer
  | none =>
    obtain ⟨course, hgoes⟩ := exists_goes p c (s.record (.started c))
    rcases hrun : (p.probe c).run (s.record (.started c)) with ⟨r, t⟩
    rw [hrun] at hgoes
    rw [settled_of_none hanswer hrun]
    obtain ⟨inside, howns⟩ := hgoes.exists_owns
    have hevents : ((t.settle c (verdict r)).record (.answered c (verdict r))).events =
        s.events ++ .started c :: (course.events ++ [.answered c (verdict r)]) := by
      show t.events ++ _ = _
      rw [hgoes.events_eq, Survey.record]
      simp
    have howned : owned [] ((t.settle c (verdict r)).record (.answered c (verdict r))).events =
        owned [] s.events ++ (callsOf .symlinks inside ++ callsOf c course.trials) := by
      rw [hevents, owned_append, h.idle, owned_probe, howns.owned_eq]
    -- All that is new is on paths that no earlier call can have named.
    have hwithin := howns.within_owned hgoes
    refine ⟨?_, ?_, ?_, ?_⟩
    · rw [hevents, List.foldl_append, h.idle, foldl_next_probe (howns.running_eq [])]
    · rw [howned, List.map_append, h.owned_eq, ← howns.calls_eq, Survey.calls, Survey.calls, hevents,
        List.filterMap_append, filterMap_call?_probe]
    · rw [howned]
      exact (h.within.mono (Nat.le_refl _) hgoes.scratchUsed_le).append
        (hwithin.mono (Nat.zero_le _) (Nat.le_refl _))
    · rw [howned]
      exact h.apart.append (howns.apart hgoes) h.within hwithin

theorem KeptApart.surveyed (h : p.KeptApart s) (cs : List Capability) :
    p.KeptApart (p.surveyed cs s) := by
  induction cs generalizing s with
  | nil => exact h
  | cons c cs ih => exact ih (h.supports c)

/-- **How probes keep to their plans.** -/
structure ProbesByPlan (p : Primitives σ) : Prop where
  /-- Every probe goes in one of the ways, and keeps to its plan. -/
  goes : ∀ c s, ∃ course, p.Goes c s course ((p.probe c).run s).1 ((p.probe c).run s).2 ∧
    p.KeepsToPlan c s course ((p.probe c).run s).1 ((p.probe c).run s).2
  /-- A capability that is probed for is reported only if its probe finds it. -/
  supports_iff : ∀ c s, s.answers c = none →
    ((p.supports c s).1 = true ↔ ((p.probe c).run (s.record (.started c))).1 = .ok true)
  /-- Whatever is asked of a new survey, its probes keep apart. -/
  keptApart : ∀ precision state questions,
    p.KeptApart (p.askAll questions (.start precision state)).2

/-- **Probes go by their plans**, whatever the operations that they try answer. -/
theorem probesByPlan (p : Primitives σ) : p.ProbesByPlan where
  goes c s := by
    obtain ⟨course, hgoes⟩ := exists_goes p c s
    exact ⟨course, hgoes, hgoes.keepsToPlan⟩
  supports_iff c s hanswer := by
    rcases hrun : (p.probe c).run (s.record (.started c)) with ⟨r, t⟩
    rw [Primitives.supports, settled_of_none hanswer hrun]
    exact verdict_eq_true_iff
  keptApart precision state questions := by
    rw [survey_askAll]
    exact (keptApart_start p precision state).surveyed _

end Primitives

end RestoreCheck

import RestoreCheck.Probe.Survey
import RestoreCheck.Proofs.Actions

/-!
# How a survey grows

Whatever is asked, a survey only grows: events are added, and a capability that is settled stays
settled with its answer.  `Survey.Grows` says this of one survey and a later one, with the events in
between: a probe starts only for a capability that is not settled yet, it is settled from then on,
and no probe starts twice.  Surveys that grow one after the other grow together
(`Survey.Grows.trans`).

Every step of a probe makes the survey grow, and so does every question (`growing_supports`).  The
probes of times ask for symbolic links on the way, and no probe asks for its own capability
(`Capability.MayAsk`): that is why none can start while it is running.
-/

namespace RestoreCheck

variable {σ α β : Type}

namespace Survey

/-- **How a survey grows** by new events, in which only some capabilities are probed. -/
structure Grows (probed : Capability → Prop) (s : Survey σ) (new : List ProbeEvent)
    (t : Survey σ) : Prop where
  /-- the precision is the same -/
  precision_eq : t.precision = s.precision
  /-- the new events come after the old ones -/
  events_eq : t.events = s.events ++ new
  /-- a probe that starts settles its capability, which was not settled before -/
  started : ∀ c, .started c ∈ new → probed c ∧ s.answers c = none ∧ t.answers c ≠ none
  /-- without its probe a capability stays as it was -/
  kept : ∀ c, .started c ∉ new → t.answers c = s.answers c
  /-- no probe starts twice -/
  once : ∀ c, new.count (.started c) ≤ 1
  /-- an answer that was given is the one that is kept -/
  told : ∀ c answer, .answered c answer ∈ new → t.answers c = some answer

variable {probed : Capability → Prop} {s t u : Survey σ} {new later : List ProbeEvent}

/-- Trying operations settles nothing. -/
theorem Grows.of_tried (calls : List ProbeCall) (hprecision : t.precision = s.precision)
    (hanswers : t.answers = s.answers) (hevents : t.events = s.events ++ calls.map .tried) :
    Grows probed s (calls.map .tried) t where
  precision_eq := hprecision
  events_eq := hevents
  started c hc := by simp at hc
  kept c _ := by rw [hanswers]
  once c := by
    rw [List.count_eq_zero.2]
    · exact Nat.zero_le 1
    · simp
  told c answer hc := by simp at hc

theorem Grows.refl (s : Survey σ) : Grows probed s [] s :=
  .of_tried [] rfl rfl (by rw [List.map_nil, List.append_nil])

/-- What is settled stays settled. -/
theorem Grows.answers_eq_some (h : Grows probed s new t) {c : Capability} {answer : Bool}
    (hc : s.answers c = some answer) : t.answers c = some answer := by
  by_cases hstarted : .started c ∈ new
  · have hnone := (h.started c hstarted).2.1
    rw [hc] at hnone
    cases hnone
  · rw [h.kept c hstarted, hc]

theorem Grows.answers_ne_none (h : Grows probed s new t) {c : Capability}
    (hc : s.answers c ≠ none) : t.answers c ≠ none := by
  obtain ⟨answer, hanswer⟩ := Option.ne_none_iff_exists'.1 hc
  rw [h.answers_eq_some hanswer]
  exact Option.some_ne_none answer

/-- What was not settled before is settled by its probe alone. -/
theorem Grows.started_iff (h : Grows probed s new t) {c : Capability} (hc : s.answers c = none) :
    .started c ∈ new ↔ t.answers c ≠ none := by
  constructor
  · intro hstarted
    exact (h.started c hstarted).2.2
  · intro hsettled
    by_cases hstarted : .started c ∈ new
    · exact hstarted
    · exact absurd ((h.kept c hstarted).trans hc) hsettled

theorem Grows.trans (h : Grows probed s new t) (h' : Grows probed t later u) :
    Grows probed s (new ++ later) u where
  precision_eq := by rw [h'.precision_eq, h.precision_eq]
  events_eq := by rw [h'.events_eq, h.events_eq, List.append_assoc]
  started c hc := by
    rcases List.mem_append.1 hc with hc | hc
    · obtain ⟨hprobed, hbefore, hafter⟩ := h.started c hc
      exact ⟨hprobed, hbefore, h'.answers_ne_none hafter⟩
    · obtain ⟨hprobed, hbefore, hafter⟩ := h'.started c hc
      exact ⟨hprobed, Decidable.byContradiction fun hs => h.answers_ne_none hs hbefore, hafter⟩
  kept c hc := by
    rw [List.mem_append, not_or] at hc
    rw [h'.kept c hc.2, h.kept c hc.1]
  once c := by
    rw [List.count_append]
    -- A probe that starts settles its capability, so it does not start again later.
    by_cases hc : .started c ∈ new
    · have hlater : .started c ∉ later := fun hc' =>
        (h.started c hc).2.2 (h'.started c hc').2.1
      have hcount := h.once c
      rw [List.count_eq_zero.2 hlater]
      omega
    · have hcount := h'.once c
      rw [List.count_eq_zero.2 hc]
      omega
  told c answer hc := by
    rcases List.mem_append.1 hc with hc | hc
    · exact h'.answers_eq_some (h.told c answer hc)
    · exact h'.told c answer hc

/-- The state of the files may be anything. -/
theorem Grows.with_state (h : Grows probed s new t) (state : σ) :
    Grows probed s new { t with state } where
  precision_eq := h.precision_eq
  events_eq := h.events_eq
  started := h.started
  kept := h.kept
  once := h.once
  told := h.told

/-- **A probe and the answer that is kept of it** make a survey grow, if the probe does and does not
ask for its own capability. -/
theorem Grows.settle {c : Capability} {answer : Bool} {all : Capability → Prop}
    (hnone : s.answers c = none) (h : Grows probed (s.record (.started c)) new t)
    (hself : ¬probed c) (hall : ∀ d, probed d → all d) (hc : all c) :
    Grows all s (.started c :: new ++ [.answered c answer])
      ((t.settle c answer).record (.answered c answer)) := by
  have hnew : .started c ∉ new := fun hmem => hself (h.started c hmem).1
  have hanswers (d : Capability) : ((t.settle c answer).record (.answered c answer)).answers d =
      if d = c then some answer else t.answers d := rfl
  refine ⟨h.precision_eq, ?_, ?_, ?_, ?_, ?_⟩
  · show t.events ++ [.answered c answer] = _
    rw [h.events_eq]
    simp [record]
  · intro d hd
    rw [hanswers]
    by_cases hdc : d = c
    · rw [hdc, if_pos rfl]
      exact ⟨hc, hnone, Option.some_ne_none answer⟩
    · rw [if_neg hdc]
      obtain ⟨hprobed, hbefore, hafter⟩ := h.started d (by simpa [hdc] using hd)
      exact ⟨hall d hprobed, hbefore, hafter⟩
  · intro d hd
    have hdc : d ≠ c := by
      rintro rfl
      simp at hd
    rw [hanswers, if_neg hdc]
    exact h.kept d (by simpa [hdc] using hd)
  · intro d
    rw [List.count_append, List.count_cons]
    by_cases hdc : d = c
    · subst hdc
      rw [List.count_eq_zero.2 hnew]
      simp
    · have hcount := h.once d
      have hne : ProbeEvent.started c ≠ .started d := fun heq =>
        hdc (ProbeEvent.started.inj heq).symm
      simp [hne, hcount]
  · intro d b hd
    rw [hanswers]
    by_cases hdc : d = c
    · subst hdc
      rw [if_pos rfl]
      have hnone' : t.answers d = none := by rw [h.kept d hnew]; exact hnone
      simp only [List.cons_append, List.mem_cons, reduceCtorEq, List.mem_append, false_or,
        List.not_mem_nil, or_false, ProbeEvent.answered.injEq, true_and] at hd
      rcases hd with hd | hd
      · -- Nothing answers for a capability while its own probe runs.
        rw [h.told d b hd] at hnone'
        cases hnone'
      · rw [hd]
    · rw [if_neg hdc]
      exact h.told d b (by simpa [hdc] using hd)

end Survey

/-! ### Actions that make surveys grow -/

/-- **An action that makes every survey grow.** -/
def Growing (probed : Capability → Prop) (x : Asking σ α) : Prop :=
  ∀ s, ∃ new, Survey.Grows probed s new (x s).2

section

variable {probed : Capability → Prop}

/-- A step of a probe makes surveys grow if its parts do, of which the second is left out if the
first one fails. -/
theorem Growing.andThen {x : Probing σ α} {f : α → Probing σ β} (hx : Growing probed x.run)
    (hf : ∀ a, Growing probed (f a).run) : Growing probed (x >>= f).run := by
  intro s
  obtain ⟨new, hnew⟩ := hx s
  obtain ⟨r, t, hrun⟩ : ∃ r t, x.run s = (r, t) := ⟨_, _, rfl⟩
  rw [hrun] at hnew
  cases r with
  | error e =>
    rw [run_bind_of_error hrun]
    exact ⟨new, hnew⟩
  | ok a =>
    obtain ⟨later, hlater⟩ := hf a t
    rw [run_bind_of_ok hrun]
    exact ⟨new ++ later, hnew.trans hlater⟩

theorem Growing.lift {x : Asking σ α} (h : Growing probed x) :
    Growing probed (liftM x : Probing σ α).run := by
  intro s
  obtain ⟨new, hnew⟩ := h s
  exact ⟨new, hnew⟩

theorem Growing.done (a : α) : Growing probed (Pure.pure a : Probing σ α).run :=
  fun s => ⟨[], .refl s⟩

end

namespace Primitives

variable {p : Primitives σ} {probed : Capability → Prop}

theorem growing_gate (f : σ → Bool × σ) : Growing probed (gate f).run := by
  intro s
  have hrun : gate f s = (.ok (f s.state).1, { s with state := (f s.state).2 }) := rfl
  refine ⟨[], ?_⟩
  show Survey.Grows probed s [] (gate f s).2
  rw [hrun]
  exact (Survey.Grows.refl s).with_state _

theorem growing_attempt (call : ProbeCall) (f : σ → Except Fault α × σ) :
    Growing probed (attempt call f).run := by
  intro s
  exact ⟨[.tried call], Survey.Grows.of_tried [call] rfl rfl rfl⟩

theorem growing_openPlace : Growing probed p.openPlace.run := by
  intro s
  exact ⟨[], Survey.Grows.of_tried [] rfl rfl (List.append_nil _).symm⟩

theorem growing_closingPlace {n : Nat} {step : Probing σ α} (h : Growing probed step.run) :
    Growing probed (p.closingPlace n step).run := by
  intro s
  obtain ⟨new, hnew⟩ := h s
  exact ⟨new, hnew.with_state _⟩

theorem growing_withScratch {step : Path → Probing σ α}
    (h : ∀ path, Growing probed (step path).run) : Growing probed (p.withScratch step).run :=
  growing_openPlace.andThen fun n => growing_closingPlace (h (p.scratch n))

/-! ### Answers -/

/-- A capability that is settled is not probed again. -/
theorem settled_of_some {c : Capability} {probe : Probing σ Bool} {s : Survey σ} {answer : Bool}
    (h : s.answers c = some answer) :
    settled c probe s = (answer, s.record (.answered c answer)) := by
  unfold settled
  dsimp only [bind, StateT.bind, get, getThe, MonadStateOf.get, StateT.get, pure]
  rw [h]
  rfl

/-- What a probe that came to its end, or did not, says about its capability. -/
def verdict : Except Fault Bool → Bool
  | .ok answer => answer
  | .error _ => false

theorem verdict_eq_true_iff {r : Except Fault Bool} : verdict r = true ↔ r = .ok true := by
  cases r with
  | error cause => simp [verdict]
  | ok answer => simp [verdict]

/-- A capability that is not settled is probed. -/
theorem settled_of_none {c : Capability} {probe : Probing σ Bool} {s t : Survey σ}
    {r : Except Fault Bool} (h : s.answers c = none)
    (hprobe : probe.run (s.record (.started c)) = (r, t)) :
    settled c probe s =
      (verdict r, (t.settle c (verdict r)).record (.answered c (verdict r))) := by
  unfold settled
  dsimp only [bind, StateT.bind, get, getThe, MonadStateOf.get, StateT.get, pure]
  rw [h]
  show (fun r : Except Fault Bool × Survey σ =>
    give c (verdict r.1) (r.2.settle c (verdict r.1))) (probe.run (s.record (.started c))) = _
  rw [hprobe]
  rfl

/-- **An answer makes a survey grow**, if the probe does and does not ask for its own capability. -/
theorem growing_settled {all : Capability → Prop} {c : Capability} {probe : Probing σ Bool}
    (h : Growing probed probe.run) (hself : ¬probed c) (hall : ∀ d, probed d → all d) (hc : all c) :
    Growing all (settled c probe) := by
  intro s
  cases hanswer : s.answers c with
  | some answer =>
    rw [settled_of_some hanswer]
    refine ⟨[.answered c answer], rfl, rfl, ?_, ?_, ?_, ?_⟩
    · intro d hd
      simp at hd
    · intro d hd
      rfl
    · intro d
      simp
    · intro d b hd
      obtain ⟨rfl, rfl⟩ : d = c ∧ b = answer := by simpa using hd
      exact hanswer
  | none =>
    obtain ⟨r, t, hrun⟩ : ∃ r t, probe.run (s.record (.started c)) = (r, t) := ⟨_, _, rfl⟩
    obtain ⟨new, hnew⟩ := h (s.record (.started c))
    rw [hrun] at hnew
    rw [settled_of_none hanswer hrun]
    exact ⟨_, hnew.settle hanswer hself hall hc⟩

/-- The answer that is given is the one that is kept. -/
theorem answers_settled (c : Capability) (probe : Probing σ Bool) (s : Survey σ) :
    (settled c probe s).2.answers c = some (settled c probe s).1 := by
  cases hanswer : s.answers c with
  | some answer =>
    rw [settled_of_some hanswer]
    exact hanswer
  | none =>
    obtain ⟨r, t, hrun⟩ : ∃ r t, probe.run (s.record (.started c)) = (r, t) := ⟨_, _, rfl⟩
    rw [settled_of_none hanswer hrun]
    exact if_pos rfl

end Primitives

/-! ### The probes -/

/-- **Which capabilities the probe of a capability may ask for.** -/
def Capability.MayAsk (c d : Capability) : Prop :=
  d = .symlinks ∧ (c = .utime ∨ c = .birthTime)

theorem Capability.not_mayAsk_self (c : Capability) : ¬c.MayAsk c := by
  rintro ⟨rfl, h | h⟩ <;> cases h

namespace Primitives

variable {p : Primitives σ} {probed : Capability → Prop}

theorem growing_symlinkProbe : Growing probed p.symlinkProbe.run :=
  growing_withScratch fun _ => (growing_attempt _ _).andThen fun _ =>
    (growing_attempt _ _).andThen fun _ => (growing_attempt _ _).andThen fun _ => .done _

theorem growing_symlinks (h : probed .symlinks) : Growing probed p.symlinks := by
  have hprobe : Growing (fun _ => False) p.symlinkProbe.run := growing_symlinkProbe
  exact growing_settled hprobe id (fun _ => False.elim) h

theorem growing_makeEntry (h : probed .symlinks) (path : Path) :
    Growing probed (p.makeEntry path).run := by
  refine (growing_symlinks h).lift.andThen fun b => ?_
  cases b with
  | true => exact growing_attempt _ _
  | false => exact growing_attempt _ _

/-- A probe behind a gate that is closed does nothing more. -/
theorem growing_gated (f : σ → Bool × σ) {probe : Probing σ Bool} (h : Growing probed probe.run) :
    Growing probed (gate f >>= fun isOpen => if !isOpen then Pure.pure false else probe).run := by
  refine (growing_gate f).andThen fun isOpen => ?_
  cases isOpen with
  | false => exact .done false
  | true => exact h

theorem growing_hardLinkProbe : Growing probed p.hardLinkProbe.run := by
  refine growing_gated _ (growing_withScratch fun first => growing_withScratch fun second => ?_)
  refine (growing_attempt _ _).andThen fun _ => (growing_attempt _ _).andThen fun _ => ?_
  exact (growing_attempt _ _).andThen fun _ => (growing_attempt _ _).andThen fun _ => .done _

theorem growing_fifoProbe : Growing probed p.fifoProbe.run :=
  growing_withScratch fun _ => (growing_attempt _ _).andThen fun _ => .done _

theorem growing_utimeProbe (h : probed .symlinks) : Growing probed p.utimeProbe.run := by
  refine growing_withScratch fun path => (growing_makeEntry h path).andThen fun _ => ?_
  exact (growing_attempt _ _).andThen fun _ => (growing_attempt _ _).andThen fun _ => .done _

theorem growing_birthTimeProbe (h : probed .symlinks) : Growing probed p.birthTimeProbe.run := by
  refine growing_gated _ (growing_withScratch fun path => ?_)
  refine (growing_makeEntry h path).andThen fun _ => (growing_attempt _ _).andThen fun _ => ?_
  exact (growing_attempt _ _).andThen fun _ => (growing_attempt _ _).andThen fun _ => .done _

theorem growing_flagProbe : Growing probed p.flagProbe.run := by
  refine growing_gated _ (growing_withScratch fun path => ?_)
  exact (growing_attempt _ _).andThen fun _ => (growing_attempt _ _).andThen fun _ => .done _

/-- **What a probe asks on the way.** -/
theorem growing_probe (c : Capability) : Growing c.MayAsk (p.probe c).run := by
  cases c with
  | symlinks => exact growing_symlinkProbe
  | hardLinks => exact growing_hardLinkProbe
  | fifos => exact growing_fifoProbe
  | utime => exact growing_utimeProbe ⟨rfl, .inl rfl⟩
  | birthTime => exact growing_birthTimeProbe ⟨rfl, .inr rfl⟩
  | flags => exact growing_flagProbe

/-- **Every question makes a survey grow.** -/
theorem growing_supports (c : Capability) : Growing (fun _ => True) (p.supports c) :=
  growing_settled (growing_probe c) c.not_mayAsk_self (fun _ _ => trivial) trivial

end Primitives

end RestoreCheck

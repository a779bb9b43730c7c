import RestoreCheck.Proofs.Probe.Growth

/-!
# Asking questions

A survey is asked any questions, one after the other: for one capability, or for all of them.  The
primitives that are tried may answer differently every time.  Still every answer for a capability is
the first one that was given for it, to whoever asked or to a probe; each probe runs once at most;
and a question about capabilities that are all settled does nothing to the files, so that after one
snapshot nothing is tried any more (`Primitives.answersOnce`).
-/

namespace RestoreCheck

variable {σ : Type}

/-- A question to a survey. -/
inductive Question where
  /-- whether a capability is there -/
  | supports (c : Capability)
  /-- which capabilities there are, and how finely times are rounded -/
  | snapshot
deriving DecidableEq

/-- The capabilities that a question is about. -/
def Question.capabilities : Question → List Capability
  | supports c => [c]
  | snapshot => Capability.all

/-- The reply to a question. -/
inductive Reply where
  | supports (c : Capability) (answer : Bool)
  | snapshot (capabilities : Capabilities)

/-- Whether a reply gives an answer for a capability. -/
def Reply.Gives (c : Capability) (answer : Bool) : Reply → Prop
  | supports d b => d = c ∧ b = answer
  | snapshot capabilities => capabilities.supports c = answer

namespace Survey

/-- **A survey that only told what it knew**: answers were given, and nothing else happened. -/
def Rests (s t : Survey σ) : Prop :=
  ∃ given : List (Capability × Bool),
    t = { s with events := s.events ++ given.map fun e => .answered e.1 e.2 }

variable {s t u : Survey σ}

theorem Rests.refl (s : Survey σ) : Rests s s :=
  ⟨[], by rw [List.map_nil, List.append_nil]⟩

theorem Rests.trans (h : Rests s t) (h' : Rests t u) : Rests s u := by
  obtain ⟨given, rfl⟩ := h
  obtain ⟨given', rfl⟩ := h'
  exact ⟨given ++ given', by rw [List.map_append, ← List.append_assoc]⟩

theorem Rests.answers_eq (h : Rests s t) : t.answers = s.answers := by
  obtain ⟨given, rfl⟩ := h
  rfl

/-- Nothing was tried. -/
theorem Rests.calls_eq (h : Rests s t) : t.calls = s.calls := by
  obtain ⟨given, rfl⟩ := h
  have hnone : (given.map fun e => .answered e.1 e.2).filterMap ProbeEvent.call? = [] := by
    simp [List.filterMap_eq_nil_iff, ProbeEvent.call?]
  rw [calls, List.filterMap_append, hnone, List.append_nil, calls]

theorem exists_firstAnswer?_of_mem {c : Capability} {answer : Bool}
    (h : .answered c answer ∈ s.events) : ∃ first, s.firstAnswer? c = some first := by
  rw [← Option.isSome_iff_exists, firstAnswer?, List.findSome?_isSome_iff]
  exact ⟨_, h, by rw [ProbeEvent.answer?, if_pos rfl]; rfl⟩

theorem answered_mem_of_firstAnswer? {c : Capability} {first : Bool}
    (h : s.firstAnswer? c = some first) : .answered c first ∈ s.events := by
  obtain ⟨e, he, hfirst⟩ := List.exists_of_findSome?_eq_some h
  cases e with
  | started d => cases hfirst
  | tried call => cases hfirst
  | answered d answer =>
    rw [ProbeEvent.answer?] at hfirst
    split at hfirst
    · rename_i hd
      cases hfirst
      exact hd ▸ he
    · cases hfirst

end Survey

namespace Primitives

variable (p : Primitives σ)

/-- Asks a question. -/
def ask : Question → Asking σ Reply
  | .supports c => return .supports c (← p.supports c)
  | .snapshot => return .snapshot (← p.snapshot)

/-- Asks questions one after the other. -/
def askAll : List Question → Asking σ (List Reply)
  | [] => return []
  | q :: rest => do
    let reply ← p.ask q
    let replies ← askAll rest
    return reply :: replies

variable {p}

/-! ### One question -/

theorem answered_mem_supports (c : Capability) (s : Survey σ) :
    .answered c (p.supports c s).1 ∈ (p.supports c s).2.events := by
  unfold supports
  cases hanswer : s.answers c with
  | some answer =>
    rw [settled_of_some hanswer]
    exact List.mem_append_right _ List.mem_cons_self
  | none =>
    obtain ⟨r, t, hrun⟩ : ∃ r t, (p.probe c).run (s.record (.started c)) = (r, t) := ⟨_, _, rfl⟩
    rw [settled_of_none hanswer hrun]
    exact List.mem_append_right _ List.mem_cons_self

theorem mem_events_supports {e : ProbeEvent} {s : Survey σ} (c : Capability) (he : e ∈ s.events) :
    e ∈ (p.supports c s).2.events := by
  obtain ⟨new, hnew⟩ := growing_supports (p := p) c s
  rw [hnew.events_eq]
  exact List.mem_append_left new he

theorem precision_supports (c : Capability) (s : Survey σ) :
    (p.supports c s).2.precision = s.precision := by
  obtain ⟨new, hnew⟩ := growing_supports (p := p) c s
  exact hnew.precision_eq

theorem rests_supports {c : Capability} {s : Survey σ} (h : s.answers c ≠ none) :
    s.Rests (p.supports c s).2 := by
  obtain ⟨answer, hanswer⟩ := Option.ne_none_iff_exists'.1 h
  unfold supports
  rw [settled_of_some hanswer]
  exact ⟨[(c, answer)], rfl⟩

/-- The survey after questions about several capabilities. -/
def surveyed (p : Primitives σ) (cs : List Capability) (s : Survey σ) : Survey σ :=
  cs.foldl (fun s c => (p.supports c s).2) s

theorem mem_events_surveyed {e : ProbeEvent} {s : Survey σ} (cs : List Capability)
    (he : e ∈ s.events) : e ∈ (p.surveyed cs s).events := by
  induction cs generalizing s with
  | nil => exact he
  | cons c cs ih => exact ih (mem_events_supports c he)

theorem precision_surveyed (cs : List Capability) (s : Survey σ) :
    (p.surveyed cs s).precision = s.precision := by
  induction cs generalizing s with
  | nil => rfl
  | cons c cs ih => exact (ih _).trans (precision_supports c s)

theorem rests_surveyed {cs : List Capability} {s : Survey σ} (h : ∀ c ∈ cs, s.answers c ≠ none) :
    s.Rests (p.surveyed cs s) := by
  induction cs generalizing s with
  | nil => exact .refl s
  | cons c cs ih =>
    have hfirst := rests_supports (p := p) (h c List.mem_cons_self)
    refine hfirst.trans (ih fun d hd => ?_)
    rw [hfirst.answers_eq]
    exact h d (List.mem_cons_of_mem c hd)

theorem surveyed_append_cons (before after : List Capability) (c : Capability) (s : Survey σ) :
    p.surveyed (before ++ c :: after) s =
      p.surveyed after (p.supports c (p.surveyed before s)).2 := by
  rw [surveyed, List.foldl_append, List.foldl_cons]
  rfl

/-- The capabilities that a snapshot asks for before another one. -/
def earlier (c : Capability) : List Capability :=
  Capability.all.takeWhile (· ≠ c)

theorem exists_all_eq (c : Capability) : ∃ after, Capability.all = earlier c ++ c :: after := by
  cases c with
  | symlinks => exact ⟨[.hardLinks, .fifos, .utime, .birthTime, .flags], rfl⟩
  | hardLinks => exact ⟨[.fifos, .utime, .birthTime, .flags], rfl⟩
  | fifos => exact ⟨[.utime, .birthTime, .flags], rfl⟩
  | utime => exact ⟨[.birthTime, .flags], rfl⟩
  | birthTime => exact ⟨[.flags], rfl⟩
  | flags => exact ⟨[], rfl⟩

/-- The answers of a snapshot, each from the survey that the questions before it have left. -/
def snapshotAnswer (p : Primitives σ) (s : Survey σ) (c : Capability) : Bool :=
  (p.supports c (p.surveyed (earlier c) s)).1

/-- **A snapshot asks for every capability in turn.** -/
theorem snapshot_eq (s : Survey σ) :
    p.snapshot s =
      (.ofAnswers (p.snapshotAnswer s) s.precision, p.surveyed Capability.all s) := by
  rw [← precision_surveyed (p := p) Capability.all s]
  rfl

theorem answered_mem_surveyed (s : Survey σ) (c : Capability) :
    .answered c (p.snapshotAnswer s c) ∈ (p.surveyed Capability.all s).events := by
  obtain ⟨after, hall⟩ := exists_all_eq c
  rw [hall, surveyed_append_cons]
  exact mem_events_surveyed after (answered_mem_supports c _)

theorem ask_snapshot (s : Survey σ) :
    p.ask .snapshot s =
      (.snapshot (.ofAnswers (p.snapshotAnswer s) s.precision), p.surveyed Capability.all s) := by
  show (fun r : Capabilities × Survey σ => (Reply.snapshot r.1, r.2)) (p.snapshot s) = _
  rw [snapshot_eq]

/-- A question leaves what asking for its capabilities leaves. -/
theorem survey_ask (q : Question) (s : Survey σ) :
    (p.ask q s).2 = p.surveyed q.capabilities s := by
  cases q with
  | supports c => rfl
  | snapshot => rw [ask_snapshot]; rfl

/-- The answers in a reply were given. -/
theorem answered_mem_ask {q : Question} {s : Survey σ} {c : Capability} {answer : Bool}
    (h : (p.ask q s).1.Gives c answer) : .answered c answer ∈ (p.ask q s).2.events := by
  cases q with
  | supports d =>
    obtain ⟨rfl, rfl⟩ := h
    exact answered_mem_supports d s
  | snapshot =>
    rw [ask_snapshot] at h ⊢
    rw [Reply.Gives, Capabilities.supports_ofAnswers] at h
    rw [← h]
    exact answered_mem_surveyed s c

theorem precision_of_ask_eq_snapshot {q : Question} {s : Survey σ} {k : Capabilities}
    (h : (p.ask q s).1 = .snapshot k) : k.precision = s.precision := by
  cases q with
  | supports d => cases h
  | snapshot =>
    rw [ask_snapshot] at h
    cases h
    rfl

/-! ### Many questions -/

theorem growing_surveyed (cs : List Capability) (s : Survey σ) :
    ∃ new, s.Grows (fun _ => True) new (p.surveyed cs s) := by
  induction cs generalizing s with
  | nil => exact ⟨[], .refl s⟩
  | cons c cs ih =>
    obtain ⟨new, hnew⟩ := growing_supports (p := p) c s
    obtain ⟨later, hlater⟩ := ih (p.supports c s).2
    exact ⟨new ++ later, hnew.trans hlater⟩

/-- What was asked for is settled. -/
theorem answers_surveyed_ne_none {cs : List Capability} {c : Capability} (hc : c ∈ cs)
    (s : Survey σ) : (p.surveyed cs s).answers c ≠ none := by
  obtain ⟨before, after, rfl⟩ := List.append_of_mem hc
  obtain ⟨new, hnew⟩ := growing_surveyed (p := p) after (p.supports c (p.surveyed before s)).2
  rw [surveyed_append_cons]
  refine hnew.answers_ne_none ?_
  rw [supports, answers_settled]
  exact Option.some_ne_none _

/-- Questions leave what asking for their capabilities leaves. -/
theorem survey_askAll (qs : List Question) (s : Survey σ) :
    (p.askAll qs s).2 = p.surveyed (qs.flatMap Question.capabilities) s := by
  induction qs generalizing s with
  | nil => rfl
  | cons q qs ih =>
    show (p.askAll qs (p.ask q s).2).2 = _
    rw [ih, survey_ask, List.flatMap_cons, surveyed, surveyed, surveyed, List.foldl_append]

/-- Questions make a survey grow. -/
theorem growing_askAll (qs : List Question) (s : Survey σ) :
    ∃ new, s.Grows (fun _ => True) new (p.askAll qs s).2 := by
  rw [survey_askAll]
  exact growing_surveyed _ s

/-- A new survey grows by all its events. -/
theorem grows_askAll_start (p : Primitives σ) (precision : Precision) (state : σ)
    (qs : List Question) :
    (Survey.start precision state).Grows (fun _ => True)
      (p.askAll qs (.start precision state)).2.events
      (p.askAll qs (.start precision state)).2 := by
  obtain ⟨new, hnew⟩ := growing_askAll (p := p) qs (.start precision state)
  have hevents : (p.askAll qs (.start precision state)).2.events = new := hnew.events_eq
  rw [hevents]
  exact hnew

/-- Every reply is one to a question that was asked of some survey on the way. -/
theorem exists_of_mem_askAll {qs : List Question} {s : Survey σ} {reply : Reply}
    (h : reply ∈ (p.askAll qs s).1) :
    ∃ before q after, qs = before ++ q :: after ∧ reply = (p.ask q (p.askAll before s).2).1 := by
  induction qs generalizing s with
  | nil => cases h
  | cons q qs ih =>
    rcases List.mem_cons.1 (show reply ∈ (p.ask q s).1 :: (p.askAll qs (p.ask q s).2).1 from h)
      with rfl | h
    · exact ⟨[], q, qs, rfl, rfl⟩
    · obtain ⟨before, q', after, rfl, rfl⟩ := ih h
      exact ⟨q :: before, q', after, rfl, rfl⟩

/-- The answers in replies were given. -/
theorem answered_mem_askAll {qs : List Question} {s : Survey σ} {reply : Reply} {c : Capability}
    {answer : Bool} (hreply : reply ∈ (p.askAll qs s).1) (h : reply.Gives c answer) :
    .answered c answer ∈ (p.askAll qs s).2.events := by
  obtain ⟨before, q, after, rfl, rfl⟩ := exists_of_mem_askAll hreply
  obtain ⟨new, hnew⟩ := growing_surveyed (p := p) (after.flatMap Question.capabilities)
    (p.ask q (p.askAll before s).2).2
  have hlast : (p.askAll (before ++ q :: after) s).2 =
      p.surveyed (after.flatMap Question.capabilities) (p.ask q (p.askAll before s).2).2 := by
    rw [survey_askAll, survey_ask, survey_askAll]
    simp only [surveyed, List.flatMap_append, List.flatMap_cons, List.foldl_append]
  rw [hlast, hnew.events_eq]
  exact List.mem_append_left new (answered_mem_ask h)

/-- **How the questions to one survey are answered.** -/
structure AnswersOnce (p : Primitives σ) (precision : Precision) (questions : List Question)
    (replies : List Reply) (s : Survey σ) : Prop where
  /-- No probe runs twice, whoever asks for its capability. -/
  started_once : ∀ c, s.events.count (.started c) ≤ 1
  /-- Every answer for a capability, also one that a probe uses, is the first that was given. -/
  answered_first : ∀ c answer, .answered c answer ∈ s.events → s.firstAnswer? c = some answer
  /-- So is every answer in a reply. -/
  replied_first : ∀ reply ∈ replies, ∀ c answer, reply.Gives c answer →
    s.firstAnswer? c = some answer
  /-- Every snapshot has the precision of the survey. -/
  precision_eq : ∀ k, .snapshot k ∈ replies → k.precision = precision
  /-- A further question about capabilities that are all settled does nothing. -/
  rests : ∀ q, (∀ c ∈ q.capabilities, s.answers c ≠ none) → s.Rests (p.ask q s).2
  /-- After a snapshot no further question does anything. -/
  rests_after_snapshot : .snapshot ∈ questions → ∀ q, s.Rests (p.ask q s).2

/-- **Probes run once at most, and answers never change.** -/
theorem answersOnce (p : Primitives σ) (precision : Precision) (state : σ)
    (questions : List Question) :
    p.AnswersOnce precision questions (p.askAll questions (.start precision state)).1
      (p.askAll questions (.start precision state)).2 := by
  have hgrows := p.grows_askAll_start precision state questions
  have hfirst (c : Capability) (answer : Bool)
      (h : .answered c answer ∈ (p.askAll questions (.start precision state)).2.events) :
      (p.askAll questions (.start precision state)).2.firstAnswer? c = some answer := by
    obtain ⟨first, hsome⟩ := Survey.exists_firstAnswer?_of_mem h
    have hkept := hgrows.told c answer h
    rw [hgrows.told c first (Survey.answered_mem_of_firstAnswer? hsome)] at hkept
    rw [hsome, hkept]
  have hrests (q : Question)
      (hq : ∀ c ∈ q.capabilities,
        (p.askAll questions (.start precision state)).2.answers c ≠ none) :
      (p.askAll questions (.start precision state)).2.Rests
        (p.ask q (p.askAll questions (.start precision state)).2).2 := by
    rw [survey_ask]
    exact rests_surveyed hq
  refine ⟨hgrows.once, hfirst, ?_, ?_, hrests, ?_⟩
  · intro reply hreply c answer h
    exact hfirst c answer (answered_mem_askAll hreply h)
  · intro k hk
    obtain ⟨before, q, after, -, hq⟩ := exists_of_mem_askAll hk
    rw [precision_of_ask_eq_snapshot hq.symm, survey_askAll, precision_surveyed]
    rfl
  · intro hsnapshot q
    refine hrests q fun c _ => ?_
    rw [survey_askAll]
    exact answers_surveyed_ne_none
      (List.mem_flatMap_of_mem hsnapshot (show c ∈ Capability.all from c.mem_all)) _

end Primitives

end RestoreCheck

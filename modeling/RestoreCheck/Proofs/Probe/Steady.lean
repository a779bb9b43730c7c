import RestoreCheck.Proofs.Probe.Questions

/-!
# Asking in any order

Primitives may always respond alike, whatever was tried before (`Primitives.Responds`).  Then the
order of the questions makes no difference: what a probe finds out follows from the responses alone
(`Responses.outcome`), also where it asks for symbolic links on the way, which may or may not be
settled by then.  So every answer is the one that a new survey would give, and the probes that start
are those of the capabilities that were asked for and of symbolic links where another probe needed
them (`Primitives.Responds.orderIndependent`).

The work is done for one step at a time.  A survey is true to the responses if every answer that was
kept is the one that follows from them (`Survey.TrueTo`), and a step is steady if it keeps surveys
true, gives a result that does not depend on the survey, and settles what it is said to settle
(`Steady`).
-/

namespace RestoreCheck

variable {σ α β : Type}

/-- What operations always respond. -/
structure Responses where
  /-- whether hard links can be made at all -/
  hasHardLinks : Bool
  /-- whether a file's status has a birth time -/
  hasBirthTime : Bool
  /-- whether there is a call that sets flags -/
  hasFlags : Bool
  symlink : Except Fault Unit
  readLink : Except Fault Path
  createFile : Except Fault Unit
  hardLink : Except Fault Unit
  makeFifo : Except Fault Unit
  lstat : Except Fault ProbeStatus
  stat : Except Fault ProbeStatus
  setTimes : Except Fault Unit
  setNodump : Except Fault Unit
  /-- whether scratch places can be opened -/
  openScratch : Except Fault Unit

/-- **Primitives that always respond alike**, whatever they are tried on and after. -/
structure Primitives.Responds (p : Primitives σ) (r : Responses) : Prop where
  hasHardLinks : ∀ s, (p.hasHardLinks s).1 = r.hasHardLinks
  hasBirthTime : ∀ s, (p.hasBirthTime s).1 = r.hasBirthTime
  hasFlags : ∀ s, (p.hasFlags s).1 = r.hasFlags
  symlink : ∀ target link s, (p.symlink target link s).1 = r.symlink
  readLink : ∀ path s, (p.readLink path s).1 = r.readLink
  createFile : ∀ path s, (p.createFile path s).1 = r.createFile
  hardLink : ∀ existing link s, (p.hardLink existing link s).1 = r.hardLink
  makeFifo : ∀ path s, (p.makeFifo path s).1 = r.makeFifo
  lstat : ∀ path s, (p.lstat path s).1 = r.lstat
  stat : ∀ path s, (p.stat path s).1 = r.stat
  setTimes : ∀ path accessed modified s, (p.setTimes path accessed modified s).1 = r.setTimes
  setNodump : ∀ path s, (p.setNodump path s).1 = r.setNodump
  openScratch : ∀ n s, (p.openScratch n s).1 = r.openScratch

namespace Responses

/-- Primitives that know nothing but their responses, with scratch places below a directory. -/
def primitives (r : Responses) (temp : Path) : Primitives Unit where
  hasHardLinks s := (r.hasHardLinks, s)
  hasBirthTime s := (r.hasBirthTime, s)
  hasFlags s := (r.hasFlags, s)
  symlink _ _ s := (r.symlink, s)
  readLink _ s := (r.readLink, s)
  createFile _ s := (r.createFile, s)
  hardLink _ _ s := (r.hardLink, s)
  makeFifo _ s := (r.makeFifo, s)
  lstat _ s := (r.lstat, s)
  stat _ s := (r.stat, s)
  setTimes _ _ _ s := (r.setTimes, s)
  setNodump _ s := (r.setNodump, s)
  scratch := Scratch.path temp
  openScratch _ s := (r.openScratch, s)
  closeScratch _ s := s
  scratch_injective := @Scratch.path_injective temp

theorem responds_primitives (r : Responses) (temp : Path) : (r.primitives temp).Responds r := by
  constructor <;> intros <;> rfl

/-! ### What follows from the responses -/

variable (r : Responses)

/-- What the probe of symbolic links finds out. -/
def symlinkOutcome : Except Fault Bool := do
  r.openScratch
  r.symlink
  let _ ← r.lstat
  return (← r.readLink).same Primitives.linkTarget

/-- Whether an entry can be made on which times are set. -/
def entryOutcome : Except Fault Unit :=
  if Primitives.verdict r.symlinkOutcome then r.symlink else r.createFile

/-- **What the probe of a capability finds out.** -/
def outcome : Capability → Except Fault Bool
  | .symlinks => r.symlinkOutcome
  | .hardLinks =>
    if !r.hasHardLinks then
      return false
    else do
      r.openScratch
      r.openScratch
      r.createFile
      r.hardLink
      let a ← r.stat
      let b ← r.stat
      return a.nlink = 2 && b.nlink = 2 && a.number = b.number
  | .fifos => do
    r.openScratch
    r.makeFifo
    return true
  | .utime => do
    r.openScratch
    r.entryOutcome
    r.setTimes
    let status ← r.lstat
    return status.accessed = Primitives.atSecond 1000 && status.modified = Primitives.atSecond 2000
  | .birthTime =>
    if !r.hasBirthTime then
      return false
    else do
      r.openScratch
      r.entryOutcome
      r.setTimes
      r.setTimes
      let status ← r.lstat
      return status.born = some (Primitives.atSecond Primitives.birthDay)
        && status.modified = Primitives.atSecond Primitives.changeDay
        && status.accessed = Primitives.atSecond Primitives.accessDay
  | .flags =>
    if !r.hasFlags then
      return false
    else do
      r.openScratch
      r.createFile
      r.setNodump
      return true

/-- The answer for a capability. -/
def answer (c : Capability) : Bool :=
  Primitives.verdict (r.outcome c)

/-- **Whether the probe of one capability needs the answer for another.**  Times are set on an
entry, which is a symbolic link if possible, and there is none without a scratch place. -/
def Needs (c d : Capability) : Prop :=
  d = .symlinks ∧ r.openScratch = .ok () ∧ (c = .utime ∨ c = .birthTime ∧ r.hasBirthTime = true)

variable {r}

theorem not_needs {c d : Capability} (hutime : c ≠ .utime) (hbirth : c ≠ .birthTime) :
    ¬r.Needs c d := by
  rintro ⟨-, -, h | ⟨h, -⟩⟩
  · exact hutime h
  · exact hbirth h

end Responses

/-! ### Steady steps -/

/-- **A survey that is true to responses**: what it kept follows from them, and what that needed is
settled as well. -/
structure Survey.TrueTo (r : Responses) (s : Survey σ) : Prop where
  answers_eq : ∀ c answer, s.answers c = some answer → answer = r.answer c
  needed : ∀ c d, r.Needs c d → s.answers c ≠ none → s.answers d ≠ none

variable {r : Responses}

theorem Survey.TrueTo.congr {s t : Survey σ} (h : s.TrueTo r) (ht : t.answers = s.answers) :
    t.TrueTo r where
  answers_eq := by rw [ht]; exact h.answers_eq
  needed := by rw [ht]; exact h.needed

theorem Survey.trueTo_start (precision : Precision) (state : σ) :
    (Survey.start precision state).TrueTo r where
  answers_eq _ _ h := nomatch h
  needed _ _ _ h := absurd rfl h

theorem Survey.answers_settle_ne_none {s : Survey σ} {c d : Capability} {answer : Bool} :
    (s.settle c answer).answers d ≠ none ↔ d = c ∨ s.answers d ≠ none := by
  show (if d = c then some answer else s.answers d) ≠ none ↔ _
  by_cases hd : d = c <;> simp [hd]

/-- **An action that always has the same result** and settles the same capabilities. -/
def Steady (r : Responses) (settles : Capability → Prop) (x : Asking σ α) (result : α) : Prop :=
  ∀ s : Survey σ, s.TrueTo r → (x s).1 = result ∧ (x s).2.TrueTo r ∧
    ∀ d, (x s).2.answers d ≠ none ↔ s.answers d ≠ none ∨ settles d

/-- Nothing is settled. -/
def Capability.Nothing (_ : Capability) : Prop := False

open Capability (Nothing)

section

variable {settles settles' : Capability → Prop}

theorem Steady.congr {x : Asking σ α} {a : α} (h : Steady r settles x a)
    (hsettles : ∀ d, settles d ↔ settles' d) : Steady r settles' x a := by
  obtain rfl : settles = settles' := funext fun d => propext (hsettles d)
  exact h

/-- An action that keeps no answer. -/
theorem Steady.of_answers_eq {x : Asking σ α} {result : α} (hresult : ∀ s, (x s).1 = result)
    (hanswers : ∀ s, (x s).2.answers = s.answers) : Steady r Nothing x result := by
  intro s hs
  refine ⟨hresult s, hs.congr (hanswers s), fun d => ?_⟩
  rw [hanswers s]
  exact ⟨.inl, fun h => h.elim id False.elim⟩

theorem Steady.done (a : α) : Steady r Nothing (pure a : Probing σ α).run (.ok a) :=
  .of_answers_eq (fun _ => rfl) fun _ => rfl

/-- What follows a step may use its result, if it settles nothing itself. -/
theorem Steady.andThen {x : Probing σ α} {a : Except Fault α} {f : α → Probing σ β}
    {b : α → Except Fault β} (hx : Steady r settles x.run a)
    (hf : ∀ v, Steady r Nothing (f v).run (b v)) : Steady r settles (x >>= f).run (a >>= b) := by
  intro s hs
  obtain ⟨hresult, htrue, hsettled⟩ := hx s hs
  obtain ⟨a', t, hrun⟩ : ∃ a' t, x.run s = (a', t) := ⟨_, _, rfl⟩
  rw [hrun] at hresult htrue hsettled
  obtain rfl : a' = a := hresult
  cases a' with
  | error e =>
    rw [run_bind_of_error hrun]
    exact ⟨rfl, htrue, hsettled⟩
  | ok v =>
    rw [run_bind_of_ok hrun]
    obtain ⟨hresult', htrue', hsettled'⟩ := hf v t htrue
    refine ⟨hresult', htrue', fun d => ?_⟩
    rw [hsettled' d, ← hsettled d]
    exact ⟨fun h => h.elim id False.elim, .inl⟩

theorem Steady.lift {x : Asking σ α} {a : α} (h : Steady r settles x a) :
    Steady r settles (liftM x : Probing σ α).run (.ok a) := by
  intro s hs
  obtain ⟨hresult, htrue, hsettled⟩ := h s hs
  exact ⟨congrArg Except.ok hresult, htrue, hsettled⟩

/-- What comes first may settle nothing and go well. -/
theorem Steady.after {x : Probing σ α} {a : α} {f : α → Probing σ β} {b : Except Fault β}
    (hx : Steady r Nothing x.run (.ok a)) (hf : Steady r settles (f a).run b) :
    Steady r settles (x >>= f).run b := by
  intro s hs
  obtain ⟨hresult, htrue, hsettled⟩ := hx s hs
  obtain ⟨a', t, hrun⟩ : ∃ a' t, x.run s = (a', t) := ⟨_, _, rfl⟩
  rw [hrun] at hresult htrue hsettled
  obtain rfl : a' = .ok a := hresult
  rw [run_bind_of_ok hrun]
  obtain ⟨hresult', htrue', hsettled'⟩ := hf t htrue
  refine ⟨hresult', htrue', fun d => ?_⟩
  rw [hsettled' d, hsettled d, or_assoc]
  exact or_congr Iff.rfl ⟨fun h => h.elim False.elim id, .inr⟩

end

namespace Primitives

variable {p : Primitives σ} {settles : Capability → Prop}

theorem steady_gate {f : σ → Bool × σ} {isOpen : Bool} (h : ∀ s, (f s).1 = isOpen) :
    Steady r Nothing (gate f).run (.ok isOpen) :=
  .of_answers_eq (fun s => congrArg Except.ok (h s.state)) fun _ => rfl

theorem steady_attempt {call : ProbeCall} {f : σ → Except Fault α × σ} {a : Except Fault α}
    (h : ∀ s, (f s).1 = a) : Steady r Nothing (attempt call f).run a :=
  .of_answers_eq (fun s => h s.state) fun _ => rfl

/-- A probe behind a gate settles what it settles only if the gate is open. -/
theorem steady_gated {f : σ → Bool × σ} {isOpen : Bool} {probe : Probing σ Bool}
    {a : Except Fault Bool} (hgate : ∀ s, (f s).1 = isOpen) (h : Steady r settles probe.run a) :
    Steady r (fun d => isOpen = true ∧ settles d)
      (gate f >>= fun isOpen => if !isOpen then pure false else probe).run
      (if !isOpen then pure false else a) := by
  cases isOpen with
  | true =>
    refine Steady.after (steady_gate hgate) (h.congr fun d => ?_)
    exact ⟨fun hd => ⟨rfl, hd⟩, And.right⟩
  | false =>
    refine Steady.after (steady_gate hgate) ((Steady.done false).congr fun d => ?_)
    exact ⟨False.elim, fun hd => nomatch hd.1⟩

theorem steady_openPlace (h : p.Responds r) (s : Survey σ) :
    (p.openPlace.run s).1 = r.openScratch.map fun _ => s.scratchUsed := by
  show ((p.openScratch s.scratchUsed s.state).1.map fun _ => s.scratchUsed) = _
  rw [h.openScratch]

theorem steady_closingPlace {n : Nat} {step : Probing σ α} {a : Except Fault α}
    (h : Steady r settles step.run a) : Steady r settles (p.closingPlace n step).run a := by
  intro s hs
  obtain ⟨hresult, htrue, hsettled⟩ := h s hs
  exact ⟨hresult, htrue.congr rfl, hsettled⟩

/-- A step with a scratch place settles what it settles only if there is one. -/
theorem steady_withScratch (h : p.Responds r) (settles : Capability → Prop)
    {step : Path → Probing σ α} {a : Except Fault α}
    (hstep : ∀ path, Steady r settles (step path).run a) :
    Steady r (fun d => r.openScratch = .ok () ∧ settles d) (p.withScratch step).run
      (r.openScratch >>= fun _ => a) := by
  intro s hs
  have hopen := steady_openPlace h s
  obtain ⟨_, t, hrun⟩ : ∃ a t, p.openPlace.run s = (a, t) := ⟨_, _, rfl⟩
  have hanswers : t.answers = s.answers := congrArg (fun x => x.2.answers) hrun.symm
  rw [hrun] at hopen
  subst hopen
  cases hscratch : r.openScratch with
  | error e =>
    rw [hscratch] at hrun
    rw [withScratch, run_bind_of_error hrun]
    refine ⟨rfl, hs.congr hanswers, fun d => ?_⟩
    rw [show (t.answers d ≠ none) = (s.answers d ≠ none) by rw [hanswers]]
    exact ⟨.inl, fun h => h.elim id fun h => nomatch h.1⟩
  | ok u =>
    rw [hscratch] at hrun
    rw [withScratch, run_bind_of_ok hrun]
    obtain ⟨hresult, htrue, hsettled⟩ := steady_closingPlace (p := p) (n := s.scratchUsed)
      (hstep (p.scratch s.scratchUsed)) t (hs.congr hanswers)
    refine ⟨hresult, htrue, fun d => (hsettled d).trans ?_⟩
    rw [hanswers]
    exact or_congr Iff.rfl ⟨fun h => ⟨rfl, h⟩, And.right⟩

/-! ### The probes -/

theorem steady_symlinkProbe (h : p.Responds r) :
    Steady r Nothing p.symlinkProbe.run r.symlinkOutcome := by
  refine (steady_withScratch h Nothing fun path => ?_).congr
    fun d => ⟨And.right, False.elim⟩
  refine (steady_attempt (h.symlink _ _)).andThen fun _ => ?_
  refine (steady_attempt (h.lstat _)).andThen fun _ => ?_
  exact (steady_attempt (h.readLink _)).andThen fun _ => .done _

/-- **An answer is steady** if the outcome of the probe is, and if it settles just what the
capability needs. -/
theorem steady_settled {c : Capability} {probe : Probing σ Bool}
    (h : Steady r (r.Needs c) probe.run (r.outcome c)) :
    Steady r (fun d => d = c ∨ r.Needs c d) (settled c probe) (r.answer c) := by
  intro s hs
  cases hanswer : s.answers c with
  | some answer =>
    rw [settled_of_some hanswer]
    refine ⟨hs.answers_eq c answer hanswer, hs.congr rfl, fun d => ⟨.inl, ?_⟩⟩
    have hc : s.answers c ≠ none := by
      rw [hanswer]
      exact Option.some_ne_none answer
    rintro (hd | rfl | hd)
    · exact hd
    · exact hc
    · exact hs.needed c d hd hc
  | none =>
    obtain ⟨a, t, hrun⟩ : ∃ a t, probe.run (s.record (.started c)) = (a, t) := ⟨_, _, rfl⟩
    obtain ⟨hresult, htrue, hsettled⟩ := h (s.record (.started c)) (hs.congr rfl)
    rw [hrun] at hresult htrue hsettled
    obtain rfl : a = r.outcome c := hresult
    rw [settled_of_none hanswer hrun]
    have hkept (d : Capability) :
        (t.settle c (r.answer c)).answers d ≠ none ↔ d = c ∨ t.answers d ≠ none :=
      Survey.answers_settle_ne_none
    refine ⟨rfl, .congr (s := t.settle c (r.answer c)) ⟨?_, ?_⟩ rfl, ?_⟩
    · intro d answer hd
      by_cases hdc : d = c
      · subst hdc
        exact Option.some.inj (hd.symm.trans (if_pos rfl))
      · exact htrue.answers_eq d answer ((if_neg hdc).symm.trans hd)
    · intro d e hneeds hd
      rw [hkept] at hd ⊢
      rcases hd with rfl | hd
      · exact .inr ((hsettled e).2 (.inr hneeds))
      · exact .inr (htrue.needed d e hneeds hd)
    · intro d
      show (t.settle c (r.answer c)).answers d ≠ none ↔ s.answers d ≠ none ∨ d = c ∨ r.Needs c d
      rw [hkept, hsettled, or_left_comm]
      exact Iff.rfl

theorem steady_symlinks (h : p.Responds r) :
    Steady r (fun d => d = .symlinks) p.symlinks (r.answer .symlinks) := by
  have hneeds (d : Capability) : ¬r.Needs .symlinks d := Responses.not_needs nofun nofun
  refine (steady_settled ((steady_symlinkProbe h).congr fun d => ?_)).congr fun d => ?_
  · exact ⟨False.elim, hneeds d⟩
  · exact ⟨fun hd => hd.resolve_right (hneeds d), .inl⟩

/-- Where an entry is made to set times on it, symbolic links are settled. -/
theorem steady_makeEntry (h : p.Responds r) (path : Path) :
    Steady r (fun d => d = .symlinks) (p.makeEntry path).run r.entryOutcome := by
  rw [show r.entryOutcome = (Except.ok (r.answer .symlinks) >>= fun isThere =>
    if isThere then r.symlink else r.createFile) from rfl]
  refine (steady_symlinks h).lift.andThen fun isThere => ?_
  cases isThere with
  | true => exact steady_attempt (h.symlink _ _)
  | false => exact steady_attempt (h.createFile _)

/-- **What a probe finds out, and what it settles on the way.** -/
theorem steady_probe (h : p.Responds r) (c : Capability) :
    Steady r (r.Needs c) (p.probe c).run (r.outcome c) := by
  cases c with
  | symlinks =>
    exact (steady_symlinkProbe h).congr fun d =>
      ⟨False.elim, Responses.not_needs nofun nofun⟩
  | hardLinks =>
    refine Steady.congr (steady_gated h.hasHardLinks <| steady_withScratch h _ fun first =>
      steady_withScratch h Nothing fun second => ?_) fun d => ?_
    · refine (steady_attempt (h.createFile first)).andThen fun _ => ?_
      refine (steady_attempt (h.hardLink first second)).andThen fun _ => ?_
      refine (steady_attempt (h.stat first)).andThen fun a => ?_
      exact (steady_attempt (h.stat second)).andThen fun b => .done _
    · exact ⟨fun hd => hd.2.2.2.elim, fun hd => absurd hd <| Responses.not_needs nofun nofun⟩
  | fifos =>
    refine Steady.congr (steady_withScratch h Nothing fun path => ?_) fun d => ?_
    · exact (steady_attempt (h.makeFifo path)).andThen fun _ => .done _
    · exact ⟨fun hd => hd.2.elim, fun hd => absurd hd <| Responses.not_needs nofun nofun⟩
  | utime =>
    refine Steady.congr (steady_withScratch h (· = .symlinks) fun path => ?_) fun d => ?_
    · refine (steady_makeEntry h path).andThen fun _ => ?_
      refine (steady_attempt (h.setTimes path _ _)).andThen fun _ => ?_
      exact (steady_attempt (h.lstat path)).andThen fun _ => .done _
    · exact ⟨fun hd => ⟨hd.2, hd.1, .inl rfl⟩, fun hd => ⟨hd.2.1, hd.1⟩⟩
  | birthTime =>
    refine Steady.congr (steady_gated h.hasBirthTime <|
      steady_withScratch h (· = .symlinks) fun path => ?_) fun d => ?_
    · refine (steady_makeEntry h path).andThen fun _ => ?_
      refine (steady_attempt (h.setTimes path _ _)).andThen fun _ => ?_
      refine (steady_attempt (h.setTimes path _ _)).andThen fun _ => ?_
      exact (steady_attempt (h.lstat path)).andThen fun _ => .done _
    · constructor
      · rintro ⟨hopen, hscratch, rfl⟩
        exact ⟨rfl, hscratch, .inr ⟨rfl, hopen⟩⟩
      · rintro ⟨rfl, hscratch, hd | ⟨-, hopen⟩⟩
        · cases hd
        · exact ⟨hopen, hscratch, rfl⟩
  | flags =>
    refine Steady.congr (steady_gated h.hasFlags <| steady_withScratch h Nothing fun path => ?_)
      fun d => ?_
    · refine (steady_attempt (h.createFile path)).andThen fun _ => ?_
      exact (steady_attempt (h.setNodump path)).andThen fun _ => .done _
    · exact ⟨fun hd => hd.2.2.elim, fun hd => absurd hd <| Responses.not_needs nofun nofun⟩

/-! ### Questions in any order -/

/-- **What a survey keeps after questions** about several capabilities, in any order. -/
theorem trueTo_surveyed (h : p.Responds r) (cs : List Capability) {s : Survey σ}
    (hs : s.TrueTo r) :
    (p.surveyed cs s).TrueTo r ∧ ∀ d, (p.surveyed cs s).answers d ≠ none ↔
      s.answers d ≠ none ∨ ∃ c ∈ cs, d = c ∨ r.Needs c d := by
  induction cs generalizing s with
  | nil =>
    refine ⟨hs, fun d => ⟨.inl, ?_⟩⟩
    rintro (hd | ⟨c, hc, -⟩)
    · exact hd
    · cases hc
  | cons c cs ih =>
    obtain ⟨-, hfirst, hsettled⟩ := steady_settled (steady_probe h c) s hs
    obtain ⟨hall, hlater⟩ := ih hfirst
    refine ⟨hall, fun d => ?_⟩
    simp only [List.mem_cons, or_and_right, exists_or, exists_eq_left]
    rw [← or_assoc, ← hsettled d]
    exact hlater d

theorem trueTo_askAll (h : p.Responds r) (precision : Precision) (state : σ)
    (questions : List Question) :
    (p.askAll questions (.start precision state)).2.TrueTo r := by
  rw [survey_askAll]
  exact (trueTo_surveyed h _ (Survey.trueTo_start precision state)).1

/-- A snapshot of a new survey has the answers that follow from the responses. -/
theorem supports_snapshot (h : p.Responds r) (precision : Precision) (state : σ)
    (c : Capability) : (p.snapshot (.start precision state)).1.supports c = r.answer c := by
  rw [snapshot_eq, Capabilities.supports_ofAnswers]
  have hbefore := (trueTo_surveyed h (earlier c) (Survey.trueTo_start precision state)).1
  exact (steady_settled (steady_probe h c) _ hbefore).1

/-- Whether a new survey that was asked questions gave an answer, in a reply or to a probe. -/
def Gave (p : Primitives σ) (precision : Precision) (state : σ) (questions : List Question)
    (c : Capability) (answer : Bool) : Prop :=
  (∃ reply ∈ (p.askAll questions (.start precision state)).1, reply.Gives c answer) ∨
    .answered c answer ∈ (p.askAll questions (.start precision state)).2.events

theorem Gave.answer_eq (h : p.Responds r) {precision : Precision} {state : σ}
    {questions : List Question} {c : Capability} {answer : Bool}
    (hgave : p.Gave precision state questions c answer) : answer = r.answer c := by
  have hevent : .answered c answer ∈ (p.askAll questions (.start precision state)).2.events := by
    rcases hgave with ⟨reply, hreply, hgives⟩ | hevent
    · exact answered_mem_askAll hreply hgives
    · exact hevent
  have htold := (p.grows_askAll_start precision state questions).told c answer hevent
  exact (trueTo_askAll h precision state questions).answers_eq c answer htold

/-- **How surveys answer that may be asked in any order.** -/
structure OrderIndependent (p : Primitives σ) (r : Responses) : Prop where
  /-- Two surveys give the same answers, whatever each of them is asked, -/
  same : ∀ precision precision' state state' questions questions' c answer answer',
    p.Gave precision state questions c answer →
      p.Gave precision' state' questions' c answer' → answer = answer'
  /-- and these are what a snapshot of a new survey says. -/
  fresh : ∀ precision precision' state state' questions c answer,
    p.Gave precision state questions c answer →
      answer = (p.snapshot (.start precision' state')).1.supports c
  /-- The probes that start are those of the capabilities that are asked for, and of what they
  need. -/
  started : ∀ precision state questions c,
    .started c ∈ (p.askAll questions (.start precision state)).2.events ↔
      ∃ q ∈ questions, ∃ d ∈ q.capabilities, c = d ∨ r.Needs d c

/-- **The order of questions makes no difference** where primitives always respond alike. -/
theorem Responds.orderIndependent (h : p.Responds r) : p.OrderIndependent r where
  same _ _ _ _ _ _ _ _ _ hgave hgave' :=
    (hgave.answer_eq h).trans (hgave'.answer_eq h).symm
  fresh _ precision' _ state' _ c _ hgave :=
    (hgave.answer_eq h).trans (supports_snapshot h precision' state' c).symm
  started precision state questions c := by
    have hsettled : (p.askAll questions (.start precision state)).2.answers c ≠ none ↔
        ∃ d ∈ questions.flatMap Question.capabilities, c = d ∨ r.Needs d c := by
      rw [survey_askAll]
      refine ((trueTo_surveyed h _ (Survey.trueTo_start precision state)).2 c).trans ?_
      exact ⟨fun hd => hd.resolve_left fun hstart => hstart rfl, .inr⟩
    calc .started c ∈ (p.askAll questions (.start precision state)).2.events
      _ ↔ (p.askAll questions (.start precision state)).2.answers c ≠ none :=
        (p.grows_askAll_start precision state questions).started_iff rfl
      _ ↔ ∃ d ∈ questions.flatMap Question.capabilities, c = d ∨ r.Needs d c := hsettled
      _ ↔ _ := by
        simp only [List.mem_flatMap]
        constructor
        · rintro ⟨d, ⟨q, hq, hd⟩, hc⟩
          exact ⟨q, hq, d, hd, hc⟩
        · rintro ⟨q, hq, d, hd, hc⟩
          exact ⟨d, ⟨q, hq, hd⟩, hc⟩

end Primitives

/-- Files that refuse symbolic links and take everything else, all of it alike. -/
def Responses.linkless : Responses where
  hasHardLinks := true
  hasBirthTime := true
  hasFlags := true
  symlink := .error (.system .notPermitted)
  readLink := .error (.system .invalid)
  createFile := .ok ()
  hardLink := .ok ()
  makeFifo := .ok ()
  lstat := .ok ⟨1, 2, Primitives.atSecond 1000, Primitives.atSecond 2000, none⟩
  stat := .ok ⟨1, 2, Primitives.atSecond 1000, Primitives.atSecond 2000, none⟩
  setTimes := .ok ()
  setNodump := .ok ()
  openScratch := .ok ()

theorem Responses.orderIndependent_linkless :
    (linkless.primitives []).Responds linkless ∧
      (linkless.primitives []).OrderIndependent linkless :=
  ⟨linkless.responds_primitives [],
    Primitives.Responds.orderIndependent (linkless.responds_primitives [])⟩

end RestoreCheck

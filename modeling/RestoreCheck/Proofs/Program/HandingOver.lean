import Mathlib.Data.List.Basic
import RestoreCheck.Program.Launch

/-!
# Handing over a command line

A command line is prepared for one way to launch it and converted for the other.  Both leave it as
it is and refuse it exactly if a string holds a zero byte (`CommandLine.prepared_eq_self`,
`CommandLine.converted_eq_ok_iff`); converting tells where the first one stands
(`CommandLine.FirstZero`, `CommandLine.converted_eq_error_iff`).  So a machine runs the same in both
ways, and refuses the same (`Machine.launches`).  What else may fail in a detached launch happens to
the process in between.
-/

namespace RestoreCheck

namespace CommandLine

variable {i : CommandLine} {s : Bytes} {strings : List Bytes} {offset : Nat}

/-! ### Where the first zero byte stands -/

/-- **The first zero byte of some strings** stands at an offset in the first string that holds
one. -/
def FirstZero (strings : List Bytes) (offset : Nat) : Prop :=
  ∃ earlier before after later, strings = earlier ++ (before ++ 0 :: after) :: later ∧
    (∀ s ∈ earlier, 0 ∉ s) ∧ 0 ∉ before ∧ before.length = offset

theorem FirstZero.exists_mem (h : FirstZero strings offset) : ∃ s ∈ strings, 0 ∈ s := by
  obtain ⟨earlier, before, after, later, rfl, -⟩ := h
  exact ⟨before ++ 0 :: after, by simp, by simp⟩

theorem firstZero_cons_of_mem (h : 0 ∈ s) :
    FirstZero (s :: strings) offset ↔ s.idxOf 0 = offset := by
  constructor
  · rintro ⟨earlier, before, after, later, heq, hearlier, hbefore, rfl⟩
    cases earlier with
    | nil =>
      rw [List.nil_append] at heq
      rw [(List.cons.inj heq).1, List.idxOf_append_of_notMem hbefore, List.idxOf_cons_self,
        Nat.add_zero]
    | cons t earlier =>
      have hs : s = t := (List.cons.inj heq).1
      exact absurd h (hearlier s (hs ▸ List.mem_cons_self))
  · rintro rfl
    obtain ⟨before, after, rfl, hbefore⟩ := List.eq_append_cons_of_mem h
    refine ⟨[], before, after, strings, rfl, nofun, hbefore, ?_⟩
    rw [List.idxOf_append_of_notMem hbefore, List.idxOf_cons_self, Nat.add_zero]

theorem firstZero_cons_of_notMem (h : 0 ∉ s) :
    FirstZero (s :: strings) offset ↔ FirstZero strings offset := by
  constructor
  · rintro ⟨earlier, before, after, later, heq, hearlier, hbefore, hlength⟩
    cases earlier with
    | nil =>
      rw [List.nil_append] at heq
      exact absurd (by simp) ((List.cons.inj heq).1 ▸ h)
    | cons t earlier =>
      exact ⟨earlier, before, after, later, (List.cons.inj heq).2,
        fun s hs => hearlier s (List.mem_cons_of_mem t hs), hbefore, hlength⟩
  · rintro ⟨earlier, before, after, later, rfl, hearlier, hbefore, hlength⟩
    exact ⟨s :: earlier, before, after, later, rfl, List.forall_mem_cons.2 ⟨h, hearlier⟩, hbefore,
      hlength⟩

/-- If a string holds a zero byte, there is a first one. -/
theorem exists_firstZero (h : ∃ s ∈ strings, 0 ∈ s) : ∃ offset, FirstZero strings offset := by
  induction strings with
  | nil => simp at h
  | cons s strings ih =>
    by_cases hs : 0 ∈ s
    · exact ⟨_, (firstZero_cons_of_mem hs).2 rfl⟩
    · obtain ⟨offset, hfirst⟩ := ih (by simpa [hs] using h)
      exact ⟨offset, (firstZero_cons_of_notMem hs).2 hfirst⟩

/-! ### Converting -/

theorem convertedString_of_mem (h : 0 ∈ s) : convertedString s = .error (s.idxOf 0) := if_pos h

theorem convertedString_of_notMem (h : 0 ∉ s) : convertedString s = .ok s := if_neg h

theorem mapM_convertedString_eq_ok (h : ∀ s ∈ strings, 0 ∉ s) :
    strings.mapM convertedString = .ok strings := by
  induction strings with
  | nil => rfl
  | cons s strings ih =>
    obtain ⟨hs, hstrings⟩ := List.forall_mem_cons.1 h
    rw [List.mapM_cons, convertedString_of_notMem hs, ih hstrings]
    rfl

/-- **Strings that are converted one by one** fail with the first zero byte. -/
theorem mapM_convertedString_eq_error_iff :
    strings.mapM convertedString = .error offset ↔ FirstZero strings offset := by
  induction strings with
  | nil => exact iff_of_false nofun fun h => by simpa using h.exists_mem
  | cons s strings ih =>
    -- A string with a zero byte decides at once, without one the rest does.
    rw [List.mapM_cons]
    by_cases hs : 0 ∈ s
    · rw [convertedString_of_mem hs, firstZero_cons_of_mem hs]
      show (.error (s.idxOf 0) : Except Nat (List Bytes)) = .error offset ↔ _
      rw [Except.error.injEq]
    · rw [convertedString_of_notMem hs, firstZero_cons_of_notMem hs, ← ih]
      cases strings.mapM convertedString with
      | error offset' => rfl
      | ok strings' => exact iff_of_false nofun nofun

theorem converted_eq_self (h : i.holdsZero = false) : i.converted = .ok i := by
  obtain ⟨hprogram, harguments⟩ := List.forall_mem_cons.1 ((holdsZero_eq_false_iff i).1 h)
  unfold converted
  rw [convertedString_of_notMem hprogram, mapM_convertedString_eq_ok harguments]
  rfl

/-- **Converting a command line** fails with the first zero byte of its strings, the program's
first. -/
theorem converted_eq_error_iff : i.converted = .error offset ↔ FirstZero i.argv offset := by
  unfold converted argv
  by_cases hprogram : 0 ∈ i.program
  · rw [convertedString_of_mem hprogram, firstZero_cons_of_mem hprogram]
    show (.error (i.program.idxOf 0) : Except Nat CommandLine) = .error offset ↔ _
    rw [Except.error.injEq]
  · rw [convertedString_of_notMem hprogram, firstZero_cons_of_notMem hprogram,
      ← mapM_convertedString_eq_error_iff]
    cases i.arguments.mapM convertedString with
    | error offset' =>
      show (.error offset' : Except Nat CommandLine) = .error offset ↔ _
      rw [Except.error.injEq, Except.error.injEq]
    | ok arguments => exact iff_of_false nofun nofun

example : converted ⟨[0x6D], [[0x61], [0x62, 0], [0]]⟩ = .error 1 := rfl

theorem converted_eq_ok_iff {line : CommandLine} :
    i.converted = .ok line ↔ i.holdsZero = false ∧ line = i := by
  cases hzero : i.holdsZero with
  | false => simp [converted_eq_self hzero, eq_comm]
  | true =>
    obtain ⟨offset, hfirst⟩ := exists_firstZero ((holdsZero_eq_true_iff i).1 hzero)
    simp [converted_eq_error_iff.2 hfirst]

end CommandLine

/-! ### The process in between -/

namespace Intermediate

variable {p : Intermediate}

/-- **A launch fails at its first stage** only if there never was a process in between. -/
theorem outcome_eq_spawn_iff {cause : Fault} :
    p.outcome = .error ⟨.spawn, cause⟩ ↔ ∃ e, p = .unstarted e ∧ cause = .system e := by
  constructor
  · intro h
    cases p with
    | parted => cases h
    | unstarted e =>
      cases h
      exact ⟨e, rfl, rfl⟩
    | stuck process => cases h
    | killed process signal dumped startsCommand =>
      unfold outcome at h
      dsimp only at h
      split at h <;> cases h
    | unawaited e startsCommand => cases h
  · rintro ⟨e, rfl, rfl⟩
    rfl

end Intermediate

/-! ### Launching -/

namespace Machine

variable {m : Machine} {i : CommandLine}

theorem start_of_holdsZero (h : i.holdsZero = true) :
    m.start i = (.error .zeroInArgument, m) := by
  unfold start
  rw [if_pos h]

/-- A command line without a zero byte is run as it is. -/
theorem start_of_not_holdsZero (h : i.holdsZero = false) :
    m.start i = ((m.run i).1.mapError .system, (m.run i).2) := by
  unfold start
  rw [if_neg (by simp [h]), CommandLine.prepared_eq_self h]
  rcases m.run i with ⟨outcome, after⟩
  cases outcome <;> rfl

/-- **A supervised launch of a command line with a zero byte** fails, and nothing is run. -/
theorem supervise_of_holdsZero (h : i.holdsZero = true) :
    m.supervise i = (.error ⟨.spawn, .zeroInArgument⟩, m) := by
  unfold supervise
  rw [start_of_holdsZero h]
  rfl

theorem supervise_of_not_holdsZero (h : i.holdsZero = false) :
    (m.supervise i).2 = (m.run i).2 := by
  unfold supervise
  rw [start_of_not_holdsZero h]
  rcases m.run i with ⟨outcome, after⟩
  cases outcome <;> rfl

/-- **A detached launch of a command line with a zero byte** fails, tells where it stands, and
nothing is run. -/
theorem detach_of_firstZero {offset : Nat} (h : CommandLine.FirstZero i.argv offset) :
    m.detach i = (.error ⟨.spawn, .zeroInArgumentAt offset⟩, m) := by
  unfold detach
  rw [CommandLine.converted_eq_error_iff.2 h]

/-- What a detached launch hands over, it leaves to the process in between. -/
theorem detach_of_not_holdsZero (h : i.holdsZero = false) :
    m.detach i =
      (m.intermediate.outcome, if m.intermediate.startsCommand then (m.run i).2 else m) := by
  unfold detach
  rw [CommandLine.converted_eq_self h]

/-- **A program that is found** is recorded under the name of its file, with its own arguments. -/
theorem runs_run_of_found {program : Location × Stub}
    (h : m.findProgram i.argv i.program = .ok program) :
    (m.run i).2.runs = m.runs ++ [fileName program.1 :: i.arguments] := by
  unfold run
  rw [h]
  rfl

/-- **Where no program is found**, nothing is run. -/
theorem run_of_unfound {e : Errno} (h : m.findProgram i.argv i.program = .error e) :
    m.run i = (.error e, m) := by
  unfold run
  rw [h]

/-- **How a command line is launched**, in either way. -/
structure Launches (m : Machine) (i : CommandLine) : Prop where
  /-- What is handed over is the command line, string by string, unless one holds a zero byte. -/
  prepared : i.holdsZero = false → i.prepared = i
  converted : ∀ line, i.converted = .ok line ↔ i.holdsZero = false ∧ line = i
  /-- Then the machine runs it, in one way as in the other, if it comes to be started. -/
  runs : i.holdsZero = false → ∀ mode,
    (mode = .detached → m.intermediate.startsCommand = true) → (m.launch mode i).2 = (m.run i).2
  /-- A program that is found is recorded with the arguments, and nothing is without one. -/
  recorded : ∀ program, m.findProgram i.argv i.program = .ok program →
    (m.run i).2.runs = m.runs ++ [fileName program.1 :: i.arguments]
  unrecorded : ∀ e, m.findProgram i.argv i.program = .error e → m.run i = (.error e, m)
  /-- A zero byte is refused before anything is run. -/
  refused : i.holdsZero = true → ∀ mode, ∃ cause,
    m.launch mode i = (.error ⟨.spawn, cause⟩, m) ∧ cause.isInvalidInput = true
  /-- A detached launch tells where the first one stands, and tells it in no other case. -/
  unconverted : ∀ offset after,
    m.launch .detached i = (.error ⟨.spawn, .zeroInArgumentAt offset⟩, after) ↔
      CommandLine.FirstZero i.argv offset ∧ after = m
  /-- Any other failure of it is one of the process in between. -/
  detached : i.holdsZero = false →
    m.launch .detached i = (m.intermediate.outcome.map fun () => .detached,
      if m.intermediate.startsCommand then (m.run i).2 else m)

theorem launch_detached_of_firstZero {offset : Nat} (h : CommandLine.FirstZero i.argv offset) :
    m.launch .detached i = (.error ⟨.spawn, .zeroInArgumentAt offset⟩, m) := by
  unfold launch
  dsimp only
  rw [detach_of_firstZero h]
  rfl

theorem launch_detached_of_not_holdsZero (h : i.holdsZero = false) :
    m.launch .detached i = (m.intermediate.outcome.map fun () => .detached,
      if m.intermediate.startsCommand then (m.run i).2 else m) := by
  unfold launch
  dsimp only
  rw [detach_of_not_holdsZero h]

theorem launches (m : Machine) (i : CommandLine) : m.Launches i where
  prepared := CommandLine.prepared_eq_self
  converted line := CommandLine.converted_eq_ok_iff
  runs h mode hstarts := by
    cases mode with
    | supervised => exact supervise_of_not_holdsZero h
    | detached =>
      rw [launch_detached_of_not_holdsZero h]
      exact if_pos (hstarts rfl)
  recorded program := runs_run_of_found
  unrecorded e := run_of_unfound
  refused h mode := by
    cases mode with
    | supervised =>
      unfold launch
      dsimp only
      rw [supervise_of_holdsZero h]
      exact ⟨_, rfl, rfl⟩
    | detached =>
      obtain ⟨offset, hfirst⟩ :=
        CommandLine.exists_firstZero ((CommandLine.holdsZero_eq_true_iff i).1 h)
      exact ⟨_, launch_detached_of_firstZero hfirst, rfl⟩
  unconverted offset after := by
    constructor
    · intro hlaunch
      cases hzero : i.holdsZero with
      | false =>
        have houtcome : m.intermediate.outcome = .error ⟨.spawn, .zeroInArgumentAt offset⟩ := by
          rw [launch_detached_of_not_holdsZero hzero] at hlaunch
          cases h : m.intermediate.outcome <;> rw [h] at hlaunch <;> cases hlaunch
          rfl
        obtain ⟨e, -, hcause⟩ := Intermediate.outcome_eq_spawn_iff.1 houtcome
        cases hcause
      | true =>
        obtain ⟨first, hfirst⟩ :=
          CommandLine.exists_firstZero ((CommandLine.holdsZero_eq_true_iff i).1 hzero)
        rw [launch_detached_of_firstZero hfirst] at hlaunch
        cases hlaunch
        exact ⟨hfirst, rfl⟩
    · rintro ⟨hfirst, rfl⟩
      exact launch_detached_of_firstZero hfirst
  detached := launch_detached_of_not_holdsZero

end Machine

end RestoreCheck

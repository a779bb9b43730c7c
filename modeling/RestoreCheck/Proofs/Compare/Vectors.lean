import RestoreCheck.Proofs.Compare.FirstFailure

/-!
# What vectors tell

Whatever the inspector and the state it is in, the vector of an entry is made of its status and of
two answers, one on flags and one on extended attributes (`Comparator.run_attributes`).  So it can
be made exactly if extended attributes can be read or are ignored, and two entries have one vector
exactly if they are alike in all that is compared (`Comparator.vectorsTell`).
-/

namespace RestoreCheck.Comparator

variable {σ : Type}

/-! ### The two questions -/

/-- The state of an inspector after it was asked for flags, if it is asked for them at all. -/
def afterFlags (c : Comparator σ) (path : Path) (m : Meta) (s : σ) : σ :=
  if c.options.ignoreFlags then s else (c.inspector.flags path m s).2

/-- **What an inspector answers about an entry** in a state.  The question for flags comes first and
may change the other answer. -/
def answers (c : Comparator σ) (path : Path) (m : Meta) (s : σ) : Seen where
  status := m
  flags := (c.inspector.flags path m s).1
  xattrs := (c.inspector.xattrs path (c.afterFlags path m s)).1

theorem exists_run_flags (c : Comparator σ) (path : Path) (m : Meta) (s : Progress σ) :
    ∃ queries, (if c.options.ignoreFlags then pure none
        else some <$> c.askFlags path m : Walk σ (Option UInt64)).run s =
      (.ok (if c.options.ignoreFlags then none else some (c.inspector.flags path m s.state).1),
        ⟨c.afterFlags path m s.state, queries⟩) := by
  unfold afterFlags
  cases c.options.ignoreFlags with
  | true => exact ⟨s.queries, rfl⟩
  | false => exact ⟨s.queries ++ [.flags path], rfl⟩

theorem run_xattrs (c : Comparator σ) (path : Path) (s : Progress σ) :
    ((if c.options.ignoreXattrs then pure none
        else (some ∘ dropLabel) <$> c.askXattrs path : Walk σ (Option Xattrs)).run s).1 =
      orUnreadable path (if c.options.ignoreXattrs then .ok none
        else (c.inspector.xattrs path s.state).1.map fun x => some (dropLabel x)) := by
  cases c.options.ignoreXattrs with
  | true => rfl
  | false =>
    have hask : (modifyGet fun p : Progress σ =>
        ((c.inspector.xattrs path p.state).1, (⟨(c.inspector.xattrs path p.state).2,
          p.queries ++ [.xattrs path]⟩ : Progress σ)) : Walk σ _).run s =
        (.ok (c.inspector.xattrs path s.state).1,
          ⟨(c.inspector.xattrs path s.state).2, s.queries ++ [.xattrs path]⟩) := rfl
    unfold askXattrs
    rw [if_neg Bool.false_ne_true, if_neg Bool.false_ne_true, map_eq_pure_bind, bind_assoc,
      run_bind_of_ok hask]
    cases (c.inspector.xattrs path s.state).1 with
    | ok x => rfl
    | error cause => rfl

/-- **A vector is made of the answers.** -/
theorem run_attributes (c : Comparator σ) (name : Bytes) (path : Path) (m : Meta) (mounted : Bool)
    (s : Progress σ) :
    ((c.attributes name path m mounted).run s).1 = orUnreadable path
      ((c.answers path m s.state).attributes c.options c.capabilities mounted name) := by
  obtain ⟨queries, hflags⟩ := c.exists_run_flags path m s
  have hxattrs := c.run_xattrs path ⟨c.afterFlags path m s.state, queries⟩
  rw [attributes_eq_bind, run_bind_of_ok hflags]
  -- Of the second question only its answer counts, not the state that it leaves.
  generalize hread : (if c.options.ignoreXattrs then pure none
    else (some ∘ dropLabel) <$> c.askXattrs path : Walk σ (Option Xattrs)) = read at hxattrs ⊢
  obtain ⟨r, t, hrun⟩ : ∃ r t, read.run ⟨c.afterFlags path m s.state, queries⟩ = (r, t) :=
    ⟨_, _, rfl⟩
  have hcompared : r = orUnreadable path ((c.answers path m s.state).comparedXattrs c.options) := by
    rw [hrun] at hxattrs
    exact hxattrs
  unfold Seen.attributes
  cases hx : (c.answers path m s.state).comparedXattrs c.options with
  | error cause =>
    rw [hx] at hcompared
    subst hcompared
    rw [run_bind_of_error hrun]
    rfl
  | ok x =>
    rw [hx] at hcompared
    subst hcompared
    rw [run_bind_of_ok hrun]
    show Except.ok _ = Except.ok (Seen.vector _ _ _ _ _ x)
    rw [Seen.vector_eq_base]
    rfl

/-! ### Vectors -/

theorem run_attributes_eq_error_iff {c : Comparator σ} {name : Bytes} {path : Path} {m : Meta}
    {mounted : Bool} {s : Progress σ} {failure : Failure} :
    ((c.attributes name path m mounted).run s).1 = .error failure ↔
      c.options.ignoreXattrs = false ∧
        ∃ cause, (c.answers path m s.state).xattrs = .error cause ∧
          failure = .unreadable path cause := by
  rw [run_attributes, orUnreadable_eq_error_iff]
  simp only [Seen.attributes_eq_error_iff]
  constructor
  · rintro ⟨cause, ⟨hcompared, hcause⟩, hfailure⟩
    exact ⟨hcompared, cause, hcause, hfailure⟩
  · rintro ⟨hcompared, cause, hcause, hfailure⟩
    exact ⟨cause, ⟨hcompared, hcause⟩, hfailure⟩

theorem exists_run_attributes_eq_ok {c : Comparator σ} {path : Path} {m : Meta} {s : Progress σ}
    (h : (c.answers path m s.state).Readable c.options) (name : Bytes) (mounted : Bool) :
    ∃ u, ((c.attributes name path m mounted).run s).1 = .ok u ∧
      (c.answers path m s.state).attributes c.options c.capabilities mounted name = .ok u := by
  obtain ⟨u, hu⟩ := (Seen.readable_iff c.capabilities mounted name).1 h
  refine ⟨u, ?_, hu⟩
  rw [run_attributes, hu]
  rfl

/-- **What the vectors of a comparator tell.** -/
structure VectorsTell (c : Comparator σ) : Prop where
  /-- There is no vector of an entry exactly if its extended attributes are compared and cannot be
  read, and then that path is unreadable. -/
  unreadable_iff {name : Bytes} {path : Path} {m : Meta} {mounted : Bool} {s : Progress σ}
      {failure : Failure} :
    ((c.attributes name path m mounted).run s).1 = .error failure ↔
      c.options.ignoreXattrs = false ∧
        ∃ cause, (c.answers path m s.state).xattrs = .error cause ∧
          failure = .unreadable path cause
  /-- Two entries whose extended attributes can be read, where they have to be, have one vector
  exactly if they are alike. -/
  eq_iff {name : Bytes} {mounted : Bool} {p q : Path} {m n : Meta} {s t : Progress σ} :
    (c.answers p m s.state).Readable c.options → (c.answers q n t.state).Readable c.options →
      ∃ u v, ((c.attributes name p m mounted).run s).1 = .ok u ∧
        ((c.attributes name q n mounted).run t).1 = .ok v ∧
        (u = v ↔ (c.answers p m s.state).Alike c.options c.capabilities mounted
          (c.answers q n t.state))

/-- **Vectors tell what is compared**, whatever the inspector. -/
theorem vectorsTell (c : Comparator σ) : c.VectorsTell where
  unreadable_iff := run_attributes_eq_error_iff
  eq_iff {name mounted p q m n s t} hp hq := by
    obtain ⟨u, hu, hpu⟩ := exists_run_attributes_eq_ok hp name mounted
    obtain ⟨v, hv, hqv⟩ := exists_run_attributes_eq_ok hq name mounted
    refine ⟨u, v, hu, hv, ?_⟩
    constructor
    · rintro rfl
      exact ((Seen.exists_attributes_iff name).1 ⟨u, hpu, hqv⟩).2.2
    · intro halike
      rw [Seen.attributes_eq_of_alike halike, hqv] at hpu
      exact (Except.ok.inj hpu).symm

end RestoreCheck.Comparator

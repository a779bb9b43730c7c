import RestoreCheck.Proofs.Compare.FirstFailure

/-!
# Comparisons that end well

In a world that stands still a comparison ends well exactly if the two trees are equivalent
(`Comparator.run_eq_ok_iff_equivalent`).  `World.Equivalent` follows the trees: two directories that
can be listed hold the same names, the entries of each name match, and where both entries are
directories, links not followed, these are equivalent in turn.

Entries match (`World.Matching`) if links followed they lead to the same thing, and if what is seen
of the entries themselves, links not followed, is alike.
-/

namespace RestoreCheck

namespace World

variable (w : World) (o : Options) (k : Capabilities)

/-- **Two entries match.** -/
structure Matching (a b : Path) : Prop where
  /-- links followed, they lead to the same thing -/
  lead : w.view.LeadAlike a b
  /-- links not followed, both can be inspected, and what is seen of them is alike -/
  seen : ∃ m m', w.view.status a = .ok m ∧ w.view.status b = .ok m' ∧
    (w.seen a m).Readable o ∧ (w.seen b m').Readable o ∧
    (w.seen a m).Alike o k (o.mountedView.applies m m') (w.seen b m')

/-- **Two directories hold the same**, as far as their own entries go. -/
structure SameLevel (left right : Path) : Prop where
  /-- the left one can be listed -/
  list_left : ∃ names, w.view.list left = .ok names
  /-- the right one can be listed -/
  list_right : ∃ names, w.view.list right = .ok names
  /-- the same names stand in them -/
  names : ∀ n, w.view.Holds left n ↔ w.view.Holds right n
  /-- entries of one name match -/
  entries : ∀ n, w.view.Holds left n → w.view.Holds right n →
    w.Matching o k (left.join n.bytes) (right.join n.bytes)

/-- **Two directories are equivalent**, with all that is in them. -/
inductive Equivalent : Path → Path → Prop where
  /-- they hold the same, and the directories of one name in them are equivalent -/
  | intro {left right : Path} (level : w.SameLevel o k left right)
      (below : ∀ n, w.view.Descends left right n →
        Equivalent (left.join n.bytes) (right.join n.bytes)) : Equivalent left right

variable {w o k} {left right a b : Path}

/-! ### The parts of a traversal -/

theorem outcome_inspection_eq_ok_iff {path : Path} {m : Meta} :
    Event.outcome (w.inspection o path) = .ok () ↔ (w.seen path m).Readable o := by
  unfold inspection
  rw [Event.outcome_append_eq_ok_iff]
  have hflags : Event.outcome (if o.ignoreFlags then [] else [.flags path]) = .ok () := by
    cases o.ignoreFlags with
    | true => rfl
    | false => rfl
  have hxattrs : Event.outcome (if o.ignoreXattrs then []
      else [.xattrs path (faultOf? (w.xattrs path))]) = .ok () ↔ (w.seen path m).Readable o := by
    unfold Seen.Readable
    cases o.ignoreXattrs with
    | true => exact ⟨fun _ => nofun, fun _ => rfl⟩
    | false =>
      show Event.outcome [.xattrs path (faultOf? (w.xattrs path))] = .ok () ↔ _
      rw [Event.outcome_cons_eq_ok_iff]
      show (faultOf? (w.xattrs path)).map _ = none ∧ _ ↔ false = false → ∃ x, w.xattrs path = .ok x
      rw [map_faultOf?_eq_none_iff]
      exact ⟨fun h _ => h.1, fun h => ⟨h rfl, rfl⟩⟩
  exact ⟨fun h => hxattrs.1 h.2, fun h => ⟨hflags, hxattrs.2 h⟩⟩

theorem outcome_pairEvents_eq_ok_iff {name : Bytes} {m m' : Meta} :
    Event.outcome (w.pairEvents o k name a b m m') = .ok () ↔
      (w.seen a m).Readable o ∧ (w.seen b m').Readable o ∧
        (w.seen a m).Alike o k (o.mountedView.applies m m') (w.seen b m') := by
  unfold pairEvents
  dsimp only
  rw [Event.outcome_append_eq_ok_iff, Event.outcome_append_eq_ok_iff,
    outcome_inspection_eq_ok_iff (m := m), outcome_inspection_eq_ok_iff (m := m')]
  constructor
  · rintro ⟨hleft, hright, hvectors⟩
    obtain ⟨u, hu⟩ := (Seen.readable_iff k (o.mountedView.applies m m') name).1 hleft
    obtain ⟨v, hv⟩ := (Seen.readable_iff k (o.mountedView.applies m m') name).1 hright
    -- Both vectors could be made, so the last event is their comparison.
    rw [hu, hv] at hvectors
    obtain rfl : u = v := by
      rw [comparison, Event.outcome_cons_eq_ok_iff, Event.failure?_vectors_eq_none_iff] at hvectors
      exact hvectors.1
    exact (Seen.exists_attributes_iff name).1 ⟨u, hu, hv⟩
  · intro h
    obtain ⟨v, hu, hv⟩ := (Seen.exists_attributes_iff name).2 h
    rw [hu, hv]
    refine ⟨h.1, h.2.1, ?_⟩
    exact Event.outcome_cons_of_none (Event.failure?_vectors_eq_none_iff.2 rfl)

theorem outcome_entryEvents_eq_ok_iff {n : Name} :
    Event.outcome (w.entryEvents o k left right n) = .ok () ↔
      ∃ m m', w.view.status (left.join n.bytes) = .ok m ∧
        w.view.status (right.join n.bytes) = .ok m' ∧
        (w.seen (left.join n.bytes) m).Readable o ∧ (w.seen (right.join n.bytes) m').Readable o ∧
        (w.seen (left.join n.bytes) m).Alike o k (o.mountedView.applies m m')
          (w.seen (right.join n.bytes) m') := by
  unfold entryEvents
  dsimp only
  rw [Event.outcome_cons_eq_ok_iff, Event.outcome_cons_eq_ok_iff]
  show (faultOf? _).map _ = none ∧ (faultOf? _).map _ = none ∧ _ ↔ _
  rw [map_faultOf?_eq_none_iff, map_faultOf?_eq_none_iff]
  constructor
  · rintro ⟨⟨m, hm⟩, ⟨m', hm'⟩, hpair⟩
    rw [hm, hm'] at hpair
    exact ⟨m, m', hm, hm', outcome_pairEvents_eq_ok_iff.1 hpair⟩
  · rintro ⟨m, m', hm, hm', h⟩
    rw [hm, hm']
    exact ⟨⟨m, rfl⟩, ⟨m', rfl⟩, outcome_pairEvents_eq_ok_iff.2 h⟩

/-- **A traversal ends well** exactly if the two directories hold the same and every traversal below
them ends well. -/
theorem outcome_traversal_eq_ok_iff :
    Event.outcome (w.traversal o k left right) = .ok () ↔
      w.SameLevel o k left right ∧ ∀ n, w.view.Descends left right n →
        Event.outcome (w.traversal o k (left.join n.bytes) (right.join n.bytes)) = .ok () := by
  cases hlevel : Level.of w.view left right with
  | error failure =>
    rw [(traversal_of_error hlevel).2]
    refine ⟨nofun, ?_⟩
    rintro ⟨hsame, -⟩
    obtain ⟨leftNames, hleft⟩ := hsame.list_left
    obtain ⟨rightNames, hright⟩ := hsame.list_right
    rw [Level.of_eq_ok_iff.2 ⟨leftNames, rightNames, hleft, hright, rfl⟩] at hlevel
    cases hlevel
  | ok found =>
    rw [traversal_of_ok hlevel, Event.outcome_cons_eq_ok_iff, Event.outcome_cons_eq_ok_iff,
      Event.outcome_cons_eq_ok_iff, Event.failure?_level_eq_none_iff, Level.agrees_iff hlevel,
      Event.outcome_append_eq_ok_iff, Event.outcome_flatMap_eq_ok_iff,
      Event.outcome_flatMap_eq_ok_iff]
    constructor
    · rintro ⟨-, -, ⟨hnames, hlead⟩, hentries, hbelow⟩
      obtain ⟨leftNames, rightNames, hleft, hright, -⟩ := Level.of_eq_ok_iff.1 hlevel
      refine ⟨⟨⟨leftNames, hleft⟩, ⟨rightNames, hright⟩, hnames, fun n hl hr => ?_⟩, fun n hn => ?_⟩
      · have hn := (Level.mem_common_iff hlevel).2 ⟨hl, hr⟩
        exact ⟨hlead n hl hr, outcome_entryEvents_eq_ok_iff.1 (hentries n hn)⟩
      · exact hbelow n ((Level.mem_subdirectories_iff hlevel).2 hn)
    · rintro ⟨hsame, hbelow⟩
      refine ⟨rfl, rfl, ⟨hsame.names, fun n hl hr => (hsame.entries n hl hr).lead⟩, ?_, ?_⟩
      · intro n hn
        obtain ⟨hl, hr⟩ := (Level.mem_common_iff hlevel).1 hn
        exact outcome_entryEvents_eq_ok_iff.2 (hsame.entries n hl hr).seen
      · intro n hn
        exact hbelow n ((Level.mem_subdirectories_iff hlevel).1 hn)

/-! ### Equivalent trees -/

/-- The induction follows the descent of the traversal. -/
theorem outcome_traversal_eq_ok_iff_equivalent :
    Event.outcome (w.traversal o k left right) = .ok () ↔ w.Equivalent o k left right := by
  constructor
  · intro h
    induction left, right using traversal.induct w with
    | case1 left right ih =>
      obtain ⟨hsame, hbelow⟩ := outcome_traversal_eq_ok_iff.1 h
      obtain ⟨leftNames, hleft⟩ := hsame.list_left
      exact .intro hsame fun n hn => ih leftNames hleft n (hbelow n hn)
  · intro h
    induction h with
    | intro level _ ih => exact outcome_traversal_eq_ok_iff.2 ⟨level, ih⟩

/-- **Two trees are equivalent** exactly if all pairs of directories in them hold the same. -/
theorem equivalent_iff_forall_entered :
    w.Equivalent o k left right ↔
      ∀ a b, w.view.Entered left right a b → w.SameLevel o k a b := by
  constructor
  · intro h a b hab
    have hequivalent : w.Equivalent o k a b := by
      induction hab with
      | root => exact h
      | descend above step ih =>
        cases ih with
        | intro level hbelow => exact hbelow _ step
    cases hequivalent with
    | intro level hbelow => exact level
  · intro h
    induction left, right using traversal.induct w with
    | case1 left right ih =>
      have hsame : w.SameLevel o k left right := h left right .root
      obtain ⟨leftNames, hleft⟩ := hsame.list_left
      refine .intro hsame fun n hn => ih leftNames hleft n ?_
      intro a b hab
      exact h a b (.of_below hn hab)

end World

/-- **A comparison ends well** exactly if the two trees are equivalent. -/
theorem Comparator.run_eq_ok_iff_equivalent {σ : Type} (c : Comparator σ)
    (h : c.inspector.IsSteady) (left right : Path) (s : σ) :
    (c.run left right s).1 = .ok () ↔
      (c.inspector.world s).Equivalent c.options c.capabilities left right := by
  rw [c.run_eq_traversal h]
  exact World.outcome_traversal_eq_ok_iff_equivalent

theorem Comparator.strict_run_eq_ok_iff_equivalent :
    Comparator.strict.inspector.IsSteady ∧
      ((Comparator.strict.run [0x61] [0x62] (FileSystem.twoLinks [0x78] [0x78])).1 = .ok () ↔
        (Comparator.strict.inspector.world (FileSystem.twoLinks [0x78] [0x78])).Equivalent
          Comparator.strict.options Comparator.strict.capabilities [0x61] [0x62]) :=
  ⟨Inspector.isSteady_ofFiles,
    Comparator.strict.run_eq_ok_iff_equivalent Inspector.isSteady_ofFiles [0x61] [0x62]
      (FileSystem.twoLinks [0x78] [0x78])⟩

end RestoreCheck

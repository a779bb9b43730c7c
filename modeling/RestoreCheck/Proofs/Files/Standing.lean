import RestoreCheck.Proofs.Files.Entries

/-!
# Finding a directory again

The working directory is remembered by its path.  A directory that still stands is found again by
that path (`FileSystem.changeDirectory_of_stands`): the path enters one name after the other, none
of them is a link, and each of the directories on the way may be searched.

A path can be too long for the system, though, and then it leads nowhere, even if the directory
stands as it did (`FileSystem.changeDirectory_of_long`).  A directory comes to lie so deep when one
that already contains others is moved below another one.
-/

namespace RestoreCheck

namespace FileSystem

variable {fs : FileSystem} {l : Location}

/-- **A directory that stands where it stood**: it and all directories above it can be entered, and
its path is one that the system takes. -/
structure Stands (fs : FileSystem) (l : Location) : Prop where
  enterable : ∀ k, k <:+ l → fs.enterable k = .ok ()
  /-- the names are those of entries -/
  names : ∀ n ∈ l, n ≠ .dot ∧ n ≠ .dotDot ∧ 0 ∉ n.bytes ∧ n.bytes.length ≤ nameLimit
  /-- the path is short enough -/
  short : (pathTo l).length < Path.limit

/-! ### The path of a location -/

theorem pathTo_of_ne_nil (h : l ≠ []) : pathTo l = l.reverse.flatMap fun n => slash :: n.bytes := by
  cases l with
  | nil => exact absurd rfl h
  | cons n l => rfl

theorem isAbsolute_pathTo (l : Location) : (pathTo l).isAbsolute = true := by
  by_cases hl : l = []
  · subst hl
    rfl
  · rw [pathTo_of_ne_nil hl]
    cases hr : l.reverse with
    | nil => exact absurd (List.reverse_eq_nil_iff.1 hr) hl
    | cons n rest => rfl

theorem pathTo_ne_nil (l : Location) : pathTo l ≠ [] := by
  intro hnil
  have habsolute := isAbsolute_pathTo l
  rw [hnil] at habsolute
  cases habsolute

/-- The path of an entry goes on from that of its directory. -/
theorem pathTo_cons (n : Name) (hl : l ≠ []) : pathTo (n :: l) = pathTo l ++ slash :: n.bytes := by
  rw [pathTo_of_ne_nil hl, pathTo_of_ne_nil (List.cons_ne_nil n l), List.reverse_cons,
    List.flatMap_append, List.flatMap_singleton]

theorem parts_pathTo (l : Location) : Path.parts (pathTo l) = l.reverse := by
  have hroot : Path.parts [slash] = [] := by
    rw [Path.parts, dif_pos rfl, Path.parts]
  induction l with
  | nil => exact hroot
  | cons n l ih =>
    by_cases hl : l = []
    · subst hl
      show Path.parts ([] ++ slash :: n.bytes ++ []) = [n]
      rw [List.append_nil, Path.parts_append_slash, Path.parts_name, Path.parts, List.nil_append]
    · rw [pathTo_cons n hl, Path.parts_append_slash, Path.parts_name, ih, List.reverse_cons]

theorem endsInSlash_pathTo (l : Location) : (pathTo l).endsInSlash = false := by
  cases l with
  | nil =>
    rw [Path.endsInSlash, parts_pathTo]
    rfl
  | cons n l =>
    have hlast : (pathTo (n :: l)).getLast? ≠ some slash := by
      rw [pathTo_of_ne_nil (List.cons_ne_nil n l), List.reverse_cons, List.flatMap_append,
        List.flatMap_singleton, List.getLast?_append_of_ne_nil _ (List.cons_ne_nil _ _),
        List.getLast?_cons_of_ne_nil n.bytes_ne_nil]
      exact fun h => n.slash_notMem (List.mem_of_getLast? h)
    rw [Path.endsInSlash, decide_eq_false hlast, Bool.false_and]

/-- Only the names on the way can bring a zero byte into the path of a location. -/
theorem zero_notMem_pathTo (h : ∀ n ∈ l, 0 ∉ n.bytes) : 0 ∉ pathTo l := by
  have hslash : (0 : UInt8) ≠ slash := by decide
  cases l with
  | nil => exact fun hzero => hslash (List.mem_singleton.1 hzero)
  | cons n l =>
    rw [pathTo_of_ne_nil (List.cons_ne_nil n l), List.mem_flatMap]
    rintro ⟨m, hm, hzero⟩
    rcases List.mem_cons.1 hzero with hzero | hzero
    · exact hslash hzero
    · exact h m (List.mem_reverse.1 hm) hzero

/-! ### The way back -/

/-- **One directory after the other is entered** on the way down. -/
theorem leads_enter {links : Nat} (below : List Name) {k : Location}
    (henter : ∀ m, k <:+ m → m <:+ below.reverse ++ k → fs.enterable m = .ok ())
    (hshort : ∀ n ∈ below, n.bytes.length ≤ nameLimit) :
    fs.Leads .target links k (below.map .enter) (.existing (below.reverse ++ k)) := by
  induction below generalizing k with
  | nil => exact .here
  | cons n below ih =>
    have happend : (n :: below).reverse ++ k = below.reverse ++ n :: k := by
      rw [List.reverse_cons, List.append_assoc, List.singleton_append]
    rw [happend] at henter ⊢
    have hsuffix : n :: k <:+ below.reverse ++ n :: k := List.suffix_append _ _
    have hk := henter k (List.suffix_refl k) ((List.suffix_cons n k).trans hsuffix)
    have hn := henter (n :: k) (List.suffix_cons n k) hsuffix
    obtain ⟨x, hx⟩ := exists_node_of_enterable hn
    have hdirectory : ∀ target, x.kind ≠ .symlink target := by
      intro target hkind
      rw [enterable, hx] at hn
      simp [Node.isDirectory, NodeKind.isDirectory, hkind] at hn
    refine .enter hk (hshort n List.mem_cons_self) hx hdirectory (ih ?_ ?_)
    · exact fun m hm => henter m ((List.suffix_cons n k).trans hm)
    · exact fun m hm => hshort m (List.mem_cons_of_mem n hm)

/-- **A directory that stands is found again** by its path. -/
theorem changeDirectory_of_stands (h : fs.Stands l) :
    fs.changeDirectory (pathTo l) = .ok { fs with cwd := some l } := by
  have hsteps : (pathTo l).steps = l.reverse.map .enter := by
    rw [Path.steps, endsInSlash_pathTo, Path.namedSteps, parts_pathTo]
    refine (List.append_nil _).trans (List.map_congr_left fun n hn => ?_)
    obtain ⟨hdot, hdotDot, -⟩ := h.names n (List.mem_reverse.1 hn)
    rw [Path.Step.ofName, if_neg hdot, if_neg hdotDot]
  have hcheck : checkPath (pathTo l) = .ok () := by
    rw [checkPath, if_neg (zero_notMem_pathTo fun n hn => (h.names n hn).2.2.1),
      if_neg (pathTo_ne_nil l), if_neg (Nat.not_le.2 h.short)]
  have hdown : l.reverse.reverse ++ [] = l := by rw [List.reverse_reverse, List.append_nil]
  have henters : ∀ m, [] <:+ m → m <:+ l.reverse.reverse ++ [] → fs.enterable m = .ok () := by
    intro m _ hm
    rw [hdown] at hm
    exact h.enterable m hm
  have hshort : ∀ n ∈ l.reverse, n.bytes.length ≤ nameLimit := fun n hn =>
    (h.names n (List.mem_reverse.1 hn)).2.2.2
  have hleads : fs.Leads .target linkLimit [] (l.reverse.map .enter)
      (.existing (l.reverse.reverse ++ [])) := leads_enter l.reverse henters hshort
  rw [hdown, ← hsteps] at hleads
  have hstart : fs.start (pathTo l) = .ok [] := if_pos (isAbsolute_pathTo l)
  have hfind : fs.find .target (pathTo l) = .ok (.existing l) :=
    (find_eq_ok_iff (by decide)).2 ⟨hcheck, [], hstart, hleads⟩
  have henter := h.enterable l (List.suffix_refl l)
  obtain ⟨x, hx⟩ := exists_node_of_enterable henter
  have hlookup : fs.lookup .target (pathTo l) = .ok (l, x) := lookup_eq_ok_iff.2 ⟨hfind, hx⟩
  rw [changeDirectory, hlookup]
  dsimp only
  rw [henter]

/-- The working directory is remembered by its path. -/
theorem exists_cwd_of_cwdPath {p : Path} (h : fs.cwdPath = .ok p) :
    ∃ l, fs.cwd = some l ∧ p = pathTo l := by
  rw [cwdPath] at h
  cases hcwd : fs.cwd with
  | none =>
    rw [hcwd] at h
    cases h
  | some l =>
    rw [hcwd] at h
    cases h
    exact ⟨l, rfl, rfl⟩

/-- Changing the working directory changes nothing else. -/
theorem exists_locate_of_changeDirectory {p : Path} {fs' : FileSystem}
    (h : fs.changeDirectory p = .ok fs') :
    ∃ l, fs.locate .target p = .ok l ∧ fs' = { fs with cwd := some l } := by
  rw [changeDirectory] at h
  cases hlookup : fs.lookup .target p with
  | error f =>
    rw [hlookup] at h
    cases h
  | ok e =>
    obtain ⟨l, x⟩ := e
    rw [hlookup] at h
    dsimp only at h
    cases henter : fs.enterable l with
    | error f =>
      rw [henter] at h
      cases h
    | ok u =>
      rw [henter] at h
      cases h
      exact ⟨l, locate_eq_ok_iff.2 (lookup_eq_ok_iff.1 hlookup).1, rfl⟩

/-- **A path that is too long leads nowhere**, whatever stands there. -/
theorem changeDirectory_of_long {p : Path} (h : Path.limit ≤ p.length) :
    ∃ f, fs.changeDirectory p = .error f := by
  obtain ⟨f, hf⟩ : ∃ f, checkPath p = .error f := by
    by_cases hzero : 0 ∈ p
    · exact ⟨_, if_pos hzero⟩
    · by_cases hnil : p = []
      · exact ⟨_, (if_neg hzero).trans (if_pos hnil)⟩
      · exact ⟨_, (if_neg hzero).trans ((if_neg hnil).trans (if_pos h))⟩
  refine ⟨f, ?_⟩
  rw [changeDirectory, lookup, locate, find, follow, hf]

end FileSystem

end RestoreCheck

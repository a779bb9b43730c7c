import RestoreCheck.Files.Write
import RestoreCheck.Proofs.Files.Walks

/-!
# Changes below a location

Two file systems are alike outside a location (`FileSystem.AlikeOutside`) if all that stands
elsewhere is the same in both, but for the date of its last change.  Making and removing an entry
are such changes (`alikeOutside_addNode`, `alikeOutside_removeNames`).

A path that leads somewhere still leads there after an entry was removed, or meets the gap and leads
nowhere (`Leads.of_gone`).  A path to a name that is missing leads to that name still when something
was made there (`Leads.of_missing`).
-/

namespace RestoreCheck

/-- A node without the date of its last change. -/
def Node.undated (n : Node) : Node :=
  { n with modified := ⟨0, 0⟩ }

theorem Node.kind_eq_of_undated {m n : Node} (h : m.undated = n.undated) : m.kind = n.kind := by
  show m.undated.kind = n.undated.kind
  rw [h]

namespace FileSystem

/-- **Two file systems are alike outside a location.** -/
def AlikeOutside (l : Location) (fs fs' : FileSystem) : Prop :=
  ∀ k, ¬ l <:+ k → (fs'.node? k).map Node.undated = (fs.node? k).map Node.undated

variable {l k : Location} {fs fs' fs'' : FileSystem}

theorem AlikeOutside.trans (h : AlikeOutside l fs fs') (h' : AlikeOutside l fs' fs'') :
    AlikeOutside l fs fs'' :=
  fun k hk => (h' k hk).trans (h k hk)

/-! ### What depends on no date -/

section

variable (h : (fs'.node? k).map Node.undated = (fs.node? k).map Node.undated)
include h

theorem exists_node_of_undated {x : Node} (hx : fs.node? k = some x) :
    ∃ x', fs'.node? k = some x' ∧ x'.undated = x.undated := by
  rw [hx, Option.map_some] at h
  exact Option.map_eq_some_iff.1 h

theorem enterable_eq_of_undated : fs'.enterable k = fs.enterable k := by
  have hundated (fs : FileSystem) : fs.enterable k =
      ((fs.node? k).map Node.undated).elim (.error .noEntry) fun n =>
        if !n.isDirectory then .error .notDirectory
        else if !n.grants .search then .error .denied
        else .ok () := by
    unfold enterable
    cases fs.node? k <;> rfl
  rw [hundated, hundated, h]

theorem isDirectoryAt_eq_of_undated : fs'.isDirectoryAt k = fs.isDirectoryAt k := by
  have hany (fs : FileSystem) :
      fs.isDirectoryAt k = ((fs.node? k).map Node.undated).any Node.isDirectory := by
    unfold isDirectoryAt
    cases fs.node? k <;> rfl
  rw [hany, hany, h]

theorem changeable_eq_of_undated : fs'.changeable k = fs.changeable k := by
  have hundated (fs : FileSystem) : fs.changeable k =
      ((fs.node? k).map Node.undated).elim (.error .noEntry) fun n =>
        if n.grants .write && n.grants .search then .ok () else .error .denied := by
    unfold changeable
    cases fs.node? k <;> rfl
  rw [hundated, hundated, h]

end

/-! ### Making and removing -/

theorem index?_touchParent (fs : FileSystem) (l k : Location) :
    (fs.touchParent l).index? k = fs.index? k := by
  unfold touchParent modifyAt
  cases fs.index? l.tail <;> rfl

/-- The directory of a location is dated, and nothing else changes. -/
theorem undated_node?_touchParent (fs : FileSystem) (l k : Location) :
    ((fs.touchParent l).node? k).map Node.undated = (fs.node? k).map Node.undated := by
  unfold node?
  rw [index?_touchParent]
  cases fs.index? k with
  | none => rfl
  | some j =>
    unfold touchParent modifyAt
    cases fs.index? l.tail with
    | none => rfl
    | some i =>
      show ((fs.nodes.modify i fun n => { n with modified := fs.now })[j]?).map Node.undated =
        (fs.nodes[j]?).map Node.undated
      rw [Array.getElem?_modify]
      split
      · rw [Option.map_map]
        rfl
      · rfl

/-- The names that stay when a location is removed. -/
def remaining (fs : FileSystem) (l : Location) : FileSystem :=
  { fs with
    names := fs.names.filter fun e => !(l.isSuffixOf e.1)
    cwd := fs.cwd.filter fun w => !(l.isSuffixOf w) }

theorem removeNames_eq (fs : FileSystem) (l : Location) :
    fs.removeNames l = (fs.remaining l).touchParent l := rfl

theorem index?_remaining (fs : FileSystem) (l k : Location) :
    (fs.remaining l).index? k = if l <:+ k then none else fs.index? k := by
  unfold index? remaining
  dsimp only
  rw [List.find?_filter]
  split
  next hk =>
    rw [Option.map_eq_none_iff, List.find?_eq_none]
    intro e _ he
    obtain ⟨hstays, rfl⟩ : l.isSuffixOf e.1 = false ∧ e.1 = k := by simpa using he
    rw [List.isSuffixOf_iff_suffix.2 hk] at hstays
    cases hstays
  next hk =>
    have hstays (e : Location × Nat) :
        decide ((!l.isSuffixOf e.1) = true ∧ decide (e.1 = k) = true) = decide (e.1 = k) := by
      rw [decide_eq_decide]
      refine ⟨fun h => of_decide_eq_true h.2, ?_⟩
      rintro rfl
      simpa [← List.isSuffixOf_iff_suffix] using hk
    simp only [hstays]

/-- **Nothing is left** where an entry was removed, nor below. -/
theorem node?_removeNames_of_suffix (fs : FileSystem) (hk : l <:+ k) :
    (fs.removeNames l).node? k = none := by
  unfold node?
  rw [removeNames_eq, index?_touchParent, index?_remaining, if_pos hk]
  rfl

theorem alikeOutside_removeNames (l : Location) (fs : FileSystem) :
    AlikeOutside l fs (fs.removeNames l) := by
  intro k hk
  rw [removeNames_eq, undated_node?_touchParent]
  unfold node?
  rw [index?_remaining, if_neg hk]
  rfl

/-- **A file system that is a tree.**  All that stands somewhere is stored, stands in something that
exists, and has a name of its own there. -/
structure IsTree (fs : FileSystem) : Prop where
  stored : ∀ {k i}, fs.index? k = some i → i < fs.nodes.size
  rooted : ∀ {n k x}, fs.node? (n :: k) = some x → ∃ y, fs.node? k = some y
  named : ∀ {n k x}, fs.node? (n :: k) = some x → Path.Step.ofName n = .enter n

/-- A file system is a tree if each entry of its table of names fits in. -/
theorem IsTree.of_names
    (h : (fs.names.all fun e => decide (e.2 < fs.nodes.size) &&
      match e.1 with
      | [] => true
      | n :: k => decide (Path.Step.ofName n = .enter n) && (fs.node? k).isSome) = true) :
    fs.IsTree := by
  have hfits {l : Location} {i : Nat} (hi : fs.index? l = some i) := by
    have hmem : (l, i) ∈ fs.names := by
      unfold index? at hi
      obtain ⟨e, he, rfl⟩ := Option.map_eq_some_iff.1 hi
      obtain rfl : e.1 = l := by simpa using List.find?_some he
      exact List.mem_of_find?_eq_some he
    exact Bool.and_eq_true_iff.1 (List.all_eq_true.1 h _ hmem)
  have hbelow {n : Name} {l : Location} {x : Node} (hx : fs.node? (n :: l) = some x) :
      Path.Step.ofName n = .enter n ∧ (fs.node? l).isSome = true := by
    obtain ⟨i, hi, -⟩ := Option.bind_eq_some_iff.1 hx
    exact (Bool.and_eq_true_iff.1 (hfits hi).2).imp_left of_decide_eq_true
  refine ⟨fun hi => of_decide_eq_true (hfits hi).1, fun hx => ?_, fun hx => (hbelow hx).1⟩
  exact Option.isSome_iff_exists.1 (hbelow hx).2

theorem IsTree.exists_node_of_suffix (h : IsTree fs) {x : Node} (hx : fs.node? k = some x)
    (hl : l <:+ k) : ∃ y, fs.node? l = some y := by
  induction k generalizing x with
  | nil =>
    obtain rfl := List.suffix_nil.1 hl
    exact ⟨x, hx⟩
  | cons n k ih =>
    rcases List.suffix_cons_iff.1 hl with rfl | hl
    · exact ⟨x, hx⟩
    · obtain ⟨y, hy⟩ := h.rooted hx
      exact ih hy hl

theorem alikeOutside_addNode (h : IsTree fs) (l : Location) (kind : NodeKind)
    (permissions : UInt32) : AlikeOutside l fs (fs.addNode l kind permissions) := by
  intro k hk
  have hne : l ≠ k := fun heq => hk (heq ▸ List.suffix_rfl)
  unfold addNode addName
  rw [undated_node?_touchParent]
  unfold node?
  have hindex (nodes : Array Node) (i : Nat) :
      FileSystem.index? { fs with nodes, names := fs.names ++ [(l, i)] } k = fs.index? k := by
    unfold index?
    simp [List.find?_append, hne]
  rw [hindex]
  cases hi : fs.index? k with
  | none => rfl
  | some i =>
    have hsize := h.stored hi
    show Option.map Node.undated ((fs.nodes.push _)[i]?) = Option.map Node.undated (fs.nodes[i]?)
    rw [Array.getElem?_push, if_neg (by omega)]

/-! ### Walks past a gap -/

/-- **A walk that leads nowhere** because something on the way does not exist. -/
def Gone (found : Except Errno Found) : Prop :=
  found = .error .noEntry ∨ ∃ d n, found = .ok (.missing d n)

variable {goal : Goal} {links : Nat} {s : Location} {steps : List Path.Step} {f : Found}

theorem not_suffix_tail {x : Location} (h : ¬ l <:+ x) : ¬ l <:+ x.tail :=
  fun htail => h (htail.trans (List.tail_suffix x))

theorem not_suffix_linkStart {x : Location} (target : Path) (hl : l ≠ []) (h : ¬ l <:+ x) :
    ¬ l <:+ linkStart x target := by
  unfold linkStart
  split
  · exact fun hnil => hl (List.suffix_nil.1 hnil)
  · exact h

theorem gone_walk_enter {n : Name} (hgoal : goal ≠ .file) (henter : fs.enterable s = .ok ())
    (hshort : n.bytes.length ≤ nameLimit) (hnode : fs.node? (n :: s) = none)
    (rest : List Path.Step) : Gone (fs.walk links goal s (.enter n :: rest)).found := by
  rw [walk_enter_none hgoal henter hshort hnode]
  by_cases hrest : rest = []
  · rw [if_pos hrest]
    exact .inr ⟨_, _, rfl⟩
  · rw [if_neg hrest]
    exact .inl rfl

/-- **Something was removed from a file system.**  A walk that led somewhere else still does, or it
meets the gap, and then so does every longer walk. -/
theorem Leads.of_gone (hgoal : goal ≠ .file) (h : AlikeOutside l fs fs')
    (hgone : ∀ {k}, l <:+ k → fs'.node? k = none) (hl : l ≠ []) (hs : ¬ l <:+ s)
    (hleads : fs.Leads goal links s steps (.existing k)) :
    ¬ l <:+ k ∧ fs'.Leads goal links s steps (.existing k) ∨
      ∀ rest, Gone (fs'.walk links goal s (steps ++ rest)).found := by
  generalize hf : Found.existing k = f at hleads
  induction hleads with
  | here =>
    obtain rfl := Found.existing.inj hf
    exact .inl ⟨hs, .here⟩
  | directory isDirectory next ih =>
    have isDirectory' := (isDirectoryAt_eq_of_undated (h _ hs)).trans isDirectory
    rcases ih hs hf with ⟨hk, hnext⟩ | hrest
    · exact .inl ⟨hk, .directory isDirectory' hnext⟩
    · refine .inr fun rest => ?_
      rw [List.cons_append, walk_directory isDirectory']
      exact hrest rest
  | stay enterable next ih =>
    have enterable' := (enterable_eq_of_undated (h _ hs)).trans enterable
    rcases ih hs hf with ⟨hk, hnext⟩ | hrest
    · exact .inl ⟨hk, .stay enterable' hnext⟩
    · refine .inr fun rest => ?_
      rw [List.cons_append, walk_stay enterable']
      exact hrest rest
  | up enterable next ih =>
    have enterable' := (enterable_eq_of_undated (h _ hs)).trans enterable
    rcases ih (not_suffix_tail hs) hf with ⟨hk, hnext⟩ | hrest
    · exact .inl ⟨hk, .up enterable' hnext⟩
    · refine .inr fun rest => ?_
      rw [List.cons_append, walk_up enterable']
      exact hrest rest
  | missing enterable short node => cases hf
  | @kept links s n x target enterable short node kind follows =>
    have enterable' := (enterable_eq_of_undated (h _ hs)).trans enterable
    obtain rfl := Found.existing.inj hf
    by_cases hn : l <:+ n :: s
    · exact .inr fun rest => gone_walk_enter hgoal enterable' short (hgone hn) _
    · obtain ⟨x', node', hx⟩ := exists_node_of_undated (h _ hn) node
      have kind' := (Node.kind_eq_of_undated hx).trans kind
      exact .inl ⟨hn, .kept enterable' short node' kind' follows⟩
  | @link links s n steps f x target enterable short node kind follows next ih =>
    have enterable' := (enterable_eq_of_undated (h _ hs)).trans enterable
    by_cases hn : l <:+ n :: s
    · exact .inr fun rest => gone_walk_enter hgoal enterable' short (hgone hn) _
    · obtain ⟨x', node', hx⟩ := exists_node_of_undated (h _ hn) node
      have kind' := (Node.kind_eq_of_undated hx).trans kind
      rcases ih (not_suffix_linkStart target hl hs) hf with ⟨hk, hnext⟩ | hrest
      · exact .inl ⟨hk, .link enterable' short node' kind' follows hnext⟩
      · refine .inr fun rest => ?_
        have hfollows : steps ++ rest ≠ [] ∨ goal.follows = true :=
          follows.imp_left fun hne hnil => hne (List.append_eq_nil_iff.1 hnil).1
        have hnext := hrest rest
        rw [List.append_assoc] at hnext
        rw [List.cons_append, walk_enter_link hgoal enterable' short node' kind' hfollows]
        exact hnext
  | @enter links s n steps f x enterable short node kind next ih =>
    have enterable' := (enterable_eq_of_undated (h _ hs)).trans enterable
    by_cases hn : l <:+ n :: s
    · exact .inr fun rest => gone_walk_enter hgoal enterable' short (hgone hn) _
    · obtain ⟨x', node', hx⟩ := exists_node_of_undated (h _ hn) node
      have kind' : ∀ target, x'.kind ≠ .symlink target := Node.kind_eq_of_undated hx ▸ kind
      rcases ih hn hf with ⟨hk, hnext⟩ | hrest
      · exact .inl ⟨hk, .enter enterable' short node' kind' hnext⟩
      · refine .inr fun rest => ?_
        rw [List.cons_append, walk_enter hgoal enterable' short node' kind']
        exact hrest rest

/-- **Something was made in a file system.**  A walk to the name that was missing there leads to it
still, or to what stands there now. -/
theorem Leads.of_missing {d : Location} {n : Name} (h : AlikeOutside (n :: d) fs fs')
    (hnone : fs.node? (n :: d) = none) (hkept : goal.follows = false) (hs : ¬ n :: d <:+ s)
    (hleads : fs.Leads goal links s steps (.missing d n)) :
    fs'.Leads goal links s steps (.missing d n) ∨
      fs'.Leads goal links s steps (.existing (n :: d)) := by
  generalize hf : Found.missing d n = f at hleads
  -- What exists before the change is not below the name that is missing.
  have houtside {m : Name} {s : Location} {x : Node} (hs : ¬ n :: d <:+ s)
      (hx : fs.node? (m :: s) = some x) : ¬ n :: d <:+ m :: s := by
    intro hsuffix
    rcases List.suffix_cons_iff.1 hsuffix with heq | hsuffix
    · rw [← heq, hnone] at hx
      cases hx
    · exact hs hsuffix
  induction hleads with
  | here => cases hf
  | directory isDirectory next ih =>
    have isDirectory' := (isDirectoryAt_eq_of_undated (h _ hs)).trans isDirectory
    exact (ih hs hf).imp (.directory isDirectory') (.directory isDirectory')
  | stay enterable next ih =>
    have enterable' := (enterable_eq_of_undated (h _ hs)).trans enterable
    exact (ih hs hf).imp (.stay enterable') (.stay enterable')
  | up enterable next ih =>
    have enterable' := (enterable_eq_of_undated (h _ hs)).trans enterable
    exact (ih (not_suffix_tail hs) hf).imp (.up enterable') (.up enterable')
  | @missing links s m enterable short node =>
    obtain ⟨rfl, rfl⟩ := Found.missing.inj hf
    have enterable' := (enterable_eq_of_undated (h _ hs)).trans enterable
    cases node' : fs'.node? (n :: d) with
    | none => exact .inl (.missing enterable' short node')
    | some x =>
      right
      cases kind : x.kind with
      | symlink target => exact .kept enterable' short node' kind hkept
      | _ => exact .enter enterable' short node' (by simp [kind]) .here
  | kept enterable short node kind follows => cases hf
  | link enterable short node kind follows next ih =>
    have enterable' := (enterable_eq_of_undated (h _ hs)).trans enterable
    obtain ⟨x', node', hx⟩ := exists_node_of_undated (h _ (houtside hs node)) node
    have kind' := (Node.kind_eq_of_undated hx).trans kind
    exact (ih (not_suffix_linkStart _ (List.cons_ne_nil n d) hs) hf).imp
      (.link enterable' short node' kind' follows) (.link enterable' short node' kind' follows)
  | @enter links s m steps f x enterable short node kind next ih =>
    have enterable' := (enterable_eq_of_undated (h _ hs)).trans enterable
    obtain ⟨x', node', hx⟩ := exists_node_of_undated (h _ (houtside hs node)) node
    have kind' : ∀ target, x'.kind ≠ .symlink target := Node.kind_eq_of_undated hx ▸ kind
    exact (ih (houtside hs node) hf).imp (.enter enterable' short node' kind')
      (.enter enterable' short node' kind')

end FileSystem

end RestoreCheck

import RestoreCheck.Files.Resolve

/-!
# Walks that lead somewhere

`FileSystem.Leads` has one rule for each way in which a step of a walk can be taken.  A walk that
ends without a fault is one that these rules make up (`found_walk_eq_ok_iff`), which turns a
question about walks into an induction over them.
-/

namespace RestoreCheck

/-- What a walk looks at in a node: what it is, and whether it can be searched. -/
def Node.passage (n : Node) : NodeKind × Bool :=
  (n.kind, n.grants .search)

namespace FileSystem

variable (fs : FileSystem) (goal : Goal)

/-- **Where a walk leads**, step by step. -/
inductive Leads : Nat → Location → List Path.Step → Found → Prop where
  /-- there are no more steps -/
  | here {links : Nat} {l : Location} : Leads links l [] (.existing l)
  /-- a directory is asked for, and is there -/
  | directory {links : Nat} {l : Location} {rest : List Path.Step} {f : Found}
      (isDirectory : fs.isDirectoryAt l = true) (next : Leads links l rest f) :
      Leads links l (.directory :: rest) f
  | stay {links : Nat} {l : Location} {rest : List Path.Step} {f : Found}
      (enterable : fs.enterable l = .ok ()) (next : Leads links l rest f) :
      Leads links l (.stay :: rest) f
  | up {links : Nat} {l : Location} {rest : List Path.Step} {f : Found}
      (enterable : fs.enterable l = .ok ()) (next : Leads links l.tail rest f) :
      Leads links l (.up :: rest) f
  /-- the last name does not exist -/
  | missing {links : Nat} {l : Location} {n : Name} (enterable : fs.enterable l = .ok ())
      (short : n.bytes.length ≤ nameLimit) (node : fs.node? (n :: l) = none) :
      Leads links l [.enter n] (.missing l n)
  /-- the last name is that of a link, which is not followed -/
  | kept {links : Nat} {l : Location} {n : Name} {x : Node} {target : Path}
      (enterable : fs.enterable l = .ok ()) (short : n.bytes.length ≤ nameLimit)
      (node : fs.node? (n :: l) = some x) (kind : x.kind = .symlink target)
      (follows : goal.follows = false) : Leads links l [.enter n] (.existing (n :: l))
  /-- a link is followed -/
  | link {links : Nat} {l : Location} {n : Name} {rest : List Path.Step} {f : Found} {x : Node}
      {target : Path} (enterable : fs.enterable l = .ok ()) (short : n.bytes.length ≤ nameLimit)
      (node : fs.node? (n :: l) = some x) (kind : x.kind = .symlink target)
      (follows : rest ≠ [] ∨ goal.follows = true)
      (next : Leads links (linkStart l target) (target.steps ++ rest) f) :
      Leads (links + 1) l (.enter n :: rest) f
  /-- anything else is entered -/
  | enter {links : Nat} {l : Location} {n : Name} {rest : List Path.Step} {f : Found} {x : Node}
      (enterable : fs.enterable l = .ok ()) (short : n.bytes.length ≤ nameLimit)
      (node : fs.node? (n :: l) = some x) (kind : ∀ target, x.kind ≠ .symlink target)
      (next : Leads links (n :: l) rest f) : Leads links l (.enter n :: rest) f

variable {fs goal} {links : Nat} {l : Location} {n : Name} {rest steps : List Path.Step} {f : Found}

/-! ### Steps of a walk -/

theorem walk_directory (h : fs.isDirectoryAt l = true) :
    fs.walk links goal l (.directory :: rest) = fs.walk links goal l rest := by
  rw [walk, if_pos h]

theorem walk_stay (h : fs.enterable l = .ok ()) :
    fs.walk links goal l (.stay :: rest) = fs.walk links goal l rest := by
  rw [walk, h]

theorem walk_up (h : fs.enterable l = .ok ()) :
    fs.walk links goal l (.up :: rest) = fs.walk links goal l.tail rest := by
  rw [walk, h]

section

variable (hgoal : goal ≠ .file) (henter : fs.enterable l = .ok ())
  (hshort : n.bytes.length ≤ nameLimit)
include hgoal henter hshort

theorem walk_enter_none (hnode : fs.node? (n :: l) = none) :
    fs.walk links goal l (.enter n :: rest) =
      if rest = [] then .arrived (.missing l n) else .stopped .noEntry := by
  rw [walk, henter]
  dsimp only
  rw [if_neg (by simp [hgoal]), if_neg (by omega), hnode]

theorem walk_enter_kept {node : Node} {target : Path} (hnode : fs.node? (n :: l) = some node)
    (hkind : node.kind = .symlink target) (hfollows : goal.follows = false) :
    fs.walk links goal l [.enter n] = .arrived (.existing (n :: l)) := by
  rw [walk, henter]
  dsimp only
  rw [if_neg (by simp [hgoal]), if_neg (by omega), hnode]
  dsimp only
  rw [hkind]
  simp [hfollows]

theorem walk_enter_link {node : Node} {target : Path} (hnode : fs.node? (n :: l) = some node)
    (hkind : node.kind = .symlink target) (hfollows : rest ≠ [] ∨ goal.follows = true) :
    fs.walk (links + 1) goal l (.enter n :: rest) =
      (fs.walk links goal (linkStart l target) (target.steps ++ rest)).after (n :: l) := by
  rw [walk, henter]
  dsimp only
  rw [if_neg (by simp [hgoal]), if_neg (by omega), hnode]
  dsimp only
  rw [hkind]
  dsimp only
  rw [if_neg]
  rintro ⟨hrest, hkept⟩
  rcases hfollows with h | h
  · exact h hrest
  · simp [hkept] at h

theorem walk_enter {node : Node} (hnode : fs.node? (n :: l) = some node)
    (hkind : ∀ target, node.kind ≠ .symlink target) :
    fs.walk links goal l (.enter n :: rest) = fs.walk links goal (n :: l) rest := by
  rw [walk, henter]
  dsimp only
  rw [if_neg (by simp [hgoal]), if_neg (by omega), hnode]
  dsimp only
  cases h : node.kind with
  | symlink target => exact absurd h (hkind target)
  | _ => rfl

end

/-! ### Walks and rules -/

theorem Leads.found_walk (hgoal : goal ≠ .file) (h : fs.Leads goal links l steps f) :
    (fs.walk links goal l steps).found = .ok f := by
  induction h with
  | here => rw [walk]; rfl
  | directory isDirectory next ih => rw [walk_directory isDirectory, ih]
  | stay enterable next ih => rw [walk_stay enterable, ih]
  | up enterable next ih => rw [walk_up enterable, ih]
  | missing enterable short node => rw [walk_enter_none hgoal enterable short node]; rfl
  | kept enterable short node kind follows =>
    rw [walk_enter_kept hgoal enterable short node kind follows]
    rfl
  | link enterable short node kind follows next ih =>
    rw [walk_enter_link hgoal enterable short node kind follows]
    exact ih
  | enter enterable short node kind next ih =>
    rw [walk_enter hgoal enterable short node kind, ih]

theorem leads_of_found_walk (h : (fs.walk links goal l steps).found = .ok f) :
    fs.Leads goal links l steps f := by
  fun_induction walk fs links goal l steps with
  | case1 links l =>
    cases h
    exact .here
  | case2 links l rest isDirectory ih => exact .directory isDirectory (ih h)
  | case5 links l rest enterable ih => exact .stay enterable (ih h)
  | case7 links l rest enterable ih => exact .up enterable (ih h)
  | case11 links l n enterable short node _ =>
    cases h
    exact .missing enterable (Nat.le_of_not_lt short) node
  | case13 links l n rest enterable _ short x node target kind kept =>
    obtain ⟨rfl, hkept⟩ := kept
    cases h
    exact .kept enterable (Nat.le_of_not_lt short) node kind hkept
  | case15 l n rest enterable _ short x node target kind follows links ih =>
    refine .link enterable (Nat.le_of_not_lt short) node kind ?_ (ih h)
    rcases Decidable.em (rest = []) with hrest | hrest
    · exact .inr (Bool.ne_false_iff.1 fun hkept => follows ⟨hrest, hkept⟩)
    · exact .inl hrest
  | case16 links l n rest enterable _ short x node kind ih =>
    exact .enter enterable (Nat.le_of_not_lt short) node kind (ih h)
  -- In the other cases the walk ends in a fault.
  | case3 | case4 | case6 | case8 | case9 | case10 | case12 | case14 => cases h

/-- **A walk leads somewhere** exactly if the rules lead there. -/
theorem found_walk_eq_ok_iff (hgoal : goal ≠ .file) :
    (fs.walk links goal l steps).found = .ok f ↔ fs.Leads goal links l steps f :=
  ⟨leads_of_found_walk, Leads.found_walk hgoal⟩

theorem Leads.found_eq {f' : Found} (hgoal : goal ≠ .file) (h : fs.Leads goal links l steps f)
    (h' : fs.Leads goal links l steps f') : f = f' :=
  Except.ok.inj ((h.found_walk hgoal).symm.trans (h'.found_walk hgoal))

/-- What a path is followed for matters only in whether a last link is followed. -/
theorem Leads.of_follows_eq (h : fs.Leads goal links l steps f) (goal' : Goal)
    (hgoal : goal'.follows = goal.follows) : fs.Leads goal' links l steps f := by
  induction h with
  | here => exact .here
  | directory isDirectory next ih => exact .directory isDirectory ih
  | stay enterable next ih => exact .stay enterable ih
  | up enterable next ih => exact .up enterable ih
  | missing enterable short node => exact .missing enterable short node
  | kept enterable short node kind follows =>
    exact .kept enterable short node kind (hgoal.trans follows)
  | link enterable short node kind follows next ih =>
    exact .link enterable short node kind (by rwa [hgoal]) ih
  | enter enterable short node kind next ih => exact .enter enterable short node kind ih

/-- A walk to something that is no link leads there also if links in the last place are followed. -/
theorem Leads.target_of_kind {k : Location} {x : Node}
    (h : fs.Leads goal links l steps (.existing k)) (hx : fs.node? k = some x)
    (hkind : ∀ target, x.kind ≠ .symlink target) :
    fs.Leads .target links l steps (.existing k) := by
  generalize hf : Found.existing k = f at h
  induction h with
  | here => exact .here
  | directory isDirectory next ih => exact .directory isDirectory (ih hf)
  | stay enterable next ih => exact .stay enterable (ih hf)
  | up enterable next ih => exact .up enterable (ih hf)
  | missing enterable short node => cases hf
  | kept enterable short node kind follows =>
    obtain rfl := Found.existing.inj hf
    obtain rfl := Option.some.inj (node.symm.trans hx)
    exact absurd kind (hkind _)
  | link enterable short node kind follows next ih =>
    exact .link enterable short node kind (.inr rfl) (ih hf)
  | enter enterable short node kind next ih => exact .enter enterable short node kind (ih hf)

/-! ### Parts of a walk -/

/-- **A walk in two parts**: the first leads to a place, and the second leads on from there. -/
theorem Leads.split (hrest : rest ≠ []) (h : fs.Leads goal links l (steps ++ rest) f) :
    ∃ k links', fs.Leads .target links l steps (.existing k) ∧ fs.Leads goal links' k rest f := by
  generalize hall : steps ++ rest = all at h
  -- If no steps are left of the first part, what follows is the second.
  induction h generalizing steps with
  | here => exact absurd (List.append_eq_nil_iff.1 hall).2 hrest
  | directory isDirectory next ih =>
    rcases List.append_eq_cons_iff.1 hall with ⟨rfl, rfl⟩ | ⟨steps, rfl, rfl⟩
    · exact ⟨_, _, .here, .directory isDirectory next⟩
    · obtain ⟨k, links', hfirst, hlast⟩ := ih rfl
      exact ⟨k, links', .directory isDirectory hfirst, hlast⟩
  | stay enterable next ih =>
    rcases List.append_eq_cons_iff.1 hall with ⟨rfl, rfl⟩ | ⟨steps, rfl, rfl⟩
    · exact ⟨_, _, .here, .stay enterable next⟩
    · obtain ⟨k, links', hfirst, hlast⟩ := ih rfl
      exact ⟨k, links', .stay enterable hfirst, hlast⟩
  | up enterable next ih =>
    rcases List.append_eq_cons_iff.1 hall with ⟨rfl, rfl⟩ | ⟨steps, rfl, rfl⟩
    · exact ⟨_, _, .here, .up enterable next⟩
    · obtain ⟨k, links', hfirst, hlast⟩ := ih rfl
      exact ⟨k, links', .up enterable hfirst, hlast⟩
  | @missing links l n enterable short node =>
    rcases List.append_eq_cons_iff.1 hall with ⟨rfl, rfl⟩ | ⟨steps, rfl, hnil⟩
    · exact ⟨_, links, .here, .missing enterable short node⟩
    · exact absurd (List.append_eq_nil_iff.1 hnil.symm).2 hrest
  | @kept links l n x target enterable short node kind follows =>
    rcases List.append_eq_cons_iff.1 hall with ⟨rfl, rfl⟩ | ⟨steps, rfl, hnil⟩
    · exact ⟨_, links, .here, .kept enterable short node kind follows⟩
    · exact absurd (List.append_eq_nil_iff.1 hnil.symm).2 hrest
  | link enterable short node kind follows next ih =>
    rcases List.append_eq_cons_iff.1 hall with ⟨rfl, rfl⟩ | ⟨steps, rfl, rfl⟩
    · exact ⟨_, _, .here, .link enterable short node kind follows next⟩
    · obtain ⟨k, links', hfirst, hlast⟩ := ih (List.append_assoc _ _ _)
      exact ⟨k, links', .link enterable short node kind (.inr rfl) hfirst, hlast⟩
  | enter enterable short node kind next ih =>
    rcases List.append_eq_cons_iff.1 hall with ⟨rfl, rfl⟩ | ⟨steps, rfl, rfl⟩
    · exact ⟨_, _, .here, .enter enterable short node kind next⟩
    · obtain ⟨k, links', hfirst, hlast⟩ := ih rfl
      exact ⟨k, links', .enter enterable short node kind hfirst, hlast⟩

/-- **A walk that goes on** from the place where its first part leads. -/
theorem Leads.append {k : Location} (h : fs.Leads .target links l steps (.existing k))
    (hrest : rest ≠ []) (hlast : ∀ links', fs.Leads goal links' k rest f) :
    fs.Leads goal links l (steps ++ rest) f := by
  generalize hf : Found.existing k = found at h
  induction h with
  | here =>
    rw [Found.existing.inj hf] at hlast
    exact hlast _
  | directory isDirectory next ih => exact .directory isDirectory (ih hf)
  | stay enterable next ih => exact .stay enterable (ih hf)
  | up enterable next ih => exact .up enterable (ih hf)
  | missing enterable short node => cases hf
  | kept enterable short node kind follows => cases follows
  | link enterable short node kind follows next ih =>
    have hlater := ih hf
    rw [List.append_assoc] at hlater
    exact .link enterable short node kind
      (.inl (List.append_ne_nil_of_right_ne_nil _ hrest)) hlater
  | enter enterable short node kind next ih => exact .enter enterable short node kind (ih hf)

/-- A walk along which a last link is followed leads somewhere also if it is not. -/
theorem Leads.exists_of_target {k : Location} (hgoal : goal.follows = false)
    (h : fs.Leads .target links l steps (.existing k)) :
    ∃ k', fs.Leads goal links l steps (.existing k') := by
  generalize hf : Found.existing k = f at h
  induction h with
  | here => exact ⟨_, .here⟩
  | directory isDirectory next ih =>
    obtain ⟨k', h'⟩ := ih hf
    exact ⟨k', .directory isDirectory h'⟩
  | stay enterable next ih =>
    obtain ⟨k', h'⟩ := ih hf
    exact ⟨k', .stay enterable h'⟩
  | up enterable next ih =>
    obtain ⟨k', h'⟩ := ih hf
    exact ⟨k', .up enterable h'⟩
  | missing enterable short node => cases hf
  | kept enterable short node kind follows => cases follows
  | @link links l n rest f x target enterable short node kind follows next ih =>
    by_cases hrest : rest = []
    · subst hrest
      exact ⟨_, .kept enterable short node kind hgoal⟩
    · obtain ⟨k', h'⟩ := ih hf
      exact ⟨k', .link enterable short node kind (.inl hrest) h'⟩
  | enter enterable short node kind next ih =>
    obtain ⟨k', h'⟩ := ih hf
    exact ⟨k', .enter enterable short node kind h'⟩

/-- **The first steps of a walk lead somewhere**, if links in the last place are not followed. -/
theorem Leads.exists_of_append {k : Location} (hgoal : goal.follows = false)
    (h : fs.Leads goal links l (steps ++ rest) (.existing k)) :
    ∃ k', fs.Leads goal links l steps (.existing k') := by
  by_cases hrest : rest = []
  · rw [hrest, List.append_nil] at h
    exact ⟨k, h⟩
  · obtain ⟨k', links', hfirst, -⟩ := h.split hrest
    exact hfirst.exists_of_target hgoal

/-- A walk to a name that is missing enters that name last. -/
theorem Leads.getLast?_eq_of_missing {d : Location}
    (h : fs.Leads goal links l steps (.missing d n)) (hgoal : goal.follows = false) :
    steps.getLast? = some (.enter n) := by
  generalize hf : Found.missing d n = f at h
  have hcons {x : Path.Step} {rest : List Path.Step}
      (hrest : rest.getLast? = some (.enter n)) : (x :: rest).getLast? = some (.enter n) := by
    rw [List.getLast?_cons, hrest]
    rfl
  induction h with
  | here => cases hf
  | directory isDirectory next ih => exact hcons (ih hf)
  | stay enterable next ih => exact hcons (ih hf)
  | up enterable next ih => exact hcons (ih hf)
  | missing enterable short node =>
    obtain ⟨-, rfl⟩ := Found.missing.inj hf
    rfl
  | kept enterable short node kind follows => cases hf
  | link enterable short node kind follows next ih =>
    -- The link is not the last, so the steps after it end like those of the whole walk.
    have hrest := follows.resolve_right (by simp [hgoal])
    have hx := List.getLast?_eq_some_getLast hrest
    have hlast := ih hf
    rw [List.getLast?_append, hx] at hlast
    exact hcons (hx.trans hlast)
  | enter enterable short node kind next ih => exact hcons (ih hf)

theorem Leads.node?_eq_none_of_missing {d : Location}
    (h : fs.Leads goal links l steps (.missing d n)) : fs.node? (n :: d) = none := by
  generalize hf : Found.missing d n = f at h
  induction h with
  | here => cases hf
  | directory _ next ih | stay _ next ih | up _ next ih | link _ _ _ _ _ next ih
  | enter _ _ _ _ next ih => exact ih hf
  | missing enterable short node =>
    obtain ⟨rfl, rfl⟩ := Found.missing.inj hf
    exact node
  | kept enterable short node kind follows => cases hf

theorem exists_node_of_enterable (h : fs.enterable l = .ok ()) : ∃ x, fs.node? l = some x := by
  unfold enterable at h
  cases hx : fs.node? l with
  | none =>
    rw [hx] at h
    cases h
  | some x => exact ⟨x, rfl⟩

/-- A walk that takes a step starts from something that exists. -/
theorem Leads.exists_node (h : fs.Leads goal links l steps f) (hsteps : steps ≠ []) :
    ∃ x, fs.node? l = some x := by
  cases h with
  | here => exact absurd rfl hsteps
  | directory isDirectory next =>
    obtain ⟨x, hx, -⟩ := (Option.any_eq_true _ _).1 isDirectory
    exact ⟨x, hx⟩
  | stay enterable _ | up enterable _ | missing enterable _ _ | kept enterable _ _ _ _
  | link enterable _ _ _ _ _ | enter enterable _ _ _ _ => exact exists_node_of_enterable enterable

/-! ### What a walk depends on -/

section

variable {fs' : FileSystem}

theorem enterable_eq_of_passage {k : Location}
    (h : (fs'.node? k).map Node.passage = (fs.node? k).map Node.passage) :
    fs'.enterable k = fs.enterable k := by
  have hpassage (fs : FileSystem) : fs.enterable k =
      ((fs.node? k).map Node.passage).elim (.error .noEntry) fun n =>
        if !n.1.isDirectory then .error .notDirectory
        else if !n.2 then .error .denied
        else .ok () := by
    unfold enterable
    cases fs.node? k <;> rfl
  rw [hpassage, hpassage, h]

theorem isDirectoryAt_eq_of_passage {k : Location}
    (h : (fs'.node? k).map Node.passage = (fs.node? k).map Node.passage) :
    fs'.isDirectoryAt k = fs.isDirectoryAt k := by
  have hpassage (fs : FileSystem) :
      fs.isDirectoryAt k = ((fs.node? k).map Node.passage).any fun n => n.1.isDirectory := by
    unfold isDirectoryAt
    cases fs.node? k <;> rfl
  rw [hpassage, hpassage, h]

/-- **Only kinds and the permission to search matter** on the way. -/
theorem Leads.of_passage
    (h : ∀ k, (fs'.node? k).map Node.passage = (fs.node? k).map Node.passage)
    (hleads : fs.Leads goal links l steps f) : fs'.Leads goal links l steps f := by
  have henter {k : Location} (hk : fs.enterable k = .ok ()) : fs'.enterable k = .ok () :=
    (enterable_eq_of_passage (h k)).trans hk
  have hnode {k : Location} {x : Node} (hx : fs.node? k = some x) :
      ∃ x', fs'.node? k = some x' ∧ x'.kind = x.kind := by
    have hpassage := h k
    rw [hx, Option.map_some] at hpassage
    obtain ⟨x', hx', heq⟩ := Option.map_eq_some_iff.1 hpassage
    exact ⟨x', hx', congrArg Prod.fst heq⟩
  induction hleads with
  | here => exact .here
  | directory isDirectory next ih =>
    exact .directory ((isDirectoryAt_eq_of_passage (h _)).trans isDirectory) ih
  | stay enterable next ih => exact .stay (henter enterable) ih
  | up enterable next ih => exact .up (henter enterable) ih
  | @missing links l n enterable short node =>
    have hpassage := h (n :: l)
    rw [node] at hpassage
    exact .missing (henter enterable) short (Option.map_eq_none_iff.1 hpassage)
  | kept enterable short node kind follows =>
    obtain ⟨x', hx', hkind⟩ := hnode node
    exact .kept (henter enterable) short hx' (hkind.trans kind) follows
  | link enterable short node kind follows next ih =>
    obtain ⟨x', hx', hkind⟩ := hnode node
    exact .link (henter enterable) short hx' (hkind.trans kind) follows ih
  | enter enterable short node kind next ih =>
    obtain ⟨x', hx', hkind⟩ := hnode node
    exact .enter (henter enterable) short hx' (hkind ▸ kind) ih

end

end FileSystem

end RestoreCheck

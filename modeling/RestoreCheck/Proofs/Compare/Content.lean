import RestoreCheck.Compare.Level

/-!
# What two entries lead to

Comparing chunk by chunk gives `same` exactly if both files can be read to their ends and deliver
the same bytes, however the left one is cut into chunks (`compareStreams_eq_same_iff`).  With that,
nothing speaks against two entries at their level exactly if links followed they lead to the same
thing (`entryVerdict_eq_fine_iff`): to directories, to regular files that state the same length and
deliver the same bytes, to special files, or both nowhere.
-/

namespace RestoreCheck

/-! ### Chunks -/

section

variable {leftEnd rightEnd : Option Fault} {chunk : Bytes} {chunks : List Bytes} {right : Bytes}

/-- **A chunk with which the bytes begin** is taken off on both sides. -/
theorem compareChunks_cons_append (rest : Bytes) :
    compareChunks leftEnd rightEnd (chunk :: chunks) (chunk ++ rest) =
      compareChunks leftEnd rightEnd chunks rest := by
  have hlong : ¬ ((chunk ++ rest).take chunk.length).length < chunk.length := by
    rw [List.take_left]
    exact Nat.lt_irrefl _
  rw [compareChunks, if_neg hlong, if_pos List.take_left, List.drop_left]

/-- A chunk that is longer than what is left of the bytes ends the comparison. -/
theorem compareChunks_cons_of_short (h : right.length < chunk.length) :
    compareChunks leftEnd rightEnd (chunk :: chunks) right = .failed (rightEnd.getD .earlyEnd) := by
  have hshort : (right.take chunk.length).length < chunk.length := by
    rw [List.length_take]
    omega
  rw [compareChunks, if_pos hshort]

/-- A chunk that is not longer and with which the bytes do not begin is a difference. -/
theorem compareChunks_cons_of_differs (hlong : chunk.length ≤ right.length)
    (h : ¬ chunk <+: right) :
    compareChunks leftEnd rightEnd (chunk :: chunks) right = .different := by
  have htaken : ¬ (right.take chunk.length).length < chunk.length := by
    rw [List.length_take]
    omega
  rw [compareChunks, if_neg htaken, if_neg fun htake => h (List.prefix_iff_eq_take.2 htake.symm)]

/-- **Chunks agree with bytes** exactly if both end well and the chunks, put together, are the
bytes. -/
theorem compareChunks_eq_same_iff :
    compareChunks leftEnd rightEnd chunks right = .same ↔
      leftEnd = none ∧ rightEnd = none ∧ chunks.flatten = right := by
  induction chunks generalizing right with
  | nil => cases leftEnd <;> cases rightEnd <;> cases right <;> simp [compareChunks]
  | cons chunk chunks ih =>
    rw [List.flatten_cons]
    by_cases hprefix : chunk <+: right
    · -- The chunk is the beginning of the bytes, so the rest decides.
      obtain ⟨rest, rfl⟩ := hprefix
      rw [compareChunks_cons_append, ih, List.append_cancel_left_eq]
    · refine iff_of_false (fun hsame => ?_) ?_
      · rcases Nat.lt_or_ge right.length chunk.length with hshort | hlong
        · rw [compareChunks_cons_of_short hshort] at hsame
          cases hsame
        · rw [compareChunks_cons_of_differs hlong hprefix] at hsame
          cases hsame
      · rintro ⟨-, -, rfl⟩
        exact hprefix (List.prefix_append _ _)

/-- **Chunks differ from bytes** exactly if they are not the bytes, where there are bytes for every
chunk, and none beyond them if the left file ends with a fault. -/
theorem compareChunks_eq_different_iff (hlength : chunks.flatten.length ≤ right.length)
    (hend : leftEnd ≠ none → chunks.flatten.length = right.length) :
    compareChunks leftEnd rightEnd chunks right = .different ↔ chunks.flatten ≠ right := by
  induction chunks generalizing right with
  | nil =>
    cases leftEnd with
    | none => cases rightEnd <;> cases right <;> simp [compareChunks]
    | some cause =>
      have hright : right = [] := List.eq_nil_of_length_eq_zero (hend nofun).symm
      rw [hright]
      simp [compareChunks]
  | cons chunk chunks ih =>
    rw [List.flatten_cons, List.length_append] at hlength hend
    rw [List.flatten_cons]
    by_cases hprefix : chunk <+: right
    · obtain ⟨rest, rfl⟩ := hprefix
      rw [List.length_append] at hlength hend
      have hrest : chunks.flatten.length ≤ rest.length := by omega
      have hrestEnd (hfault : leftEnd ≠ none) : chunks.flatten.length = rest.length :=
        Nat.add_left_cancel (hend hfault)
      rw [compareChunks_cons_append, ih hrest hrestEnd, ne_eq, ne_eq, List.append_cancel_left_eq]
    · refine iff_of_true (compareChunks_cons_of_differs (by omega) hprefix) ?_
      rintro rfl
      exact hprefix (List.prefix_append _ _)

/-- Where nothing can be taken from the right, no difference is found. -/
theorem compareChunks_nil_ne_different (hchunks : ∀ c ∈ chunks, c ≠ []) :
    compareChunks leftEnd rightEnd chunks [] ≠ .different := by
  cases chunks with
  | nil => cases leftEnd <;> cases rightEnd <;> simp [compareChunks]
  | cons chunk chunks =>
    have hshort : ([] : Bytes).length < chunk.length :=
      List.length_pos_iff.2 (hchunks chunk List.mem_cons_self)
    rw [compareChunks_cons_of_short hshort]
    nofun

end

/-! ### Contents -/

/-- **Two contents are the same** exactly if both can be read to the end and have the same bytes. -/
theorem compareStreams_eq_same_iff {a b : Stream} :
    compareStreams a b = .same ↔ a.failure = none ∧ b.failure = none ∧ a.bytes = b.bytes :=
  compareChunks_eq_same_iff

/-- Two paths lead to contents that can be read to the end and have the same bytes. -/
def View.SameContent (v : View) (a b : Path) : Prop :=
  ∃ x y, v.content a = .ok x ∧ v.content b = .ok y ∧
    x.failure = none ∧ y.failure = none ∧ x.bytes = y.bytes

theorem compareFiles_eq_same_iff {v : View} {a b : Path} {m n : Nat} :
    compareFiles v a b m n = .same ↔ m = n ∧ v.SameContent a b := by
  unfold compareFiles View.SameContent
  by_cases hlength : m = n
  · rw [if_neg (not_not_intro hlength)]
    cases ha : v.content a with
    | error f => simp
    | ok x =>
      cases hb : v.content b with
      | error f => simp
      | ok y => simp [hlength, compareStreams_eq_same_iff]
  · rw [if_pos hlength]
    simp [hlength]

/-! ### Contents the other way round -/

/-- **A file delivers a length**: its first read fails, or as many bytes come out of it. -/
def Stream.Delivers (s : Stream) (length : Nat) : Prop :=
  (s.chunks = [] ∧ s.failure ≠ none) ∨ s.bytes.length = length

/-- Two files that deliver one length differ exactly if both are delivered and their bytes are not
the same; the left file and the right one play the same part in this. -/
theorem compareStreams_eq_different_iff {a b : Stream} {length : Nat} (ha : a.Delivers length)
    (hb : b.Delivers length) :
    compareStreams a b = .different ↔
      a.bytes.length = length ∧ b.bytes.length = length ∧ a.bytes ≠ b.bytes := by
  have hboth (hal : a.bytes.length = length) (hbl : b.bytes.length = length) :
      compareStreams a b = .different ↔ a.bytes ≠ b.bytes := by
    have hlength : a.bytes.length = b.bytes.length := hal.trans hbl.symm
    exact compareChunks_eq_different_iff (Nat.le_of_eq hlength) fun _ => hlength
  constructor
  · intro h
    have hal : a.bytes.length = length := by
      rcases ha with ⟨hchunks, hfailure⟩ | hal
      · obtain ⟨cause, hcause⟩ := Option.ne_none_iff_exists'.1 hfailure
        unfold compareStreams at h
        rw [hchunks, hcause] at h
        cases h
      · exact hal
    have hbl : b.bytes.length = length := by
      rcases hb with ⟨hchunks, -⟩ | hbl
      · have hbytes : b.bytes = [] := by
          unfold Stream.bytes
          rw [hchunks]
          rfl
        unfold compareStreams at h
        rw [hbytes] at h
        exact absurd h (compareChunks_nil_ne_different a.chunk_ne_nil)
      · exact hbl
    exact ⟨hal, hbl, (hboth hal hbl).1 h⟩
  · rintro ⟨hal, hbl, hne⟩
    exact (hboth hal hbl).2 hne

/-- **Files deliver what they state**: of every path that leads to a regular file, either the first
read fails or the stated length is delivered. -/
def View.DeliversLengths (v : View) : Prop :=
  ∀ {p : Path} {length : Nat} {s : Stream},
    v.target p = .ok (.file length) → v.content p = .ok s → s.Delivers length

theorem compareFiles_eq_different_iff {v : View} (h : v.DeliversLengths) {a b : Path} {m n : Nat}
    (ha : v.target a = .ok (.file m)) (hb : v.target b = .ok (.file n)) :
    compareFiles v a b m n = .different ↔ m ≠ n ∨ ∃ x y, v.content a = .ok x ∧
      v.content b = .ok y ∧ x.bytes.length = m ∧ y.bytes.length = m ∧ x.bytes ≠ y.bytes := by
  unfold compareFiles
  by_cases hlength : m = n
  · subst hlength
    rw [if_neg (not_not_intro rfl)]
    cases hx : v.content a with
    | error f => simp
    | ok x =>
      cases hy : v.content b with
      | error f => simp
      | ok y =>
        dsimp only
        rw [compareStreams_eq_different_iff (h ha hx) (h hb hy)]
        simp
  · rw [if_pos hlength]
    exact iff_of_true rfl (.inl hlength)

theorem compareFiles_eq_different_comm {v : View} (h : v.DeliversLengths) {a b : Path} {m n : Nat}
    (ha : v.target a = .ok (.file m)) (hb : v.target b = .ok (.file n)) :
    compareFiles v a b m n = .different ↔ compareFiles v b a n m = .different := by
  rw [compareFiles_eq_different_iff h ha hb, compareFiles_eq_different_iff h hb ha]
  by_cases hlength : m = n
  · subst hlength
    simp only [ne_eq, not_true_eq_false, false_or]
    constructor
    · rintro ⟨x, y, hx, hy, hxl, hyl, hne⟩
      exact ⟨y, x, hy, hx, hyl, hxl, Ne.symm hne⟩
    · rintro ⟨y, x, hy, hx, hyl, hxl, hne⟩
      exact ⟨x, y, hx, hy, hxl, hyl, Ne.symm hne⟩
  · exact iff_of_true (.inl hlength) (.inl (Ne.symm hlength))

theorem compareFiles_eq_same_comm {v : View} {a b : Path} {m n : Nat} :
    compareFiles v a b m n = .same ↔ compareFiles v b a n m = .same := by
  rw [compareFiles_eq_same_iff, compareFiles_eq_same_iff]
  have hcontent (p q : Path) : v.SameContent p q → v.SameContent q p := by
    rintro ⟨x, y, hx, hy, hxf, hyf, hbytes⟩
    exact ⟨y, x, hy, hx, hyf, hxf, hbytes.symm⟩
  exact ⟨fun h => ⟨h.1.symm, hcontent a b h.2⟩, fun h => ⟨h.1.symm, hcontent b a h.2⟩⟩

/-! ### Entries -/

/-- **Two paths lead to the same thing** after all links are followed. -/
inductive View.LeadAlike (v : View) (a b : Path) : Prop where
  /-- both to directories -/
  | directories (left : v.target a = .ok .directory) (right : v.target b = .ok .directory)
  /-- both to regular files of one length and one content -/
  | files {length : Nat} (left : v.target a = .ok (.file length))
      (right : v.target b = .ok (.file length)) (content : v.SameContent a b)
  /-- both to something else -/
  | specials (left : v.target a = .ok .special) (right : v.target b = .ok .special)
  /-- neither to anything -/
  | nowhere {f g : Fault} (left : v.target a = .error f) (right : v.target b = .error g)

/-- **Nothing speaks against two entries** exactly if they lead to the same thing. -/
theorem entryVerdict_eq_fine_iff {v : View} {a b : Path} :
    entryVerdict v a b = .fine ↔ v.LeadAlike a b := by
  constructor
  · intro h
    unfold entryVerdict at h
    split at h
    · rename_i m n ha hb
      split at h
      · rename_i hsame
        obtain ⟨rfl, hcontent⟩ := compareFiles_eq_same_iff.1 hsame
        exact .files ha hb hcontent
      · cases h
      · cases h
    · rename_i ha hb
      exact .directories ha hb
    · rename_i ha hb
      exact .specials ha hb
    · rename_i ha hb
      exact .nowhere ha hb
    · cases h
  · intro h
    unfold entryVerdict
    cases h with
    | directories ha hb => rw [ha, hb]
    | files ha hb hcontent =>
      rw [ha, hb]
      dsimp only
      rw [compareFiles_eq_same_iff.2 ⟨rfl, hcontent⟩]
    | specials ha hb => rw [ha, hb]
    | nowhere ha hb => rw [ha, hb]

/-- **Entries compare the same either way round**, where files deliver what they state. -/
theorem entryVerdict_comm {v : View} (h : v.DeliversLengths) (a b : Path) :
    entryVerdict v a b = entryVerdict v b a := by
  unfold entryVerdict
  cases ha : v.target a with
  | error f =>
    cases v.target b with
    | error g => rfl
    | ok t => cases t <;> rfl
  | ok s =>
    cases hb : v.target b with
    | error f => cases s <;> rfl
    | ok t =>
      cases s with
      | directory => cases t <;> rfl
      | special => cases t <;> rfl
      | file m =>
        cases t with
        | directory => rfl
        | special => rfl
        | file n =>
          have hsame := compareFiles_eq_same_comm (v := v) (a := a) (b := b) (m := m) (n := n)
          have hdifferent := compareFiles_eq_different_comm h ha hb
          -- What is left are two failures, whose causes may be two, but count for nothing.
          dsimp only
          generalize compareFiles v a b m n = x at hsame hdifferent ⊢
          generalize compareFiles v b a n m = y at hsame hdifferent ⊢
          cases x <;> cases y <;> simp at hsame hdifferent ⊢

end RestoreCheck

import Mathlib.Algebra.BigOperators.Group.List.Basic
import RestoreCheck.Proofs.Compare.Content

/-!
# Chunks and whole files

Comparing chunk by chunk comes to comparing whole contents, in whatever chunks the left file
arrives (`View.comparesWhole`).  What makes it so is an invariant of the loop: chunks that agreed
are gone on both sides, and the verdict is that on what is left of the two files
(`compareChunks_append`).

The lengths that the files state decide only whether they are read at all.  If they state one length
and have another, the verdict may still be a difference or a fault, but contents that are not the
same are never taken to be.
-/

namespace RestoreCheck

/-! ### The loop -/

section

variable {leftEnd rightEnd : Option Fault} {chunks : List Bytes} {right : Bytes}

/-- **The invariant of the loop**: after chunks that agreed, what is left of both files decides. -/
theorem compareChunks_append (before after : List Bytes) (rest : Bytes) :
    compareChunks leftEnd rightEnd (before ++ after) (before.flatten ++ rest) =
      compareChunks leftEnd rightEnd after rest := by
  induction before with
  | nil => rfl
  | cons chunk before ih =>
    rw [List.cons_append, List.flatten_cons, List.append_assoc, compareChunks_cons_append, ih]

/-- Bytes that go on where the chunks have ended are a difference. -/
theorem compareChunks_append_of_ne_nil {rest : Bytes} (h : rest ≠ []) :
    compareChunks none rightEnd chunks (chunks.flatten ++ rest) = .different := by
  obtain ⟨byte, rest, rfl⟩ := List.exists_cons_of_ne_nil h
  have hend := @compareChunks_append none rightEnd chunks [] (byte :: rest)
  rw [List.append_nil] at hend
  rw [hend]
  rfl

/-- Bytes that end before the chunks do end the comparison, if they agree so far. -/
theorem compareChunks_of_shorter (h : right <+: chunks.flatten)
    (hlength : right.length < chunks.flatten.length) :
    compareChunks leftEnd rightEnd chunks right = .failed (rightEnd.getD .earlyEnd) := by
  induction chunks generalizing right with
  | nil => exact absurd hlength (Nat.not_lt_zero _)
  | cons chunk chunks ih =>
    rw [List.flatten_cons] at h hlength
    rcases Nat.lt_or_ge right.length chunk.length with hshort | hlong
    · exact compareChunks_cons_of_short hshort
    · -- The bytes begin with this chunk, so they end within a later one.
      obtain ⟨rest, rfl⟩ := List.prefix_of_prefix_length_le (List.prefix_append _ _) h hlong
      rw [List.length_append, List.length_append] at hlength
      rw [compareChunks_cons_append]
      exact ih ((List.prefix_append_right_inj chunk).1 h) (by omega)

/-- **Bytes that are not too few** for the chunks are told apart from them. -/
theorem compareChunks_of_length_le (h : chunks.flatten.length ≤ right.length) :
    compareChunks none none chunks right =
      if chunks.flatten = right then .same else .different := by
  by_cases hequal : chunks.flatten = right
  · rw [if_pos hequal, compareChunks_eq_same_iff]
    exact ⟨rfl, rfl, hequal⟩
  · rw [if_neg hequal, compareChunks_eq_different_iff h (absurd rfl)]
    exact hequal

end

/-! ### Whole contents -/

/-- A content has no more chunks than bytes, so that the loop comes to its end. -/
theorem Stream.length_chunks_le (s : Stream) : s.chunks.length ≤ s.bytes.length := by
  have hpositive : ∀ n ∈ s.chunks.map List.length, 1 ≤ n := by
    intro n hn
    obtain ⟨chunk, hchunk, rfl⟩ := List.mem_map.1 hn
    exact List.length_pos_iff.2 (s.chunk_ne_nil chunk hchunk)
  calc s.chunks.length
      = (s.chunks.map List.length).length := (List.length_map _).symm
    _ ≤ (s.chunks.map List.length).sum := List.length_le_sum_of_one_le _ hpositive
    _ = s.bytes.length := List.length_flatten.symm

/-- **A path yields a content**: it leads to a file that is opened and read to its end, and these
bytes come out of it, in whatever chunks. -/
def View.Yields (v : View) (p : Path) (content : Bytes) : Prop :=
  ∃ s, v.content p = .ok s ∧ s.failure = none ∧ s.bytes = content

/-- **Comparing chunk by chunk is comparing whole contents.** -/
structure View.ComparesWhole (v : View) (a b : Path) (m n : Nat) : Prop where
  /-- no file arrives in more chunks than it has bytes -/
  rounds {s : Stream} : v.content a = .ok s → s.chunks.length ≤ s.bytes.length
  /-- two files are the same exactly if they state one length and yield one content -/
  same_iff : compareFiles v a b m n = .same ↔
    m = n ∧ ∃ content, v.Yields a content ∧ v.Yields b content
  /-- files that state the lengths they have are told apart by their contents -/
  truthful {x y : Bytes} : v.Yields a x → v.Yields b y → m = x.length → n = y.length →
    compareFiles v a b m n = if x = y then .same else .different
  /-- contents that are not the same are never taken to be, whatever lengths are stated -/
  distinct {x y : Bytes} : v.Yields a x → v.Yields b y → x ≠ y → compareFiles v a b m n ≠ .same
  /-- a content that goes on where the left one has ended is a difference -/
  longer {x rest : Bytes} : v.Yields a x → v.Yields b (x ++ rest) → rest ≠ [] →
    compareFiles v a b m n = .different
  /-- a content that ends before the left one, and agrees so far, is a fault, unless the files are
  not read -/
  shorter {y rest : Bytes} : v.Yields a (y ++ rest) → v.Yields b y → rest ≠ [] →
    compareFiles v a b m n = if m = n then .failed .earlyEnd else .different

namespace View

variable {v : View} {a b : Path} {m n : Nat} {x y : Bytes}

theorem sameContent_iff :
    v.SameContent a b ↔ ∃ content, v.Yields a content ∧ v.Yields b content := by
  constructor
  · rintro ⟨s, t, hs, ht, hsend, htend, hbytes⟩
    exact ⟨s.bytes, ⟨s, hs, hsend, rfl⟩, ⟨t, ht, htend, hbytes.symm⟩⟩
  · rintro ⟨content, ⟨s, hs, hsend, hsbytes⟩, ⟨t, ht, htend, htbytes⟩⟩
    exact ⟨s, t, hs, ht, hsend, htend, hsbytes.trans htbytes.symm⟩

/-- A path yields one content. -/
theorem Yields.unique (hx : v.Yields a x) (hy : v.Yields a y) : x = y := by
  obtain ⟨s, hs, -, rfl⟩ := hx
  obtain ⟨t, ht, -, rfl⟩ := hy
  rw [hs] at ht
  cases ht
  rfl

/-- What is compared of two files that yield contents and state one length. -/
theorem Yields.exists_compareFiles_eq (hx : v.Yields a x) (hy : v.Yields b y) (h : m = n) :
    ∃ chunks : List Bytes, chunks.flatten = x ∧
      compareFiles v a b m n = compareChunks none none chunks y := by
  obtain ⟨s, hs, hsend, rfl⟩ := hx
  obtain ⟨t, ht, htend, rfl⟩ := hy
  refine ⟨s.chunks, rfl, ?_⟩
  unfold compareFiles
  rw [if_neg (not_not_intro h), hs, ht]
  dsimp only
  unfold compareStreams
  rw [hsend, htend]

theorem compareFiles_of_ne (h : m ≠ n) : compareFiles v a b m n = .different :=
  if_pos h

/-- **Comparing two files is comparing their whole contents**, whatever lengths they state and in
whatever chunks they arrive. -/
theorem comparesWhole (v : View) (a b : Path) (m n : Nat) : v.ComparesWhole a b m n where
  rounds _ := Stream.length_chunks_le _
  same_iff := by rw [compareFiles_eq_same_iff, sameContent_iff]
  truthful {x y} hx hy hm hn := by
    -- Files of two lengths are not read, but their contents differ as well.
    by_cases hlength : m = n
    · obtain ⟨chunks, rfl, hcompare⟩ := hx.exists_compareFiles_eq hy hlength
      have hle : chunks.flatten.length ≤ y.length := by omega
      rw [hcompare, compareChunks_of_length_le hle]
    · have hne : x ≠ y := by
        rintro rfl
        exact hlength (hm.trans hn.symm)
      rw [compareFiles_of_ne hlength, if_neg hne]
  distinct {x y} hx hy hne hsame := by
    obtain ⟨-, hcontent⟩ := compareFiles_eq_same_iff.1 hsame
    obtain ⟨content, ha, hb⟩ := sameContent_iff.1 hcontent
    exact hne ((hx.unique ha).trans (hb.unique hy))
  longer {x rest} hx hy hrest := by
    by_cases hlength : m = n
    · obtain ⟨chunks, rfl, hcompare⟩ := hx.exists_compareFiles_eq hy hlength
      rw [hcompare, compareChunks_append_of_ne_nil hrest]
    · exact compareFiles_of_ne hlength
  shorter {y rest} hx hy hrest := by
    by_cases hlength : m = n
    · obtain ⟨chunks, hchunks, hcompare⟩ := hx.exists_compareFiles_eq hy hlength
      have hprefix : y <+: chunks.flatten := hchunks ▸ List.prefix_append y rest
      have hshort : y.length < chunks.flatten.length := by
        have := List.length_pos_iff.2 hrest
        rw [hchunks, List.length_append]
        omega
      rw [hcompare, compareChunks_of_shorter hprefix hshort, if_pos hlength]
      rfl
    · rw [compareFiles_of_ne hlength, if_neg hlength]

end View

end RestoreCheck

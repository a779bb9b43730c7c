import RestoreCheck.Proofs.Compare.FirstFailure

/-!
# Comparisons during which something happens

While an inspector is asked for flags, something may happen to the files, once
(`Inspector.during`, `Once`).  A part of a comparison that ended well (`Ends`) then passes the
events of the exhaustive traversal of the files as they were: the change is past, or came meanwhile, or
is still ahead, and then at none of these events (`Passes`, `passes_compare`).

If by the change an entry is lost on one side (`View.Loses`), no comparison ends well that starts
after it from directories above the entry (`not_ends_compare_of_loses`), nor one that starts before
it and asks the question at which it comes before the status of the entry is read
(`not_ends_compare_of_flagsBeforeStatus`).
-/

namespace RestoreCheck

variable {σ α β : Type}

/-- **The inspector during whose answers something happens**, whenever it is asked for flags. -/
def Inspector.during (i : Inspector σ) (event : Path → σ → σ) : Inspector σ where
  view := i.view
  flags path m s := ((i.flags path m s).1, event path s)
  xattrs := i.xattrs

/-! ### Parts that ended well -/

/-- **A part of a comparison ended well**, and left one state of the inspector for another. -/
def Ends (x : Walk σ α) (s t : σ) : Prop :=
  ∃ a queries queries', x.run ⟨s, queries⟩ = (.ok a, ⟨t, queries'⟩)

namespace Ends

variable {x : Walk σ α} {f : α → Walk σ Unit} {l l' : List α} {s t : σ} {a : α}

theorem eq_of_pure (h : Ends (pure a : Walk σ α) s t) : t = s := by
  obtain ⟨b, queries, queries', h⟩ := h
  exact congrArg (fun r => r.2.state) h.symm

theorem exists_of_bind {g : α → Walk σ β} (h : Ends (x >>= g) s t) :
    ∃ a u, Ends x s u ∧ Ends (g a) u t := by
  obtain ⟨b, queries, queries', h⟩ := h
  obtain ⟨a, ⟨u, queries''⟩, hx, hg⟩ := exists_of_run_bind_eq_ok h
  exact ⟨a, u, ⟨a, _, _, hx⟩, ⟨b, _, _, hg⟩⟩

theorem exists_of_forM_cons (h : Ends ((a :: l).forM f) s t) :
    ∃ u, Ends (f a) s u ∧ Ends (l.forM f) u t := by
  change Ends (f a >>= fun _ => l.forM f) s t at h
  obtain ⟨_, u, ha, hl⟩ := h.exists_of_bind
  exact ⟨u, ha, hl⟩

theorem exists_of_forM_append (h : Ends ((l ++ l').forM f) s t) :
    ∃ u, Ends (l.forM f) s u ∧ Ends (l'.forM f) u t := by
  have happend : (l ++ l').forM f = (l.forM f >>= fun _ => l'.forM f) := List.forM_append
  rw [happend] at h
  obtain ⟨_, u, hl, hl'⟩ := h.exists_of_bind
  exact ⟨u, hl, hl'⟩

/-- If each part keeps a state, then all of them do. -/
theorem eq_of_forM (hkeep : ∀ a ∈ l, ∀ t, Ends (f a) s t → t = s) (h : Ends (l.forM f) s t) :
    t = s := by
  induction l with
  | nil => exact eq_of_pure (a := ()) h
  | cons a l ih =>
    obtain ⟨u, ha, hl⟩ := h.exists_of_forM_cons
    obtain rfl := hkeep a List.mem_cons_self u ha
    exact ih (fun b hb => hkeep b (List.mem_cons_of_mem a hb)) hl

theorem of_mem_forM (hkeep : ∀ a ∈ l, ∀ t, Ends (f a) s t → t = s) (h : Ends (l.forM f) s t)
    (ha : a ∈ l) : Ends (f a) s s := by
  obtain ⟨before, after, rfl⟩ := List.append_of_mem ha
  obtain ⟨u, hbefore, hrest⟩ := h.exists_of_forM_append
  obtain ⟨u', hmiddle, -⟩ := hrest.exists_of_forM_cons
  obtain rfl := eq_of_forM (fun b hb => hkeep b (List.mem_append_left _ hb)) hbefore
  obtain rfl := hkeep a ha u' hmiddle
  exact hmiddle

/-! ### Comparisons that ended well -/

variable {c : Comparator σ} {left right : Path}

theorem exists_of_status {path : Path} (h : Ends (c.status path) s t) :
    t = s ∧ ∃ m, (c.inspector.view s).status path = .ok m := by
  obtain ⟨m, queries, queries', h⟩ := h
  rw [(performs_status path).run_eq] at h
  obtain ⟨hm, hp⟩ := Prod.mk.inj h
  refine ⟨congrArg Progress.state hp.symm, m, ?_⟩
  change orUnreadable path ((c.inspector.view s).status path) = .ok m at hm
  cases hstatus : (c.inspector.view s).status path with
  | error cause =>
    rw [hstatus] at hm
    cases hm
  | ok m' =>
    rw [hstatus] at hm
    exact congrArg Except.ok (Except.ok.inj hm)

/-- **A comparison that ended well** found a clean level, compared its entries and then went on to
its directories. -/
theorem exists_of_compare (h : Ends (c.compare left right) s t) :
    ∃ found, Level.of (c.inspector.view s) left right = .ok found ∧ found.agrees = true ∧
      ∃ u, Ends (found.common.forM (c.compareName left right)) s u ∧
        Ends (found.subdirectories.forM fun n =>
          c.compare (left.join n.bytes) (right.join n.bytes)) u t := by
  rw [Comparator.compare] at h
  obtain ⟨b, queries, queries', h⟩ := h
  obtain ⟨found, p, hlevel, hrest⟩ := exists_of_run_bind_eq_ok h
  rw [run_compareLevel] at hlevel
  obtain ⟨hfound, rfl⟩ := Prod.mk.inj hlevel
  cases hof : Level.of (c.inspector.view s) left right with
  | error failure =>
    rw [hof] at hfound
    cases hfound
  | ok found' =>
    rw [hof] at hfound
    change (if found'.agrees then _ else _ : Except Failure Level) = _ at hfound
    cases hagrees : found'.agrees with
    | false =>
      rw [hagrees] at hfound
      cases hfound
    | true =>
      rw [hagrees] at hfound
      obtain rfl := Except.ok.inj hfound
      have hshort := Level.length_lt_of_eq_ok hof
      simp only [dif_pos hshort] at hrest
      obtain ⟨a, ⟨u, queries''⟩, hcommon, hbelow⟩ := exists_of_run_bind_eq_ok hrest
      exact ⟨found', rfl, hagrees, u, ⟨a, _, _, hcommon⟩, ⟨b, _, _, hbelow⟩⟩

end Ends

/-! ### What happens during a comparison -/

section

variable {o : Options} {k : Capabilities} {i : Inspector σ} {event : Path → σ → σ} {s t : σ}
variable {left right : Path} {n : Name}

theorem eq_of_askXattrs (hi : i.IsSteady) {path : Path}
    (h : Ends (Comparator.askXattrs ⟨o, k, i.during event⟩ path) s t) : t = s := by
  unfold Comparator.askXattrs at h
  obtain ⟨answer, u, ⟨a, queries, queries', hask⟩, hanswer⟩ := h.exists_of_bind
  have hu : u = (i.xattrs path s).2 := congrArg (fun r => r.2.state) hask.symm
  rw [hi.xattrs_snd] at hu
  subst hu
  cases answer with
  | ok x => exact hanswer.eq_of_pure
  | error cause =>
    obtain ⟨b, q, q', hthrow⟩ := hanswer
    cases congrArg Prod.fst hthrow

/-- An entry is inspected while its flags are asked for, and nothing happens after that. -/
theorem eq_event_of_attributes (hi : i.IsSteady) (hflags : o.ignoreFlags = false) {name : Bytes}
    {path : Path} {m : Meta} {mounted : Bool}
    (h : Ends (Comparator.attributes ⟨o, k, i.during event⟩ name path m mounted) s t) :
    t = event path s := by
  unfold Comparator.attributes at h
  simp only [hflags, Bool.false_eq_true, if_false] at h
  obtain ⟨flags, u, hask, hrest⟩ := h.exists_of_bind
  have hu : u = event path s := by
    rw [map_eq_pure_bind] at hask
    obtain ⟨_, u', ⟨a, queries, queries', hask⟩, hpure⟩ := hask.exists_of_bind
    obtain rfl := hpure.eq_of_pure
    exact congrArg (fun r => r.2.state) hask.symm
  subst hu
  cases hxattrs : o.ignoreXattrs with
  | true =>
    simp only [hxattrs, if_true, pure_bind] at hrest
    exact hrest.eq_of_pure
  | false =>
    simp only [hxattrs, Bool.false_eq_true, if_false, map_eq_pure_bind] at hrest
    obtain ⟨_, u, hread, hpure⟩ := hrest.exists_of_bind
    obtain ⟨_, u', hask, hmap⟩ := hread.exists_of_bind
    rw [hpure.eq_of_pure, hmap.eq_of_pure, eq_of_askXattrs hi hask]

/-- **Two entries that compared equal** could be described at first, and then what happens while
their flags are asked for has happened, left before right. -/
theorem exists_of_compareName (hi : i.IsSteady) (hflags : o.ignoreFlags = false)
    (h : Ends (Comparator.compareName ⟨o, k, i.during event⟩ left right n) s t) :
    (∃ m, (i.view s).status (left.join n.bytes) = .ok m) ∧
      (∃ m, (i.view s).status (right.join n.bytes) = .ok m) ∧
      t = event (right.join n.bytes) (event (left.join n.bytes) s) := by
  unfold Comparator.compareName at h
  obtain ⟨m, u, hleft, hrest⟩ := h.exists_of_bind
  obtain ⟨rfl, hstatus⟩ := hleft.exists_of_status
  obtain ⟨m', u', hright, hinspect⟩ := hrest.exists_of_bind
  obtain ⟨rfl, hstatus'⟩ := hright.exists_of_status
  refine ⟨hstatus, hstatus', ?_⟩
  obtain ⟨v, u, hfirst, hsecond⟩ := hinspect.exists_of_bind
  obtain rfl := eq_event_of_attributes hi hflags hfirst
  obtain ⟨v', u, hfirst', hverdict⟩ := hsecond.exists_of_bind
  obtain rfl := eq_event_of_attributes hi hflags hfirst'
  by_cases hv : v = v'
  · rw [if_neg (not_not_intro hv)] at hverdict
    exact hverdict.eq_of_pure
  · rw [if_pos hv] at hverdict
    obtain ⟨b, queries, queries', hthrow⟩ := hverdict
    cases congrArg Prod.fst hthrow

/-- A comparison keeps a state in which nothing happens any more. -/
theorem eq_of_compare (hi : i.IsSteady) (hflags : o.ignoreFlags = false)
    (hafter : ∀ path, event path s = s)
    (h : Ends (Comparator.compare ⟨o, k, i.during event⟩ left right) s t) : t = s := by
  induction left, right using Comparator.compare.induct generalizing t with
  | case1 left right ih =>
    obtain ⟨found, hlevel, -, u, hcommon, hbelow⟩ := h.exists_of_compare
    obtain rfl : u = s := hcommon.eq_of_forM fun n _ u hn => by
      rw [(exists_of_compareName hi hflags hn).2.2, hafter, hafter]
    exact hbelow.eq_of_forM fun n _ u hn => ih (Level.length_lt_of_eq_ok hlevel) n hn

/-- **Something happens once** while flags are asked for: it leads from one state to another, and
there is no other change. -/
structure Once (event : Path → σ → σ) (before after : σ) : Prop where
  /-- it happens, or not yet -/
  once : ∀ path, event path before = before ∨ event path before = after
  /-- nothing happens after that -/
  rest : ∀ path, event path after = after

/-- **A part of a comparison passes** while something may happen once: that is past, or happens
during the part, or is still ahead, and then it did not happen at any of the events. -/
inductive Passes (event : Path → σ → σ) (before after : σ) (events : List Event) : σ → σ → Prop
  where
  | past : Passes event before after events after after
  | meanwhile : Passes event before after events before after
  | ahead (calm : ∀ path, .flags path ∈ events → event path before = before) :
    Passes event before after events before before

namespace Passes

variable {before after u : σ} {events events' : List Event}

theorem eq_or_eq (h : Passes event before after events s t) : t = before ∨ t = after := by
  cases h with
  | past | meanwhile => exact .inr rfl
  | ahead => exact .inl rfl

theorem append (h : Passes event before after events s u)
    (h' : Passes event before after events' u t) :
    Passes event before after (events ++ events') s t := by
  cases h with
  | past =>
    cases h' with
    | past | meanwhile | ahead => exact .past
  | meanwhile =>
    cases h' with
    | past | meanwhile | ahead => exact .meanwhile
  | ahead calm =>
    cases h' with
    | past | meanwhile => exact .meanwhile
    | ahead calm' =>
      refine .ahead fun path hpath => ?_
      exact (List.mem_append.1 hpath).elim (calm path) (calm' path)

theorem of_flags_mem (h : Passes event before after events s t)
    (hflags : ∀ path, .flags path ∈ events' → .flags path ∈ events) :
    Passes event before after events' s t := by
  cases h with
  | past => exact .past
  | meanwhile => exact .meanwhile
  | ahead calm => exact .ahead fun path hpath => calm path (hflags path hpath)

theorem forM {f : α → Walk σ Unit} {events : α → List Event} {l : List α}
    (hs : s = before ∨ s = after)
    (hf : ∀ a ∈ l, ∀ s t, s = before ∨ s = after → Ends (f a) s t →
      Passes event before after (events a) s t)
    (h : Ends (l.forM f) s t) : Passes event before after (l.flatMap events) s t := by
  induction l generalizing s with
  | nil =>
    obtain rfl := Ends.eq_of_pure (a := ()) h
    rcases hs with rfl | rfl
    · exact .ahead nofun
    · exact .past
  | cons a l ih =>
    obtain ⟨u, ha, hl⟩ := h.exists_of_forM_cons
    have hfirst := hf a List.mem_cons_self s u hs ha
    exact hfirst.append (ih hfirst.eq_or_eq (fun b hb => hf b (List.mem_cons_of_mem a hb)) hl)

end Passes

/-- The flags of the two entries are asked for, and no others. -/
theorem World.eq_of_flags_mem_entryEvents {w : World} {path : Path}
    (h : .flags path ∈ w.entryEvents o k left right n) :
    path = left.join n.bytes ∨ path = right.join n.bytes := by
  have hinspection {p : Path} (hp : .flags path ∈ w.inspection o p) : path = p := by
    have hflags : o.ignoreFlags = false ∧ path = p := by simpa [inspection] using hp
    exact hflags.2
  have hcomparison {a b : Path} (x y : Except Fault Attributes) :
      .flags path ∉ comparison a b x y := by
    cases x <;> cases y <;> simp [comparison]
  unfold entryEvents at h
  simp only [List.mem_cons, reduceCtorEq, false_or] at h
  split at h
  · unfold pairEvents at h
    simp only [List.mem_append, hcomparison, or_false] at h
    exact h.imp hinspection hinspection
  · cases h

section

variable {before after : σ} (hi : i.IsSteady) (hflags : o.ignoreFlags = false)
  (honce : Once event before after)
include hi hflags honce

theorem passes_compareName (hs : s = before ∨ s = after)
    (h : Ends (Comparator.compareName ⟨o, k, i.during event⟩ left right n) s t) :
    Passes event before after ((i.world before).entryEvents o k left right n) s t := by
  obtain ⟨-, -, rfl⟩ := exists_of_compareName hi hflags h
  rcases hs with rfl | rfl
  · rcases honce.once (left.join n.bytes) with hleft | hleft
    · rw [hleft]
      rcases honce.once (right.join n.bytes) with hright | hright
      · rw [hright]
        refine .ahead fun path hpath => ?_
        rcases World.eq_of_flags_mem_entryEvents hpath with rfl | rfl
        · exact hleft
        · exact hright
      · rw [hright]
        exact .meanwhile
    · rw [hleft, honce.rest]
      exact .meanwhile
  · rw [honce.rest, honce.rest]
    exact .past

/-- **A comparison passes** its exhaustive traversal in the world before. -/
theorem passes_compare (hs : s = before ∨ s = after)
    (h : Ends (Comparator.compare ⟨o, k, i.during event⟩ left right) s t) :
    Passes event before after ((i.world before).traversal o k left right) s t := by
  induction left, right using Comparator.compare.induct generalizing s t with
  | case1 left right ih =>
    rcases hs with rfl | rfl
    · obtain ⟨found, hlevel, -, u, hcommon, hbelow⟩ := h.exists_of_compare
      have hshort := Level.length_lt_of_eq_ok hlevel
      have hentries := Passes.forM (.inl rfl)
        (fun n _ _ _ hs hn => passes_compareName hi hflags honce hs hn) hcommon
      have hrest := Passes.forM hentries.eq_or_eq
        (fun n _ _ _ hs hn => ih hshort n hs hn) hbelow
      rw [World.traversal_of_ok hlevel]
      refine (hentries.append hrest).of_flags_mem fun path hpath => ?_
      simpa using hpath
    · rw [eq_of_compare hi hflags honce.rest h]
      exact .past

end

/-! ### Questions that come in time -/

/-- **The flags of one entry are asked for before the status of another is read.** -/
def Event.FlagsBeforeStatus (asked path : Path) (events : List Event) : Prop :=
  ∃ earlier later, events = earlier ++ .flags asked :: later ∧
    ∀ fault, .status path fault ∉ earlier

namespace Event.FlagsBeforeStatus

variable {asked path : Path} {xs ys zs : List Event}

theorem of_append (h : FlagsBeforeStatus asked path (xs ++ ys)) :
    FlagsBeforeStatus asked path xs ∨
      (∀ fault, .status path fault ∉ xs) ∧ FlagsBeforeStatus asked path ys := by
  obtain ⟨earlier, later, heq, hstatus⟩ := h
  rcases List.append_eq_append_iff.1 heq with ⟨as, rfl, rfl⟩ | ⟨bs, rfl, hbs⟩
  · refine .inr ⟨fun fault hfault => hstatus fault (List.mem_append_left _ hfault), ?_⟩
    exact ⟨as, later, rfl, fun fault hfault => hstatus fault (List.mem_append_right _ hfault)⟩
  · cases bs with
    | nil =>
      refine .inr ⟨by simpa using hstatus, ?_⟩
      exact ⟨[], later, hbs.symm, fun fault => List.not_mem_nil⟩
    | cons b bs =>
      obtain ⟨rfl, -⟩ := List.cons.inj hbs
      exact .inl ⟨earlier, bs, rfl, hstatus⟩

theorem flags_mem (h : FlagsBeforeStatus asked path xs) : .flags asked ∈ xs := by
  obtain ⟨earlier, later, rfl, -⟩ := h
  exact List.mem_append_right _ List.mem_cons_self

/-- The question comes in the part that reads the status, if it does not come before. -/
theorem of_between {fault : Option Fault} (h : FlagsBeforeStatus asked path (xs ++ (ys ++ zs)))
    (hxs : .flags asked ∉ xs) (hys : .status path fault ∈ ys) :
    FlagsBeforeStatus asked path ys := by
  obtain ⟨-, hrest⟩ := h.of_append.resolve_left fun hfirst => hxs hfirst.flags_mem
  exact hrest.of_append.resolve_right fun hlast => hlast.1 fault hys

end Event.FlagsBeforeStatus

/-- Both statuses of a pair are read before any flags of it are asked for. -/
theorem World.not_flagsBeforeStatus_entryEvents {w : World} {asked path : Path}
    (hpath : path = left.join n.bytes ∨ path = right.join n.bytes) :
    ¬ Event.FlagsBeforeStatus asked path (w.entryEvents o k left right n) := by
  intro h
  change Event.FlagsBeforeStatus asked path ([_, _] ++ _) at h
  rcases h.of_append with hfirst | ⟨hnone, -⟩
  · simpa using hfirst.flags_mem
  · rcases hpath with rfl | rfl
    · exact hnone _ List.mem_cons_self
    · exact hnone _ (List.mem_cons_of_mem _ List.mem_cons_self)

/-- Directories are listed and judged before anything is asked. -/
theorem World.flagsBeforeStatus_of_traversal {w : World} {asked path : Path} {found : Level}
    (hlevel : Level.of w.view left right = .ok found)
    (h : Event.FlagsBeforeStatus asked path (w.traversal o k left right)) :
    Event.FlagsBeforeStatus asked path (found.common.flatMap (w.entryEvents o k left right) ++
      found.subdirectories.flatMap fun n =>
        w.traversal o k (left.join n.bytes) (right.join n.bytes)) := by
  rw [traversal_of_ok hlevel] at h
  change Event.FlagsBeforeStatus asked path ([_, _, _] ++ _) at h
  rcases h.of_append with hfirst | ⟨-, hrest⟩
  · simpa using hfirst.flags_mem
  · exact hrest

/-- After a part that comes before the question, what may happen has happened, or the question is
still to come in time. -/
theorem Passes.eq_or_flagsBeforeStatus {before after u : σ} {asked path : Path}
    {fault : Option Fault} {xs ys zs : List Event} (h : Passes event before after xs before u)
    (hne : before ≠ after) (hasked : event asked before = after)
    (htime : Event.FlagsBeforeStatus asked path (xs ++ (ys ++ zs)))
    (hys : .status path fault ∈ ys) :
    u = after ∨ u = before ∧ Event.FlagsBeforeStatus asked path ys := by
  cases h with
  | past => exact absurd rfl hne
  | meanwhile => exact .inl rfl
  | ahead calm =>
    refine .inr ⟨rfl, htime.of_between (fun hmem => hne ?_) hys⟩
    rw [← hasked, calm asked hmem]

/-- A part comes to be done for some element of a list.  What may happen has happened by then, or
the question is still to come in time. -/
theorem Passes.exists_of_mem_forM {before after : σ} {asked path : Path} {fault : Option Fault}
    {f : α → Walk σ Unit} {events : α → List Event} {l : List α} {a : α} {xs zs : List Event}
    (hxs : Passes event before after xs before s) (hne : before ≠ after)
    (hasked : event asked before = after)
    (hf : ∀ a ∈ l, ∀ s t, s = before ∨ s = after → Ends (f a) s t →
      Passes event before after (events a) s t)
    (h : Ends (l.forM f) s t) (ha : a ∈ l) (hstatus : .status path fault ∈ events a)
    (htime : Event.FlagsBeforeStatus asked path (xs ++ (l.flatMap events ++ zs))) :
    ∃ u u', Ends (f a) u u' ∧
      (u = after ∨ u = before ∧ Event.FlagsBeforeStatus asked path (events a)) := by
  obtain ⟨earlier, later, rfl⟩ := List.append_of_mem ha
  obtain ⟨u, hearlier, hrest⟩ := h.exists_of_forM_append
  obtain ⟨u', hnow, -⟩ := hrest.exists_of_forM_cons
  have hpasses := hxs.append <| Passes.forM hxs.eq_or_eq
    (fun b hb => hf b (List.mem_append_left _ hb)) hearlier
  have hsplit : xs ++ ((earlier ++ a :: later).flatMap events ++ zs) =
      (xs ++ earlier.flatMap events) ++ (events a ++ (later.flatMap events ++ zs)) := by
    simp [List.flatMap_append, List.append_assoc]
  exact ⟨u, u', hnow, hpasses.eq_or_flagsBeforeStatus hne hasked (hsplit ▸ htime) hstatus⟩

/-! ### What is lost -/

theorem View.Entered.trans {v : View} {a b x y : Path} (h : v.Entered left right x y)
    (h' : v.Entered x y a b) : v.Entered left right a b := by
  induction h' with
  | root => exact h
  | descend above step ih => exact .descend ih step

theorem View.Entered.head_induction {v : View} {a b x y : Path} {motive : Path → Path → Prop}
    (root : motive a b)
    (step : ∀ {x y n}, v.Descends x y n → v.Entered (x.join n.bytes) (y.join n.bytes) a b →
      motive (x.join n.bytes) (y.join n.bytes) → motive x y)
    (h : v.Entered x y a b) : motive x y := by
  induction h with
  | root => exact root
  | @descend a b n above hn ih =>
    refine ih (step hn .root root) fun hm hbelow hmotive => ?_
    exact step hm (.descend hbelow hn) hmotive

/-- What belongs to the traversal of two directories belongs to every traversal from above. -/
theorem World.mem_traversal_of_entered {w : World} {a b x y : Path} {e : Event}
    (hlevel : ∀ x y, w.view.Entered left right x y → ∃ found, Level.of w.view x y = .ok found)
    (hxy : w.view.Entered left right x y) (hab : w.view.Entered x y a b)
    (he : e ∈ w.traversal o k a b) : e ∈ w.traversal o k x y := by
  revert hxy
  refine View.Entered.head_induction
    (motive := fun x y => w.view.Entered left right x y → e ∈ w.traversal o k x y) ?_ ?_ hab
  · exact fun _ => he
  · intro x y m hm _ ih hxy
    obtain ⟨found, hfound⟩ := hlevel x y hxy
    rw [traversal_of_ok hfound]
    have hmem : e ∈ found.subdirectories.flatMap fun n =>
        w.traversal o k (x.join n.bytes) (y.join n.bytes) :=
      List.mem_flatMap.2 ⟨m, (Level.mem_subdirectories_iff hfound).2 hm, ih (hxy.descend hm)⟩
    simp [hmem]

theorem World.exists_status_mem_entryEvents {w : World} {a b path : Path}
    (hpath : path = a.join n.bytes ∨ path = b.join n.bytes) :
    ∃ fault, .status path fault ∈ w.entryEvents o k a b n := by
  unfold entryEvents
  rcases hpath with rfl | rfl
  · exact ⟨_, List.mem_cons_self⟩
  · exact ⟨_, List.mem_cons_of_mem _ List.mem_cons_self⟩

/-- **An entry is lost on one side** of two directories, at one place below two roots: how the files
look before and after. -/
structure View.Loses (v v' : View) (left right a b : Path) (n : Name) : Prop where
  /-- one of the two entries cannot be described any more -/
  undescribed : ∀ m m', v'.status (a.join n.bytes) = .ok m → v'.status (b.join n.bytes) ≠ .ok m'
  /-- the two directories do not hold the same any more -/
  unmatched : ∀ found, Level.of v' a b = .ok found → found.agrees = false
  /-- directories that can still be listed hold the directories above the entry -/
  holds : ∀ {x y m found}, v.Entered left right x y → v.Descends x y m →
    v.Entered (x.join m.bytes) (y.join m.bytes) a b → Level.of v' x y = .ok found →
      v'.Holds x m ∧ v'.Holds y m
  /-- a directory that can still be described is one -/
  isDirectory : ∀ {p m}, v.isDirectory p = true → v'.status p = .ok m → v'.isDirectory p = true

section

variable {before after : σ} {a b x y : Path} (hi : i.IsSteady) (hflags : o.ignoreFlags = false)
  (honce : Once event before after)
  (hloses : (i.view before).Loses (i.view after) left right a b n)
include hi hflags honce hloses

omit honce in
theorem not_ends_compareName_of_loses :
    ¬ Ends (Comparator.compareName ⟨o, k, i.during event⟩ a b n) after t := by
  intro h
  obtain ⟨⟨m, hm⟩, ⟨m', hm'⟩, -⟩ := exists_of_compareName hi hflags h
  exact hloses.undescribed m m' hm hm'

/-- **A comparison of directories above an entry that is lost** does not end well. -/
theorem not_ends_compare_of_loses (hxy : (i.view before).Entered left right x y)
    (hab : (i.view before).Entered x y a b) :
    ¬ Ends (Comparator.compare ⟨o, k, i.during event⟩ x y) after t := by
  revert hxy t
  refine View.Entered.head_induction (motive := fun x y => ∀ {t},
    (i.view before).Entered left right x y →
      ¬ Ends (Comparator.compare ⟨o, k, i.during event⟩ x y) after t) ?_ ?_ hab
  · intro t hxy h
    obtain ⟨found, hlevel, hagrees, -⟩ := h.exists_of_compare
    cases hagrees.symm.trans (hloses.unmatched found hlevel)
  · intro x y m hm hbelow ih t hxy h
    obtain ⟨found, hlevel, -, u, hcommon, hsub⟩ := h.exists_of_compare
    obtain ⟨hx, hy⟩ := hloses.holds hxy hm hbelow hlevel
    have hkeep (n : Name) (u : σ)
        (hn : Ends (Comparator.compareName ⟨o, k, i.during event⟩ x y n) after u) : u = after := by
      rw [(exists_of_compareName hi hflags hn).2.2, honce.rest, honce.rest]
    -- The entries were compared first, so both directories can still be described.
    obtain ⟨⟨s, hs⟩, ⟨s', hs'⟩, -⟩ := exists_of_compareName hi hflags <|
      hcommon.of_mem_forM (fun n _ => hkeep n) ((Level.mem_common_iff hlevel).2 ⟨hx, hy⟩)
    have hmem : m ∈ found.subdirectories := (Level.mem_subdirectories_iff hlevel).2
      ⟨hx, hy, hloses.isDirectory hm.isDirectory_left hs,
        hloses.isDirectory hm.isDirectory_right hs'⟩
    obtain rfl := hcommon.eq_of_forM fun n _ => hkeep n
    have hbelow' := hsub.of_mem_forM (fun n _ t hn => eq_of_compare hi hflags honce.rest hn) hmem
    exact ih (hxy.descend hm) hbelow'

variable {asked path : Path} (hne : before ≠ after) (hasked : event asked before = after)
  (hpath : path = a.join n.bytes ∨ path = b.join n.bytes)
include hne hasked hpath

/-- **A comparison of directories above an entry that is going to be lost** before its status is
read does not end well. -/
theorem not_ends_compare_of_flagsBeforeStatus
    (hlevel : ∀ x y, (i.view before).Entered left right x y →
      ∃ found, Level.of (i.view before) x y = .ok found)
    (hleft : (i.view before).Holds a n) (hright : (i.view before).Holds b n)
    (hxy : (i.view before).Entered left right x y) (hab : (i.view before).Entered x y a b)
    (htime : Event.FlagsBeforeStatus asked path ((i.world before).traversal o k x y)) :
    ¬ Ends (Comparator.compare ⟨o, k, i.during event⟩ x y) before t := by
  obtain ⟨fault, hstatus⟩ :=
    World.exists_status_mem_entryEvents (w := i.world before) (o := o) (k := k) hpath
  revert hxy htime t
  refine View.Entered.head_induction (motive := fun x y => ∀ {t},
    (i.view before).Entered left right x y →
    Event.FlagsBeforeStatus asked path ((i.world before).traversal o k x y) →
      ¬ Ends (Comparator.compare ⟨o, k, i.during event⟩ x y) before t) ?_ ?_ hab
  -- In its own directory the entry is passed over only after its status was read.
  · intro t hab htime h
    obtain ⟨found, hfound, -, u, hcommon, -⟩ := h.exists_of_compare
    have hmem : n ∈ found.common := (Level.mem_common_iff hfound).2 ⟨hleft, hright⟩
    have hpassed : Passes event before after [] before before := .ahead nofun
    obtain ⟨s, s', hn, rfl | ⟨-, hnow⟩⟩ := hpassed.exists_of_mem_forM hne hasked
      (fun n _ _ _ hs hn => passes_compareName hi hflags honce hs hn) hcommon hmem hstatus
      (World.flagsBeforeStatus_of_traversal hfound htime)
    · exact not_ends_compareName_of_loses hi hflags hloses hn
    · exact World.not_flagsBeforeStatus_entryEvents hpath hnow
  -- From above, the question comes before the next directory is entered, or below it.
  · intro x y m hm hbelow ih t hxy htime h
    obtain ⟨found, hfound, -, u, hcommon, hsub⟩ := h.exists_of_compare
    have hmem : m ∈ found.subdirectories := (Level.mem_subdirectories_iff hfound).2 hm
    have hpassed := Passes.forM (.inl rfl)
      (fun n _ _ _ hs hn => passes_compareName hi hflags honce hs hn) hcommon
    have hstatus' : .status path fault ∈
        (i.world before).traversal o k (x.join m.bytes) (y.join m.bytes) := by
      refine World.mem_traversal_of_entered hlevel (hxy.descend hm) hbelow ?_
      obtain ⟨found', hfound'⟩ := hlevel a b ((hxy.descend hm).trans hbelow)
      have hn := (Level.mem_common_iff hfound').2 ⟨hleft, hright⟩
      rw [World.traversal_of_ok hfound']
      simp [List.mem_flatMap.2 ⟨n, hn, hstatus⟩]
    have hrest := World.flagsBeforeStatus_of_traversal hfound htime
    rw [← List.append_nil (found.subdirectories.flatMap _)] at hrest
    obtain ⟨s, s', hm', rfl | ⟨rfl, hnow⟩⟩ := hpassed.exists_of_mem_forM hne hasked
      (fun n _ _ _ hs hn => passes_compare hi hflags honce hs hn) hsub hmem hstatus' hrest
    · exact not_ends_compare_of_loses hi hflags honce hloses (hxy.descend hm) hbelow hm'
    · exact ih (hxy.descend hm) hnow hm'

end

end

end RestoreCheck

import GroceryErp.Lib.Rows
import Mathlib.Data.List.Chain
import Mathlib.Data.Option.Basic
import Mathlib.Order.MinMax
import Mathlib.Order.SuccPred.Basic

/-!
# Effective-dated tables

A row says something of its owner for a range of days, both ends included; a row
without a last day is open.  No two rows of an owner have a day in common, so a
table says at most one thing of an owner on a day, and is a partial function of
owner and day.

## Main definitions

* `Entry` — a row; `Entry.Covers`, `Entry.Meets` — whether it has a given day, and any
  day of a range; `Entry.clip` — what it has of a range.
* `Consistent`, `History` — a table without overlaps.
* `History.on` — what a table says of an owner on a day.
* `Unbroken` — rows that follow one another without a gap, the last of them open.
* `segments` — the rows of an owner that meet a range, in order, clipped to it.

## Main results

* `History.on_eq_some` — a table says what its rows say.
* `History.on_supersede` — closing the open row and appending one overrides the table from
  the first day of the new row on.
* `Unbroken.supersede` — closing the open row and appending a later one leaves no gap.
* `Unbroken.pairwise`, `Unbroken.exists_covers_iff` — every day from the first on is a day of
  one row and of no other.
* `sum_sumWhere_segments` — what happens on the days of the segments adds up.
-/

namespace Effective

open Rows

variable {κ α D : Type*}

/-- A row of an effective-dated table: what holds of its owner, from a day on and perhaps until
another. -/
structure Entry (κ α D : Type*) where
  owner : κ
  value : α
  effectiveFrom : D
  effectiveTo : Option D
  deriving DecidableEq

variable [LinearOrder D]

namespace Entry

variable (e f : Entry κ α D) (a b d : D)

/-- The day is one of those the row is in effect on, bounds included. -/
def Covers : Prop := e.effectiveFrom ≤ d ∧ ∀ t ∈ e.effectiveTo, d ≤ t

/-- The row has a day between `a` and `b`, as a query asks it. -/
def Meets : Prop := e.effectiveFrom ≤ b ∧ ∀ t ∈ e.effectiveTo, a ≤ t

/-- The row is in effect on a day at all: it does not end before it begins. -/
def Valid : Prop := ∀ t ∈ e.effectiveTo, e.effectiveFrom ≤ t

/-- One of two rows ends before the other begins, so that no day is in both. -/
def Apart : Prop :=
  (∃ t ∈ e.effectiveTo, t < f.effectiveFrom) ∨ ∃ t ∈ f.effectiveTo, t < e.effectiveFrom

instance : Decidable (e.Covers d) := inferInstanceAs (Decidable (_ ∧ _))

instance : Decidable (e.Meets a b) := inferInstanceAs (Decidable (_ ∧ _))

instance : Decidable e.Valid := inferInstanceAs (Decidable (∀ _ ∈ _, _))

instance : Decidable (e.Apart f) := inferInstanceAs (Decidable (_ ∨ _))

/-- The days of the row between `a` and `b`. -/
def clip : D × D :=
  (max e.effectiveFrom a, match e.effectiveTo with | some t => min t b | none => b)

variable {e f a b d}

theorem mem_clip : (e.clip a b).1 ≤ d ∧ d ≤ (e.clip a b).2 ↔ e.Covers d ∧ a ≤ d ∧ d ≤ b := by
  unfold clip Covers
  cases e.effectiveTo with
  | none =>
    simp only [max_le_iff, Option.not_mem_none, false_implies, implies_true, and_true]
    exact and_assoc
  | some t =>
    simp only [max_le_iff, le_min_iff, Option.mem_some, forall_eq']
    constructor
    · rintro ⟨⟨hfrom, ha⟩, ht, hb⟩
      exact ⟨⟨hfrom, ht⟩, ha, hb⟩
    · rintro ⟨⟨hfrom, ht⟩, ha, hb⟩
      exact ⟨⟨hfrom, ha⟩, ht, hb⟩

/-- The part of a row between two days, where there is any, ends no sooner than it begins. -/
theorem clip_le (hab : a ≤ b) (hvalid : e.Valid) (h : e.Meets a b) :
    (e.clip a b).1 ≤ (e.clip a b).2 := by
  obtain ⟨hfrom, hto⟩ := h
  unfold clip
  unfold Valid at hvalid
  cases ht : e.effectiveTo with
  | none => exact max_le hfrom hab
  | some t =>
    rw [ht] at hvalid hto
    exact max_le (le_min (hvalid t rfl) hfrom) (le_min (hto t rfl) hab)

/-- The test of a query is the one for a common day. -/
theorem meets_iff (hab : a ≤ b) (hvalid : e.Valid) :
    e.Meets a b ↔ ∃ d, e.Covers d ∧ a ≤ d ∧ d ≤ b := by
  constructor
  · intro h
    exact ⟨(e.clip a b).1, mem_clip.mp ⟨le_rfl, clip_le hab hvalid h⟩⟩
  · rintro ⟨d, ⟨hfrom, hto⟩, ha, hb⟩
    exact ⟨hfrom.trans hb, fun t ht => ha.trans (hto t ht)⟩

theorem Apart.symm (h : e.Apart f) : f.Apart e := Or.symm h

/-- Rows that are apart have no day in common. -/
theorem Apart.not_covers (h : e.Apart f) (he : e.Covers d) : ¬f.Covers d := by
  intro hf
  rcases h with ⟨t, ht, hlt⟩ | ⟨t, ht, hlt⟩
  · exact absurd (hlt.trans_le hf.1) (he.2 t ht).not_gt
  · exact absurd (hlt.trans_le he.1) (hf.2 t ht).not_gt

end Entry

/-! ### Tables -/

/-- Every row has a day, and no two rows of an owner have one in common. -/
structure Consistent (rows : List (Entry κ α D)) : Prop where
  valid : ∀ e ∈ rows, e.Valid
  apart : rows.Pairwise fun e f => e.owner = f.owner → e.Apart f

instance [DecidableEq κ] (rows : List (Entry κ α D)) : Decidable (Consistent rows) :=
  decidable_of_iff ((∀ e ∈ rows, e.Valid) ∧
      rows.Pairwise fun e f => e.owner = f.owner → e.Apart f)
    ⟨fun h => ⟨h.1, h.2⟩, fun h => ⟨h.1, h.2⟩⟩

/-- A table without overlaps: of no owner two rows hold on one day. -/
structure History (κ α D : Type*) [LinearOrder D] where
  rows : List (Entry κ α D)
  consistent : Consistent rows

instance : EmptyCollection (History κ α D) := ⟨[], by simp, List.Pairwise.nil⟩

@[simp] theorem rows_empty : (∅ : History κ α D).rows = [] := rfl

/-- Of two rows of an owner that have a day in common, each is the other. -/
theorem Consistent.eq_of_covers {rows : List (Entry κ α D)} (h : Consistent rows)
    {e f : Entry κ α D} (he : e ∈ rows) (hf : f ∈ rows) (howner : e.owner = f.owner) {d : D}
    (hed : e.Covers d) (hfd : f.Covers d) : e = f := by
  by_contra hne
  have hsymm : Std.Symm fun e f : Entry κ α D => e.owner = f.owner → e.Apart f :=
    ⟨fun x y hxy hyx => (hxy hyx.symm).symm⟩
  exact (h.apart.forall he hf hne howner).not_covers hed hfd

namespace History

variable [DecidableEq κ] (h : History κ α D) (k : κ) (d : D)

/-- What the table says of an owner on a day. -/
def on : Option α := (h.rows.find? fun e => e.owner = k ∧ e.Covers d).map Entry.value

variable {h k d}

/-- **A table says what its rows say.** -/
theorem on_eq_some {v : α} :
    h.on k d = some v ↔ ∃ e ∈ h.rows, e.owner = k ∧ e.Covers d ∧ e.value = v := by
  unfold on
  rw [Option.map_eq_some_iff]
  constructor
  · rintro ⟨e, hfind, hv⟩
    have hcond := List.find?_some hfind
    rw [decide_eq_true_iff] at hcond
    exact ⟨e, List.mem_of_find?_eq_some hfind, hcond.1, hcond.2, hv⟩
  · rintro ⟨e, he, howner, hcovers, hv⟩
    cases hfind : h.rows.find? fun e => e.owner = k ∧ e.Covers d with
    | none =>
      rw [List.find?_eq_none] at hfind
      exact absurd (decide_eq_true ⟨howner, hcovers⟩) (hfind e he)
    | some f =>
      have hcond := List.find?_some hfind
      rw [decide_eq_true_iff] at hcond
      have hf := List.mem_of_find?_eq_some hfind
      refine ⟨f, rfl, ?_⟩
      rw [← hv, h.consistent.eq_of_covers hf he (hcond.1.trans howner.symm) hcond.2 hcovers]

/-- On a day an owner has one row at most. -/
theorem filter_covers (h : History κ α D) (k : κ) (d : D) :
    h.rows.filter (fun e => e.owner = k ∧ e.Covers d)
      = (h.rows.find? fun e => e.owner = k ∧ e.Covers d).toList := by
  have hcovers : ∀ e ∈ h.rows.filter fun e => e.owner = k ∧ e.Covers d,
      e.owner = k ∧ e.Covers d := by
    intro e he
    exact of_decide_eq_true (List.mem_filter.mp he).2
  have hapart := h.consistent.apart.sublist
    (List.filter_sublist (p := fun e => decide (e.owner = k ∧ e.Covers d)))
  rw [← List.head?_filter]
  generalize h.rows.filter (fun e => decide (e.owner = k ∧ e.Covers d)) = rows at hcovers hapart ⊢
  match rows with
  | [] => rfl
  | [e] => rfl
  | e :: f :: l =>
    have he := hcovers e List.mem_cons_self
    have hf := hcovers f (List.mem_cons_of_mem e List.mem_cons_self)
    have hef := (List.pairwise_cons.mp hapart).1 f List.mem_cons_self (he.1.trans hf.1.symm)
    exact absurd hf.2 (hef.not_covers he.2)

/-- **Closing the open row of an owner and appending another overrides the table from the
first day of the new row on.** -/
theorem on_supersede {h' : History κ α D} {i : ℕ} {e n : Entry κ α D} {t : D}
    (hrow : h.rows[i]? = some e) (hopen : e.effectiveTo = none)
    (hrows : h'.rows = h.rows.set i { e with effectiveTo := some t } ++ [n])
    (hlast : ∀ d, d ≤ t ↔ d < n.effectiveFrom) (hnew : n.effectiveTo = none)
    (hfrom : e.effectiveFrom < n.effectiveFrom) (howner : n.owner = e.owner) :
    h'.on k d = if k = e.owner ∧ n.effectiveFrom ≤ d then some n.value else h.on k d := by
  have hmem : n ∈ h'.rows := by simp [hrows]
  have hn : n.Covers d ↔ n.effectiveFrom ≤ d := by simp [Entry.Covers, hnew]
  have hclosed : Entry.Covers { e with effectiveTo := some t } d
      ↔ e.Covers d ∧ d < n.effectiveFrom := by
    simp [Entry.Covers, hopen, hlast]
  split
  · next hover =>
    exact on_eq_some.mpr ⟨n, hmem, howner.trans hover.1.symm, hn.mpr hover.2, rfl⟩
  · next hbefore =>
    -- the rows of the owner that have the day are those that had it
    have hiff : ∀ v, h'.on k d = some v ↔ h.on k d = some v := by
      intro v
      rw [on_eq_some, on_eq_some]
      constructor
      · rintro ⟨f, hf, hk, hcovers, hv⟩
        rw [hrows, List.mem_append, List.mem_singleton] at hf
        rcases hf with hf | rfl
        · rcases List.mem_or_eq_of_mem_set hf with hf | rfl
          · exact ⟨f, hf, hk, hcovers, hv⟩
          · exact ⟨e, mem_of_row hrow, hk, (hclosed.mp hcovers).1, hv⟩
        · exact absurd ⟨hk.symm.trans howner, hn.mp hcovers⟩ hbefore
      · rintro ⟨f, hf, hk, hcovers, hv⟩
        by_cases hfe : f = e
        · subst hfe
          have hd : d < n.effectiveFrom := not_le.mp fun hle => hbefore ⟨hk.symm, hle⟩
          refine ⟨{ f with effectiveTo := some t }, ?_, hk, hclosed.mpr ⟨hcovers, hd⟩, hv⟩
          rw [hrows]
          exact List.mem_append_left _ (List.mem_set (List.getElem?_eq_some_iff.mp hrow).1 _)
        · obtain ⟨j, hj⟩ := List.getElem?_of_mem hf
          have hji : i ≠ j := by
            rintro rfl
            exact hfe (Option.some.inj (hj.symm.trans hrow))
          refine ⟨f, ?_, hk, hcovers, hv⟩
          rw [hrows]
          refine List.mem_append_left _ (mem_of_row (i := j) ?_)
          rw [getElem?_set_of_some hrow, if_neg hji, hj]
    exact Option.ext hiff

end History

/-! ### Unbroken rows -/

section Unbroken

variable [PredOrder D] {follows : α → α → Prop} {e f n : Entry κ α D}
  {rows before after : List (Entry κ α D)}

/-- The row ends on the day before a later one begins, and its value may be followed by the
other's. -/
structure Entry.Precedes (follows : α → α → Prop) (e f : Entry κ α D) : Prop where
  ends : e.effectiveTo = some (Order.pred f.effectiveFrom)
  later : e.effectiveFrom < f.effectiveFrom
  follows : follows e.value f.value

/-- Every row ends on the day before the next begins, and the last is open. -/
structure Unbroken (follows : α → α → Prop) (rows : List (Entry κ α D)) : Prop where
  linked : rows.IsChain (Entry.Precedes follows)
  last_open : ∀ e ∈ rows.getLast?, e.effectiveTo = none

/-- A day is before the later row begins when it is one at which the earlier has ended by. -/
theorem Entry.Precedes.le_iff (h : e.Precedes follows f) {d : D} :
    (∀ t ∈ e.effectiveTo, d ≤ t) ↔ d < f.effectiveFrom := by
  simp only [h.ends, Option.mem_some, forall_eq']
  exact Order.le_pred_iff_of_not_isMin fun hmin => hmin.not_lt h.later

theorem unbroken_nil : Unbroken follows ([] : List (Entry κ α D)) := ⟨.nil, by simp⟩

theorem unbroken_singleton (h : n.effectiveTo = none) : Unbroken follows [n] :=
  ⟨.singleton n, by simpa using h⟩

theorem Unbroken.tail (h : Unbroken follows (e :: f :: rows)) : Unbroken follows (f :: rows) :=
  ⟨h.linked.tail, fun g hg => h.last_open g (by rwa [List.getLast?_cons_cons])⟩

/-- An open row is the last. -/
theorem Unbroken.after_open (h : Unbroken follows (before ++ e :: after))
    (hopen : e.effectiveTo = none) : after = [] := by
  cases after with
  | nil => rfl
  | cons f after =>
    have hlink := (List.isChain_append_cons_cons.mp h.linked).2.1
    exact absurd (hopen.symm.trans hlink.ends) nofun

/-- **The open row is closed, and a later one appended.** -/
theorem Unbroken.supersede (h : Unbroken follows (before ++ [e]))
    (hfrom : e.effectiveFrom < n.effectiveFrom) (hfollows : follows e.value n.value)
    (hnew : n.effectiveTo = none) :
    Unbroken follows
      (before ++ [{ e with effectiveTo := some (Order.pred n.effectiveFrom) }, n]) := by
  refine ⟨?_, by simpa using hnew⟩
  obtain ⟨hbefore, -, hlink⟩ := List.isChain_append.mp h.linked
  refine List.isChain_append.mpr ⟨hbefore, List.isChain_pair.mpr ⟨rfl, hfrom, hfollows⟩, ?_⟩
  -- what comes before looks at the first day and the value of the row, and not at its last day
  intro g hg x hx
  obtain rfl : _ = x := Option.some.inj hx
  have hg := hlink g hg e rfl
  exact ⟨hg.ends, hg.later, hg.follows⟩

/-- Every row but the last is closed. -/
theorem Unbroken.closed (h : Unbroken follows (before ++ [e])) (hf : f ∈ before) :
    f.effectiveTo ≠ none := by
  intro hopen
  obtain ⟨l, r, rfl⟩ := List.append_of_mem hf
  rw [List.append_assoc, List.cons_append] at h
  exact List.append_ne_nil_of_right_ne_nil r (List.cons_ne_nil e []) (h.after_open hopen)

/-- **The open row is the last.** -/
theorem Unbroken.filter_open (h : Unbroken follows rows) :
    (rows.filter fun e => e.effectiveTo = none) = rows.getLast?.toList := by
  rcases List.eq_nil_or_concat rows with rfl | ⟨before, e, rfl⟩
  · rfl
  rw [List.concat_eq_append] at h ⊢
  have hclosed : (before.filter fun f => f.effectiveTo = none) = [] :=
    List.filter_eq_nil_iff.mpr fun f hf => by simpa using h.closed hf
  have hopen : e.effectiveTo = none := h.last_open e (by simp)
  simp [List.filter_append, hclosed, hopen]

/-- A row that comes later begins after the first has ended. -/
theorem Unbroken.apart_of_mem (h : Unbroken follows (e :: rows)) (hf : f ∈ rows) :
    e.effectiveFrom < f.effectiveFrom ∧ e.Apart f := by
  induction rows generalizing e with
  | nil => exact absurd hf List.not_mem_nil
  | cons g rows ih =>
    have hlink := (List.isChain_cons_cons.mp h.linked).1
    have hfrom : g.effectiveFrom ≤ f.effectiveFrom := by
      rcases List.mem_cons.mp hf with rfl | hf
      · exact le_rfl
      · exact (ih h.tail hf).1.le
    have hend : Order.pred g.effectiveFrom < g.effectiveFrom :=
      Order.pred_lt_of_not_isMin fun hmin => hmin.not_lt hlink.later
    exact ⟨hlink.later.trans_le hfrom, .inl ⟨_, hlink.ends, hend.trans_le hfrom⟩⟩

/-- **The rows come in the order of their days, and no two have one in common.** -/
theorem Unbroken.pairwise (h : Unbroken follows rows) :
    rows.Pairwise fun e f => e.effectiveFrom < f.effectiveFrom ∧ e.Apart f := by
  induction rows with
  | nil => exact .nil
  | cons e rows ih =>
    refine .cons (fun f hf => h.apart_of_mem hf) ?_
    cases rows with
    | nil => exact .nil
    | cons f rows => exact ih h.tail

/-- **From the first day of the first row on, every day is a day of some row.** -/
theorem Unbroken.exists_covers_iff (h : Unbroken follows (e :: rows)) {d : D} :
    (∃ f ∈ e :: rows, f.Covers d) ↔ e.effectiveFrom ≤ d := by
  induction rows generalizing e with
  | nil =>
    have hopen : e.effectiveTo = none := h.last_open e rfl
    simp [Entry.Covers, hopen]
  | cons g rows ih =>
    have hlink := (List.isChain_cons_cons.mp h.linked).1
    rw [List.exists_mem_cons_iff, ih h.tail]
    constructor
    · rintro (hcovers | hnext)
      · exact hcovers.1
      · exact hlink.later.le.trans hnext
    · intro hd
      by_cases hnext : g.effectiveFrom ≤ d
      · exact .inr hnext
      · exact .inl ⟨hd, hlink.le_iff.mpr (not_le.mp hnext)⟩

end Unbroken

/-! ### Segments -/

/-- A list sorted by a key, ties left in their order. -/
def sortedBy {β : Type*} (key : β → D) (l : List β) : List β :=
  l.insertionSort fun x y => key x ≤ key y

section SortedBy

variable {β : Type*} {key : β → D} {l : List β}

@[simp] theorem mem_sortedBy {x : β} : x ∈ sortedBy key l ↔ x ∈ l := List.mem_insertionSort _

theorem perm_sortedBy (key : β → D) (l : List β) : (sortedBy key l).Perm l :=
  List.perm_insertionSort _ l

theorem pairwise_sortedBy (key : β → D) (l : List β) :
    (sortedBy key l).Pairwise fun x y => key x ≤ key y := by
  have htotal : Std.Total fun x y : β => key x ≤ key y := ⟨fun x y => le_total _ _⟩
  have htrans : IsTrans β fun x y : β => key x ≤ key y := ⟨fun x y z => le_trans⟩
  exact List.pairwise_insertionSort _ l

/-- A list that is sorted stays as it is. -/
theorem sortedBy_eq_self (h : l.Pairwise fun x y => key x ≤ key y) : sortedBy key l = l :=
  List.Pairwise.insertionSort_eq h

end SortedBy

/-- A value that holds for a range of days, bounds included. -/
structure Segment (α D : Type*) where
  first : D
  last : D
  value : α
  deriving DecidableEq

/-- The day is one of those that the segment is for. -/
def Segment.Has (s : Segment α D) (d : D) : Prop := s.first ≤ d ∧ d ≤ s.last

instance (s : Segment α D) (d : D) : Decidable (s.Has d) := inferInstanceAs (Decidable (_ ∧ _))

/-- What a row says between two days, cut off at both of them. -/
def Entry.segment (e : Entry κ α D) (a b : D) : Segment α D :=
  ⟨(e.clip a b).1, (e.clip a b).2, e.value⟩

variable [DecidableEq κ]

/-- The rows of an owner that meet a range, by their first days, each clipped to it. -/
def segments (h : History κ α D) (k : κ) (a b : D) : List (Segment α D) :=
  (sortedBy Entry.effectiveFrom (h.rows.filter fun e => e.owner = k ∧ e.Meets a b)).map
    fun e => e.segment a b

variable {h : History κ α D} {k : κ} {a b : D}

theorem mem_segments {s : Segment α D} :
    s ∈ segments h k a b ↔ ∃ e ∈ h.rows, e.owner = k ∧ e.Meets a b ∧ e.segment a b = s := by
  simp [segments, and_assoc]

/-- The segments of an owner are those of its rows. -/
theorem segments_congr {h' : History κ α D}
    (hrows : h'.rows.filter (·.owner = k) = h.rows.filter (·.owner = k)) :
    segments h' k a b = segments h k a b := by
  have hfilter : ∀ rows : List (Entry κ α D), rows.filter (fun e => e.owner = k ∧ e.Meets a b)
      = (rows.filter (·.owner = k)).filter fun e => e.Meets a b := by
    intro rows
    rw [List.filter_filter]
    apply List.filter_congr
    intro e _
    rw [Bool.decide_and, Bool.and_comm]
  unfold segments
  rw [hfilter, hfilter, hrows]

/-- A day of the range has the segment that the table has for it. -/
theorem exists_segment_iff {d : D} (ha : a ≤ d) (hb : d ≤ b) {v : α} :
    (∃ s ∈ segments h k a b, s.Has d ∧ s.value = v) ↔ h.on k d = some v := by
  rw [History.on_eq_some]
  constructor
  · rintro ⟨s, hs, hd, hv⟩
    obtain ⟨e, he, howner, -, rfl⟩ := mem_segments.mp hs
    exact ⟨e, he, howner, (Entry.mem_clip.mp hd).1, hv⟩
  · rintro ⟨e, he, howner, hcovers, hv⟩
    have hmeets : e.Meets a b :=
      (Entry.meets_iff (ha.trans hb) (h.consistent.valid e he)).mpr ⟨d, hcovers, ha, hb⟩
    exact ⟨e.segment a b, mem_segments.mpr ⟨e, he, howner, hmeets, rfl⟩,
      Entry.mem_clip.mpr ⟨hcovers, ha, hb⟩, hv⟩

/-- A segment is not empty, and lies within the range. -/
theorem segment_bounds (hab : a ≤ b) {s : Segment α D} (hs : s ∈ segments h k a b) :
    a ≤ s.first ∧ s.first ≤ s.last ∧ s.last ≤ b := by
  obtain ⟨e, he, -, hmeets, rfl⟩ := mem_segments.mp hs
  have hle := Entry.clip_le hab (h.consistent.valid e he) hmeets
  have hfirst := Entry.mem_clip.mp ⟨le_rfl, hle⟩
  have hlast := Entry.mem_clip.mp ⟨hle, le_rfl⟩
  exact ⟨hfirst.2.1, hle, hlast.2.2⟩

/-- The segments come in the order of their first days. -/
theorem segments_sorted : (segments h k a b).Pairwise fun s t => s.first ≤ t.first := by
  unfold segments
  rw [List.pairwise_map]
  refine (pairwise_sortedBy Entry.effectiveFrom _).imp fun {e f} hle => ?_
  exact max_le_max_right a hle

/-- No two segments have a day in common. -/
theorem segments_disjoint :
    (segments h k a b).Pairwise fun s t => ∀ d, s.Has d → ¬t.Has d := by
  have hrows : (h.rows.filter fun e => e.owner = k ∧ e.Meets a b).Pairwise Entry.Apart := by
    refine (h.consistent.apart.sublist List.filter_sublist).imp_of_mem fun he hf hapart => ?_
    rw [List.mem_filter, decide_eq_true_iff] at he hf
    exact hapart (he.2.1.trans hf.2.1.symm)
  have hsorted := (perm_sortedBy Entry.effectiveFrom _).symm.pairwise hrows Entry.Apart.symm
  unfold segments
  rw [List.pairwise_map]
  refine hsorted.imp fun hapart d hs ht => ?_
  exact hapart.not_covers (Entry.mem_clip.mp hs).1 (Entry.mem_clip.mp ht).1

/-- **What happens on the days of the segments adds up.** -/
theorem sum_sumWhere_segments {β M : Type*} [AddCommMonoid M] {segs : List (Segment α D)}
    (hdisjoint : segs.Pairwise fun s t => ∀ d, s.Has d → ¬t.Has d) (day : β → D)
    (p : β → Prop) [DecidablePred p] (f : β → M) (t : List β) :
    (segs.map fun s => sumWhere (fun r => p r ∧ s.Has (day r)) f t).sum
      = sumWhere (fun r => p r ∧ ∃ s ∈ segs, s.Has (day r)) f t := by
  induction segs with
  | nil => simp [sumWhere]
  | cons s segs ih =>
    obtain ⟨hs, hrest⟩ := List.pairwise_cons.mp hdisjoint
    rw [List.map_cons, List.sum_cons, ih hrest]
    refine (sumWhere_or (fun r _ => ?_) fun r _ hr hr' => ?_).symm
    · simp only [List.mem_cons, exists_eq_or_imp, and_or_left]
    · obtain ⟨-, t, ht, hhas⟩ := hr'
      exact hs t ht _ hr.2 hhas

end Effective

import Mathlib.Algebra.BigOperators.Group.List.Basic
import Mathlib.Algebra.BigOperators.Intervals
import Mathlib.Algebra.Order.BigOperators.Group.Finset
import Mathlib.Algebra.Order.BigOperators.Group.List
import Mathlib.Data.List.Basic
import Mathlib.Data.List.Dedup
import Mathlib.Data.List.Sort
import Mathlib.Tactic.Abel

/-!
# Tables and their sums

A table is a list of rows, the key of a row being its position: rows are
appended and updated in place, never removed.  The aggregate of a column over the
rows that meet a condition is `sumWhere`.

## Main definitions

* `rowsWhere p t`, `withKeys t` — the rows of `t` that meet `p`, or all, with their keys.
* `sortedIds`, `distinct` — the distinct keys of a list, ascending or as met.
* `sumWhere p f t` — the sum of `f` over the rows of `t` that meet `p`.
* `Overwritten R t t'` — `t'` is `t` with its rows written over as `R` says.
* `HasAt t f i v` — the row `i` of `t` is there and `f` of it is `v`.

## Main results

* `sumWhere_append`, `sumWhere_set` — how the two kinds of write move a sum.
-/

namespace Rows

variable {α M : Type*}

/-! ### Reading -/

/-- The rows of a table that meet a condition, with their keys, in key order. -/
def rowsWhere (p : α → Prop) [DecidablePred p] (t : List α) : List (ℕ × α) :=
  (t.zipIdx.map fun r => (r.2, r.1)).filter fun r => p r.2

theorem mem_rowsWhere {p : α → Prop} [DecidablePred p] {t : List α} {i : ℕ} {a : α} :
    (i, a) ∈ rowsWhere p t ↔ t[i]? = some a ∧ p a := by
  simp [rowsWhere, List.mem_zipIdx_iff_getElem?]

/-- The rows found are the rows that meet the condition, in order. -/
theorem map_snd_rowsWhere (p : α → Prop) [DecidablePred p] (t : List α) :
    (rowsWhere p t).map Prod.snd = t.filter p := by
  have h : ∀ (l : List (ℕ × α)),
      (l.filter fun r => p r.2).map Prod.snd = (l.map Prod.snd).filter p := by
    intro l
    rw [List.filter_map]
    rfl
  rw [rowsWhere, h]
  simp [Function.comp_def]

theorem nodup_fst_rowsWhere (p : α → Prop) [DecidablePred p] (t : List α) :
    ((rowsWhere p t).map Prod.fst).Nodup := by
  have h : ((t.zipIdx.map fun r => (r.2, r.1)).map Prod.fst).Nodup := by
    simp [Function.comp_def, List.nodup_range']
  exact h.sublist (List.Sublist.map _ List.filter_sublist)

/-- Rows that do not meet the condition can be appended. -/
theorem rowsWhere_append_of_not {p : α → Prop} [DecidablePred p] {t u : List α}
    (h : ∀ a ∈ u, ¬p a) : rowsWhere p (t ++ u) = rowsWhere p t := by
  unfold rowsWhere
  rw [List.zipIdx_append, List.map_append, List.filter_append]
  have hnone : ((u.zipIdx (0 + t.length)).map fun r => (r.2, r.1)).filter (fun r => p r.2) = [] := by
    refine List.filter_eq_nil_iff.mpr fun r hr => ?_
    obtain ⟨⟨a, i⟩, ha, rfl⟩ := List.mem_map.mp hr
    rw [decide_eq_true_iff]
    exact h a (List.fst_mem_of_mem_zipIdx ha)
  rw [hnone, List.append_nil]

/-- **A unique key finds its row.** -/
theorem rowsWhere_of_key {κ : Type*} [DecidableEq κ] {key : α → κ} {t : List α} {i : ℕ} {a : α}
    {k : κ} (hn : (t.map key).Nodup) (ha : t[i]? = some a) (hk : key a = k) :
    rowsWhere (key · = k) t = [(i, a)] := by
  have hkeyed : ∀ {j : ℕ} {b : α}, t[j]? = some b → (t.map key)[j]? = some (key b) := by
    intro j b hb
    rw [List.getElem?_map, hb, Option.map_some]
  have hmem : (i, a) ∈ rowsWhere (key · = k) t := mem_rowsWhere.mpr ⟨ha, hk⟩
  have hsame : ∀ r ∈ rowsWhere (key · = k) t, r.1 = i := by
    rintro ⟨j, b⟩ hr
    obtain ⟨hb, hkey⟩ := mem_rowsWhere.mp hr
    have hj := hkeyed hb
    have hi := hkeyed ha
    obtain ⟨hlt, -⟩ := List.getElem?_eq_some_iff.mp hj
    rw [hkey, ← hk] at hj
    exact (List.getElem?_inj hlt hn).mp (hj.trans hi.symm)
  have hnodup := nodup_fst_rowsWhere (key · = k) t
  -- rows with one id among them are one row
  match hfound : rowsWhere (key · = k) t with
  | [] =>
    rw [hfound] at hmem
    exact absurd hmem List.not_mem_nil
  | [r] =>
    rw [hfound] at hmem
    rw [List.mem_singleton.mp hmem]
  | r :: r' :: rest =>
    rw [hfound] at hsame hnodup
    have hr := hsame r (by simp)
    have hr' := hsame r' (by simp)
    simp [hr, hr'] at hnodup

/-- Of what the rows come to, by a key that they do not share, the part of one row. -/
theorem filter_flatMap_of_key {β κ : Type*} [DecidableEq κ] {f : β → List α} {k : α → κ}
    {key : β → κ} {t : List β} (hkey : ∀ b ∈ t, ∀ a ∈ f b, k a = key b)
    (hnodup : (t.map key).Nodup) {b : β} (hb : b ∈ t) :
    (t.flatMap f).filter (fun a => k a = key b) = f b := by
  induction t with
  | nil => cases hb
  | cons c t ih =>
    rw [List.map_cons, List.nodup_cons] at hnodup
    obtain ⟨hfirst, hnodup⟩ := hnodup
    obtain ⟨hkeyFirst, hkeyLater⟩ := List.forall_mem_cons.mp hkey
    rw [List.flatMap_cons, List.filter_append]
    rcases List.mem_cons.mp hb with rfl | hlater
    · have hself : (f b).filter (fun a => k a = key b) = f b :=
        List.filter_eq_self.mpr fun a ha => decide_eq_true (hkeyFirst a ha)
      have hnone : (t.flatMap f).filter (fun a => k a = key b) = [] := by
        rw [List.filter_eq_nil_iff]
        intro a ha hsame
        obtain ⟨c, hc, hac⟩ := List.mem_flatMap.mp ha
        refine hfirst (List.mem_map.mpr ⟨c, hc, ?_⟩)
        rw [← hkeyLater c hc a hac]
        exact of_decide_eq_true hsame
      rw [hself, hnone, List.append_nil]
    · have hne : key c ≠ key b := fun hsame => hfirst (hsame ▸ List.mem_map_of_mem hlater)
      have hnone : (f c).filter (fun a => k a = key b) = [] := by
        rw [List.filter_eq_nil_iff]
        intro a ha hsame
        exact hne ((hkeyFirst a ha).symm.trans (of_decide_eq_true hsame))
      rw [hnone, List.nil_append]
      exact ih hkeyLater hnodup hlater

/-- All rows of a table, with their keys, in the order of the keys. -/
def withKeys (t : List α) : List (ℕ × α) := rowsWhere (fun _ => True) t

theorem getElem?_withKeys (t : List α) (i : ℕ) : (withKeys t)[i]? = t[i]?.map fun a => (i, a) := by
  unfold withKeys rowsWhere
  rw [List.filter_eq_self.mpr fun r _ => decide_eq_true trivial, List.getElem?_map,
    List.getElem?_zipIdx, Option.map_map]
  simp [Function.comp_def]

theorem length_withKeys (t : List α) : (withKeys t).length = t.length := by
  unfold withKeys rowsWhere
  rw [List.filter_eq_self.mpr fun r _ => decide_eq_true trivial, List.length_map,
    List.length_zipIdx]

theorem withKeys_append_singleton (t : List α) (a : α) :
    withKeys (t ++ [a]) = withKeys t ++ [(t.length, a)] := by
  simp [withKeys, rowsWhere, List.zipIdx_append]

/-- A set of keys, each once and in ascending order, as rows are locked. -/
def sortedIds (ids : List ℕ) : List ℕ := ids.dedup.insertionSort (· ≤ ·)

@[simp] theorem mem_sortedIds {ids : List ℕ} {i : ℕ} : i ∈ sortedIds ids ↔ i ∈ ids := by
  simp [sortedIds]

theorem nodup_sortedIds (ids : List ℕ) : (sortedIds ids).Nodup :=
  (List.perm_insertionSort _ _).nodup_iff.mpr (List.nodup_dedup ids)

/-- The members of a list in the order of their first occurrence. -/
def distinct [DecidableEq α] (l : List α) : List α := l.reverse.dedup.reverse

@[simp] theorem mem_distinct [DecidableEq α] {l : List α} {a : α} : a ∈ distinct l ↔ a ∈ l := by
  simp [distinct]

theorem nodup_distinct [DecidableEq α] (l : List α) : (distinct l).Nodup := by
  rw [distinct, List.nodup_reverse]
  exact List.nodup_dedup _

/-- A list without repetitions is its members. -/
theorem distinct_eq_self [DecidableEq α] {l : List α} (h : l.Nodup) : distinct l = l := by
  rw [distinct, (List.nodup_reverse.mpr h).dedup, List.reverse_reverse]

/-- Only a list without repetitions has as many members as places. -/
theorem nodup_of_length_le_distinct [DecidableEq α] {l : List α}
    (h : l.length ≤ (distinct l).length) : l.Nodup := by
  have hsub : l.reverse.dedup.Sublist l.reverse := List.dedup_sublist _
  have heq : l.reverse.dedup = l.reverse := hsub.eq_of_length_le (by simpa [distinct] using h)
  rw [← List.nodup_reverse, ← heq]
  exact List.nodup_dedup _

/-! ### Sums -/

/-- The sum of a column over the rows that meet a condition. -/
def sumWhere [AddMonoid M] (p : α → Prop) [DecidablePred p] (f : α → M) (t : List α) : M :=
  ((t.filter p).map f).sum

section AddMonoid

variable [AddMonoid M] (p : α → Prop) [DecidablePred p] (f : α → M)

@[simp] theorem sumWhere_nil : sumWhere p f [] = 0 := rfl

theorem sumWhere_cons (a : α) (t : List α) :
    sumWhere p f (a :: t) = (if p a then f a else 0) + sumWhere p f t := by
  by_cases h : p a <;> simp [sumWhere, h]

@[simp] theorem sumWhere_append (t u : List α) :
    sumWhere p f (t ++ u) = sumWhere p f t + sumWhere p f u := by
  simp [sumWhere]

@[simp] theorem sumWhere_singleton (a : α) :
    sumWhere p f [a] = if p a then f a else 0 := by
  simp [sumWhere_cons]

theorem sumWhere_map {β : Type*} (g : β → α) (t : List β) :
    sumWhere p f (t.map g) = sumWhere (fun b => p (g b)) (fun b => f (g b)) t := by
  simp [sumWhere, List.filter_map, Function.comp_def]

theorem sumWhere_eq_sum_map (t : List α) :
    sumWhere p f t = (t.map fun a => if p a then f a else 0).sum := by
  induction t with
  | nil => rfl
  | cons a t ih => rw [sumWhere_cons, ih, List.map_cons, List.sum_cons]

theorem sumWhere_filter (q : α → Prop) [DecidablePred q] (t : List α) :
    sumWhere p f (t.filter q) = sumWhere (fun a => p a ∧ q a) f t := by
  rw [sumWhere, sumWhere, List.filter_filter]
  simp only [Bool.decide_and]

theorem sumWhere_flatMap {β : Type*} (g : β → List α) (t : List β) :
    sumWhere p f (t.flatMap g) = (t.map fun b => sumWhere p f (g b)).sum := by
  induction t with
  | nil => rfl
  | cons b t ih => rw [List.flatMap_cons, sumWhere_append, ih, List.map_cons, List.sum_cons]

theorem sumWhere_eq_zero {t : List α} (h : ∀ a ∈ t, p a → f a = 0) : sumWhere p f t = 0 := by
  rw [sumWhere_eq_sum_map]
  refine List.sum_eq_zero fun x hx => ?_
  obtain ⟨a, ha, rfl⟩ := List.mem_map.mp hx
  split
  · next hp => exact h a ha hp
  · rfl

variable {p f} in
theorem sumWhere_congr {q : α → Prop} [DecidablePred q] {g : α → M} {t : List α}
    (hpq : ∀ a ∈ t, (p a ↔ q a)) (hfg : ∀ a ∈ t, p a → f a = g a) :
    sumWhere p f t = sumWhere q g t := by
  rw [sumWhere_eq_sum_map, sumWhere_eq_sum_map]
  congr 1
  refine List.map_congr_left fun a ha => ?_
  by_cases h : p a
  · rw [if_pos h, if_pos ((hpq a ha).mp h), hfg a ha h]
  · rw [if_neg h, if_neg (mt (hpq a ha).mpr h)]

/-- A key that no row has counts for nothing. -/
theorem sumWhere_of_notMem {κ : Type*} [DecidableEq κ] {key : α → κ} {k : κ} {t : List α}
    (h : k ∉ t.map key) : sumWhere (key · = k) f t = 0 :=
  sumWhere_eq_zero _ _ fun a ha hk => absurd (List.mem_map.mpr ⟨a, ha, hk⟩) h

/-- Where the keys are distinct, the rows with one key are one row. -/
theorem sumWhere_key {κ : Type*} [DecidableEq κ] {key : α → κ} {t : List α} {a : α}
    (hn : (t.map key).Nodup) (ha : a ∈ t) : sumWhere (key · = key a) f t = f a := by
  induction t with
  | nil => exact absurd ha List.not_mem_nil
  | cons b t ih =>
    rw [List.map_cons, List.nodup_cons] at hn
    rw [sumWhere_cons]
    rcases List.mem_cons.mp ha with rfl | ha
    · rw [if_pos rfl, sumWhere_of_notMem f hn.1, add_zero]
    · have hne : key b ≠ key a := fun hba => hn.1 (hba ▸ List.mem_map_of_mem ha)
      rw [if_neg hne, zero_add, ih hn.2 ha]

end AddMonoid

section AddCommMonoid

variable [AddCommMonoid M]

/-- The rows of two kinds, of which no row is both. -/
theorem sumWhere_or {p q r : α → Prop} [DecidablePred p] [DecidablePred q] [DecidablePred r]
    {f : α → M} {t : List α} (hr : ∀ a ∈ t, (r a ↔ p a ∨ q a)) (hpq : ∀ a ∈ t, p a → ¬q a) :
    sumWhere r f t = sumWhere p f t + sumWhere q f t := by
  induction t with
  | nil => simp
  | cons a t ih =>
    rw [sumWhere_cons, sumWhere_cons, sumWhere_cons,
      ih (fun b hb => hr b (List.mem_cons_of_mem a hb)) fun b hb => hpq b (List.mem_cons_of_mem a hb)]
    by_cases hp : p a
    · rw [if_pos ((hr a List.mem_cons_self).mpr (.inl hp)), if_pos hp,
        if_neg (hpq a List.mem_cons_self hp)]
      abel
    · by_cases hq : q a
      · rw [if_pos ((hr a List.mem_cons_self).mpr (.inr hq)), if_neg hp, if_pos hq]
        abel
      · rw [if_neg fun h => ((hr a List.mem_cons_self).mp h).elim hp hq, if_neg hp, if_neg hq]
        abel

/-- The rows of some keys, key by key. -/
theorem sum_map_sumWhere_key {κ : Type*} [DecidableEq κ] {key : α → κ} {p : α → Prop}
    [DecidablePred p] {f : α → M} {keys : List κ} (hn : keys.Nodup) (t : List α) :
    (keys.map fun k => sumWhere (fun a => key a = k ∧ p a) f t).sum
      = sumWhere (fun a => key a ∈ keys ∧ p a) f t := by
  induction keys with
  | nil => simp [sumWhere]
  | cons k keys ih =>
    obtain ⟨hfresh, hn⟩ := List.nodup_cons.mp hn
    rw [List.map_cons, List.sum_cons, ih hn]
    refine (sumWhere_or (fun a _ => ?_) fun a _ ha ha' => ?_).symm
    · rw [List.mem_cons, or_and_right]
    · exact hfresh (ha.1 ▸ ha'.1)

/-- A sum over a table, as a sum over its keys. -/
theorem sum_map_eq_sum_range (t : List α) (f : α → M) :
    (t.map f).sum = ∑ i ∈ Finset.range t.length, (t[i]?.map f).getD 0 := by
  induction t using List.reverseRecOn with
  | nil => simp
  | append_singleton t a ih =>
    rw [List.map_append, List.sum_append, ih, List.length_append, List.length_singleton,
      Finset.sum_range_succ]
    congr 1
    · refine Finset.sum_congr rfl fun i hi => ?_
      rw [List.getElem?_append_left (Finset.mem_range.mp hi)]
    · simp

/-- What a list adds to each key adds up to what it adds in all. -/
theorem sum_range_sumWhere {key : α → ℕ} {n : ℕ} {l : List α} (f : α → M)
    (h : ∀ a ∈ l, key a < n) :
    ∑ i ∈ Finset.range n, sumWhere (key · = i) f l = (l.map f).sum := by
  induction l with
  | nil => simp
  | cons a l ih =>
    simp only [sumWhere_cons, Finset.sum_add_distrib]
    rw [ih fun b hb => h b (List.mem_cons_of_mem a hb), Finset.sum_ite_eq,
      if_pos (Finset.mem_range.mpr (h a List.mem_cons_self)), List.map_cons, List.sum_cons]

/-- What the rows of a table have in another adds up, row by row, to what that table has. -/
theorem sumWhere_parents {β : Type*} {p : α → Prop} [DecidablePred p] {q : β → Prop}
    [DecidablePred q] {f : β → M} {F : α → M} (key : β → ℕ) {t : List α} {l : List β}
    (hkey : ∀ b ∈ l, ∃ a, t[key b]? = some a ∧ (q b ↔ p a))
    (hsum : ∀ i a, t[i]? = some a → p a → F a = sumWhere (key · = i) f l) :
    sumWhere q f l = sumWhere p F t := by
  have hlt : ∀ b ∈ l.filter (q ·), key b < t.length := by
    intro b hb
    obtain ⟨a, ha, -⟩ := hkey b (List.mem_of_mem_filter hb)
    exact (List.getElem?_eq_some_iff.mp ha).1
  rw [sumWhere_eq_sum_map p, sum_map_eq_sum_range, sumWhere, ← sum_range_sumWhere f hlt]
  refine Finset.sum_congr rfl fun i hi => ?_
  obtain ⟨a, hrow⟩ : ∃ a, t[i]? = some a := ⟨_, List.getElem?_eq_getElem (Finset.mem_range.mp hi)⟩
  have hq : ∀ b ∈ l, key b = i → (q b ↔ p a) := by
    intro b hb hbi
    obtain ⟨parent, hparent, hqp⟩ := hkey b hb
    rw [hbi, hrow] at hparent
    rwa [Option.some.inj hparent]
  rw [sumWhere_filter, hrow, Option.map_some, Option.getD_some]
  by_cases hp : p a
  · rw [if_pos hp, hsum i a hrow hp]
    exact sumWhere_congr (fun b hb => and_iff_left_of_imp fun hbi => (hq b hb hbi).mpr hp)
      fun _ _ _ => rfl
  · rw [if_neg hp]
    exact sumWhere_eq_zero _ _ fun b hb hbi => absurd ((hq b hb hbi.1).mp hbi.2) hp

/-- A document that is added with its rows adds them to the rows of the documents of its kind. -/
theorem sumWhere_append_document {δ : Type*} {docs : List δ} {key : α → ℕ} {P : δ → Prop}
    [DecidablePred P] {t u : List α} (f : α → M) (d : δ) (hold : ∀ a ∈ t, key a < docs.length)
    (hnew : ∀ a ∈ u, key a = docs.length) :
    sumWhere (fun a => ∃ x ∈ (docs ++ [d])[key a]?, P x) f (t ++ u)
      = sumWhere (fun a => ∃ x ∈ docs[key a]?, P x) f t + if P d then (u.map f).sum else 0 := by
  rw [sumWhere_append]
  congr 1
  · refine sumWhere_congr (fun a ha => ?_) fun _ _ _ => rfl
    rw [List.getElem?_append_left (hold a ha)]
  · have hrow : ∀ a ∈ u, ((∃ x ∈ (docs ++ [d])[key a]?, P x) ↔ P d) := by
      intro a ha
      rw [hnew a ha, List.getElem?_append_right le_rfl, Nat.sub_self]
      simp
    by_cases hd : P d
    · rw [if_pos hd, sumWhere, List.filter_eq_self.mpr fun a ha => by simpa using (hrow a ha).mpr hd]
    · rw [if_neg hd]
      exact sumWhere_eq_zero _ _ fun a ha hp => absurd ((hrow a ha).mp hp) hd

/-- Updating a row replaces its part of the sum. -/
theorem sum_map_set_add {t : List α} {i : ℕ} {a : α} (h : t[i]? = some a) (g : α → M) (b : α) :
    ((t.set i b).map g).sum + g a = (t.map g).sum + g b := by
  induction t generalizing i with
  | nil => cases h
  | cons c t ih =>
    cases i with
    | zero =>
      obtain rfl : c = a := Option.some.inj h
      rw [List.set_cons_zero, List.map_cons, List.sum_cons, List.map_cons, List.sum_cons]
      abel
    | succ i =>
      rw [List.set_cons_succ, List.map_cons, List.sum_cons, List.map_cons, List.sum_cons,
        add_assoc, ih h, add_assoc]

end AddCommMonoid

section AddCommGroup

variable [AddCommGroup M] (p : α → Prop) [DecidablePred p] (f : α → M)

theorem sumWhere_neg (t : List α) : sumWhere p (fun a => -f a) t = -sumWhere p f t := by
  induction t with
  | nil => simp
  | cons a t ih =>
    simp only [sumWhere_cons, ih]
    split <;> abel

theorem sum_map_sub (g : α → M) (t : List α) :
    (t.map fun a => f a - g a).sum = (t.map f).sum - (t.map g).sum := by
  induction t with
  | nil => simp
  | cons a t ih =>
    simp only [List.map_cons, List.sum_cons, ih]
    abel

theorem sumWhere_sub (g : α → M) (t : List α) :
    sumWhere p (fun a => f a - g a) t = sumWhere p f t - sumWhere p g t :=
  sum_map_sub f g _

theorem sum_map_set {t : List α} {i : ℕ} {a : α} (h : t[i]? = some a) (g : α → M) (b : α) :
    ((t.set i b).map g).sum = (t.map g).sum - g a + g b := by
  rw [sub_add_eq_add_sub, ← sum_map_set_add h g b, add_sub_cancel_right]

/-- Updating a row replaces its part of the sum. -/
theorem sumWhere_set {t : List α} {i : ℕ} {a : α} (h : t[i]? = some a) (b : α) :
    sumWhere p f (t.set i b)
      = sumWhere p f t - (if p a then f a else 0) + (if p b then f b else 0) := by
  rw [sumWhere_eq_sum_map, sumWhere_eq_sum_map, sum_map_set h]

end AddCommGroup

section Order

variable [AddCommMonoid M] [PartialOrder M] [IsOrderedAddMonoid M]
variable {p : α → Prop} [DecidablePred p] {f : α → M}

theorem sumWhere_nonneg {t : List α} (h : ∀ a ∈ t, p a → 0 ≤ f a) : 0 ≤ sumWhere p f t := by
  rw [sumWhere_eq_sum_map]
  refine List.sum_nonneg fun x hx => ?_
  obtain ⟨a, ha, rfl⟩ := List.mem_map.mp hx
  split
  · next hp => exact h a ha hp
  · rfl

/-- Fewer of the amounts, none of which is negative, come to no more. -/
theorem sumWhere_le_of_imp {q : α → Prop} [DecidablePred q] {t : List α}
    (hpq : ∀ a ∈ t, p a → q a) (h : ∀ a ∈ t, 0 ≤ f a) : sumWhere p f t ≤ sumWhere q f t := by
  rw [sumWhere_eq_sum_map, sumWhere_eq_sum_map]
  apply List.sum_le_sum
  intro a ha
  by_cases hp : p a
  · rw [if_pos hp, if_pos (hpq a ha hp)]
  · rw [if_neg hp]
    split
    · exact h a ha
    · exact le_refl 0

/-- A sum of amounts none of which is negative is zero where they all are. -/
theorem sumWhere_eq_zero_iff_of_nonneg {t : List α} (h : ∀ a ∈ t, p a → 0 ≤ f a) :
    sumWhere p f t = 0 ↔ ∀ a ∈ t, p a → f a = 0 := by
  constructor
  · intro hsum a ha hp
    rw [sumWhere_eq_sum_map] at hsum
    have hnonneg : ∀ x ∈ t.map fun a => if p a then f a else 0, 0 ≤ x := by
      intro x hx
      obtain ⟨b, hb, rfl⟩ := List.mem_map.mp hx
      split
      · next hpb => exact h b hb hpb
      · rfl
    have hzero := List.all_zero_of_le_zero_le_of_sum_eq_zero hnonneg hsum (List.mem_map_of_mem ha)
    rwa [if_pos hp] at hzero
  · exact sumWhere_eq_zero _ _

/-- A sum of positive amounts is zero where there are none. -/
theorem sumWhere_eq_zero_iff_of_pos {t : List α} (h : ∀ a ∈ t, p a → 0 < f a) :
    sumWhere p f t = 0 ↔ ∀ a ∈ t, ¬p a := by
  rw [sumWhere_eq_zero_iff_of_nonneg fun a ha hp => (h a ha hp).le]
  constructor
  · intro hzero a ha hp
    exact (h a ha hp).ne' (hzero a ha hp)
  · intro hnone a ha hp
    exact absurd hp (hnone a ha)

/-- The sum of a column after rows have been written over, none of which counts for more. -/
theorem sumWhere_withKeys_le {t t' : List α} {p q : ℕ × α → Prop} [DecidablePred p]
    [DecidablePred q] {f g : ℕ × α → M} (hlength : t'.length = t.length)
    (h : ∀ i a a', t[i]? = some a → t'[i]? = some a' →
      (if q (i, a') then g (i, a') else 0) ≤ if p (i, a) then f (i, a) else 0) :
    sumWhere q g (withKeys t') ≤ sumWhere p f (withKeys t) := by
  rw [sumWhere_eq_sum_map, sumWhere_eq_sum_map, sum_map_eq_sum_range, sum_map_eq_sum_range,
    length_withKeys, length_withKeys, hlength]
  refine Finset.sum_le_sum fun i hi => ?_
  have hlt := Finset.mem_range.mp hi
  have hrow := List.getElem?_eq_getElem hlt
  have hrow' := List.getElem?_eq_getElem (hlength.symm ▸ hlt)
  rw [getElem?_withKeys, getElem?_withKeys, hrow, hrow']
  exact h i _ _ hrow hrow'

end Order

/-! ### Writing -/

variable {t : List α} {i j : ℕ} {a b : α}

theorem getElem?_set_of_some (h : t[i]? = some a) (b : α) (j : ℕ) :
    (t.set i b)[j]? = if i = j then some b else t[j]? := by
  obtain ⟨hi, -⟩ := List.getElem?_eq_some_iff.mp h
  rw [List.getElem?_set]
  split
  · next hij => subst hij; simp
  · rfl

/-- A row written as it is. -/
theorem set_self (h : t[i]? = some a) : t.set i a = t := by
  refine List.ext_getElem? fun j => ?_
  rw [getElem?_set_of_some h]
  split
  · next hij => rw [← hij, h]
  · rfl

/-- The rows after one is appended. -/
theorem getElem?_append_singleton_eq_some :
    (t ++ [a])[i]? = some b ↔ t[i]? = some b ∨ (i = t.length ∧ a = b) := by
  rcases lt_trichotomy i t.length with hi | rfl | hi
  · rw [List.getElem?_append_left hi]
    simp [hi.ne]
  · simp
  · rw [List.getElem?_eq_none (by simp; omega), List.getElem?_eq_none (by omega)]
    simp [hi.ne']

/-- What holds of every row holds after an update that keeps it. -/
theorem forall_mem_set {P : α → Prop} (h : ∀ r ∈ t, P r) (hb : P b) :
    ∀ r ∈ t.set i b, P r := by
  intro r hr
  rcases List.mem_or_eq_of_mem_set hr with hr | rfl
  · exact h r hr
  · exact hb

theorem mem_of_row (h : t[i]? = some a) : a ∈ t := List.mem_of_getElem? h

/-- Where two tables have the same column, every row of the one has a row of the other. -/
theorem exists_of_map_eq {β γ : Type*} {f : α → γ} {g : β → γ} {u : List β}
    (h : t.map f = u.map g) (ha : a ∈ t) : ∃ b ∈ u, g b = f a := by
  have hmem : f a ∈ u.map g := h ▸ List.mem_map_of_mem ha
  exact List.mem_map.mp hmem

/-- A row that does not meet a condition is written over by one that does not. -/
theorem filter_set_of_not {p : α → Bool} (h : t[i]? = some a) (ha : ¬p a) (hb : ¬p b) :
    (t.set i b).filter p = t.filter p := by
  induction t generalizing i with
  | nil => cases h
  | cons c t ih =>
    cases i with
    | zero =>
      obtain rfl : c = a := Option.some.inj h
      rw [List.set_cons_zero, List.filter_cons_of_neg hb, List.filter_cons_of_neg ha]
    | succ i => rw [List.set_cons_succ, List.filter_cons, List.filter_cons, ih h]

/-- A row that meets a condition, among those that do, and what writing it over makes of
them. -/
theorem filter_eq_append_of_row {p : α → Bool} (h : t[i]? = some a) (ha : p a) :
    ∃ before after, t.filter p = before ++ a :: after ∧
      ∀ b, p b → (t.set i b).filter p = before ++ b :: after := by
  induction t generalizing i with
  | nil => cases h
  | cons c t ih =>
    cases i with
    | zero =>
      obtain rfl : c = a := Option.some.inj h
      refine ⟨[], t.filter p, List.filter_cons_of_pos ha, fun b hb => ?_⟩
      rw [List.set_cons_zero, List.filter_cons_of_pos hb, List.nil_append]
    | succ i =>
      obtain ⟨before, after, hfilter, hset⟩ := ih h
      refine ⟨(if p c then [c] else []) ++ before, after, ?_, fun b hb => ?_⟩
      · rw [List.filter_cons, hfilter]
        split <;> simp
      · rw [List.set_cons_succ, List.filter_cons, hset b hb]
        split <;> simp

theorem map_set_of_eq {β : Type*} {f : α → β} (h : t[i]? = some a) (hb : f b = f a) :
    (t.set i b).map f = t.map f := by
  refine List.ext_getElem? fun j => ?_
  rw [List.getElem?_map, List.getElem?_map, getElem?_set_of_some h]
  split
  · next hij =>
    subst hij
    rw [h, Option.map_some, Option.map_some, hb]
  · rfl

/-! ### Tables written over -/

/-- The table `t'` is `t` with its rows written over; `R` says what row `i` has become. -/
def Overwritten (R : ℕ → α → α → Prop) (t t' : List α) : Prop :=
  t'.length = t.length ∧ ∀ i a, t[i]? = some a → ∃ b, t'[i]? = some b ∧ R i a b

namespace Overwritten

variable {R S T : ℕ → α → α → Prop} {t' u : List α} {c : α}

theorem refl (t : List α) (h : ∀ i a, t[i]? = some a → R i a a) : Overwritten R t t :=
  ⟨rfl, fun i a ha => ⟨a, ha, h i a ha⟩⟩

theorem of_map (t : List α) (g : α → α) : Overwritten (fun _ a b => b = g a) t (t.map g) :=
  ⟨List.length_map g, fun i a ha => ⟨g a, by rw [List.getElem?_map, ha, Option.map_some], rfl⟩⟩

theorem mono (h : Overwritten R t t') (weaker : ∀ i a b, R i a b → S i a b) :
    Overwritten S t t' := by
  refine ⟨h.1, fun i a ha => ?_⟩
  obtain ⟨b, hb, hR⟩ := h.2 i a ha
  exact ⟨b, hb, weaker i a b hR⟩

theorem trans (h : Overwritten R t t') (h' : Overwritten S t' u)
    (both : ∀ i a b c, R i a b → S i b c → T i a c) : Overwritten T t u := by
  refine ⟨h'.1.trans h.1, fun i a ha => ?_⟩
  obtain ⟨b, hb, hR⟩ := h.2 i a ha
  obtain ⟨c, hc, hS⟩ := h'.2 i b hb
  exact ⟨c, hc, both i a b c hR hS⟩

/-- Every row comes from the row it was. -/
theorem row (h : Overwritten R t t') (hb : t'[i]? = some b) : ∃ a, t[i]? = some a ∧ R i a b := by
  have hi : i < t.length := h.1 ▸ (List.getElem?_eq_some_iff.mp hb).1
  obtain ⟨c, hc, hR⟩ := h.2 i t[i] (List.getElem?_eq_getElem hi)
  obtain rfl : c = b := Option.some.inj (hc.symm.trans hb)
  exact ⟨t[i], List.getElem?_eq_getElem hi, hR⟩

/-- One more row is written over a table that was written over before. -/
theorem set (h : Overwritten R t t') (hb : t'[j]? = some b) (here : ∀ a, R j a b → S j a c)
    (there : ∀ i a b, i ≠ j → R i a b → S i a b) : Overwritten S t (t'.set j c) := by
  refine ⟨by rw [List.length_set, h.1], fun i a ha => ?_⟩
  obtain ⟨d, hd, hR⟩ := h.2 i a ha
  rw [getElem?_set_of_some hb]
  by_cases hji : j = i
  · subst hji
    obtain rfl : d = b := Option.some.inj (hd.symm.trans hb)
    exact ⟨c, if_pos rfl, here a hR⟩
  · exact ⟨d, by rw [if_neg hji, hd], there i a d (Ne.symm hji) hR⟩

/-- A column that is kept is what it was. -/
theorem map_eq {β : Type*} {f : α → β} (h : Overwritten R t t')
    (keeps : ∀ i a b, R i a b → f b = f a) : t'.map f = t.map f := by
  apply List.ext_getElem?
  intro i
  rw [List.getElem?_map, List.getElem?_map]
  cases ha : t[i]? with
  | none =>
    have hi : t'.length ≤ i := h.1 ▸ List.getElem?_eq_none_iff.mp ha
    rw [List.getElem?_eq_none_iff.mpr hi]
  | some a =>
    obtain ⟨b, hb, hR⟩ := h.2 i a ha
    rw [hb, Option.map_some, Option.map_some, keeps i a b hR]

/-- What holds of every row after, if it holds of what the rows have become. -/
theorem forall_mem {P Q : α → Prop} (h : Overwritten R t t') (ht : ∀ a ∈ t, P a)
    (keeps : ∀ i a b, P a → R i a b → Q b) : ∀ b ∈ t', Q b := by
  intro b hb
  obtain ⟨i, hi⟩ := List.getElem?_of_mem hb
  obtain ⟨a, ha, hR⟩ := h.row hi
  exact keeps i a b (ht a (mem_of_row ha)) hR

/-- The sum of a column after the rows have been written over. -/
theorem sum_map [AddCommMonoid M] (h : Overwritten R t t') (f : α → M) (δ : ℕ → M)
    (hf : ∀ i a b, t[i]? = some a → R i a b → f b = f a + δ i) :
    (t'.map f).sum = (t.map f).sum + ∑ i ∈ Finset.range t.length, δ i := by
  rw [sum_map_eq_sum_range, sum_map_eq_sum_range, h.1, ← Finset.sum_add_distrib]
  refine Finset.sum_congr rfl fun i hi => ?_
  have ha := List.getElem?_eq_getElem (Finset.mem_range.mp hi)
  obtain ⟨b, hb, hR⟩ := h.2 i _ ha
  rw [ha, hb, Option.map_some, Option.map_some, Option.getD_some, Option.getD_some]
  exact hf i _ b ha hR

/-- The sum over the rows that meet a condition, none of which counts for less than it did. -/
theorem sumWhere_le [AddCommMonoid M] [PartialOrder M] [IsOrderedAddMonoid M] {p : α → Prop}
    [DecidablePred p] {f : α → M} (h : Overwritten R t t')
    (hf : ∀ i a b, t[i]? = some a → R i a b → (if p a then f a else 0) ≤ if p b then f b else 0) :
    sumWhere p f t ≤ sumWhere p f t' := by
  rw [sumWhere_eq_sum_map, sumWhere_eq_sum_map, sum_map_eq_sum_range, sum_map_eq_sum_range, h.1]
  apply Finset.sum_le_sum
  intro i hi
  have ha := List.getElem?_eq_getElem (Finset.mem_range.mp hi)
  obtain ⟨b, hb, hR⟩ := h.2 i _ ha
  rw [ha, hb]
  exact hf i _ b ha hR

/-- A sum of a column, and what has been taken off its rows as they were written over. -/
theorem sumWhere_add_taken [AddCommMonoid M] {p q : α → Prop} [DecidablePred p]
    [DecidablePred q] {r : ℕ × α → Prop} [DecidablePred r] {f g : α → M} {taken : ℕ × α → M}
    (h : Overwritten R t t')
    (hf : ∀ i a b, t[i]? = some a → t'[i]? = some b → R i a b →
      (if q b then g b else 0) + (if r (i, a) then taken (i, a) else 0) = if p a then f a else 0) :
    sumWhere q g t' + sumWhere r taken (withKeys t) = sumWhere p f t := by
  simp only [sumWhere_eq_sum_map, sum_map_eq_sum_range, length_withKeys, h.1]
  rw [← Finset.sum_add_distrib]
  refine Finset.sum_congr rfl fun i hi => ?_
  have ha := List.getElem?_eq_getElem (Finset.mem_range.mp hi)
  obtain ⟨b, hb, hR⟩ := h.2 i _ ha
  rw [getElem?_withKeys, ha, hb]
  exact hf i _ b ha hb hR

/-- The sum of a column after the rows that a list names, each once, have been written. -/
theorem sum_map_named {β : Type*} [AddCommMonoid M] {key : β → ℕ} {W : β → α → α → Prop}
    {l : List β}
    (h : Overwritten (fun i a b => (∃ x ∈ l, key x = i ∧ W x a b) ∨ (i ∉ l.map key ∧ b = a)) t t')
    (hn : (l.map key).Nodup) (hlt : ∀ x ∈ l, key x < t.length) (f : α → M) (g : β → M)
    (hW : ∀ x ∈ l, ∀ a b, t[key x]? = some a → W x a b → f b = f a + g x) :
    (t'.map f).sum = (t.map f).sum + (l.map g).sum := by
  rw [← sum_range_sumWhere g hlt]
  refine h.sum_map f _ fun i a b ha hab => ?_
  rcases hab with ⟨x, hx, rfl, hb⟩ | ⟨hnot, rfl⟩
  · rw [sumWhere_key g hn hx]
    exact hW x hx a b ha hb
  · rw [sumWhere_of_notMem g hnot, add_zero]

end Overwritten

/-! ### References -/

/-- The row `i` of `t` is there and has the value `v` under `f`. -/
def HasAt {β : Type*} (t : List α) (f : α → β) (i : ℕ) (v : β) : Prop :=
  ∃ a, t[i]? = some a ∧ f a = v

namespace HasAt

variable {β : Type*} {f : α → β} {v w : β}

theorem of_row (h : t[i]? = some a) : HasAt t f i (f a) := ⟨a, h, rfl⟩

theorem eq_of_row (h : HasAt t f i v) (ha : t[i]? = some a) : f a = v := by
  obtain ⟨b, hb, rfl⟩ := h
  rw [Option.some.inj (ha.symm.trans hb)]

theorem unique (h : HasAt t f i v) (h' : HasAt t f i w) : v = w := by
  obtain ⟨a, ha, rfl⟩ := h
  exact h'.eq_of_row ha

/-- Appended rows leave the others where they are. -/
theorem append (h : HasAt t f i v) (u : List α) : HasAt (t ++ u) f i v := by
  obtain ⟨a, ha, hv⟩ := h
  have hi := (List.getElem?_eq_some_iff.mp ha).1
  exact ⟨a, by rw [List.getElem?_append_left hi, ha], hv⟩

/-- The row that is appended has the length of the table before it as its key. -/
theorem last (t : List α) (a : α) : HasAt (t ++ [a]) f t.length (f a) :=
  ⟨a, by simp, rfl⟩

theorem append_singleton_iff :
    HasAt (t ++ [a]) f i v ↔ HasAt t f i v ∨ (i = t.length ∧ f a = v) := by
  constructor
  · rintro ⟨b, hb, hv⟩
    rcases getElem?_append_singleton_eq_some.mp hb with hb | ⟨hi, rfl⟩
    · exact .inl ⟨b, hb, hv⟩
    · exact .inr ⟨hi, hv⟩
  · rintro (h | ⟨rfl, rfl⟩)
    · exact h.append [a]
    · exact last t a

/-- Only the column matters: whether the row is there with a value is seen in the list of values. -/
theorem iff_map : HasAt t f i v ↔ (t.map f)[i]? = some v := by
  rw [List.getElem?_map, Option.map_eq_some_iff]
  rfl

/-- An update that keeps the value keeps it of every row. -/
theorem set (h : HasAt t f j v) (ha : t[i]? = some a) (hb : f b = f a) :
    HasAt (t.set i b) f j v := by
  obtain ⟨c, hc, hv⟩ := h
  by_cases hij : i = j
  · subst hij
    refine ⟨b, by rw [getElem?_set_of_some ha, if_pos rfl], ?_⟩
    rw [hb, ← hv, Option.some.inj (ha.symm.trans hc)]
  · exact ⟨c, by rw [getElem?_set_of_some ha, if_neg hij, hc], hv⟩

/-- An update of a row with another value leaves the row where it is. -/
theorem set_of_ne (h : HasAt t f j v) (ha : t[i]? = some a) (hne : f a ≠ v) :
    HasAt (t.set i b) f j v := by
  obtain ⟨c, hc, hv⟩ := h
  have hij : i ≠ j := by
    rintro rfl
    exact hne (Option.some.inj (ha.symm.trans hc) ▸ hv)
  exact ⟨c, by rw [getElem?_set_of_some ha, if_neg hij, hc], hv⟩

/-- A map that keeps the value keeps it of every row. -/
theorem map {g : α → α} (h : HasAt t f i v) (hg : ∀ a, f (g a) = f a) :
    HasAt (t.map g) f i v := by
  obtain ⟨a, ha, hv⟩ := h
  exact ⟨g a, by rw [List.getElem?_map, ha, Option.map_some], by rw [hg, hv]⟩

end HasAt

end Rows

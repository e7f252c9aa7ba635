import GroceryErp.Lib.Rows

/-!
# Grouped queries

A grouped query gives one value for each key that its rows have.  A report reads such values for
the keys of several queries, with a default for a key that one of them lacks; nothing is lost by
that, and nothing is counted twice.

## Main definitions

* `groupBy key agg t` — what `agg` makes of the rows of each key.
* `get d k z` — the value of a key, or `z`.
* `addTo d k v`, `collect key d` — values are added up under other keys.
* `mergedKeys ks ks'` — the keys of two queries, in order.

## Main results

* `sum_map_filterMap` — a query with a join sums up the rows it selects.
* `sum_get` — the values read for all keys add up to the values there are.
* `sum_groupBy` — what is summed up for each key adds up to the sum over all rows.
* `sum_collect` — no value is lost under other keys.
-/

namespace Grouping

open Rows

variable {α β κ ι M : Type*}

/-! ### Joins -/

/-- A query that selects rows and joins others to them sums up what it selects. -/
theorem sum_map_filterMap [AddMonoid M] {p : α → Prop} [DecidablePred p] {sel : α → Option β}
    {f : α → M} {g : β → M} {t : List α}
    (hin : ∀ a ∈ t, p a → ∃ b, sel a = some b ∧ g b = f a) (hout : ∀ a ∈ t, ¬p a → sel a = none) :
    ((t.filterMap sel).map g).sum = sumWhere p f t := by
  induction t with
  | nil => rfl
  | cons a t ih =>
    have hrest := ih (fun b hb => hin b (List.mem_cons_of_mem a hb))
      fun b hb => hout b (List.mem_cons_of_mem a hb)
    rw [sumWhere_cons, ← hrest]
    by_cases ha : p a
    · obtain ⟨b, hb, hg⟩ := hin a List.mem_cons_self ha
      rw [List.filterMap_cons_some hb, if_pos ha, List.map_cons, List.sum_cons, hg]
    · rw [List.filterMap_cons_none (hout a List.mem_cons_self ha), if_neg ha, zero_add]

/-- Columns are summed up one by one. -/
theorem sum_columns {A B C : Type*} [AddMonoid A] [AddMonoid B] [AddMonoid C]
    (l : List (A × B × C)) :
    l.sum = ((l.map (·.1)).sum, (l.map (·.2.1)).sum, (l.map (·.2.2)).sum) := by
  induction l with
  | nil => rfl
  | cons x l ih =>
    rw [List.sum_cons, ih]
    rfl

section Groups

variable [DecidableEq κ]

/-- The value of a key in a dictionary, or a default where the key is not in it. -/
def get (d : List (κ × β)) (k : κ) (z : β) : β := ((d.find? (·.1 = k)).map Prod.snd).getD z

/-- **The values read for all keys add up to the values there are**, where the default counts for
nothing. -/
theorem sum_get [AddCommMonoid M] {d : List (κ × β)} {keys : List κ} {g : β → M} {z : β}
    (hd : (d.map Prod.fst).Nodup) (hkeys : keys.Nodup) (hsub : ∀ k ∈ d.map Prod.fst, k ∈ keys)
    (hz : g z = 0) : (keys.map fun k => g (get d k z)).sum = (d.map fun e => g e.2).sum := by
  have hget : ∀ k, g (get d k z) = sumWhere (·.1 = k) (fun e => g e.2) d := by
    intro k
    unfold get
    cases hfind : d.find? (·.1 = k) with
    | none =>
      rw [List.find?_eq_none] at hfind
      rw [Option.map_none, Option.getD_none, hz, sumWhere_eq_zero]
      intro e he hk
      exact absurd (decide_eq_true hk) (hfind e he)
    | some e =>
      have hk := List.find?_some hfind
      rw [decide_eq_true_iff] at hk
      rw [← hk, sumWhere_key (fun e => g e.2) hd (List.mem_of_find?_eq_some hfind)]
      rfl
  calc (keys.map fun k => g (get d k z)).sum
      = (keys.map fun k => sumWhere (fun e => e.1 = k ∧ True) (fun e => g e.2) d).sum := by
        simp only [hget, and_true]
    _ = sumWhere (fun e => e.1 ∈ keys ∧ True) (fun e => g e.2) d := sum_map_sumWhere_key hkeys d
    _ = (d.map fun e => g e.2).sum := by
        rw [sumWhere, List.filter_eq_self.mpr]
        intro e he
        exact decide_eq_true ⟨hsub e.1 (List.mem_map_of_mem he), trivial⟩

/-- What `agg` makes of the rows of each key. -/
def groupBy (key : α → κ) (agg : List α → β) (t : List α) : List (κ × β) :=
  (distinct (t.map key)).map fun k => (k, agg (t.filter (key · = k)))

theorem map_fst_groupBy (key : α → κ) (agg : List α → β) (t : List α) :
    (groupBy key agg t).map Prod.fst = distinct (t.map key) := by
  simp [groupBy, Function.comp_def]

/-- **What is summed up for each key adds up to the sum over all rows.** -/
theorem sum_groupBy [AddCommMonoid M] {key : α → κ} {agg : List α → β} {g : β → M} {f : α → M}
    (hagg : ∀ rows, g (agg rows) = (rows.map f).sum) (t : List α) :
    ((groupBy key agg t).map fun e => g e.2).sum = (t.map f).sum := by
  calc ((groupBy key agg t).map fun e => g e.2).sum
      = ((distinct (t.map key)).map fun k => sumWhere (fun a => key a = k ∧ True) f t).sum := by
        simp only [groupBy, List.map_map, Function.comp_def, hagg, sumWhere, and_true]
    _ = sumWhere (fun a => key a ∈ distinct (t.map key) ∧ True) f t :=
        sum_map_sumWhere_key (nodup_distinct _) t
    _ = (t.map f).sum := by
        rw [sumWhere, List.filter_eq_self.mpr]
        intro a ha
        exact decide_eq_true ⟨mem_distinct.mpr (List.mem_map_of_mem ha), trivial⟩

/-- What is summed up for one key is the sum over its rows. -/
theorem sumWhere_groupBy [AddCommMonoid M] {key : α → κ} {agg : List α → β} {g : β → M} {f : α → M}
    (hagg : ∀ rows, g (agg rows) = (rows.map f).sum) (k : κ) (t : List α) :
    sumWhere (·.1 = k) (fun e => g e.2) (groupBy key agg t) = sumWhere (key · = k) f t := by
  by_cases hk : k ∈ t.map key
  · have hmem : (k, agg (t.filter (key · = k))) ∈ groupBy key agg t :=
      List.mem_map.mpr ⟨k, mem_distinct.mpr hk, rfl⟩
    have hnodup : ((groupBy key agg t).map Prod.fst).Nodup := by
      rw [map_fst_groupBy]
      exact nodup_distinct _
    rw [sumWhere_key (fun e => g e.2) hnodup hmem, hagg]
    rfl
  · have hnot : k ∉ (groupBy key agg t).map Prod.fst := by
      rw [map_fst_groupBy, mem_distinct]
      exact hk
    rw [sumWhere_of_notMem f hk, sumWhere_of_notMem _ hnot]

/-! ### Other keys -/

/-- `d[k] = d.get(k, 0) + v`: an amount is added to the value of a key, which may be new. -/
def addTo [AddMonoid M] : List (κ × M) → κ → M → List (κ × M)
  | [], k, v => [(k, 0 + v)]
  | e :: d, k, v => if e.1 = k then (k, e.2 + v) :: d else e :: addTo d k v

section AddTo

variable [AddCommMonoid M]

theorem mem_keys_addTo {d : List (κ × M)} {k k' : κ} {v : M} :
    k' ∈ (addTo d k v).map Prod.fst ↔ k' = k ∨ k' ∈ d.map Prod.fst := by
  induction d with
  | nil => simp [addTo]
  | cons e d ih =>
    unfold addTo
    split
    · next hk => simp [hk]
    · rw [List.map_cons, List.mem_cons, ih, List.map_cons, List.mem_cons]
      tauto

theorem nodup_keys_addTo {d : List (κ × M)} (h : (d.map Prod.fst).Nodup) (k : κ) (v : M) :
    ((addTo d k v).map Prod.fst).Nodup := by
  induction d with
  | nil => simp [addTo]
  | cons e d ih =>
    rw [List.map_cons, List.nodup_cons] at h
    unfold addTo
    split
    · next hk =>
      rw [List.map_cons, List.nodup_cons]
      exact ⟨hk ▸ h.1, h.2⟩
    · next hk =>
      rw [List.map_cons, List.nodup_cons, mem_keys_addTo]
      exact ⟨fun hmem => hmem.elim hk h.1, ih h.2⟩

theorem sum_addTo (d : List (κ × M)) (k : κ) (v : M) :
    ((addTo d k v).map Prod.snd).sum = (d.map Prod.snd).sum + v := by
  induction d with
  | nil => simp [addTo]
  | cons e d ih =>
    unfold addTo
    split
    · simp only [List.map_cons, List.sum_cons]
      abel
    · rw [List.map_cons, List.sum_cons, ih, List.map_cons, List.sum_cons, add_assoc]

/-- The values of a query under other keys; a value whose key has no other is left out. -/
def collect (key : ι → Option κ) (d : List (ι × M)) : List (κ × M) :=
  d.foldl (fun acc e => match key e.1 with
    | none => acc
    | some k => addTo acc k e.2) []

theorem nodup_keys_collect (key : ι → Option κ) (d : List (ι × M)) :
    ((collect key d).map Prod.fst).Nodup := by
  refine List.foldlRecOn (motive := fun acc : List (κ × M) => (acc.map Prod.fst).Nodup) d _
    List.nodup_nil fun acc hacc e _ => ?_
  split
  · exact hacc
  · exact nodup_keys_addTo hacc _ e.2

/-- **No value is lost under other keys**, where every key has one. -/
theorem sum_collect {key : ι → Option κ} {d : List (ι × M)}
    (h : ∀ i ∈ d.map Prod.fst, key i ≠ none) :
    ((collect key d).map Prod.snd).sum = (d.map Prod.snd).sum := by
  have hfold : ∀ acc : List (κ × M), ((d.foldl (fun acc e => match key e.1 with
      | none => acc
      | some k => addTo acc k e.2) acc).map Prod.snd).sum
        = (acc.map Prod.snd).sum + (d.map Prod.snd).sum := by
    induction d with
    | nil => simp
    | cons e d ih =>
      intro acc
      obtain ⟨k, hk⟩ := Option.ne_none_iff_exists'.mp (h e.1 List.mem_cons_self)
      rw [List.foldl_cons, ih fun i hi => h i (List.mem_cons_of_mem e.1 hi)]
      rw [hk, sum_addTo, List.map_cons, List.sum_cons, add_assoc]
  exact (hfold []).trans (zero_add _)

end AddTo

/-! ### The keys of two queries -/

variable [LinearOrder κ]

/-- `sorted(set(ks) | set(ks'))`: the keys of either list, each once and in order. -/
def mergedKeys (ks ks' : List κ) : List κ := (ks ++ ks').dedup.insertionSort (· ≤ ·)

theorem mem_mergedKeys {ks ks' : List κ} {k : κ} : k ∈ mergedKeys ks ks' ↔ k ∈ ks ∨ k ∈ ks' := by
  simp [mergedKeys]

theorem nodup_mergedKeys (ks ks' : List κ) : (mergedKeys ks ks').Nodup :=
  (List.perm_insertionSort _ _).nodup_iff.mpr (List.nodup_dedup _)

end Groups

end Grouping

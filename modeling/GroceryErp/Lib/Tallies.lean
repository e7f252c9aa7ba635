import GroceryErp.Lib.Rows
import Mathlib.Algebra.Group.Pi.Basic

/-!
# Tallies of the same thing

A tally has totals by key over tables of some kind, and says when the tables are kept well enough
for the totals to mean something.  Two tallies can be kept of the same thing, say what is there and
the documents of how it came and went.  As long as every step adds the same to both, they agree.

Rows of a document often name what they are about by the row of another table.  Their sum by that
key stays what it was when the other table grows.

## Main definitions

* `Tally` — totals over tables, by key.
* `Tally.Adds` — what a step adds to the totals.
* `Tally.Agree` — two tallies that say the same.
* `sumJoined` — rows summed by what the row they refer to is about.

## Main results

* `Tally.Agree.step` — a step that adds the same to both keeps them in agreement.
* `sumJoined_grown` — the sum when rows are added, and rows that can be referred to.
* `sumJoined_rows` — the sum of rows that are written for lines.
-/

namespace Tallies

open Rows

/-! ### Tallies -/

/-- Totals by key over tables, for tables that are well kept. -/
structure Tally (T ι M : Type*) where
  Kept : T → Prop
  total : T → ι → M

namespace Tally

variable {S T ι M : Type*} {b c : Tally T ι M} {t u v : T} {δ ε : ι → M}

/-- A tally over some of the tables, as one over all of them. -/
def on (b : Tally T ι M) (f : S → T) : Tally S ι M := ⟨fun s => b.Kept (f s), fun s => b.total (f s)⟩

/-- Two tallies as one: both conditions are kept, and the totals are added up. -/
def both [Add M] (b c : Tally T ι M) : Tally T ι M :=
  ⟨fun t => b.Kept t ∧ c.Kept t, fun t => b.total t + c.total t⟩

/-- The tables stay well kept, and the totals go up by `δ`. -/
def Adds [Add M] (b : Tally T ι M) (t u : T) (δ : ι → M) : Prop :=
  b.Kept t → b.Kept u ∧ ∀ i, b.total u i = b.total t i + δ i

/-- Both tallies are well kept and have the same total for every key, as what documents say and
what has been moved for them should. -/
structure Agree (b c : Tally T ι M) (t : T) : Prop where
  left : b.Kept t
  right : c.Kept t
  total : ∀ i, b.total t i = c.total t i

/-- The totals are the same over tables that have not changed. -/
theorem Adds.of_eq [AddMonoid M] (h : u = t) : b.Adds t u 0 := by
  intro ht
  subst h
  exact ⟨ht, fun i => (add_zero _).symm⟩

theorem Adds.trans [AddSemigroup M] (h : b.Adds t u δ) (h' : b.Adds u v ε) :
    b.Adds t v (δ + ε) := by
  intro ht
  obtain ⟨hu, htotal⟩ := h ht
  obtain ⟨hv, htotal'⟩ := h' hu
  refine ⟨hv, fun i => ?_⟩
  rw [htotal' i, htotal i, add_assoc]
  rfl

theorem Adds.congr [Add M] (h : b.Adds t u δ) (hδ : ∀ i, δ i = ε i) : b.Adds t u ε := by
  rw [← funext hδ]
  exact h

theorem Adds.on [Add M] {f : S → T} {s s' : S} (h : b.Adds (f s) (f s') δ) :
    (b.on f).Adds s s' δ := h

theorem Adds.both [AddCommMonoid M] (h : b.Adds t u δ) (h' : c.Adds t u ε) :
    (b.both c).Adds t u (δ + ε) := by
  rintro ⟨ht, ht'⟩
  obtain ⟨hu, htotal⟩ := h ht
  obtain ⟨hu', htotal'⟩ := h' ht'
  refine ⟨⟨hu, hu'⟩, fun i => ?_⟩
  show b.total u i + c.total u i = b.total t i + c.total t i + (δ i + ε i)
  rw [htotal i, htotal' i]
  exact add_add_add_comm _ _ _ _

/-- **Adding the same to both keeps them in agreement.** -/
theorem Agree.step [Add M] (h : Agree b c t) (hb : b.Adds t u δ) (hc : c.Adds t u δ) :
    Agree b c u := by
  obtain ⟨hleft, htotal⟩ := hb h.left
  obtain ⟨hright, htotal'⟩ := hc h.right
  refine ⟨hleft, hright, fun i => ?_⟩
  rw [htotal i, htotal' i, h.total i]

end Tally

/-! ### Sums by what is referred to -/

variable {α κ M : Type*}

/-- The rows whose row of reference is about `k`; `keys` says what each of these is about. -/
def sumJoined [DecidableEq κ] [AddMonoid M] (keys : List κ) (ref : α → ℕ) (f : α → M) (k : κ) (t : List α) : M :=
  sumWhere (fun a => keys[ref a]? = some k) f t

/-- Every row refers to one that is there, by a position in the list of what can be referred to. -/
def RefersIn (keys : List κ) (ref : α → ℕ) (t : List α) : Prop := ∀ a ∈ t, ref a < keys.length

variable {keys keys' : List κ} {ref : α → ℕ} {t rows : List α}

/-- What was referred to still is, where more can be. -/
theorem getElem?_of_prefix {i : ℕ} {k : κ} (hkeys : keys <+: keys') (h : keys[i]? = some k) :
    keys'[i]? = some k := by
  obtain ⟨more, rfl⟩ := hkeys
  rw [List.getElem?_append_left (List.getElem?_eq_some_iff.mp h).1, h]

/-- Where more can be referred to, the rows refer to what they did. -/
theorem RefersIn.grown (h : RefersIn keys ref t) (hkeys : keys <+: keys')
    (hrows : RefersIn keys' ref rows) : RefersIn keys' ref (t ++ rows) := by
  intro a ha
  rcases List.mem_append.mp ha with ha | ha
  · exact (h a ha).trans_le hkeys.length_le
  · exact hrows a ha

/-- **More rows, and more that can be referred to**: what the rows that were there come to is what
it was. -/
theorem sumJoined_grown [DecidableEq κ] [AddMonoid M] (h : RefersIn keys ref t) (hkeys : keys <+: keys')
    (f : α → M) (k : κ) :
    sumJoined keys' ref f k (t ++ rows)
      = sumJoined keys ref f k t + sumJoined keys' ref f k rows := by
  unfold sumJoined
  rw [sumWhere_append]
  congr 1
  refine sumWhere_congr (fun a ha => ?_) fun _ _ _ => rfl
  obtain ⟨more, rfl⟩ := hkeys
  rw [List.getElem?_append_left (h a ha)]

/-! ### Rows that are written for lines -/

section Lines

variable {β γ : Type*} {val : β → α} {row : γ → α} {rs : List β} {lines : List γ} {key : γ → κ}

/-- The rows of lines that refer to what the lines are about. -/
theorem refersIn_rows (hrows : rs.map val = lines.map row)
    (hkey : ∀ l ∈ lines, keys[ref (row l)]? = some (key l)) :
    RefersIn keys (fun r => ref (val r)) rs := by
  intro r hr
  have hval : val r ∈ lines.map row := hrows ▸ List.mem_map_of_mem hr
  obtain ⟨l, hl, hl'⟩ := List.mem_map.mp hval
  show ref (val r) < keys.length
  rw [← hl']
  exact (List.getElem?_eq_some_iff.mp (hkey l hl)).1

/-- The rows of lines come to what the lines do. -/
theorem sumWhere_values [AddMonoid M] {p : α → Prop} [DecidablePred p] {f : α → M}
    (hrows : rs.map val = lines.map row) :
    sumWhere (fun r => p (val r)) (fun r => f (val r)) rs
      = sumWhere (fun l => p (row l)) (fun l => f (row l)) lines := by
  rw [← sumWhere_map p f val, hrows, sumWhere_map]

theorem sumJoined_rows [DecidableEq κ] [AddMonoid M] (hrows : rs.map val = lines.map row)
    (hkey : ∀ l ∈ lines, keys[ref (row l)]? = some (key l)) (f : α → M) (k : κ) :
    sumJoined keys (fun r => ref (val r)) (fun r => f (val r)) k rs
      = sumWhere (fun l => key l = k) (fun l => f (row l)) lines := by
  unfold sumJoined
  rw [sumWhere_values (p := fun a => keys[ref a]? = some k) (f := f) hrows]
  refine sumWhere_congr (fun l hl => ?_) fun _ _ _ => rfl
  rw [hkey l hl, Option.some_inj]

end Lines

end Tallies

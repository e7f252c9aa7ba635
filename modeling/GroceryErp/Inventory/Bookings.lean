import GroceryErp.Inventory.Movement

/-!
# Runs of movements

Every service moves stock by a sequence of movements.  A booking is a movement
together with the product row it met, so that a run of bookings says all there is
to say about what a request did to products and ledger.

## Main definitions

* `Booking` — a movement and the product row it met.
* `Booked`, `BookedAll` — one booking, a run of them.
* `BooksOne` — a run that is one booking of a given movement.

## Main results

* `exists_booked` — a movement that succeeds is a booking.
* `bookedAll_of_foldlM` — a loop each of whose rounds is a run of bookings is one.
* `BookedAll.forall_products`, `BookedAll.products_kept` — what every movement keeps of
  a product, a run keeps.
-/

namespace GroceryErp

open Outcome Rows

/-- A movement together with the product row it met. -/
structure Booking where
  productId : ℕ
  before : Product
  input : MovementInput

namespace Booking

/-- The row of the product that the booking leaves behind. -/
def after (b : Booking) : Product := b.before.afterMovement b.input

/-- What the movement is worth at its own cost. -/
def value (b : Booking) : ℚ := b.input.quantityDelta * b.input.unitCostAtMovement

end Booking

/-- The booking `b` takes the stock tables `s` to `s'`. -/
structure Booked (b : Booking) (s s' : StockTables) : Prop where
  guard : 0 ≤ b.before.currentQtyOnHand + b.input.quantityDelta ∨ b.before.allowNegativeStock
  written : ∃ p p' row, s.products[b.productId]? = some p ∧ p.val = b.before ∧
    p'.val = b.after ∧ row.val = b.input.row b.productId b.before ∧
    s'.products = s.products.set b.productId p' ∧ s'.movements = s.movements ++ [row]

/-- A run of bookings, each of which finds the tables as the one before has left them. -/
inductive BookedAll : List Booking → StockTables → StockTables → Prop
  | nil {s s' : StockTables} (products : s'.products = s.products)
      (movements : s'.movements = s.movements) : BookedAll [] s s'
  | cons {b : Booking} {bs : List Booking} {s t u : StockTables} (first : Booked b s t)
      (rest : BookedAll bs t u) : BookedAll (b :: bs) s u

variable {db db' : Db} {b : Booking} {bs cs : List Booking} {s t u v : StockTables}
  {α β : Type}

/-- A movement that succeeds is a booking. -/
theorem exists_booked {productId : ℕ} {m : MovementInput}
    (h : recordMovement db productId m = .ok db') :
    ∃ p, db.stock.products[productId]? = some p ∧
      Booked ⟨productId, p.val, m⟩ db.stock db'.stock := by
  obtain ⟨p, p', row, hp, hguard, hp', hrow, rfl⟩ := recordMovement_eq_ok.mp h
  exact ⟨p, hp, hguard, p, p', row, hp, rfl, hp', hrow, rfl, rfl⟩

namespace BookedAll

theorem refl (s : StockTables) : BookedAll [] s s := .nil rfl rfl

theorem single (h : Booked b s t) : BookedAll [b] s t := .cons h (.refl t)

/-- Only the products and the ledger of the last tables matter. -/
theorem congr_right (h : BookedAll bs s t) (hp : u.products = t.products)
    (hm : u.movements = t.movements) : BookedAll bs s u := by
  induction h with
  | nil products movements => exact .nil (hp.trans products) (hm.trans movements)
  | cons first _ ih => exact .cons first (ih hp hm)

/-- Only the products and the ledger of the first tables matter. -/
theorem congr_left (h : BookedAll bs s t) (hp : s.products = u.products)
    (hm : s.movements = u.movements) : BookedAll bs u t := by
  cases h with
  | nil products movements => exact .nil (products.trans hp) (movements.trans hm)
  | cons first rest =>
    obtain ⟨guard, p, p', row, h1, h2, h3, h4, h5, h6⟩ := first
    exact .cons ⟨guard, p, p', row, hp ▸ h1, h2, h3, h4, hp ▸ h5, hm ▸ h6⟩ rest

/-- Runs compose: the second begins with the tables the first ends in. -/
theorem append (h : BookedAll bs s t) (h' : BookedAll cs t u) : BookedAll (bs ++ cs) s u := by
  induction h with
  | nil products movements => exact h'.congr_left products movements
  | cons first _ ih => exact .cons first (ih h')

/-- What every movement keeps of a product row, a run of bookings keeps. -/
theorem forall_products {P : Product → Prop} (h : BookedAll bs s t)
    (keeps : ∀ p m, P p → P (p.afterMovement m)) (hs : ∀ p ∈ s.products, P p.val) :
    ∀ p ∈ t.products, P p.val := by
  induction h with
  | nil products _ => rwa [products]
  | @cons b _ s t _ first _ ih =>
    obtain ⟨-, p, p', row, hp, hbefore, hafter, -, hproducts, -⟩ := first
    refine ih ?_
    rw [hproducts]
    refine forall_mem_set hs ?_
    rw [hafter]
    exact keeps _ _ (hbefore ▸ hs p (mem_of_row hp))

/-- What each booking of a run keeps of its product, the run keeps of every product. -/
theorem products_kept {f : Product → β} (h : BookedAll bs s t)
    (keeps : ∀ b ∈ bs, f b.after = f b.before) {i : ℕ} {p : Row Product}
    (hp : s.products[i]? = some p) : ∃ p', t.products[i]? = some p' ∧ f p'.val = f p.val := by
  induction h generalizing p with
  | nil products _ => exact ⟨p, by rw [products, hp], rfl⟩
  | @cons b bs s t u first rest ih =>
    obtain ⟨-, q, q', row, hq, hbefore, hafter, -, hproducts, -⟩ := first
    have hkeep := keeps b List.mem_cons_self
    have hget := getElem?_set_of_some hq q' i
    rw [← hproducts] at hget
    by_cases hi : b.productId = i
    · -- the booked product itself
      subst hi
      obtain rfl : p = q := Option.some.inj (hp.symm.trans hq)
      obtain ⟨p', hp', hf⟩ := ih (fun c hc => keeps c (List.mem_cons_of_mem _ hc))
        (hget.trans (if_pos rfl))
      exact ⟨p', hp', by rw [hf, hafter, hkeep, hbefore]⟩
    · exact ih (fun c hc => keeps c (List.mem_cons_of_mem _ hc)) (hget.trans (by rw [if_neg hi, hp]))

/-- What each booking of a run keeps of its product, each met as it was at the start. -/
theorem before_kept {f : Product → β} (h : BookedAll bs s t)
    (keeps : ∀ b ∈ bs, f b.after = f b.before) :
    ∀ b ∈ bs, ∃ p, s.products[b.productId]? = some p ∧ f b.before = f p.val := by
  induction h with
  | nil _ _ => exact fun b hb => absurd hb List.not_mem_nil
  | @cons b bs s t u first rest ih =>
    intro c hc
    obtain ⟨-, q, q', row, hq, hbefore, hafter, -, hproducts, -⟩ := first
    rcases List.mem_cons.mp hc with rfl | hc
    · exact ⟨q, hq, by rw [hbefore]⟩
    obtain ⟨p, hp, hf⟩ := ih (fun c hc => keeps c (List.mem_cons_of_mem _ hc)) c hc
    rw [hproducts, getElem?_set_of_some hq] at hp
    split at hp
    · next hi =>
      obtain rfl := Option.some.inj hp
      refine ⟨q, hi ▸ hq, ?_⟩
      rw [hf, hafter, keeps b List.mem_cons_self, hbefore]
    · exact ⟨p, hp, hf⟩

/-- No booking moves a product to another store. -/
theorem productStore (h : BookedAll bs s t) {i : ℕ} {p : Row Product}
    (hp : s.products[i]? = some p) :
    ∃ p', t.products[i]? = some p' ∧ p'.val.storeId = p.val.storeId :=
  h.products_kept (f := Product.storeId) (fun _ _ => rfl) hp

/-- What a run leaves on hand of a product: what it had, and all the movements of it. -/
theorem quantity (h : BookedAll bs s t) {i : ℕ} {p : Row Product}
    (hp : s.products[i]? = some p) : ∃ p', t.products[i]? = some p' ∧
      p'.val.currentQtyOnHand = p.val.currentQtyOnHand
        + sumWhere (fun b => b.productId = i) (·.input.quantityDelta) bs := by
  induction h generalizing p with
  | nil products _ =>
    refine ⟨p, by rw [products, hp], ?_⟩
    simp
  | @cons b bs s t u first rest ih =>
    obtain ⟨-, q, q', row, hq, hbefore, hafter, -, hproducts, -⟩ := first
    have hget := getElem?_set_of_some hq q' i
    rw [← hproducts] at hget
    rw [sumWhere_cons]
    by_cases hi : b.productId = i
    · -- the booked product itself
      subst hi
      obtain rfl : p = q := Option.some.inj (hp.symm.trans hq)
      obtain ⟨p', hp', hqty⟩ := ih (hget.trans (if_pos rfl))
      refine ⟨p', hp', ?_⟩
      rw [hqty, hafter, if_pos rfl, hbefore, ← add_assoc]
      rfl
    · obtain ⟨p', hp', hqty⟩ := ih (hget.trans (by rw [if_neg hi, hp]))
      refine ⟨p', hp', ?_⟩
      rw [hqty, if_neg hi, zero_add]

end BookedAll

/-- The run is one booking of the product, of the movement its row calls for. -/
def BooksOne (productId : ℕ) (input : Product → MovementInput) (bs : List Booking) : Prop :=
  ∃ b, bs = [b] ∧ b.productId = productId ∧ b.input = input b.before

/-- A movement of the product as it is books it once. -/
theorem exists_booksOne {productId : ℕ} {input : Product → MovementInput} {p : Row Product}
    (hp : db.stock.products[productId]? = some p)
    (h : recordMovement db productId (input p.val) = .ok db') :
    ∃ bs, BooksOne productId input bs ∧ BookedAll bs db.stock db'.stock := by
  obtain ⟨p', hp', hb⟩ := exists_booked h
  obtain rfl : p = p' := Option.some.inj (hp.symm.trans hp')
  exact ⟨_, ⟨_, rfl, rfl, rfl⟩, .single hb⟩

/-- A movement that does not look at the product books it once. -/
theorem exists_booksOne_const {productId : ℕ} {m : MovementInput}
    (h : recordMovement db productId m = .ok db') :
    ∃ bs, BooksOne productId (fun _ => m) bs ∧ BookedAll bs db.stock db'.stock := by
  obtain ⟨p, -, hb⟩ := exists_booked h
  exact ⟨_, ⟨_, rfl, rfl, rfl⟩, .single hb⟩

/-- What is moved of a product where each line books one movement. -/
theorem sumWhere_flatten_booksOne {α : Type*} {productId : α → ℕ} {m : α → MovementInput}
    {l : List α} {bss : List (List Booking)}
    (h : List.Forall₂ (fun a => BooksOne (productId a) fun _ => m a) l bss) (i : ℕ) :
    sumWhere (fun b => b.productId = i) (·.input.quantityDelta) bss.flatten
      = sumWhere (fun a => productId a = i) (fun a => (m a).quantityDelta) l := by
  induction h with
  | nil => simp
  | cons first _ ih =>
    obtain ⟨b, rfl, hid, hinput⟩ := first
    rw [List.flatten_cons, sumWhere_append, sumWhere_singleton, ih, sumWhere_cons, hid, hinput]

/-- A loop each of whose rounds is a run of bookings is a run of bookings. -/
theorem bookedAll_of_foldlM {f : Db → α → Result Db} {l : List α}
    (spec : α → List Booking → Prop) (h : l.foldlM f db = .ok db')
    (step : ∀ a ∈ l, ∀ d d', f d a = .ok d' → ∃ bs, spec a bs ∧ BookedAll bs d.stock d'.stock) :
    ∃ bss, List.Forall₂ spec l bss ∧ BookedAll bss.flatten db.stock db'.stock := by
  refine foldlM_induct (fun done d => ∃ bss, List.Forall₂ spec done bss ∧
    BookedAll bss.flatten db.stock d.stock) h ?_ ?_
  · exact ⟨[], .nil, .refl _⟩
  · rintro done a rest d d' hl ⟨bss, hspec, hrun⟩ hstep
    obtain ⟨bs, hbs, hround⟩ := step a (by simp [hl]) d d' hstep
    refine ⟨bss ++ [bs], List.rel_append hspec (.cons hbs .nil), ?_⟩
    simpa using hrun.append hround

end GroceryErp

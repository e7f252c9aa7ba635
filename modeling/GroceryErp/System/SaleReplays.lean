import GroceryErp.System.StockSessions

/-!
# Sales side by side

Whatever else moves stock in between, no product goes below zero that may not, no key makes
two sales, a request that fails leaves nothing behind, and one that comes after its key is
taken changes nothing.  It is answered with the sale if it comes to its insert: a request
that has looked its key up before the other committed makes the checks on its cart again,
on the stock that the other has left.

## Main definitions

* `NeverNegative` — products that may not go below zero have not.
* `Reply.Faithful` — the answer to a request, and its effect, are those of its key.
* `ReplaysPass` — a sale that finds its key taken only at its insert comes to it.

## Main results

* `ShopInv.commit` — what a commit of a session keeps.
* `sales_side_by_side` — over any run.
* `late_replay_raises` — a request sent twice at once, for the last of the stock.

## References

`backend/app/modules/sales/service.py`, `finalize_sale`.
-/

namespace GroceryErp

open Decimal Outcome Rows Runs Transactions

/-! ### The property -/

/-- Products that may not go below zero at the start may not now, and have not. -/
def NeverNegative (db₀ db : Db) : Prop :=
  ∀ productId, HasAt db₀.stock.products (·.val.allowNegativeStock) productId false →
    ∃ p, db.stock.products[productId]? = some p ∧ p.val.allowNegativeStock = false ∧
      0 ≤ p.val.currentQtyOnHand

/-- The caller may act in the store the request names. -/
def FinalizeSale.Admitted (req : FinalizeSale) : Prop :=
  enforceStoreAccess req.callerStoreId req.storeId = .ok ()

/-- The answer to a request, and its effect, are those of its key. -/
structure Reply.Faithful (r : Reply) : Prop where
  /-- A replay returns the sale and changes nothing. -/
  replay : ∀ saleId, SaleAt r.before saleId r.request.clientTransactionId →
    r.after = r.before ∧ (r.request.Admitted → r.result = .ok saleId)
  /-- A request that raises leaves nothing behind. -/
  raised : ∀ e, r.result = .error e → r.after = r.before
  returned : ∀ saleId, r.result = .ok saleId → SaleAt r.after saleId r.request.clientTransactionId

/-- A sale that has missed its key, if the key is taken by now, still comes to its insert. -/
def StockSession.ReplayPasses (shop : Shop) : StockSession → Prop
  | keyMissed req => req.clientTransactionId ∈ saleKeys shop.db → ReachesInsert shop.db req
  | begun _ | answered _ _ | productLoaded _ _ => True

/-- The next step of a session does not fail a replay. -/
def ReplaysPass (sv : StockServer) : Event StockWork → Prop
  | .step k => ∀ t ∈ sv.sessions k, t.ReplayPasses sv.tables
  | .begin _ _ | .rollback _ => True

instance (db : Db) (req : FinalizeSale) : Decidable (ReachesInsert db req) :=
  decidable_of_iff ((checkout db req).isOk ∧ (activeShiftForCashier db req.cashierId).isOk) <| by
    constructor
    · rintro ⟨hc, hshift⟩
      exact ⟨_, _, _, eq_ok_value _ hc, eq_ok_value _ hshift⟩
    · rintro ⟨cart, changeDue, shiftId, hc, hshift⟩
      rw [hc, hshift]
      exact ⟨rfl, rfl⟩

instance (shop : Shop) : ∀ t : StockSession, Decidable (t.ReplayPasses shop)
  | .keyMissed _ => inferInstanceAs (Decidable (_ → _))
  | .begun _ | .answered _ _ | .productLoaded _ _ => inferInstanceAs (Decidable True)

instance (sv : StockServer) : ∀ e, Decidable (ReplaysPass sv e)
  | .step k => inferInstanceAs (Decidable (∀ t ∈ sv.sessions k, t.ReplayPasses sv.tables))
  | .begin _ _ | .rollback _ => inferInstanceAs (Decidable True)

/-! ### What a sale leaves -/

section Sale

variable {db db' : Db} {req : FinalizeSale} {saleId : ℕ}

/-- A sale that comes through is the winner's, or its own and new. -/
theorem finalizeSaleLocked_ok (h : finalizeSaleLocked db req = .ok (db', saleId)) :
    (db' = db ∧ SaleAt db saleId req.clientTransactionId) ∨
    (req.clientTransactionId ∉ saleKeys db ∧
      saleKeys db' = saleKeys db ++ [req.clientTransactionId] ∧
      SaleAt db' saleId req.clientTransactionId ∧
      BooksStock (∀ l ∈ req.lines, OnGrid 3 l.quantity) db.stock db'.stock) := by
  unfold finalizeSaleLocked insertSale at h
  simp only [bind_eq_ok, Prod.exists] at h
  obtain ⟨cart, changeDue, hc, found, hfound, h⟩ := h
  cases found with
  | some r =>
    obtain ⟨i, sale⟩ := r
    simp only [bind_eq_ok, pure_eq_ok, Prod.mk.injEq] at h
    obtain ⟨-, -, rfl, rfl⟩ := h
    have hmem : (i, sale) ∈ saleWithKey db req.clientTransactionId := by
      rw [scalarOneOrNone_eq_some.mp hfound]
      exact List.mem_singleton_self _
    exact .inl ⟨rfl, saleAt_of_mem_saleWithKey hmem⟩
  | none =>
    simp only [bind_eq_ok, pure_eq_ok, Prod.exists, Prod.mk.injEq] at h
    obtain ⟨d, i, hw, d', hj, rfl, rfl⟩ := h
    obtain ⟨hkeys, hat⟩ := saleKeys_writeSale hw hj
    refine .inr ⟨not_mem_saleKeys (scalarOneOrNone_eq_none.mp hfound), hkeys, hat, ?_⟩
    have hbooks := writeSale_booksStock hc hw
    rw [postJournal_frame hj]
    exact hbooks

/-- Where the key is taken, a sale that comes to its insert returns the winner. -/
theorem finalizeSaleLocked_of_taken (hkeys : (saleKeys db).Nodup)
    (htaken : SaleAt db saleId req.clientTransactionId) (hreaches : ReachesInsert db req) :
    finalizeSaleLocked db req = .ok (db, saleId) := by
  obtain ⟨sale, hfound⟩ := scalarOneOrNone_saleWithKey hkeys htaken
  obtain ⟨cart, changeDue, shiftId, hc, hshift⟩ := hreaches
  unfold finalizeSaleLocked insertSale
  rw [hc]
  show (scalarOneOrNone (saleWithKey db req.clientTransactionId) >>= _) = _
  rw [hfound]
  show (activeShiftForCashier db req.cashierId >>= _) = _
  rw [hshift]
  rfl

theorem SaleAt.mono {key : String} (h : SaleAt db saleId key)
    (hkeys : saleKeys db <+: saleKeys db') : SaleAt db' saleId key := by
  obtain ⟨rest, hrest⟩ := hkeys
  unfold SaleAt at h ⊢
  rw [← hrest, List.getElem?_append_left (List.getElem?_eq_some_iff.mp h).1, h]

end Sale

/-! ### The invariant -/

/-- What the tables keep of those at the start, and the answers that were given. -/
structure ShopInv (db₀ : Db) (shop : Shop) : Prop where
  committed : shop.db.commit = shop.db
  flags : ∀ i b, HasAt db₀.stock.products (·.val.allowNegativeStock) i b →
    HasAt shop.db.stock.products (·.val.allowNegativeStock) i b
  keys : (saleKeys shop.db).Nodup
  replies : ∀ r ∈ shop.replies, r.Faithful

/-- What a session knows: the sale it has found is there, and it has failed for its caller
only. -/
def StockSession.Knows (shop : Shop) : StockSession → Prop
  | .answered req (.ok saleId) => SaleAt shop.db saleId req.clientTransactionId
  | .answered req (.error _) => ¬req.Admitted
  | .begun _ | .keyMissed _ | .productLoaded _ _ => True

section Invariant

variable {db₀ db db' : Db} {shop shop' : Shop} {t : StockSession} {s u : StockTables} {exact : Prop}

theorem BooksStock.flags (h : BooksStock exact s u) {i : ℕ} {b : Bool}
    (hi : HasAt s.products (·.val.allowNegativeStock) i b) :
    HasAt u.products (·.val.allowNegativeStock) i b := by
  obtain ⟨bs, hrun, -⟩ := h
  obtain ⟨p, hp, rfl⟩ := hi
  obtain ⟨p', hp', hflag⟩ := hrun.products_kept (f := Product.allowNegativeStock) (fun _ _ => rfl) hp
  exact ⟨p', hp', hflag⟩

theorem flags_commit {i : ℕ} {b : Bool}
    (hi : HasAt db.stock.products (·.val.allowNegativeStock) i b) :
    HasAt db.commit.stock.products (·.val.allowNegativeStock) i b :=
  hi.map fun _ => rfl

theorem adjustLoaded_flags {req : CreateAdjustment} {loaded : Row Product}
    (h : adjustLoaded db req loaded = .ok db') {i : ℕ} {b : Bool}
    (hi : HasAt db.stock.products (·.val.allowNegativeStock) i b) :
    HasAt db'.stock.products (·.val.allowNegativeStock) i b := by
  rcases adjustLoaded_ok h with rfl | ⟨row, product, movement, m, hrow, -, -, hproduct, -, hset, -⟩
  · exact hi
  rw [hset]
  refine hi.set hrow ?_
  rw [hproduct]
  rfl

theorem adjustLoaded_saleKeys {req : CreateAdjustment} {loaded : Row Product}
    (h : adjustLoaded db req loaded = .ok db') : saleKeys db' = saleKeys db := by
  rcases adjustLoaded_ok h with rfl | ⟨_, _, _, _, -, -, -, -, -, -, -, hsales⟩
  · rfl
  · unfold saleKeys
    rw [hsales]

/-- An answer that has changed no table. -/
theorem ShopInv.reply_of_same {req : FinalizeSale} {r : Result ℕ} (h : ShopInv db₀ shop)
    (hr : Reply.Faithful ⟨req, r, shop.db, shop.db⟩) :
    ShopInv db₀ (shop.reply req (Prod.mk shop.db <$> r)) := by
  have hshop : shop.reply req (Prod.mk shop.db <$> r)
      = { shop with replies := shop.replies ++ [⟨req, r, shop.db, shop.db⟩] } := by
    cases r with
    | ok saleId =>
      show Shop.mk _ _ = _
      rw [h.committed]
    | error e => rfl
  rw [hshop]
  refine ⟨h.committed, h.flags, h.keys, ?_⟩
  exact List.forall_mem_append.mpr ⟨h.replies, List.forall_mem_singleton.mpr hr⟩

/-- A sale written under a new key. -/
theorem ShopInv.reply_of_new {req : FinalizeSale} {saleId : ℕ} (h : ShopInv db₀ shop)
    (hnew : req.clientTransactionId ∉ saleKeys shop.db)
    (hkeys : saleKeys db = saleKeys shop.db ++ [req.clientTransactionId])
    (hat : SaleAt db saleId req.clientTransactionId)
    (hbooks : BooksStock exact shop.db.stock db.stock) :
    ShopInv db₀ (shop.reply req (.ok (db, saleId))) := by
  refine ⟨commit_commit db, fun i b hi => flags_commit (hbooks.flags (h.flags i b hi)), ?_, ?_⟩
  · show (saleKeys db).Nodup
    rw [hkeys, List.nodup_append]
    refine ⟨h.keys, List.nodup_singleton _, fun key hkey key' hkey' => ?_⟩
    rw [List.mem_singleton.mp hkey']
    rintro rfl
    exact hnew hkey
  · refine List.forall_mem_append.mpr ⟨h.replies, List.forall_mem_singleton.mpr ⟨?_, ?_, ?_⟩⟩
    · intro i hi
      exact absurd (List.mem_iff_getElem?.mpr ⟨i, hi⟩) hnew
    · intro e he
      cases he
    · intro i hi
      cases hi
      exact hat

/-- **What a commit of a session keeps.** -/
theorem ShopInv.commit (h : ShopInv db₀ shop) (hknows : t.Knows shop)
    (hpass : t.ReplayPasses shop)
    (hdone : ShopCommit shop t shop') : ShopInv db₀ shop' := by
  cases hdone with
  | @moved work d run books keys =>
    refine ⟨commit_commit d, fun i b hi => flags_commit (books.flags (h.flags i b hi)), ?_,
      h.replies⟩
    show (saleKeys d).Nodup
    rw [keys]
    exact h.keys
  | @adjusted req loaded d run =>
    refine ⟨commit_commit d, fun i b hi => flags_commit (adjustLoaded_flags run (h.flags i b hi)),
      ?_, h.replies⟩
    show (saleKeys d).Nodup
    rw [adjustLoaded_saleKeys run]
    exact h.keys
  | @answered req result =>
    refine h.reply_of_same ⟨fun saleId htaken => ⟨rfl, fun hadmitted => ?_⟩, fun _ _ => rfl, ?_⟩
    · -- the sale that was found is the one with the key
      cases result with
      | error e => exact absurd hadmitted hknows
      | ok i =>
        obtain ⟨hlt, -⟩ := List.getElem?_eq_some_iff.mp hknows
        rw [(List.getElem?_inj hlt h.keys).mp (hknows.trans htaken.symm)]
    · intro i hi
      obtain rfl : result = .ok i := hi
      exact hknows
  | @keyMissed req =>
    by_cases htaken : ∃ saleId, SaleAt shop.db saleId req.clientTransactionId
    · obtain ⟨saleId, htaken⟩ := htaken
      have hwinner := finalizeSaleLocked_of_taken h.keys htaken (hpass (List.mem_iff_getElem?.mpr ⟨saleId, htaken⟩))
      rw [hwinner]
      refine h.reply_of_same (r := .ok saleId) ⟨fun i hi => ⟨rfl, fun _ => ?_⟩, ?_, ?_⟩
      · obtain ⟨hlt, -⟩ := List.getElem?_eq_some_iff.mp htaken
        rw [(List.getElem?_inj hlt h.keys).mp (htaken.trans hi.symm)]
      · intro e he
        cases he
      · intro i hi
        cases hi
        exact htaken
    · match hrun : finalizeSaleLocked shop.db req with
      | .error e =>
        refine h.reply_of_same (r := .error e) ⟨?_, fun _ _ => rfl, ?_⟩
        · intro i hi
          exact absurd ⟨i, hi⟩ htaken
        · intro i hi
          cases hi
      | .ok (d, saleId) =>
        rcases finalizeSaleLocked_ok hrun with ⟨-, hat⟩ | ⟨hnew, hkeys, hat, hbooks⟩
        · exact absurd ⟨saleId, hat⟩ htaken
        · exact h.reply_of_new hnew hkeys hat hbooks

/-- No commit takes a sale or its key away. -/
theorem ShopCommit.keys_kept (h : ShopCommit shop t shop') :
    saleKeys shop.db <+: saleKeys shop'.db := by
  cases h with
  | @moved work d run books keys =>
    show saleKeys shop.db <+: saleKeys d
    rw [keys]
  | @adjusted req loaded d run =>
    show saleKeys shop.db <+: saleKeys d
    rw [adjustLoaded_saleKeys run]
  | @answered req result => cases result <;> exact List.prefix_rfl
  | @keyMissed req =>
    match hrun : finalizeSaleLocked shop.db req with
    | .error e => exact List.prefix_rfl
    | .ok (d, saleId) =>
      show saleKeys shop.db <+: saleKeys d
      rcases finalizeSaleLocked_ok hrun with ⟨rfl, -⟩ | ⟨-, hkeys, -⟩
      · exact List.prefix_rfl
      · rw [hkeys]
        exact List.prefix_append _ _

theorem StockSession.Knows.mono (h : t.Knows shop) (hkeys : saleKeys shop.db <+: saleKeys shop'.db) :
    t.Knows shop' := by
  cases t with
  | answered req result =>
    cases result with
    | ok saleId => exact SaleAt.mono h hkeys
    | error e => exact h
  | begun | keyMissed | productLoaded => trivial

/-- What a lookup finds is the sale that the key belongs to, and stays so. -/
theorem knows_afterLookup (hkeys : (saleKeys shop.db).Nodup) (req : FinalizeSale) :
    (afterLookup req (lookUpSale shop.db req)).Knows shop := by
  match hlookup : lookUpSale shop.db req with
  | .ok none => trivial
  | .ok (some saleId) =>
    unfold lookUpSale at hlookup
    simp only [↓check_bind_eq_ok, bind_eq_ok, pure_eq_ok, Option.map_eq_some_iff] at hlookup
    obtain ⟨-, found, hfound, sale, rfl, rfl⟩ := hlookup
    have hmem : sale ∈ saleWithKey shop.db req.clientTransactionId := by
      rw [scalarOneOrNone_eq_some.mp hfound]
      exact List.mem_singleton_self _
    exact saleAt_of_mem_saleWithKey hmem
  | .error e =>
    -- with keys that differ a lookup finds one sale or none, and only the store of the caller
    -- refuses
    intro hadmitted
    have hfound : ∃ found, scalarOneOrNone (saleWithKey shop.db req.clientTransactionId)
        = .ok found := by
      by_cases htaken : saleWithKey shop.db req.clientTransactionId = []
      · exact ⟨none, scalarOneOrNone_eq_none.mpr htaken⟩
      · obtain ⟨⟨i, sale⟩, hmem⟩ := List.exists_mem_of_ne_nil _ htaken
        obtain ⟨s, hs⟩ := scalarOneOrNone_saleWithKey hkeys (saleAt_of_mem_saleWithKey hmem)
        exact ⟨_, hs⟩
    obtain ⟨found, hfound⟩ := hfound
    have hok : lookUpSale shop.db req = .ok (found.map Prod.fst) := by
      unfold lookUpSale
      rw [hadmitted]
      show (scalarOneOrNone (saleWithKey shop.db req.clientTransactionId) >>= _) = _
      rw [hfound]
      rfl
    rw [hok] at hlookup
    cases hlookup

end Invariant

/-! ### Runs -/

/-- The sessions of the shop keep its invariant. -/
theorem stocking_keeps (db₀ : Db) :
    stocking.Keeps ReplaysPass (ShopInv db₀) fun _ shop t => t.Knows shop where
  start _ _ _ _ _ := trivial
  read H shop t t' f hshop ht hnext hf := by
    rcases session_of_read hnext hf with ⟨req, -, rfl⟩ | ⟨req, loaded, -, rfl, -⟩
    · exact knows_afterLookup hshop.keys req
    · trivial
  lock H shop t t' key f _ _ hnext _ := absurd hnext next_ne_lock
  commit sv k t f shop hsv hok hopen hnext hf :=
    hsv.tables.commit (hsv.sessions k t hopen) (hok t hopen) (shopCommit_of_next hnext hf)
  stable sv k t f shop j u hsv hok hopen hnext hf hjk hu :=
    (hsv.sessions j u hu).mono (shopCommit_of_next hnext hf).keys_kept

theorem ShopInv.neverNegative {db₀ : Db} {shop : Shop} (h : ShopInv db₀ shop) :
    NeverNegative db₀ shop.db := by
  intro i hi
  obtain ⟨p, hp, hallows⟩ := h.flags i false hi
  have hflag : p.val.allowNegativeStock = false := hallows
  refine ⟨p, hp, hflag, ?_⟩
  -- the row is as a commit has stored it, and as its table allows
  have hstored : p.val.stored = p.val := by
    have hrow : shop.db.commit.stock.products[i]? = some p := h.committed.symm ▸ hp
    obtain ⟨q, -, rfl⟩ := List.mem_map.mp (mem_of_row hrow)
    exact q.val.stored_stored
  rcases p.property.stock_nonneg_unless_allowed with hallowed | hnonneg
  · rw [hflag] at hallowed
    cases hallowed
  · rwa [hstored] at hnonneg

/-- **Sales side by side.**  Over any run in which no replay fails its checks: no product goes
below zero that may not; every key makes one sale at most; a request for a key that is taken
changes nothing and returns its sale; and a request that raises leaves nothing behind. -/
theorem sales_side_by_side {db₀ : Db} {sv : StockServer} (hcommitted : db₀.commit = db₀)
    (hkeys : (saleKeys db₀).Nodup)
    (hrun : Reaches stocking.exec ReplaysPass { tables := { db := db₀ } } sv) :
    NeverNegative db₀ sv.tables.db ∧ (saleKeys sv.tables.db).Nodup ∧
      ∀ r ∈ sv.tables.replies, r.Faithful := by
  have hstart : ShopInv db₀ { db := db₀ } :=
    ⟨hcommitted, fun _ _ hi => hi, hkeys, fun _ hr => absurd hr List.not_mem_nil⟩
  have hshop := ((stocking_keeps db₀).reaches (Server.inv_of_tables hstart) hrun).tables
  exact ⟨hshop.neverNegative, hshop.keys, hshop.replies⟩

/-! ### A request sent twice at once -/

/-- A product in stock, at two apiece and a cost of one. -/
def apples (quantity : ℚ) : Product where
  storeId := 0
  sku := "APPLE"
  categoryId := none
  currentPrice := 2
  currentCost := 1
  taxRateId := none
  currentQtyOnHand := quantity
  allowNegativeStock := false
  isActive := true

/-- The greengrocer with one product, and nothing sold. -/
def greengrocerWith (product : Row Product) : Db := { greengrocer with stock.products := [product] }

theorem commit_greengrocerWith {product : Row Product} (h : product.val.stored = product.val) :
    (greengrocerWith product).commit = greengrocerWith product := by
  have hrow : (⟨product.val.stored, product.property.stored⟩ : Row Product) = product :=
    Subtype.ext h
  simp [Db.commit, greengrocerWith, greengrocer, hrow]

/-- The till sends the sale of an apple twice, and both requests miss its key before one of
them has its locks. -/
def sentTwice : List (Event StockWork) :=
  [.begin 0 (.finalizeSale sellApple), .begin 1 (.finalizeSale sellApple), .step 0, .step 1,
    .step 0, .step 1]

/-- With two apples in stock the late request comes to its insert. -/
def twoApples : Db := greengrocerWith ⟨apples 2, by decide +kernel⟩

def enoughApples : StockServer :=
  value (sentTwice.foldlM (guarded stocking.exec ReplaysPass .blocked)
    { tables := { db := twoApples } }) (by decide +kernel)

theorem sales_side_by_side_apples :
    NeverNegative twoApples enoughApples.tables.db ∧ (saleKeys enoughApples.tables.db).Nodup ∧
      ∀ r ∈ enoughApples.tables.replies, r.Faithful := by
  refine sales_side_by_side (commit_greengrocerWith ?_) ?_ (reaches_of_guarded (eq_ok_value _ _))
  · decide +kernel
  · decide +kernel

/-- With one apple in stock it does not. -/
def oneApple : Db := greengrocerWith ⟨apples 1, by decide +kernel⟩

def lastApple : StockServer :=
  value (sentTwice.foldlM (fun sv e => stocking.exec e sv) { tables := { db := oneApple } })
    (by decide +kernel)

/-- The answer to the late request. -/
def lateReply : Reply := lastApple.tables.replies.get ⟨1, by decide +kernel⟩

/-- **The late request raises**: the till sends one sale twice, and the second is refused for
want of the apple that the first has sold. -/
theorem late_replay_raises :
    oneApple.commit = oneApple ∧ (saleKeys oneApple).Nodup ∧
      Reaches stocking.exec (fun _ _ => True) { tables := { db := oneApple } } lastApple ∧
      lateReply ∈ lastApple.tables.replies ∧ ¬lateReply.Faithful := by
  refine ⟨commit_greengrocerWith (by decide +kernel), by decide +kernel,
    reaches_of_foldlM (eq_ok_value _ _), List.get_mem _ _, fun h => ?_⟩
  have htaken : SaleAt lateReply.before 0 lateReply.request.clientTransactionId := by
    show _ = _
    decide +kernel
  have hadmitted : lateReply.request.Admitted := by
    show _ = _
    decide +kernel
  have hraised : lateReply.result.isOk = false := by decide +kernel
  rw [(h.replay 0 htaken).2 hadmitted] at hraised
  cases hraised

end GroceryErp

import GroceryErp.Sales.PosPage
import GroceryErp.System.SaleReplays

/-!
# Sales and the requests that made them

Every sale was made by one of the requests that the tills have sent, with the items that the
request asked for.

## Main definitions

* `SentSale` — what a till has sent.
* `Reply.Makes` — the answer is that of the request that has made the sale.
* `SalesMade` — every sale was made by a request that was sent.

## Main results

* `SalesMade.commit` — what a commit of a session makes.
* `stocking_makes` — the sessions make sales for requests that were sent, and for no others.

## References

`backend/app/modules/sales/service.py`, `finalize_sale`.
-/

namespace GroceryErp

open Decimal Outcome Rows Transactions

/-! ### What is sent -/

/-- What a till has sent, and the user it was sent for. -/
structure SentSale where
  till : ℕ
  cashierId : ℕ
  callerStoreId : Option ℕ
  input : SaleCreateInput
  deriving DecidableEq

/-- The request as it is taken up on a day. -/
def SentSale.request (m : SentSale) (today : Date) : FinalizeSale :=
  m.input.request m.cashierId m.callerStoreId today

/-! ### Which requests have made the sales -/

/-- The answer is that of the request that has made the sale, with the items that the request
asked for. -/
structure Reply.Makes (r : Reply) (saleId : ℕ) : Prop where
  result : r.result = .ok saleId
  new : r.request.clientTransactionId ∉ saleKeys r.before
  items : ∃ items, r.after.sales.items = r.before.sales.items ++ items ∧
    items.map (fun i => (i.val.saleId, i.val.productId, i.val.quantity))
      = r.request.lines.map fun l => (saleId, l.productId, numeric 3 l.quantity)

/-- The request of a session, or of an answer, is one that was sent. -/
def SentRequest (sent : List SentSale) (req : FinalizeSale) : Prop :=
  ∃ m ∈ sent, req = m.request req.today

def StockSession.Sent (sent : List SentSale) : StockSession → Prop
  | begun (.finalizeSale req) => SentRequest sent req
  | answered req _ | keyMissed req => SentRequest sent req
  | begun _ | productLoaded _ _ => True

/-- Every sale was there at the start, or was made by one of the requests that were sent. -/
structure SalesMade (db₀ : Db) (sent : List SentSale) (shop : Shop) : Prop where
  keys : (saleKeys shop.db).Nodup
  kept : saleKeys db₀ <+: saleKeys shop.db
  sent : ∀ r ∈ shop.replies, SentRequest sent r.request
  returned : ∀ r ∈ shop.replies, ∀ saleId, r.result = .ok saleId →
    SaleAt shop.db saleId r.request.clientTransactionId
  made : ∀ saleId key, SaleAt shop.db saleId key → key ∈ saleKeys db₀ ∨
    ∃ r ∈ shop.replies, r.Makes saleId ∧ r.request.clientTransactionId = key

section Made

variable {db₀ db db' : Db} {sent sent' : List SentSale} {shop shop' : Shop} {t : StockSession}
  {req : FinalizeSale} {saleId : ℕ}

theorem SentRequest.mono (h : SentRequest sent req) (hsub : sent ⊆ sent') :
    SentRequest sent' req := by
  obtain ⟨m, hm, hreq⟩ := h
  exact ⟨m, hsub hm, hreq⟩

theorem StockSession.Sent.mono (h : t.Sent sent) (hsub : sent ⊆ sent') : t.Sent sent' := by
  cases t with
  | begun work =>
    cases work with
    | finalizeSale req => exact SentRequest.mono h hsub
    | createAdjustment | createSaleReturn | receiveGoods | createPurchaseReturn | shipTransfer
    | receiveTransfer => trivial
  | answered | keyMissed => exact SentRequest.mono h hsub
  | productLoaded => trivial

theorem SalesMade.mono (h : SalesMade db₀ sent shop) (hsub : sent ⊆ sent') :
    SalesMade db₀ sent' shop :=
  { h with sent := fun r hr => (h.sent r hr).mono hsub }

/-- A line is priced for the product and the quantity that it asks for. -/
theorem priced_of_lines {saleId : ℕ} {today : Date} {lines : List SaleLineInput}
    {computed : List ComputedLine}
    (h : List.Forall₂ (fun line c => priceLine db today line = .ok c) lines computed) :
    computed.map (fun c => ((c.item saleId).saleId, (c.item saleId).productId,
      (c.item saleId).quantity)) = lines.map fun l => (saleId, l.productId, numeric 3 l.quantity) := by
  induction h with
  | nil => rfl
  | cons hline _ ih =>
    obtain ⟨_, _, _, -, -, -, rfl⟩ := priceLine_eq_ok.mp hline
    rw [List.map_cons, List.map_cons, ih]
    rfl

/-- The items of a sale that is made. -/
theorem items_of_finalizeSaleLocked (h : finalizeSaleLocked db req = .ok (db', saleId))
    (hnew : req.clientTransactionId ∉ saleKeys db) :
    ∃ items, db'.sales.items = db.sales.items ++ items ∧
      items.map (fun i => (i.val.saleId, i.val.productId, i.val.quantity))
        = req.lines.map fun l => (saleId, l.productId, numeric 3 l.quantity) := by
  unfold finalizeSaleLocked insertSale at h
  simp only [bind_eq_ok, Prod.exists] at h
  obtain ⟨cart, changeDue, hc, found, hfound, h⟩ := h
  cases found with
  | some r =>
    obtain ⟨i, sale⟩ := r
    have hmem : (i, sale) ∈ saleWithKey db req.clientTransactionId := by
      rw [scalarOneOrNone_eq_some.mp hfound]
      exact List.mem_singleton_self _
    exact absurd (List.mem_of_getElem? (saleAt_of_mem_saleWithKey hmem)) hnew
  | none =>
    simp only [bind_eq_ok, pure_eq_ok, Prod.exists, Prod.mk.injEq] at h
    obtain ⟨d, i, hw, d', hj, rfl, rfl⟩ := h
    obtain ⟨-, shiftId, sale, items, payments, -, hitems, -, hd⟩ := writeSale_ok hw
    refine ⟨items, by rw [postJournal_frame hj, hd], ?_⟩
    have hcolumns : items.map (fun i => (i.val.saleId, i.val.productId, i.val.quantity))
        = (items.map Subtype.val).map fun i => (i.saleId, i.productId, i.quantity) := by
      rw [List.map_map]
      rfl
    rw [hcolumns, hitems, List.map_map]
    exact priced_of_lines (priceCart_ok (checkout_ok hc).1).2.2

/-- Answering a request that was sent: nothing is written and the sale is there, or it is made. -/
theorem SalesMade.reply {result : Result (Db × ℕ)} (h : SalesMade db₀ sent shop)
    (hsent : SentRequest sent req)
    (hresult : ∀ d saleId, result = .ok (d, saleId) →
      (saleKeys d = saleKeys shop.db ∧ SaleAt shop.db saleId req.clientTransactionId) ∨
      (saleKeys d = saleKeys shop.db ++ [req.clientTransactionId] ∧
        SaleAt d saleId req.clientTransactionId ∧
        Reply.Makes ⟨req, .ok saleId, shop.db, d.commit⟩ saleId)) :
    SalesMade db₀ sent (shop.reply req result) := by
  match result, hresult with
  -- an error is a reply like others, and makes nothing
  | .error e, _ =>
    refine ⟨h.keys, h.kept, ?_, ?_, fun saleId key hat => ?_⟩
    · exact List.forall_mem_append.mpr ⟨h.sent, List.forall_mem_singleton.mpr hsent⟩
    · refine List.forall_mem_append.mpr ⟨h.returned, List.forall_mem_singleton.mpr ?_⟩
      intro saleId hok
      cases hok
    · refine (h.made saleId key hat).imp_right ?_
      rintro ⟨r, hr, hmakes⟩
      exact ⟨r, List.mem_append_left _ hr, hmakes⟩
  | .ok (d, saleId), hresult =>
    have hprefix : saleKeys shop.db <+: saleKeys d ∧ (saleKeys d).Nodup ∧
        SaleAt d saleId req.clientTransactionId ∧
        ∀ i key, SaleAt d i key → SaleAt shop.db i key ∨
          (key = req.clientTransactionId ∧ i = saleId ∧
            Reply.Makes ⟨req, .ok saleId, shop.db, d.commit⟩ saleId) := by
      rcases hresult d saleId rfl with ⟨hsame, hat⟩ | ⟨hnew, hat, hmakes⟩
      -- a replay: the sale was made for an earlier request with the key
      · have hiff : ∀ i key, SaleAt d i key ↔ SaleAt shop.db i key := fun i key => by
          unfold SaleAt
          rw [hsame]
        exact ⟨hsame ▸ List.prefix_rfl, hsame ▸ h.keys, (hiff _ _).mpr hat,
          fun i key hi => .inl ((hiff i key).mp hi)⟩
      -- the sale is made by this request
      · have hfresh : req.clientTransactionId ∉ saleKeys shop.db := hmakes.new
        have hnodup : (saleKeys d).Nodup := by
          rw [hnew, List.nodup_append]
          refine ⟨h.keys, List.nodup_singleton _, fun key hkey key' hkey' => ?_⟩
          rw [List.mem_singleton.mp hkey']
          rintro rfl
          exact hfresh hkey
        refine ⟨hnew ▸ List.prefix_append _ _, hnodup, hat, fun i key hi => ?_⟩
        have hi' := hi
        unfold SaleAt at hi'
        rw [hnew] at hi'
        rcases getElem?_append_singleton_eq_some.mp hi' with hold | ⟨-, rfl⟩
        · exact .inl hold
        · obtain ⟨hlt, -⟩ := List.getElem?_eq_some_iff.mp hi
          exact .inr ⟨rfl, (List.getElem?_inj hlt hnodup).mp (hi.trans hat.symm), hmakes⟩
    obtain ⟨hkept, hnodup, hat, hcases⟩ := hprefix
    refine ⟨hnodup, h.kept.trans hkept, ?_, ?_, fun i key hi => ?_⟩
    · exact List.forall_mem_append.mpr ⟨h.sent, List.forall_mem_singleton.mpr hsent⟩
    · refine List.forall_mem_append.mpr ⟨fun r hr i hok => ?_, List.forall_mem_singleton.mpr ?_⟩
      · exact (h.returned r hr i hok).mono hkept
      · intro i hok
        cases hok
        exact hat
    · rcases hcases i key hi with hold | ⟨rfl, rfl, hmakes⟩
      · refine (h.made i key hold).imp_right ?_
        rintro ⟨r, hr, hmakes⟩
        exact ⟨r, List.mem_append_left _ hr, hmakes⟩
      · exact .inr ⟨_, List.mem_append_right _ (List.mem_singleton_self _), hmakes, rfl⟩

/-- **What a commit of a session makes.** -/
theorem SalesMade.commit (h : SalesMade db₀ sent shop) (hknows : t.Knows shop)
    (hsent : t.Sent sent) (hdone : ShopCommit shop t shop') : SalesMade db₀ sent shop' := by
  have hkept := h.kept.trans hdone.keys_kept
  cases hdone with
  | @moved work d run books keys =>
    have hiff : ∀ i key, SaleAt d.commit i key ↔ SaleAt shop.db i key := fun i key => by
      unfold SaleAt
      rw [saleKeys_commit, keys]
    refine ⟨?_, hkept, h.sent, fun r hr i hok => (hiff _ _).mpr (h.returned r hr i hok),
      fun i key hi => h.made i key ((hiff i key).mp hi)⟩
    change (saleKeys d).Nodup
    rw [keys]
    exact h.keys
  | @adjusted req loaded d run =>
    have hiff : ∀ i key, SaleAt d.commit i key ↔ SaleAt shop.db i key := fun i key => by
      unfold SaleAt
      rw [saleKeys_commit, adjustLoaded_saleKeys run]
    refine ⟨?_, hkept, h.sent, fun r hr i hok => (hiff _ _).mpr (h.returned r hr i hok),
      fun i key hi => h.made i key ((hiff i key).mp hi)⟩
    change (saleKeys d).Nodup
    rw [adjustLoaded_saleKeys run]
    exact h.keys
  -- the lookup had found the sale, and nothing is written
  | @answered req result =>
    refine h.reply hsent fun d saleId hok => .inl ?_
    obtain ⟨i, hi, hpair⟩ := map_eq_ok.mp hok
    cases hpair
    subst hi
    exact ⟨rfl, hknows⟩
  | @keyMissed req =>
    refine h.reply hsent fun d saleId hok => ?_
    -- under the lock the key may have been taken since the lookup
    rcases finalizeSaleLocked_ok hok with ⟨rfl, hat⟩ | ⟨hnew, hkeys, hat, -⟩
    · exact .inl ⟨rfl, hat⟩
    · have hitems := items_of_finalizeSaleLocked hok hnew
      exact .inr ⟨hkeys, hat, rfl, hnew, hitems⟩

/-- What a session asks for stays what was sent. -/
theorem StockSession.Sent.read {f : Shop → Option StockSession} {t' : StockSession}
    (h : t.Sent sent) (hnext : stocking.next t = .read f) (hf : f shop = some t') :
    t'.Sent sent := by
  rcases session_of_read hnext hf with ⟨req, rfl, rfl⟩ | ⟨req, loaded, -, rfl, -⟩
  · match lookUpSale shop.db req with
    | .ok none | .ok (some _) | .error _ => exact h
  · trivial

/-- The sessions go on as the requests were sent. -/
def BegunAsSent (sent : List SentSale) (_ : StockServer) : Event StockWork → Prop
  | .begin _ (.finalizeSale req) => SentRequest sent req
  | _ => True

theorem stocking_makes (db₀ : Db) (sent : List SentSale) : stocking.Keeps (BegunAsSent sent)
    (SalesMade db₀ sent) fun _ shop t => t.Knows shop ∧ t.Sent sent where
  start sv k work _ hok := by
    refine ⟨trivial, ?_⟩
    cases work with
    | finalizeSale req => exact hok
    | createAdjustment | createSaleReturn | receiveGoods | createPurchaseReturn | shipTransfer
    | receiveTransfer => trivial
  read _ shop t t' f hshop ht hnext hf := by
    refine ⟨?_, ht.2.read hnext hf⟩
    rcases session_of_read hnext hf with ⟨req, -, rfl⟩ | ⟨req, loaded, -, rfl, -⟩
    · exact knows_afterLookup hshop.keys req
    · trivial
  lock _ _ _ _ _ _ _ _ hnext := absurd hnext next_ne_lock
  commit sv k t f shop hsv _ hopen hnext hf := by
    obtain ⟨hknows, hsent⟩ := hsv.sessions k t hopen
    exact hsv.tables.commit hknows hsent (shopCommit_of_next hnext hf)
  stable sv k t f shop j u hsv _ _ hnext hf _ hu :=
    ⟨(hsv.sessions j u hu).1.mono (shopCommit_of_next hnext hf).keys_kept,
      (hsv.sessions j u hu).2⟩

end Made

end GroceryErp

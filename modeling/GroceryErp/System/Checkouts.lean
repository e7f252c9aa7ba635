import GroceryErp.Lib.Tickets
import GroceryErp.System.SentSales

/-!
# Checkouts over a network

Tills send their carts to the server over a network that may lose what is sent, deliver it
late, deliver it more than once, and lose the answer.  A cashier whose attempt has failed tries
again, perhaps with another cart by then; the key stays.

Every key makes one sale at most and every sale is shown on one receipt at most; a sale that no
receipt shows is one whose key its till still has, and will send again, or one whose page was
left.  The receipt shows the sale that the first attempt to come through has made, which is the
cart on the page only if the cart is still that of the attempt.

## Main definitions

* `PosSystem`, `PosSystem.exec` — tills, network and server, and one event.
* `PosInv` — the invariant.

## Main results

* `checkouts_once` — **over any run.**
* `receipt_of_another_cart` — a cart that was changed between two attempts is not sold.

## References

`frontend/src/pages/PosPage.tsx`; `frontend/src/api/client.ts`, `apiFetch`;
`backend/app/modules/sales/service.py`, `finalize_sale`.
-/

namespace GroceryErp

open Outcome Runs Tickets Transactions

/-! ### Tills, network and server -/

/-- The server, the pages of the tills, and the network.  `issued`, `receipts` and `abandoned`
record the keys that were made, the sales that were shown, and the keys whose page was left. -/
structure PosSystem where
  server : StockServer
  pages : ℕ → PosPage
  sent : List SentSale := []
  issued : List (String × ℕ) := []
  receipts : List (String × ℕ) := []
  abandoned : List String := []

inductive PosEvent
  /-- The page is opened, in place of the one that was there. -/
  | mount (till cashierId : ℕ) (storeId : Option ℕ)
  | edit (till : ℕ) (e : PosEdit)
  /-- `crypto.randomUUID` gives `key`. -/
  | checkout (till : ℕ) (key : String)
  | startNewSale (till : ℕ)
  /-- The server takes up what was sent, in a session.  It may do so again. -/
  | arrive (session n : ℕ) (today : Date)
  /-- Another event of the server. -/
  | serve (e : Event StockWork)
  /-- An answer comes back. -/
  | answer (till n : ℕ)
  /-- None does. -/
  | fail (till : ℕ)

/-- Why an event cannot happen now. -/
inductive PosRefused
  | disabled
  | noReceipt
  | notSent
  | notWaiting
  | notAnswered
  | notByATill
  | server (e : Refused)

/-- The event of the server does not begin a sale. -/
def NoSale : Event StockWork → Prop
  | .begin _ (.finalizeSale _) => False
  | _ => True

instance : DecidablePred NoSale
  | .begin _ (.finalizeSale _) => isFalse id
  | .begin _ (.createAdjustment _) | .begin _ (.createSaleReturn _) | .begin _ (.receiveGoods _)
  | .begin _ (.createPurchaseReturn _) | .begin _ (.shipTransfer _)
  | .begin _ (.receiveTransfer _) | .step _ | .rollback _ => isTrue trivial

namespace PosSystem

variable (sys : PosSystem)

/-- The tables of the server, as the last commit has left them. -/
def db : Db := sys.server.tables.db

def put (till : ℕ) (page : PosPage) : PosSystem :=
  { sys with pages := Function.update sys.pages till page }

/-- The keys, as tickets of the tills: one is issued when a page needs it and redeemed by the sale
it is kept with. -/
def desk : Desk ℕ String ℕ where
  issued := sys.issued
  held till := (sys.pages till).checkoutKey
  redeemed := sys.receipts
  abandoned := sys.abandoned

/-- The page of a till is checked out. -/
def checkout (till : ℕ) (key : String) : PosSystem :=
  let page := sys.pages till
  match page.handleCheckout key with
  | (page', some input) =>
    { sys.put till page' with
      sent := sys.sent ++ [⟨till, page.cashierId, page.storeId, input⟩]
      issued := sys.issued ++ if page.checkoutKey = none then [(key, till)] else [] }
  | (page', none) => sys.put till page'

/-- The answer to what a till has sent comes back. -/
def answered (till : ℕ) (r : Reply) : PosSystem :=
  let page := sys.pages till
  match r.result with
  | .error _ => sys.put till page.failed
  | .ok saleId =>
    { sys.put till (page.completed saleId) with
      receipts := sys.receipts ++ page.checkoutKey.toList.map fun key => (key, saleId) }

/-- A server event, which is made of the sessions. -/
def served (e : Event StockWork) : Except PosRefused PosSystem :=
  match stocking.exec e sys.server with
  | .error refusal => .error (.server refusal)
  | .ok server => .ok { sys with server }

/-- One event of a page, of the server, or of the network between them. -/
def exec : PosEvent → PosSystem → Except PosRefused PosSystem
  | .mount till cashierId storeId, sys => do
    let key := (sys.pages till).checkoutKey
    return { sys.put till { cashierId, storeId } with abandoned := sys.abandoned ++ key.toList }
  | .edit till e, sys => do
    raiseIf ((sys.pages till).completedSale ≠ none) .disabled
    return sys.put till ((sys.pages till).edit e)
  | .checkout till key, sys => do
    raiseIf (¬(sys.pages till).CanCheckOut) .disabled
    return sys.checkout till key
  | .startNewSale till, sys => do
    raiseIf ((sys.pages till).completedSale = none) .noReceipt
    return sys.put till (sys.pages till).startNewSale
  | .arrive session n today, sys => do
    let m ← orRaise sys.sent[n]? .notSent
    sys.served (.begin session (.finalizeSale (m.request today)))
  | .serve e, sys => do
    raiseIf (¬NoSale e) .notByATill
    sys.served e
  | .answer till n, sys => do
    let input ← orRaise (sys.pages till).waiting .notWaiting
    let r ← orRaise sys.server.tables.replies[n]? .notAnswered
    let page := sys.pages till
    raiseIf (r.request ≠ input.request page.cashierId page.storeId r.request.today) .notAnswered
    return sys.answered till r
  | .fail till, sys => do
    raiseIf ((sys.pages till).waiting = none) .notWaiting
    return sys.put till (sys.pages till).failed

end PosSystem

/-- A key that is made is new, as a random UUID is taken to be. -/
def FreshKeys (sys : PosSystem) : PosEvent → Prop
  | .checkout _ key => key ∉ saleKeys sys.db ∧ key ∉ sys.issued.map Prod.fst
  | _ => True

/-! ### The pages -/

/-- What a page waits for was sent under its key, and a page that shows a receipt has none. -/
structure PosPage.InOrder (page : PosPage) : Prop where
  waiting : ∀ input, page.waiting = some input →
    page.checkoutKey = some input.clientTransactionId
  completed : page.completedSale ≠ none → page.checkoutKey = none

section Pages

variable {page : PosPage}

theorem PosPage.inOrder_new (cashierId : ℕ) (storeId : Option ℕ) :
    PosPage.InOrder { cashierId, storeId } where
  waiting _ h := by cases h
  completed h := absurd rfl h

theorem PosPage.InOrder.edit (h : page.InOrder) (e : PosEdit) : (page.edit e).InOrder := by
  obtain ⟨hkey, hwaiting, hcompleted, -, -⟩ := page.edit_checkout e
  refine ⟨fun input hinput => ?_, fun hdone => ?_⟩
  · rw [hkey]
    exact h.waiting input (hwaiting ▸ hinput)
  · rw [hkey]
    exact h.completed (hcompleted ▸ hdone)

theorem PosPage.inOrder_completed (page : PosPage) (saleId : ℕ) :
    (page.completed saleId).InOrder where
  waiting _ h := by cases h
  completed _ := rfl

theorem PosPage.InOrder.failed (h : page.InOrder) : page.failed.InOrder where
  waiting _ hinput := by cases hinput
  completed := h.completed

theorem PosPage.InOrder.startNewSale (h : page.InOrder) (hdone : page.completedSale ≠ none) :
    page.startNewSale.InOrder := by
  refine ⟨fun input hinput => ?_, fun hshown => absurd rfl hshown⟩
  have hkey := h.waiting input hinput
  rw [h.completed hdone] at hkey
  cases hkey

end Pages

/-! ### The invariant -/

/-- The server has what was sent, and the keys are in order. -/
structure PosInv (db₀ : Db) (sys : PosSystem) : Prop where
  server : sys.server.Inv (SalesMade db₀ sys.sent) fun _ shop t => t.Knows shop ∧ t.Sent sys.sent
  desk : sys.desk.InOrder
  pages : ∀ till, (sys.pages till).InOrder
  sent : ∀ m ∈ sys.sent, (m.input.clientTransactionId, m.till) ∈ sys.issued
  fresh : ∀ key ∈ sys.issued.map Prod.fst, key ∉ saleKeys db₀
  receipts : ∀ receipt ∈ sys.receipts, SaleAt sys.db receipt.2 receipt.1

section Invariant

variable {db₀ : Db} {sys sys' : PosSystem} {till : ℕ} {page : PosPage}

theorem PosSystem.held_put (sys : PosSystem) (till : ℕ) (page : PosPage) :
    (sys.put till page).desk.held = Function.update sys.desk.held till page.checkoutKey := by
  funext t
  change (Function.update sys.pages till page t).checkoutKey = _
  by_cases ht : t = till
  · rw [ht, Function.update_self, Function.update_self]
  · rw [Function.update_of_ne ht, Function.update_of_ne ht]
    rfl

/-- A page that keeps its key leaves the desk as it is. -/
theorem PosSystem.desk_put (h : page.checkoutKey = (sys.pages till).checkoutKey) :
    (sys.put till page).desk = sys.desk := by
  have hheld : (sys.put till page).desk.held = sys.desk.held := by
    rw [sys.held_put, h]
    exact Function.update_eq_self till sys.desk.held
  calc (sys.put till page).desk = { sys.desk with held := (sys.put till page).desk.held } := rfl
    _ = sys.desk := by rw [hheld]

theorem PosInv.pages_put (h : PosInv db₀ sys) (hpage : page.InOrder) (t : ℕ) :
    ((sys.put till page).pages t).InOrder := by
  change (Function.update sys.pages till page t).InOrder
  by_cases ht : t = till
  · rw [ht, Function.update_self]
    exact hpage
  · rw [Function.update_of_ne ht]
    exact h.pages t

/-- A page is written that keeps its key. -/
theorem PosInv.put (h : PosInv db₀ sys) (hpage : page.InOrder)
    (hkey : page.checkoutKey = (sys.pages till).checkoutKey) : PosInv db₀ (sys.put till page) where
  server := h.server
  desk := sys.desk_put hkey ▸ h.desk
  pages := h.pages_put hpage
  sent := h.sent
  fresh := h.fresh
  receipts := h.receipts

/-- A page is opened in place of another. -/
theorem PosInv.mount (h : PosInv db₀ sys) (cashierId : ℕ) (storeId : Option ℕ) :
    PosInv db₀ { sys.put till { cashierId, storeId } with
      abandoned := sys.abandoned ++ (sys.pages till).checkoutKey.toList } where
  server := h.server
  desk := by
    have hheld := sys.held_put till { cashierId, storeId }
    have hnext : sys.desk.Next (sys.desk.abandon till) := .abandon
    convert h.desk.next hnext using 1
    exact congrArg (fun held => { sys.desk.abandon till with held }) hheld
  pages := h.pages_put (PosPage.inOrder_new cashierId storeId)
  sent := h.sent
  fresh := h.fresh
  receipts := h.receipts

/-- The server goes on: whatever it commits answers requests the pages have sent. -/
theorem PosInv.served {e : Event StockWork} (h : PosInv db₀ sys) (hdone : sys.served e = .ok sys')
    (hbegun : BegunAsSent sys.sent sys.server e) : PosInv db₀ sys' := by
  unfold PosSystem.served at hdone
  split at hdone
  · cases hdone
  · next server hserver =>
    cases hdone
    have hinv := (stocking_makes db₀ sys.sent).exec h.server hbegun hserver
    have hkept : saleKeys sys.db <+: saleKeys server.tables.db := by
      rcases (Program.exec_did hserver).tables with hsame | ⟨k, t, f, -, -, hnext, hf⟩
      · rw [hsame]
        exact List.prefix_rfl
      · exact (shopCommit_of_next hnext hf).keys_kept
    exact {
      server := hinv
      desk := h.desk
      pages := h.pages
      sent := h.sent
      fresh := h.fresh
      receipts := fun receipt hreceipt => (h.receipts receipt hreceipt).mono hkept }

/-- Without a store nothing is sent. -/
theorem PosSystem.checkout_of_none {key : String} (h : (sys.pages till).storeId = none) :
    sys.checkout till key = sys.put till (sys.pages till) := by
  unfold PosSystem.checkout PosPage.handleCheckout
  simp only [h]

theorem PosSystem.checkout_of_store {key : String} {storeId : ℕ}
    (h : (sys.pages till).storeId = some storeId) :
    sys.checkout till key =
      let k := (sys.pages till).checkoutKey.getD key
      let input := (sys.pages till).saleInput storeId k
      { sys.put till { sys.pages till with checkoutKey := some k, waiting := some input } with
        sent := sys.sent ++ [⟨till, (sys.pages till).cashierId, some storeId, input⟩]
        issued := sys.issued ++
          if (sys.pages till).checkoutKey = none then [(key, till)] else [] } := by
  unfold PosSystem.checkout PosPage.handleCheckout
  simp only [h]

/-- A cart is sent under a fresh key, or again under the key it was sent with. -/
theorem PosInv.checkout (h : PosInv db₀ sys) {key : String}
    (hcan : (sys.pages till).CanCheckOut) (hfresh : FreshKeys sys (.checkout till key)) :
    PosInv db₀ (sys.checkout till key) := by
  cases hstore : (sys.pages till).storeId with
  | none =>
    rw [PosSystem.checkout_of_none hstore]
    exact h.put (h.pages till) rfl
  | some storeId =>
    have hserver : ∀ m, sys.server.Inv (SalesMade db₀ (sys.sent ++ [m]))
        fun _ shop t => t.Knows shop ∧ t.Sent (sys.sent ++ [m]) := fun m =>
      ⟨h.server.tables.mono (List.subset_append_left _ _), fun k t hk =>
        ⟨(h.server.sessions k t hk).1,
          (h.server.sessions k t hk).2.mono (List.subset_append_left _ _)⟩, h.server.holders⟩
    have hpage : ∀ k, PosPage.InOrder { sys.pages till with
        checkoutKey := some k, waiting := some ((sys.pages till).saleInput storeId k) } := by
      refine fun k => ⟨fun input hinput => ?_, fun hshown => absurd hcan.2.2 hshown⟩
      cases hinput
      rfl
    rw [PosSystem.checkout_of_store hstore]
    cases hkey : (sys.pages till).checkoutKey with
    | none =>
      -- the key is made
      refine ⟨hserver _, ?_, h.pages_put (hpage key), ?_, ?_, h.receipts⟩
      · have hnext : sys.desk.Next (sys.desk.issue till key) := .issue hkey hfresh.2
        have hheld := sys.held_put till { sys.pages till with
          checkoutKey := some key, waiting := some ((sys.pages till).saleInput storeId key) }
        convert h.desk.next hnext using 1
        exact congrArg (fun held => { sys.desk.issue till key with held }) hheld
      · refine List.forall_mem_append.mpr ⟨fun m hm => List.mem_append_left _ (h.sent m hm), ?_⟩
        exact List.forall_mem_singleton.mpr (List.mem_append_right _ (List.mem_singleton_self _))
      · intro k hk
        change k ∈ (sys.issued ++ [(key, till)]).map Prod.fst at hk
        rw [List.map_append] at hk
        rcases List.mem_append.mp hk with hk | hk
        · exact h.fresh k hk
        · cases List.mem_singleton.mp hk
          exact fun hold => hfresh.1 (h.server.tables.kept.subset hold)
    | some k =>
      -- the key of an earlier attempt is sent again
      dsimp only [Option.getD_some]
      rw [if_neg (Option.some_ne_none k), List.append_nil]
      refine ⟨hserver _, ?_, h.pages_put (hpage k), ?_, h.fresh, h.receipts⟩
      · let page := { sys.pages till with
          checkoutKey := some k, waiting := some ((sys.pages till).saleInput storeId k) }
        have hsame : page.checkoutKey = (sys.pages till).checkoutKey := hkey.symm
        exact sys.desk_put hsame ▸ h.desk
      · refine List.forall_mem_append.mpr ⟨h.sent, List.forall_mem_singleton.mpr ?_⟩
        exact (h.desk.held till k hkey).1

/-- An answer comes back to the page that is waiting for it. -/
theorem PosInv.answered (h : PosInv db₀ sys) {input : SaleCreateInput} {r : Reply}
    (hwaiting : (sys.pages till).waiting = some input) (hr : r ∈ sys.server.tables.replies)
    (hrequest : r.request = input.request (sys.pages till).cashierId (sys.pages till).storeId
      r.request.today) : PosInv db₀ (sys.answered till r) := by
  have hkey := (h.pages till).waiting input hwaiting
  unfold PosSystem.answered
  cases hresult : r.result with
  | error e => exact h.put (h.pages till).failed rfl
  | ok saleId =>
    dsimp only
    rw [hkey]
    refine ⟨h.server, ?_, h.pages_put ((sys.pages till).inOrder_completed saleId), h.sent, h.fresh,
      ?_⟩
    · have hnext : sys.desk.Next (sys.desk.redeem till input.clientTransactionId saleId) :=
        .redeem hkey
      have hheld := sys.held_put till ((sys.pages till).completed saleId)
      convert h.desk.next hnext using 1
      exact congrArg
        (fun held => { sys.desk.redeem till input.clientTransactionId saleId with held }) hheld
    · refine List.forall_mem_append.mpr ⟨h.receipts, List.forall_mem_singleton.mpr ?_⟩
      have hat := h.server.tables.returned r hr saleId hresult
      rwa [hrequest] at hat

/-- **Every event keeps the invariant**, whether it is one of a page, of the server, or of the
network between them. -/
theorem PosInv.exec {e : PosEvent} (h : PosInv db₀ sys) (hfresh : FreshKeys sys e)
    (hdone : PosSystem.exec e sys = .ok sys') : PosInv db₀ sys' := by
  cases e with
  | mount till cashierId storeId =>
    cases hdone
    exact h.mount cashierId storeId
  | edit till e =>
    simp only [PosSystem.exec, ↓check_bind_eq_ok, pure_eq_ok] at hdone
    obtain ⟨-, rfl⟩ := hdone
    exact h.put ((h.pages till).edit e) ((sys.pages till).edit_checkout e).1
  | checkout till key =>
    simp only [PosSystem.exec, ↓check_bind_eq_ok, raiseIf_eq_ok, not_not, pure_eq_ok] at hdone
    -- the key of the attempt is new, as the page draws it at random
    obtain ⟨hcan, rfl⟩ := hdone
    exact h.checkout hcan hfresh
  | startNewSale till =>
    -- a new sale is started from a receipt, whose key is done with
    simp only [PosSystem.exec, ↓check_bind_eq_ok, raiseIf_eq_ok, pure_eq_ok] at hdone
    obtain ⟨hshown, rfl⟩ := hdone
    exact h.put ((h.pages till).startNewSale hshown) ((h.pages till).completed hshown).symm
  | arrive session n today =>
    simp only [PosSystem.exec, bind_eq_ok, orRaise_eq_ok] at hdone
    obtain ⟨m, hm, hserved⟩ := hdone
    exact h.served hserved ⟨m, List.mem_of_getElem? hm, rfl⟩
  -- requests that the tills have not sent; a sale is sent by a till only
  | serve e =>
    simp only [PosSystem.exec, ↓check_bind_eq_ok, raiseIf_eq_ok, not_not] at hdone
    obtain ⟨hno, hserved⟩ := hdone
    refine h.served hserved ?_
    cases e with
    | step | rollback => trivial
    | begin k work =>
      cases work with
      | finalizeSale => exact hno.elim
      | createAdjustment | createSaleReturn | receiveGoods | createPurchaseReturn | shipTransfer
      | receiveTransfer => trivial
  | answer till n =>
    simp only [PosSystem.exec, ↓check_bind_eq_ok, bind_eq_ok, orRaise_eq_ok, raiseIf_eq_ok,
      ne_eq, not_not, pure_eq_ok] at hdone
    -- an answer comes to the attempt that is waiting for it
    obtain ⟨input, hwaiting, r, hr, hrequest, rfl⟩ := hdone
    exact h.answered hwaiting (List.mem_of_getElem? hr) hrequest
  | fail till =>
    simp only [PosSystem.exec, ↓check_bind_eq_ok, pure_eq_ok] at hdone
    -- the page keeps its key, and sends the same again
    obtain ⟨-, rfl⟩ := hdone
    exact h.put (h.pages till).failed rfl

/-- With new pages, and nothing sent, the tills are in order. -/
theorem PosInv.start {pages : ℕ → PosPage} (hkeys : (saleKeys db₀).Nodup)
    (hnew : ∀ till, ∃ cashierId storeId, pages till = { cashierId, storeId }) :
    PosInv db₀ { server := { tables := { db := db₀ } }, pages } where
  server := Server.inv_of_tables {
    keys := hkeys
    kept := List.prefix_rfl
    sent := fun _ hr => absurd hr List.not_mem_nil
    returned := fun _ hr => absurd hr List.not_mem_nil
    made := fun _ _ hat => .inl (List.mem_of_getElem? hat) }
  desk := by
    have hheld : (fun till => (pages till).checkoutKey) = fun _ => none := by
      funext till
      obtain ⟨cashierId, storeId, hpage⟩ := hnew till
      rw [hpage]
    have hempty : Desk.InOrder ({ held := fun till => (pages till).checkoutKey } : Desk ℕ String ℕ) :=
      hheld ▸ Desk.inOrder_empty
    exact hempty
  pages till := by
    obtain ⟨cashierId, storeId, hpage⟩ := hnew till
    change (pages till).InOrder
    rw [hpage]
    exact PosPage.inOrder_new cashierId storeId
  sent _ hm := absurd hm List.not_mem_nil
  fresh _ hk := absurd hk List.not_mem_nil
  receipts _ hr := absurd hr List.not_mem_nil

/-- No sale is on two receipts. -/
theorem PosInv.receipts_nodup (h : PosInv db₀ sys) : (sys.receipts.map Prod.snd).Nodup := by
  have hkeys : (sys.receipts.map Prod.fst).Nodup := (List.nodup_append.mp h.desk.closed_nodup).1
  refine List.Nodup.map_on (fun x hx y hy hsame => ?_) hkeys.of_map
  have hxy : SaleAt sys.db x.2 y.1 := hsame ▸ h.receipts y hy
  exact Prod.ext (Option.some.inj ((h.receipts x hx).symm.trans hxy)) hsame

/-- A sale whose key was made in the run was made by a request sent under it. -/
theorem PosInv.made (h : PosInv db₀ sys) {saleId : ℕ} {key : String} (hat : SaleAt sys.db saleId key)
    (hnew : key ∉ saleKeys db₀) : ∃ r ∈ sys.server.tables.replies, r.Makes saleId ∧
      ∃ m ∈ sys.sent, r.request = m.request r.request.today ∧ m.input.clientTransactionId = key := by
  rcases h.server.tables.made saleId key hat with hold | ⟨r, hr, hmakes, rfl⟩
  · exact absurd hold hnew
  · obtain ⟨m, hm, hrequest⟩ := h.server.tables.sent r hr
    exact ⟨r, hr, hmakes, m, hm, hrequest, by rw [hrequest]; rfl⟩

/-- **Checkouts happen once.**  Whatever the network loses, delays or delivers again: no key
makes two sales, and no sale is on two receipts; the sale on a receipt was made by a request that
was sent under its key; and a sale that is on no receipt is one whose key its till still has, or
one whose page was left. -/
theorem checkouts_once {pages : ℕ → PosPage} (hkeys : (saleKeys db₀).Nodup)
    (hnew : ∀ till, ∃ cashierId storeId, pages till = { cashierId, storeId })
    (hrun : Reaches PosSystem.exec FreshKeys { server := { tables := { db := db₀ } }, pages } sys) :
    (saleKeys sys.db).Nodup ∧ (sys.receipts.map Prod.snd).Nodup ∧
    (∀ key saleId, (key, saleId) ∈ sys.receipts → SaleAt sys.db saleId key ∧
      ∃ r ∈ sys.server.tables.replies, r.Makes saleId ∧ ∃ m ∈ sys.sent,
        r.request = m.request r.request.today ∧ m.input.clientTransactionId = key) ∧
    ∀ saleId key, SaleAt sys.db saleId key → key ∉ saleKeys db₀ →
      ∃ till, (key, till) ∈ sys.issued ∧ ((key, saleId) ∈ sys.receipts ∨
        (sys.pages till).checkoutKey = some key ∨ key ∈ sys.abandoned) := by
  have hinv : PosInv db₀ sys :=
    hrun.invariant (.start hkeys hnew) fun _ _ _ h hfresh hdone => h.exec hfresh hdone
  refine ⟨hinv.server.tables.keys, hinv.receipts_nodup, fun key saleId hreceipt => ?_,
    fun saleId key hat hkey => ?_⟩
  · have hclosed : key ∈ sys.desk.closed :=
      List.mem_append_left _ (List.mem_map_of_mem (f := Prod.fst) hreceipt)
    have hfresh := hinv.fresh key (hinv.desk.closed_issued key hclosed)
    exact ⟨hinv.receipts _ hreceipt, hinv.made (hinv.receipts _ hreceipt) hfresh⟩
  · obtain ⟨r, -, -, m, hm, -, rfl⟩ := hinv.made hat hkey
    have hissued := hinv.sent m hm
    refine ⟨m.till, hissued, ?_⟩
    rcases hinv.desk.accounted _ _ hissued with hheld | hclosed
    · exact .inr (.inl hheld)
    · rcases List.mem_append.mp hclosed with hredeemed | habandoned
      · obtain ⟨⟨k, i⟩, hreceipt, rfl⟩ := List.mem_map.mp hredeemed
        -- one key, one sale
        obtain ⟨hlt, -⟩ := List.getElem?_eq_some_iff.mp hat
        have hsame : saleId = i := (List.getElem?_inj hlt hinv.server.tables.keys).mp
          (hat.trans (hinv.receipts _ hreceipt).symm)
        exact .inl (hsame ▸ hreceipt)
      · exact .inr (.inr habandoned)

end Invariant

/-! ### An answer that is lost -/

instance (sys : PosSystem) : ∀ e, Decidable (FreshKeys sys e)
  | .checkout _ _ => inferInstanceAs (Decidable (_ ∧ _))
  | .mount _ _ _ | .edit _ _ | .startNewSale _ | .arrive _ _ _ | .serve _ | .answer _ _
  | .fail _ => isTrue trivial

/-- Every till is the greengrocer's, with the same cashier. -/
def tills : ℕ → PosPage := fun _ => { cashierId := 0, storeId := some 0 }

def tillsOpen : PosSystem := { server := { tables := { db := twoApples } }, pages := tills }

/-- An apple is sold, and the answer does not come back. -/
def answerLost : List PosEvent :=
  [.edit 0 (.addToCart 0), .edit 0 (.updateAmount 0 (some 4)), .checkout 0 "first",
   .arrive 0 0 0, .serve (.step 0), .serve (.step 0), .fail 0]

/-- The cashier tries again, and the answer comes back. -/
def triedAgain : List PosEvent :=
  [.checkout 0 "second", .arrive 1 1 0, .serve (.step 1), .serve (.step 1), .answer 0 1]

def retried : PosSystem :=
  value ((answerLost ++ triedAgain).foldlM (guarded PosSystem.exec FreshKeys .disabled) tillsOpen)
    (by decide +kernel)

theorem checkouts_once_apple : retried.receipts = [("first", 0)] ∧ (saleKeys retried.db).Nodup ∧
    (retried.receipts.map Prod.snd).Nodup ∧
    (∀ key saleId, (key, saleId) ∈ retried.receipts → SaleAt retried.db saleId key ∧
      ∃ r ∈ retried.server.tables.replies, r.Makes saleId ∧ ∃ m ∈ retried.sent,
        r.request = m.request r.request.today ∧ m.input.clientTransactionId = key) ∧
    ∀ saleId key, SaleAt retried.db saleId key → key ∉ saleKeys twoApples →
      ∃ till, (key, till) ∈ retried.issued ∧ ((key, saleId) ∈ retried.receipts ∨
        (retried.pages till).checkoutKey = some key ∨ key ∈ retried.abandoned) := by
  have hrun : Reaches PosSystem.exec FreshKeys tillsOpen retried :=
    reaches_of_guarded (eq_ok_value _ _)
  have hkeys : (saleKeys twoApples).Nodup := by decide +kernel
  exact ⟨by decide +kernel, checkouts_once hkeys (fun _ => ⟨0, some 0, rfl⟩) hrun⟩

/-- In between, the customer takes a second apple. -/
def soldAnother : PosSystem :=
  value ((answerLost ++ .edit 0 (.addToCart 0) :: triedAgain).foldlM
    (guarded PosSystem.exec FreshKeys .disabled) tillsOpen) (by decide +kernel)

/-- What the till has sent last. -/
def lastSent : SentSale := soldAnother.sent.get ⟨1, by decide +kernel⟩

/-- **A receipt of another cart.**  The second attempt is of two apples; its receipt shows the
sale of one, which the first attempt has made, and the page is cleared. -/
theorem receipt_of_another_cart :
    Reaches PosSystem.exec FreshKeys tillsOpen soldAnother ∧
      soldAnother.receipts = [("first", 0)] ∧ lastSent.input.lines = [⟨0, 2, 0⟩] ∧
      (soldAnother.db.sales.items.map fun i => (i.val.saleId, i.val.productId, i.val.quantity))
        = [(0, 0, 1)] ∧ (soldAnother.pages 0).cart = [] :=
  ⟨reaches_of_guarded (eq_ok_value _ _), by decide +kernel, by decide +kernel, by decide +kernel,
    by decide +kernel⟩

end GroceryErp

import GroceryErp.Sales.Finalize

/-!
# The point-of-sale page

The page a cashier sells on: a cart, the payments, and the key under which the cart is checked
out.  The key is made when the cart is first sent, and is sent again with every later attempt,
whatever has become of the cart since; a sale that comes back clears it.

## Main definitions

* `PosPage` — the state of the page.
* `PosEdit`, `PosPage.edit` — what the cashier does to the cart and the payments.
* `PosPage.handleCheckout`, `completed`, `failed`, `startNewSale` — a checkout.
* `SaleCreateInput` — what is sent.

## References

`frontend/src/pages/PosPage.tsx`, `PosPage`; `frontend/src/api/sales.ts`, `finalizeSale`;
`backend/app/api/v1/endpoints/sales.py`, `create_sale`.
-/

namespace GroceryErp

deriving instance DecidableEq for SaleLineInput

deriving instance DecidableEq for FinalizeSale

/-- What the page sends to check a cart out. -/
structure SaleCreateInput where
  storeId : ℕ
  clientTransactionId : String
  lines : List SaleLineInput
  payments : List PaymentInput
  deriving DecidableEq

/-- `create_sale`: the request of the service, with the user that the access token names. -/
def SaleCreateInput.request (input : SaleCreateInput) (cashierId : ℕ) (callerStoreId : Option ℕ)
    (today : Date) : FinalizeSale where
  storeId := input.storeId
  cashierId := cashierId
  clientTransactionId := input.clientTransactionId
  callerStoreId := callerStoreId
  lines := input.lines
  payments := input.payments
  today := today

/-- A payment; none where the field is empty. -/
structure PaymentLine where
  method : PaymentMethod
  amount : Option ℚ

/-- The page of the user `cashierId`, of the store `storeId`.  `waiting` is what was sent while
`isCheckingOut`. -/
structure PosPage where
  cashierId : ℕ
  storeId : Option ℕ
  cart : List SaleLineInput := []
  payments : List PaymentLine := [⟨.cash, none⟩]
  checkoutKey : Option String := none
  waiting : Option SaleCreateInput := none
  completedSale : Option ℕ := none

/-- What the cashier does to the cart and the payments. -/
inductive PosEdit
  | addToCart (productId : ℕ)
  | updateQuantity (productId : ℕ) (value : ℚ)
  | updateDiscount (productId : ℕ) (value : ℚ)
  | removeLine (productId : ℕ)
  | updateMethod (index : ℕ) (value : PaymentMethod)
  | updateAmount (index : ℕ) (value : Option ℚ)
  | addPaymentLine
  | removePaymentLine (index : ℕ)

namespace PosPage

variable (page : PosPage)

/-- `addToCart`: one more of the product, on the line it has or on a new one. -/
def addToCart (productId : ℕ) : List SaleLineInput :=
  if ∃ line ∈ page.cart, line.productId = productId then
    page.cart.map fun line =>
      if line.productId = productId then { line with quantity := line.quantity + 1 } else line
  else page.cart ++ [⟨productId, 1, 0⟩]

/-- `updateLine`: a change to the line of one product; the others stay. -/
def updateLine (productId : ℕ) (f : SaleLineInput → SaleLineInput) : List SaleLineInput :=
  page.cart.map fun line => if line.productId = productId then f line else line

def edit : PosEdit → PosPage
  | .addToCart productId => { page with cart := page.addToCart productId }
  | .updateQuantity productId value =>
    { page with cart := page.updateLine productId fun line => { line with quantity := value } }
  | .updateDiscount productId value =>
    { page with
      cart := page.updateLine productId fun line => { line with discountAmount := value } }
  | .removeLine productId =>
    { page with cart := page.cart.filter fun line => line.productId ≠ productId }
  | .updateMethod index value =>
    { page with payments := page.payments.modify index fun p => { p with method := value } }
  | .updateAmount index value =>
    { page with payments := page.payments.modify index fun p => { p with amount := value } }
  | .addPaymentLine => { page with payments := page.payments ++ [⟨.cash, none⟩] }
  | .removePaymentLine index => { page with payments := page.payments.eraseIdx index }

/-- What is sent of the cart, under a key. -/
def saleInput (storeId : ℕ) (key : String) : SaleCreateInput where
  storeId := storeId
  clientTransactionId := key
  lines := page.cart
  payments := page.payments.filterMap fun p => p.amount.map fun amount => ⟨p.method, amount⟩

/-- The button is there and enabled: there is something in the cart, no answer is waited for, and no
receipt is shown. -/
def CanCheckOut : Prop := page.cart ≠ [] ∧ page.waiting = none ∧ page.completedSale = none

instance : Decidable page.CanCheckOut := inferInstanceAs (Decidable (_ ∧ _))

/-- `handleCheckout`, as far as its request: `newKey` is taken where the page has no key yet.
Without a store nothing is sent. -/
def handleCheckout (newKey : String) : PosPage × Option SaleCreateInput :=
  match page.storeId with
  | none => (page, none)
  | some storeId =>
    let key := page.checkoutKey.getD newKey
    let input := page.saleInput storeId key
    ({ page with checkoutKey := some key, waiting := some input }, some input)

/-- The sale has come back: the cart is empty again, the key is done with, and the receipt is shown.
-/
def completed (saleId : ℕ) : PosPage :=
  { page with
    cart := [], payments := [⟨.cash, none⟩], checkoutKey := none, waiting := none
    completedSale := some saleId }

/-- An error has come back, or nothing; the cart and its key are kept for another try. -/
def failed : PosPage := { page with waiting := none }

/-- `startNewSale`: the key of the last checkout is dropped with its receipt. -/
def startNewSale : PosPage := { page with checkoutKey := none, completedSale := none }

/-- An edit leaves the checkout as it is. -/
theorem edit_checkout (e : PosEdit) : (page.edit e).checkoutKey = page.checkoutKey ∧
    (page.edit e).waiting = page.waiting ∧ (page.edit e).completedSale = page.completedSale ∧
    (page.edit e).cashierId = page.cashierId ∧ (page.edit e).storeId = page.storeId := by
  cases e with
  | addToCart | updateQuantity | updateDiscount | removeLine | updateMethod | updateAmount
  | addPaymentLine | removePaymentLine => exact ⟨rfl, rfl, rfl, rfl, rfl⟩

end PosPage

end GroceryErp

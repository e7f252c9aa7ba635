import GroceryErp.Lib.Choices
import GroceryErp.Losses.WriteOffs

/-!
# The rule that decides a write-off

The rules that cover an amount in a store are read without an order, and sorted by their scope
and their minimum.  The sort is stable: rules of one scope and one minimum stay as the
database had them, and the first is chosen.

## Main definitions

* `createApprovalPolicyRule` — the service function.
* `resolveRequiredRoleFrom` — the choice among the rules as the database returns them.
* `RoleDetermined` — what is chosen depends on the rules alone, and is the store's own rule
  where there is one, the administrator where there is none.
* `FirstTied` — two rules that come first alike.

## Main results

* `roleDetermined_iff` — the choice is determined when no two rules come first alike.

## References

`backend/app/modules/writeoffs/service.py`, `backend/app/modules/writeoffs/models.py`.
-/

namespace GroceryErp

open Choices Decimal Outcome Rows

/-! ### The rules -/

/-- `APPROVAL_ACTION_TYPES`: what an approval rule can be about, which so far is the write-off of a
transfer alone. -/
def approvalActionTypes : List String := ["TRANSFER_WRITE_OFF"]

/-- The CHECK constraints of `approval_policy_rules`: an amount to begin with, and a larger one to
end with, if any. -/
@[mk_iff] structure ApprovalPolicyRule.Checks (r : ApprovalPolicyRule) : Prop where
  min_amount_nonneg : 0 ≤ r.minAmount
  max_greater_than_min : ∀ m ∈ r.maxAmount, r.minAmount < m

instance : Table ApprovalPolicyRule where
  Checks := ApprovalPolicyRule.Checks
  decidableChecks r := decidable_of_iff' _ (ApprovalPolicyRule.checks_iff r)
  constraint := .approvalPolicyRules

structure CreateApprovalPolicyRule where
  actionType : String := "TRANSFER_WRITE_OFF"
  scopeStoreId : Option ℕ := none
  minAmount : ℚ
  maxAmount : Option ℚ := none
  requiredRoleId : ℕ
  escalationRoleId : Option ℕ := none
  isActive : Bool := true

/-- `create_approval_policy_rule`.  The column of the action has the one value there is, and
nothing reads the role of an escalation. -/
def createApprovalPolicyRule (db : Db) (req : CreateApprovalPolicyRule) : Result (Db × ℕ) := do
  raiseIf (req.actionType ∉ approvalActionTypes) (.validation .invalidActionType)
  raiseIf (db.master.roles[req.requiredRoleId]? = none) .notFound
  raiseIf (∃ roleId ∈ req.escalationRoleId, db.master.roles[roleId]? = none) .notFound
  let rule ← flush
    { scopeStoreId := req.scopeStoreId
      minAmount := numeric 6 req.minAmount
      maxAmount := req.maxAmount.map (numeric 6)
      requiredRoleId := req.requiredRoleId
      isActive := req.isActive : ApprovalPolicyRule }
  raiseIf (∃ storeId ∈ req.scopeStoreId, db.master.stores[storeId]? = none) (.integrity .fkStores)
  return ({ db with master.approvalRules := db.master.approvalRules ++ [rule.val] },
    db.master.approvalRules.length)

/-! ### The choice -/

/-- `_resolve_required_role`, from the rules in the order the query returns them. -/
def resolveRequiredRoleFrom (db : Db) (returned : List (ℕ × ApprovalPolicyRule)) :
    Result (ℕ × Option ℕ) :=
  match returned.insertionSort ruleBefore with
  | [] => do
    let (adminRoleId, _) ← orRaise (rowsWhere (·.name = adminRole) db.master.roles).head? .noRows
    return (adminRoleId, none)
  | (ruleId, rule) :: _ => return (rule.requiredRoleId, some ruleId)

/-- In the order of their ids. -/
theorem resolveRequiredRole_eq (db : Db) (storeId : ℕ) (amount : ℚ) :
    resolveRequiredRole db storeId amount
      = resolveRequiredRoleFrom db (rulesCovering db storeId amount) := rfl

variable {db : Db} {storeId : ℕ} {amount : ℚ} {returned : List (ℕ × ApprovalPolicyRule)}

instance : Std.Total ruleBefore where
  total r r' := by
    unfold ruleBefore
    cases r.2.scopeStoreId <;> cases r'.2.scopeStoreId <;>
      simp [le_total]

instance : IsTrans (ℕ × ApprovalPolicyRule) ruleBefore where
  trans r r' r'' := by
    unfold ruleBefore
    cases r.2.scopeStoreId <;> cases r'.2.scopeStoreId <;> cases r''.2.scopeStoreId <;>
      simp only [Option.isSome_none, Option.isSome_some, Bool.false_eq_true, false_and, true_and,
        and_false, and_true, reduceCtorEq, or_false, false_or, imp_self, implies_true,
        IsEmpty.forall_iff]
    · exact fun h h' => h'.trans h
    · exact fun h h' => h'.trans h

/-- What the head of the sorted rules comes to. -/
def chosenRole (db : Db) : Option (ℕ × ApprovalPolicyRule) → Result (ℕ × Option ℕ)
  | none => do
    let (adminRoleId, _) ← orRaise (rowsWhere (·.name = adminRole) db.master.roles).head? .noRows
    return (adminRoleId, none)
  | some (ruleId, rule) => return (rule.requiredRoleId, some ruleId)

theorem resolveRequiredRoleFrom_eq (db : Db) (returned : List (ℕ × ApprovalPolicyRule)) :
    resolveRequiredRoleFrom db returned
      = chosenRole db (returned.insertionSort ruleBefore).head? := by
  unfold resolveRequiredRoleFrom
  cases returned.insertionSort ruleBefore with
  | nil => rfl
  | cons r rest => rfl

/-- Two rules that cover the amount in the store have the same scope and the same minimum, and
no rule that covers it comes before them. -/
def FirstTied (db : Db) (storeId : ℕ) (amount : ℚ) : Prop :=
  ∃ r ∈ rulesCovering db storeId amount, ∃ r' ∈ rulesCovering db storeId amount, r.1 ≠ r'.1 ∧
    r.2.scopeStoreId = r'.2.scopeStoreId ∧ r.2.minAmount = r'.2.minAmount ∧
    ∀ x ∈ rulesCovering db storeId amount, ruleBefore r x

/-- What is chosen depends on the rules alone and not on the order in which the rows come, a rule of
the store goes before one of the company, and without a rule it is the administrator. -/
structure RoleDetermined (db : Db) (storeId : ℕ) (amount : ℚ) : Prop where
  anyOrder : ∀ returned, returned.Perm (rulesCovering db storeId amount) →
    resolveRequiredRoleFrom db returned = resolveRequiredRole db storeId amount
  ofStore : (∃ r ∈ rulesCovering db storeId amount, r.2.scopeStoreId = some storeId) →
    ∃ ruleId rule, (ruleId, rule) ∈ rulesCovering db storeId amount ∧
      rule.scopeStoreId = some storeId ∧
      resolveRequiredRole db storeId amount = .ok (rule.requiredRoleId, some ruleId)
  admin : rulesCovering db storeId amount = [] → ∀ adminRoleId role,
    rowsWhere (·.name = adminRole) db.master.roles = [(adminRoleId, role)] →
    resolveRequiredRole db storeId amount = .ok (adminRoleId, none)

/-! ### What is chosen -/

/-- A rule that covers an amount in a store is the store's own or of every store. -/
theorem scope_of_covering {r : ℕ × ApprovalPolicyRule}
    (h : r ∈ rulesCovering db storeId amount) :
    r.2.scopeStoreId = none ∨ r.2.scopeStoreId = some storeId := by
  obtain ⟨-, -, -, -, hscope⟩ := mem_rowsWhere.mp h
  cases hr : r.2.scopeStoreId with
  | none => exact .inl rfl
  | some s => exact .inr (by rw [hscope s hr])

/-- Rules that both come first have the same scope and the same minimum. -/
theorem same_of_comesFirst {r r' : ℕ × ApprovalPolicyRule}
    (h : ComesFirst ruleBefore (rulesCovering db storeId amount) r)
    (h' : ComesFirst ruleBefore (rulesCovering db storeId amount) r') :
    r.2.scopeStoreId = r'.2.scopeStoreId ∧ r.2.minAmount = r'.2.minAmount := by
  have hbefore : ruleBefore r r' := h.2 r' h'.1
  have hafter : ruleBefore r' r := h'.2 r h.1
  unfold ruleBefore at hbefore hafter
  rcases scope_of_covering h.1 with hr | hr <;> rcases scope_of_covering h'.1 with hr' | hr' <;>
    simp only [hr, hr', Option.isSome_none, Option.isSome_some, Bool.false_eq_true,
      Bool.true_eq_false, false_and, true_and, and_true, reduceCtorEq, and_false, or_false, false_or]
      at hbefore hafter
  · exact ⟨by rw [hr, hr'], le_antisymm hafter hbefore⟩
  · exact ⟨by rw [hr, hr'], le_antisymm hafter hbefore⟩

/-- One rule alone comes first unless two are tied. -/
theorem firstTied_iff : FirstTied db storeId amount ↔
    ¬∀ r r', ComesFirst ruleBefore (rulesCovering db storeId amount) r →
      ComesFirst ruleBefore (rulesCovering db storeId amount) r' → r = r' := by
  constructor
  · rintro ⟨r, hr, r', hr', hne, hscope, hmin, hfirst⟩ hunique
    have hfirst' : ∀ x ∈ rulesCovering db storeId amount, ruleBefore r' x := by
      intro x hx
      have hx := hfirst x hx
      unfold ruleBefore at hx ⊢
      rwa [← hscope, ← hmin]
    exact hne (congrArg Prod.fst (hunique r r' ⟨hr, hfirst⟩ ⟨hr', hfirst'⟩))
  · intro hnot
    by_contra htied
    refine hnot fun r r' h h' => ?_
    obtain ⟨hscope, hmin⟩ := same_of_comesFirst h h'
    have hid : r.1 = r'.1 := by
      by_contra hne
      exact htied ⟨r, h.1, r', h'.1, hne, hscope, hmin, h.2⟩
    have hrow := (mem_rowsWhere.mp h.1).1
    have hrow' := (mem_rowsWhere.mp h'.1).1
    rw [hid, hrow'] at hrow
    exact Prod.ext hid (Option.some.inj hrow).symm

/-- The choice tells which rule was first. -/
theorem chosenRole_inj {o o' : Option (ℕ × ApprovalPolicyRule)}
    (ho : ∀ r ∈ o, r ∈ rulesCovering db storeId amount)
    (ho' : ∀ r ∈ o', r ∈ rulesCovering db storeId amount)
    (hsome : o.isSome = o'.isSome) (h : chosenRole db o = chosenRole db o') : o = o' := by
  match o, o' with
  | none, none => rfl
  | some (ruleId, rule), some (ruleId', rule') =>
    simp only [chosenRole, pure, Except.pure, Except.ok.injEq, Prod.mk.injEq, Option.some.injEq] at h
    obtain ⟨-, rfl⟩ := h
    have hrow := (mem_rowsWhere.mp (ho _ rfl)).1
    have hrow' := (mem_rowsWhere.mp (ho' _ rfl)).1
    rw [hrow] at hrow'
    rw [Option.some.inj hrow']

/-- **The role and the rule are the same in whatever order the rules are returned, exactly when
no two rules come first alike.** -/
theorem anyOrder_iff :
    (∀ returned, returned.Perm (rulesCovering db storeId amount) →
      resolveRequiredRoleFrom db returned = resolveRequiredRole db storeId amount)
      ↔ ¬FirstTied db storeId amount := by
  rw [firstTied_iff, not_not, ← head?_determined_iff]
  refine forall_congr' fun returned => forall_congr' fun hperm => ?_
  rw [resolveRequiredRole_eq, resolveRequiredRoleFrom_eq, resolveRequiredRoleFrom_eq]
  constructor
  · intro h
    refine @chosenRole_inj db storeId amount _ _ ?_ ?_ ?_ h
    · intro r hr
      exact hperm.mem_iff.mp (comesFirst_of_head? hr).1
    · intro r hr
      exact (comesFirst_of_head? hr).1
    · have hlength : (returned.insertionSort ruleBefore).length
          = ((rulesCovering db storeId amount).insertionSort ruleBefore).length := by
        rw [List.length_insertionSort, List.length_insertionSort, hperm.length_eq]
      generalize returned.insertionSort ruleBefore = l at hlength
      generalize (rulesCovering db storeId amount).insertionSort ruleBefore = l' at hlength
      cases l <;> cases l' <;> simp at hlength ⊢
  · intro h
    rw [h]

/-- **A rule of the store is preferred to one of every store.** -/
theorem resolveRequiredRole_ofStore
    (h : ∃ r ∈ rulesCovering db storeId amount, r.2.scopeStoreId = some storeId) :
    ∃ ruleId rule, (ruleId, rule) ∈ rulesCovering db storeId amount ∧
      rule.scopeStoreId = some storeId ∧
      resolveRequiredRole db storeId amount = .ok (rule.requiredRoleId, some ruleId) := by
  obtain ⟨own, hown, hscope⟩ := h
  rw [resolveRequiredRole_eq, resolveRequiredRoleFrom_eq]
  cases hhead : ((rulesCovering db storeId amount).insertionSort ruleBefore).head? with
  | none =>
    rw [List.head?_eq_none_iff] at hhead
    have hperm := List.perm_insertionSort ruleBefore (rulesCovering db storeId amount)
    rw [hhead] at hperm
    rw [List.nil_perm.mp hperm] at hown
    exact absurd hown List.not_mem_nil
  | some r =>
    have hfirst := comesFirst_of_head? hhead
    refine ⟨r.1, r.2, hfirst.1, ?_, rfl⟩
    rcases scope_of_covering hfirst.1 with hnone | hsome
    · -- a rule of every store is not before the store's own
      have hbefore := hfirst.2 own hown
      simp [ruleBefore, hnone, hscope] at hbefore
    · exact hsome

theorem resolveRequiredRole_admin (h : rulesCovering db storeId amount = []) {adminRoleId : ℕ}
    {role : Role} (hadmin : rowsWhere (·.name = adminRole) db.master.roles = [(adminRoleId, role)]) :
    resolveRequiredRole db storeId amount = .ok (adminRoleId, none) := by
  rw [resolveRequiredRole_eq, h]
  change chosenRole db none = _
  simp only [chosenRole, hadmin]
  rfl

/-- **The role and the rule of a write-off depend on the rules alone, exactly when no two of
those that cover its amount in the store come first alike.** -/
theorem roleDetermined_iff (db : Db) (storeId : ℕ) (amount : ℚ) :
    RoleDetermined db storeId amount ↔ ¬FirstTied db storeId amount := by
  constructor
  · intro h
    exact anyOrder_iff.mp h.anyOrder
  · intro h
    exact ⟨anyOrder_iff.mpr h, resolveRequiredRole_ofStore,
      fun hnone _ _ hadmin => resolveRequiredRole_admin hnone hadmin⟩

/-! ### Two rules of one minimum -/

/-- A store and two roles, an administrator's and a cashier's, and no rule yet. -/
def twoRoles : Db where
  master := { stores := [⟨true, none⟩], roles := [⟨"Admin"⟩, ⟨"Cashier"⟩] }
  stock := { products := [] }

/-- A rule from nothing on that asks for an administrator, and one that asks for a cashier. -/
def adminRule : CreateApprovalPolicyRule := { minAmount := 0, requiredRoleId := 0 }
def cashierRule : CreateApprovalPolicyRule := { minAmount := 0, requiredRoleId := 1 }

def adminRuleTaken : Db × ℕ :=
  value (createApprovalPolicyRule twoRoles adminRule) (by decide +kernel)

def overlappingRules : Db × ℕ :=
  value (createApprovalPolicyRule adminRuleTaken.1 cashierRule) (by decide +kernel)

/-- Both rules are taken, and which of them decides is up to the order they are returned in. -/
theorem overlapping_rules_undetermined :
    createApprovalPolicyRule twoRoles adminRule = .ok adminRuleTaken ∧
    createApprovalPolicyRule adminRuleTaken.1 cashierRule = .ok overlappingRules ∧
    resolveRequiredRoleFrom overlappingRules.1 (rulesCovering overlappingRules.1 0 5)
      = .ok (0, some 0) ∧
    resolveRequiredRoleFrom overlappingRules.1 (rulesCovering overlappingRules.1 0 5).reverse
      = .ok (1, some 1) ∧
    ¬RoleDetermined overlappingRules.1 0 5 := by
  have hforth : resolveRequiredRoleFrom overlappingRules.1 (rulesCovering overlappingRules.1 0 5)
      = .ok (0, some 0) := by decide +kernel
  have hback : resolveRequiredRoleFrom overlappingRules.1
      (rulesCovering overlappingRules.1 0 5).reverse = .ok (1, some 1) := by decide +kernel
  refine ⟨eq_ok_value _ _, eq_ok_value _ _, hforth, hback, ?_⟩
  intro hdetermined
  have hsame := hdetermined.anyOrder _ (List.reverse_perm _)
  rw [hback, resolveRequiredRole_eq, hforth] at hsame
  simp at hsame

end GroceryErp

import GroceryErp.Losses.WriteOffs

/-!
# The permission matrix

What a role grants.  The migrations seed the roles from this table, and the service that
assigns roles reads it.

## Main definitions

* `Permission`, `allPermissions` — the permission codes.
* `RoleMatrix` — roles with what they grant.
* `roleMatrix` — the roles there are.

## References

`backend/app/modules/auth/permissions.py`.
-/

namespace GroceryErp

/-- The permission codes, one constructor for each constant of the module. -/
inductive Permission
  | productsRead | productsWrite | inventoryRead | inventoryAdjust | purchasingRead
  | purchasingWrite | purchasingReceive | posUse | salesRead | reportsRead | usersManage
  | storeSettingsRead | storeSettingsWrite | auditRead | accountingRead | accountingPost
  | accountingReverse | accountingAdmin | salesReturnRead | salesReturnWrite | salesVoid
  | salesReturnApprove | apRead | apWrite | apPost | apPay | apCredit | apReverse
  | inventoryCountWrite | inventoryCountReview | inventoryCountPost | inventoryTransferWrite
  | inventoryTransferShip | inventoryTransferReceive | inventoryTransferDiscrepancyInvestigate
  | inventoryTransferWriteoffInitiate | inventoryTransferWriteoffApprove
  | inventoryTransferWriteoffReverse | supplyChainRead | supplyChainPlan | supplyChainApprove
  | supplyChainExecute | hrRead | hrWrite | hrCompensationWrite | attendanceRead
  | attendanceWrite | payrollRead | payrollCalculate | payrollApprove | payrollPost
  | payrollReverse | shiftManage | shiftRead | shiftOverride | fiscalRead | fiscalConfigWrite
  | fiscalRetry
  deriving DecidableEq

/-- `ALL_PERMISSIONS`: every permission that a route can ask for, and that the administrator's role
has. -/
def allPermissions : List Permission :=
  [.productsRead, .productsWrite, .inventoryRead, .inventoryAdjust, .purchasingRead,
   .purchasingWrite, .purchasingReceive, .posUse, .salesRead, .reportsRead, .usersManage,
   .storeSettingsRead, .storeSettingsWrite, .auditRead, .accountingRead, .accountingPost,
   .accountingReverse, .accountingAdmin, .salesReturnRead, .salesReturnWrite, .salesVoid,
   .salesReturnApprove, .apRead, .apWrite, .apPost, .apPay, .apCredit, .apReverse,
   .inventoryCountWrite, .inventoryCountReview, .inventoryCountPost, .inventoryTransferWrite,
   .inventoryTransferShip, .inventoryTransferReceive, .inventoryTransferDiscrepancyInvestigate,
   .inventoryTransferWriteoffInitiate, .inventoryTransferWriteoffApprove,
   .inventoryTransferWriteoffReverse, .supplyChainRead, .supplyChainPlan, .supplyChainApprove,
   .supplyChainExecute, .hrRead, .hrWrite, .hrCompensationWrite, .attendanceRead,
   .attendanceWrite, .payrollRead, .payrollCalculate, .payrollApprove, .payrollPost,
   .payrollReverse, .shiftManage, .shiftRead, .shiftOverride, .fiscalRead, .fiscalConfigWrite,
   .fiscalRetry]

/-- The roles, and the permissions that each of them grants. -/
structure RoleMatrix where
  allRoles : List String
  rolePermissions : String → List Permission

/-! ### The roles there are -/

/-- `MANAGER`, who runs a store and its staff. -/
def managerRole : String := "Manager"

/-- `CASHIER`, who works at a till. -/
def cashierRole : String := "Cashier"

/-- `INVENTORY_CLERK`, who receives, counts and moves goods. -/
def inventoryClerkRole : String := "Inventory Clerk"

/-- `AUDITOR`, who reads and changes nothing. -/
def auditorRole : String := "Auditor"

/-- `HR_CLERK`, who keeps the records of employees and prepares payroll. -/
def hrClerkRole : String := "HR Clerk"

/-- `REGIONAL_MANAGER`, who decides on write-offs across stores and has no other permission. -/
def regionalManagerRole : String := "Regional Manager"

/-- `ROLE_PERMISSIONS`; a name that is none of them grants nothing. -/
def rolePermissions (roleName : String) : List Permission :=
  if roleName = adminRole then allPermissions
  else if roleName = managerRole then
    [.productsRead, .productsWrite, .inventoryRead, .inventoryAdjust, .purchasingRead,
     .purchasingWrite, .purchasingReceive, .posUse, .salesRead, .reportsRead, .auditRead,
     .accountingRead, .accountingReverse, .salesReturnRead, .salesReturnWrite, .salesVoid,
     .salesReturnApprove, .apRead, .apWrite, .apPost, .apPay, .apCredit, .apReverse,
     .inventoryCountWrite, .inventoryCountReview, .inventoryCountPost, .inventoryTransferWrite,
     .inventoryTransferShip, .inventoryTransferReceive, .inventoryTransferDiscrepancyInvestigate,
     .inventoryTransferWriteoffInitiate, .inventoryTransferWriteoffApprove, .supplyChainRead,
     .supplyChainPlan, .supplyChainApprove, .supplyChainExecute, .hrRead, .hrWrite,
     .hrCompensationWrite, .attendanceRead, .attendanceWrite, .payrollRead, .payrollCalculate,
     .payrollApprove, .shiftManage, .shiftRead, .shiftOverride, .storeSettingsRead,
     .storeSettingsWrite, .fiscalRead, .fiscalRetry]
  else if roleName = cashierRole then
    [.productsRead, .posUse, .salesRead, .salesReturnRead, .salesReturnWrite, .shiftManage,
     .shiftRead]
  else if roleName = inventoryClerkRole then
    [.productsRead, .productsWrite, .inventoryRead, .inventoryAdjust, .purchasingRead,
     .purchasingWrite, .purchasingReceive, .apRead, .apWrite, .inventoryCountWrite,
     .inventoryTransferWrite, .inventoryTransferShip, .inventoryTransferReceive,
     .inventoryTransferDiscrepancyInvestigate, .supplyChainRead, .supplyChainPlan]
  else if roleName = auditorRole then
    [.productsRead, .inventoryRead, .purchasingRead, .salesRead, .reportsRead, .auditRead,
     .accountingRead, .salesReturnRead, .apRead, .supplyChainRead, .hrRead, .attendanceRead,
     .payrollRead, .storeSettingsRead, .shiftRead, .fiscalRead]
  else if roleName = hrClerkRole then
    [.hrRead, .hrWrite, .attendanceRead, .attendanceWrite, .payrollRead, .payrollCalculate]
  else if roleName = regionalManagerRole then
    [.inventoryTransferWriteoffApprove]
  else []

/-- `ALL_ROLES` and `ROLE_PERMISSIONS`, the matrix that the roles are seeded from and that
assignments are checked against. -/
def roleMatrix : RoleMatrix where
  allRoles :=
    [adminRole, managerRole, cashierRole, inventoryClerkRole, auditorRole, hrClerkRole,
     regionalManagerRole]
  rolePermissions := rolePermissions

end GroceryErp

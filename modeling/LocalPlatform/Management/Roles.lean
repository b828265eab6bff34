import LocalPlatform.Idp.Contract
import LocalPlatform.Management.Store

/-!
# Roles and permissions

`DbRoleRepo` and `DbPermissionRepo` over the tables `roles`, `permissions`, `role_permissions` and
`application_user_roles`, as far as they are read. Every engine call is one step.
-/

namespace LocalPlatform.Management

open Resumption
open Idp (DateTime)

/-! ## Tables -/

/-- A row of the table `roles`. -/
structure RoleRow where
  id : Id
  applicationId : Id
  name : String
  description : Option String
  revokedAt : Option ℤ
  createdAt : ℤ
  updatedAt : ℤ
  deriving DecidableEq, Repr

/-- A row of the table `permissions`. -/
structure PermissionRow where
  id : Id
  applicationId : Id
  name : String
  description : Option String
  revokedAt : Option ℤ
  createdAt : ℤ
  updatedAt : ℤ
  deriving DecidableEq, Repr

/-- A row of the table `role_permissions`: a permission given to a role. -/
structure RolePermissionRow where
  id : Id
  roleId : Id
  permissionId : Id
  revokedAt : Option ℤ
  createdAt : ℤ
  updatedAt : ℤ
  deriving DecidableEq, Repr

/-- A row of the table `application_user_roles`: a role given to a user in one application. -/
structure UserRoleRow where
  id : Id
  userId : Id
  applicationId : Id
  roleId : Id
  revokedAt : Option ℤ
  createdAt : ℤ
  updatedAt : ℤ
  deriving DecidableEq, Repr

/-- A role with its columns decoded. -/
structure Role where
  id : Id
  applicationId : Id
  name : String
  description : Option String
  createdAt : DateTime
  updatedAt : DateTime
  deriving DecidableEq, Repr

/-- A permission with its columns decoded. -/
structure Permission where
  id : Id
  applicationId : Id
  name : String
  description : Option String
  createdAt : DateTime
  updatedAt : DateTime
  deriving DecidableEq, Repr

/-- The tables of `SecurityTable` that the two repositories use. -/
inductive SecurityTable where
  | permission
  | role
  | rolePermission
  | userRole
  deriving DecidableEq, Repr

/-- A row named by its table and identifier, as the conflict check takes it. -/
structure SecurityRow where
  table : SecurityTable
  id : Id
  deriving DecidableEq, Repr

/-- The tables, and the rows in which the engine reports a conflict. -/
structure RoleTables where
  roles : List RoleRow
  permissions : List PermissionRow
  rolePermissions : List RolePermissionRow
  userRoles : List UserRoleRow
  conflicted : SecurityRow → Bool

/-- What an engine call does. -/
inductive RoleCall where
  | select (table : SecurityTable)
  | rowConflicts (row : SecurityRow)
  deriving DecidableEq, Repr

/-- A call of the two repositories: steps over their four tables. -/
abbrev RoleTask := Task RoleCall RoleTables ManagementError

/-- `allows_authorization` of the rows, or the error with the message of the repository. -/
def ensureRowsClear (message : String) (rows : List SecurityRow) : RoleTask Unit :=
  rows.forM fun row => .read (.rowConflicts row) fun tables =>
    if tables.conflicted row then .error (.invalidInput message) else .ok ()

/-- A number of seconds as a point in time, or the error with the message of the repository. -/
def roleTimestamp (message : String) (value : ℤ) : ManagementResult DateTime :=
  (DateTime.fromTimestamp value).elim (.error (.invalidInput message)) .ok

/-- `TryFrom<RoleRow> for Role` -/
def RoleRow.toRole (row : RoleRow) : ManagementResult Role := do
  pure
    { id := row.id
      applicationId := row.applicationId
      name := row.name
      description := row.description
      createdAt := ← roleTimestamp "invalid timestamp" row.createdAt
      updatedAt := ← roleTimestamp "invalid timestamp" row.updatedAt }

/-- `TryFrom<PermissionRow> for Permission` of the permission repository. -/
def PermissionRow.toPermission (row : PermissionRow) : ManagementResult Permission := do
  pure
    { id := row.id
      applicationId := row.applicationId
      name := row.name
      description := row.description
      createdAt := ← roleTimestamp "invalid permission timestamp" row.createdAt
      updatedAt := ← roleTimestamp "invalid permission timestamp" row.updatedAt }

/-! ## The role repository -/

namespace RoleRepo

/-- The query of `DbRoleRepo` over `roles`. -/
def roles : RoleTask (List RoleRow) := .read (.select .role) fun tables => .ok tables.roles

/-- The query of `DbRoleRepo` over `application_user_roles`. -/
def userRoles : RoleTask (List UserRoleRow) :=
  .read (.select .userRole) fun tables => .ok tables.userRoles

/-- `ensure_clear` of `DbRoleRepo`. -/
def ensureClear (rows : List SecurityRow) : RoleTask Unit :=
  ensureRowsClear "conflicted authorization state" rows

/-- `ensure_role_clear`. -/
def ensureRoleClear (roleId : Id) : RoleTask Unit := ensureClear [⟨.role, roleId⟩]

/-- `DbRoleRepo::role`: a revoked role, or one of another application, is not found. -/
def role (applicationId roleId : Id) : RoleTask (Option Role) := do
  let rows ← roles
  match rows.find? fun row =>
      row.id == roleId && row.applicationId == applicationId && row.revokedAt.isNone with
  | none => pure none
  | some row => do
    let role ← Task.lift row.toRole
    ensureRoleClear role.id
    pure (some role)

/-- The roles behind a list of links. A link to a role that is gone or revoked gives none. -/
def linkedRoles (applicationId : Id) : List UserRoleRow → RoleTask (List Role)
  | [] => pure []
  | link :: links => do
    match ← role applicationId link.roleId with
    | some role => do pure (role :: (← linkedRoles applicationId links))
    | none => linkedRoles applicationId links

/-- `DbRoleRepo::list_user_roles`: every live link is checked for conflicts before its role is read. -/
def listUserRoles (applicationId userId : Id) : RoleTask (List Role) := do
  let rows ← userRoles
  let links := rows.filter fun row =>
    row.applicationId == applicationId && row.userId == userId && row.revokedAt.isNone
  links.forM fun link => ensureClear [⟨.userRole, link.id⟩]
  let found ← linkedRoles applicationId links
  pure (found.insertionSort fun a b => a.name ≤ b.name)

/-- The query of `DbRoleRepo` over `permissions`. -/
def permissions : RoleTask (List PermissionRow) :=
  .read (.select .permission) fun tables => .ok tables.permissions

/-- The query of `DbRoleRepo` over `role_permissions`. -/
def rolePermissions : RoleTask (List RolePermissionRow) :=
  .read (.select .rolePermission) fun tables => .ok tables.rolePermissions

/-- `TryFrom<PermissionRow> for Permission` of the role repository. -/
def toPermission (row : PermissionRow) : ManagementResult Permission := do
  pure
    { id := row.id
      applicationId := row.applicationId
      name := row.name
      description := row.description
      createdAt := ← roleTimestamp "invalid timestamp" row.createdAt
      updatedAt := ← roleTimestamp "invalid timestamp" row.updatedAt }

/-- `DbRoleRepo::list_user_permissions`: what the live roles of the user hold, by name. -/
def listUserPermissions (applicationId userId : Id) : RoleTask (List Permission) := do
  let userRoles ← listUserRoles applicationId userId
  let roleIds := userRoles.map (·.id)
  let links := (← rolePermissions).filter fun row =>
    roleIds.contains row.roleId && row.revokedAt.isNone
  links.forM fun link => ensureClear [⟨.rolePermission, link.id⟩]
  let permissionIds := links.map (·.permissionId)
  let found ← Task.lift (((← permissions).filter fun row =>
    row.applicationId == applicationId && permissionIds.contains row.id &&
      row.revokedAt.isNone).mapM toPermission)
  let sorted := found.insertionSort fun a b => a.name ≤ b.name
  sorted.forM fun permission => ensureClear [⟨.permission, permission.id⟩]
  pure sorted

/-- The text without the character at its end. -/
def stripSuffix (text : String) (c : Char) : Option String :=
  if text.toList.getLast? = some c then some (String.ofList text.toList.dropLast) else none

/-- `str::starts_with`. -/
def startsWith (text start : String) : Bool := start.toList.isPrefixOf text.toList

/-- `permission_matches`. A star at the end stands for any continuation, after a colon or a dot
for one after either of them. -/
def permissionMatches (granted required : String) : Bool :=
  if granted = "*" ∨ granted = required then true
  else
    match stripSuffix granted '*' with
    | none => false
    | some stem =>
      startsWith required stem ||
        (stripSuffix stem ':').any (fun stem => startsWith required (stem ++ ".")) ||
        (stripSuffix stem '.').any (fun stem => startsWith required (stem ++ ":"))

/-- `has_user_application_permission`: one held permission has to match the wanted name. -/
def hasUserApplicationPermission (userId applicationId : Id) (permissionName : String) :
    RoleTask Bool := do
  let found ← listUserPermissions applicationId userId
  pure (found.any fun permission => permissionMatches permission.name permissionName)

end RoleRepo

/-! ## The permission repository -/

namespace PermissionRepo

/-- The query of `DbPermissionRepo` over `permissions`. -/
def permissions : RoleTask (List PermissionRow) :=
  .read (.select .permission) fun tables => .ok tables.permissions

/-- The query of `DbPermissionRepo` over `role_permissions`. -/
def rolePermissions : RoleTask (List RolePermissionRow) :=
  .read (.select .rolePermission) fun tables => .ok tables.rolePermissions

/-- `ensure_clear` of `DbPermissionRepo`, with its own message. -/
def ensureClear (rows : List SecurityRow) : RoleTask Unit :=
  ensureRowsClear "conflicted permission state" rows

/-- `role`. Only the columns that the filter needs are selected, so nothing is decoded. -/
def role (applicationId roleId : Id) : RoleTask (Option RoleRow) := do
  let rows ← RoleRepo.roles
  match rows.find? fun row =>
      row.id == roleId && row.applicationId == applicationId && row.revokedAt.isNone with
  | none => pure none
  | some row => do
    ensureClear [⟨.role, row.id⟩]
    pure (some row)

/-- The permissions behind a list of links, taken from the rows that were read before. The filter
asks neither the link nor the permission whether it is revoked. -/
def linkedPermissions (applicationId : Id) (rows : List PermissionRow) :
    List RolePermissionRow → RoleTask (List Permission)
  | [] => pure []
  | link :: links => do
    ensureClear [⟨.rolePermission, link.id⟩]
    match rows.find? fun row =>
        row.id == link.permissionId && row.applicationId == applicationId with
    | some row => do
      let permission ← Task.lift row.toPermission
      ensureClear [⟨.permission, permission.id⟩]
      pure (permission :: (← linkedPermissions applicationId rows links))
    | none => linkedPermissions applicationId rows links

/-- `DbPermissionRepo::list_role_permissions`: the role has to exist in the application. -/
def listRolePermissions (applicationId roleId : Id) : RoleTask (List Permission) := do
  let _ ← okOr (← role applicationId roleId) (.invalidInput "role not found")
  let links ← rolePermissions
  let rows ← permissions
  let found ← linkedPermissions applicationId rows (links.filter fun row => row.roleId == roleId)
  pure (found.insertionSort fun a b => a.name ≤ b.name)

end PermissionRepo

end LocalPlatform.Management

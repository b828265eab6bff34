import LocalPlatform.Management.Roles

/-!
# Who has a permission

`has_user_application_permission` follows the links of four tables. On tables that can be read, its
answer is the existence of a chain of rows from the user to a matching permission, all of one
application and none revoked. So links without their rows grant nothing, and the rows of other
applications do not matter.
-/

namespace LocalPlatform.Management

open Resumption List Except

/-- The tables have no conflicted rows, and roles and permissions can be decoded. -/
structure RoleTables.Readable (tables : RoleTables) : Prop where
  roles : ∀ row ∈ tables.roles,
    tables.conflicted ⟨.role, row.id⟩ = false ∧ ∃ role, row.toRole = .ok role
  permissions : ∀ row ∈ tables.permissions,
    tables.conflicted ⟨.permission, row.id⟩ = false ∧
      ∃ permission, RoleRepo.toPermission row = .ok permission
  rolePermissions : ∀ row ∈ tables.rolePermissions,
    tables.conflicted ⟨.rolePermission, row.id⟩ = false
  userRoles : ∀ row ∈ tables.userRoles, tables.conflicted ⟨.userRole, row.id⟩ = false

namespace RoleTables

/-- The application has the role, and the role is not revoked. -/
def HasRole (tables : RoleTables) (applicationId roleId : Id) : Prop :=
  ∃ row ∈ tables.roles, row.id = roleId ∧ row.applicationId = applicationId ∧ row.revokedAt = none

/-- The user has a link of the application to the role, which is not revoked. -/
def LinksUser (tables : RoleTables) (applicationId userId roleId : Id) : Prop :=
  ∃ link ∈ tables.userRoles, link.applicationId = applicationId ∧ link.userId = userId ∧
    link.roleId = roleId ∧ link.revokedAt = none

/-- The role has a link to the permission, which is not revoked. -/
def LinksPermission (tables : RoleTables) (roleId permissionId : Id) : Prop :=
  ∃ link ∈ tables.rolePermissions, link.roleId = roleId ∧ link.permissionId = permissionId ∧
    link.revokedAt = none

/-- The row is a permission of the application that is not revoked, and it is linked to a role of
the application that is linked to the user. -/
def Grants (tables : RoleTables) (applicationId userId : Id) (row : PermissionRow) : Prop :=
  row.applicationId = applicationId ∧ row.revokedAt = none ∧
    ∃ roleId, tables.LinksUser applicationId userId roleId ∧
      tables.HasRole applicationId roleId ∧ tables.LinksPermission roleId row.id

end RoleTables

namespace RoleRepo

variable {tables : RoleTables} {applicationId userId roleId : Id} {row : PermissionRow}

/-! ## Roles of a user -/

lemma ensureClear_run {message : String} {rows : List SecurityRow}
    (hclear : ∀ row ∈ rows, tables.conflicted row = false) :
    (ensureRowsClear message rows).run tables = (.ok (), tables) := by
  induction rows with
  | nil => rfl
  | cons row rows ih =>
    have hrow := hclear row mem_cons_self
    have hrest := ih fun other hother => hclear other (mem_cons_of_mem row hother)
    exact run_bind_ok.mpr ⟨(), tables, by simp [hrow], hrest⟩

/-- Rows that are checked one by one. -/
lemma forM_ensureClear_run {α : Type} {f : α → SecurityRow} {l : List α}
    (hclear : ∀ a ∈ l, tables.conflicted (f a) = false) :
    (l.forM fun a => ensureClear [f a]).run tables = (.ok (), tables) := by
  induction l with
  | nil => rfl
  | cons a l ih =>
    have hfirst : (ensureClear [f a]).run tables = (.ok (), tables) :=
      ensureClear_run (by simpa using hclear a mem_cons_self)
    have hrest := ih fun b hb => hclear b (mem_cons_of_mem a hb)
    exact run_bind_ok.mpr ⟨(), tables, hfirst, hrest⟩

lemma toRole_id {row : RoleRow} {role : Role} (h : row.toRole = .ok role) : role.id = row.id := by
  obtain ⟨_, -, h⟩ := except_bind_ok.mp h
  obtain ⟨_, -, h⟩ := except_bind_ok.mp h
  obtain rfl := ok.inj h
  rfl

lemma toPermission_fields {permission : Permission} (h : toPermission row = .ok permission) :
    permission.id = row.id ∧ permission.name = row.name := by
  obtain ⟨_, -, h⟩ := except_bind_ok.mp h
  obtain ⟨_, -, h⟩ := except_bind_ok.mp h
  obtain rfl := ok.inj h
  exact ⟨rfl, rfl⟩

/-- The row of a role that the application has. -/
def roleRow (tables : RoleTables) (applicationId roleId : Id) : Option RoleRow :=
  tables.roles.find? fun row =>
    row.id == roleId && row.applicationId == applicationId && row.revokedAt.isNone

/-- A role is found exactly where the application has it. -/
lemma exists_roleRow :
    (∃ row, roleRow tables applicationId roleId = some row) ↔
      tables.HasRole applicationId roleId := by
  rw [← Option.isSome_iff_exists]
  simp [roleRow, RoleTables.HasRole, and_assoc]

lemma roleRow_some {row : RoleRow} (h : roleRow tables applicationId roleId = some row) :
    row ∈ tables.roles ∧ row.id = roleId := by
  have hmatch := find?_some h
  simp only [Bool.and_eq_true, beq_iff_eq] at hmatch
  exact ⟨mem_of_find?_eq_some h, hmatch.1.1⟩

section
variable (hreadable : tables.Readable)
include hreadable

lemma role_run (applicationId roleId : Id) :
    (role applicationId roleId).run tables =
      (.ok ((roleRow tables applicationId roleId).bind (·.toRole.toOption)), tables) := by
  refine run_bind_ok.mpr ⟨tables.roles, tables, rfl, ?_⟩
  rw [← roleRow]
  cases hrow : roleRow tables applicationId roleId with
  | none => rfl
  | some row =>
    obtain ⟨hclear, found, hdecs⟩ := hreadable.roles row (roleRow_some hrow).1
    refine run_bind_ok.mpr ⟨found, tables, congrArg (·, tables) hdecs, ?_⟩
    refine run_bind_ok.mpr ⟨(), tables, ensureClear_run ?_, ?_⟩
    · simpa [toRole_id hdecs] using hclear
    · simp [hdecs, Except.toOption]

lemma linkedRoles_run (applicationId : Id) (links : List UserRoleRow) :
    (linkedRoles applicationId links).run tables = (.ok (links.filterMap fun link =>
      (roleRow tables applicationId link.roleId).bind (·.toRole.toOption)), tables) := by
  induction links with
  | nil => rfl
  | cons link links ih =>
    refine run_bind_ok.mpr ⟨_, tables, role_run hreadable applicationId link.roleId, ?_⟩
    rw [filterMap_cons]
    cases (roleRow tables applicationId link.roleId).bind (·.toRole.toOption) with
    | none => exact ih
    | some role => exact run_bind_ok.mpr ⟨_, tables, ih, rfl⟩

/-- The roles behind links are those that the application has. -/
lemma mem_linkedRoles {links : List UserRoleRow} :
    roleId ∈ (links.filterMap fun link =>
        (roleRow tables applicationId link.roleId).bind (·.toRole.toOption)).map (·.id) ↔
      (∃ link ∈ links, link.roleId = roleId) ∧ tables.HasRole applicationId roleId := by
  simp only [mem_map, mem_filterMap, Option.bind_eq_some_iff, toOption_eq_some,
    ← exists_roleRow]
  constructor
  · rintro ⟨role, ⟨link, hlink, row, hrow, hdecs⟩, rfl⟩
    have hid : role.id = link.roleId := (toRole_id hdecs).trans (roleRow_some hrow).2
    exact ⟨⟨link, hlink, hid.symm⟩, row, hid ▸ hrow⟩
  · rintro ⟨⟨link, hlink, rfl⟩, row, hrow⟩
    obtain ⟨-, role, hdecs⟩ := hreadable.roles row (roleRow_some hrow).1
    exact ⟨role, ⟨link, hlink, row, hrow, hdecs⟩,
      (toRole_id hdecs).trans (roleRow_some hrow).2⟩

/-- The roles of a user are the live ones the live links name. -/
lemma listUserRoles_run (applicationId userId : Id) :
    ∃ roles, (listUserRoles applicationId userId).run tables = (.ok roles, tables) ∧
      ∀ roleId, roleId ∈ roles.map (·.id) ↔
        tables.LinksUser applicationId userId roleId ∧ tables.HasRole applicationId roleId := by
  have hroles := linkedRoles_run hreadable applicationId (tables.userRoles.filter fun row =>
    row.applicationId == applicationId && row.userId == userId && row.revokedAt.isNone)
  set roles := filterMap _ _ with hdef
  refine ⟨roles.insertionSort fun a b => a.name ≤ b.name, ?_, fun roleId => ?_⟩
  · refine run_bind_ok.mpr ⟨tables.userRoles, tables, rfl, ?_⟩
    refine run_bind_ok.mpr ⟨(), tables, forM_ensureClear_run fun link hlink => ?_, ?_⟩
    · exact hreadable.userRoles link (mem_of_mem_filter hlink)
    · exact run_bind_ok.mpr ⟨roles, tables, hroles, rfl⟩
  · have hsorted : roleId ∈ (roles.insertionSort fun a b => a.name ≤ b.name).map (·.id) ↔
        roleId ∈ roles.map (·.id) :=
      ((perm_insertionSort _ roles).map _).mem_iff
    rw [hsorted, hdef, mem_linkedRoles hreadable]
    refine and_congr_left fun _ => ?_
    constructor
    · rintro ⟨link, hlink, hrole⟩
      obtain ⟨hmem, hmatch⟩ := mem_filter.mp hlink
      simp only [Bool.and_eq_true, beq_iff_eq, Option.isNone_iff_eq_none] at hmatch
      exact ⟨link, hmem, hmatch.1.1, hmatch.1.2, hrole, hmatch.2⟩
    · rintro ⟨link, hmem, happ, huser, hrole, hrev⟩
      refine ⟨link, mem_filter.mpr ⟨hmem, ?_⟩, hrole⟩
      simp [happ, huser, hrev]

end

/-! ## Permissions of a user -/

/-- The links that `list_user_permissions` follows from the roles of the user. -/
def grantedLinks (tables : RoleTables) (roleIds : List Id) : List RolePermissionRow :=
  tables.rolePermissions.filter fun row => roleIds.contains row.roleId && row.revokedAt.isNone

/-- The rows of the permissions at the end of the links. -/
def grantedRows (tables : RoleTables) (applicationId : Id) (roleIds : List Id) :
    List PermissionRow :=
  tables.permissions.filter fun row =>
    row.applicationId == applicationId &&
      ((grantedLinks tables roleIds).map (·.permissionId)).contains row.id && row.revokedAt.isNone

/-- A permission is granted through a role of the user. -/
lemma mem_grantedRows {roleIds : List Id} (hroleIds : ∀ roleId, roleId ∈ roleIds ↔
      tables.LinksUser applicationId userId roleId ∧ tables.HasRole applicationId roleId) :
    row ∈ grantedRows tables applicationId roleIds ↔
      row ∈ tables.permissions ∧ tables.Grants applicationId userId row := by
  have hlinked : ((grantedLinks tables roleIds).map (·.permissionId)).contains row.id = true ↔
      ∃ roleId, tables.LinksUser applicationId userId roleId ∧
        tables.HasRole applicationId roleId ∧ tables.LinksPermission roleId row.id := by
    rw [contains_iff_mem, mem_map]
    constructor
    · rintro ⟨link, hlink, hperm⟩
      obtain ⟨hmem, hmatch⟩ := mem_filter.mp hlink
      simp only [Bool.and_eq_true, contains_iff_mem, Option.isNone_iff_eq_none] at hmatch
      obtain ⟨huser, hhas⟩ := (hroleIds link.roleId).mp hmatch.1
      exact ⟨link.roleId, huser, hhas, link, hmem, rfl, hperm, hmatch.2⟩
    · rintro ⟨roleId, huser, hhas, link, hmem, rfl, hperm, hrev⟩
      refine ⟨link, mem_filter.mpr ⟨hmem, ?_⟩, hperm⟩
      have hrole := (hroleIds link.roleId).mpr ⟨huser, hhas⟩
      simp [hrole, hrev]
  rw [grantedRows, mem_filter, Bool.and_eq_true, Bool.and_eq_true, beq_iff_eq,
    Option.isNone_iff_eq_none, hlinked, RoleTables.Grants]
  tauto

/-- The list holds every granted permission and no other. -/
lemma listUserPermissions_run (hreadable : tables.Readable) (applicationId userId : Id) :
    ∃ found, (listUserPermissions applicationId userId).run tables = (.ok found, tables) ∧
      ∀ permission, permission ∈ found ↔ ∃ row ∈ tables.permissions,
        tables.Grants applicationId userId row ∧ toPermission row = .ok permission := by
  obtain ⟨roles, hroles, hspec⟩ := listUserRoles_run hreadable applicationId userId
  set rows := grantedRows tables applicationId (roles.map (·.id)) with hrows
  have hsto : ∀ row ∈ rows, row ∈ tables.permissions := fun row hrow =>
    mem_of_mem_filter hrow
  obtain ⟨found, hfound⟩ : ∃ found, rows.mapM toPermission = .ok found :=
    exists_mapM_ok fun row hrow => (hreadable.permissions row (hsto row hrow)).2
  have hmem : ∀ permission, permission ∈ found.insertionSort (fun a b => a.name ≤ b.name) ↔
      ∃ row ∈ rows, toPermission row = .ok permission := by
    intro permission
    rw [mem_insertionSort, mem_mapM hfound]
  refine ⟨found.insertionSort fun a b => a.name ≤ b.name, ?_, fun permission => ?_⟩
  · refine run_bind_ok.mpr ⟨roles, tables, hroles, ?_⟩
    refine run_bind_ok.mpr ⟨tables.rolePermissions, tables, rfl, ?_⟩
    refine run_bind_ok.mpr ⟨(), tables, forM_ensureClear_run fun link hlink => ?_, ?_⟩
    · exact hreadable.rolePermissions link (mem_of_mem_filter hlink)
    refine run_bind_ok.mpr ⟨tables.permissions, tables, rfl, ?_⟩
    refine run_bind_ok.mpr ⟨found, tables, ?_, ?_⟩
    · exact congrArg (·, tables) hfound
    refine run_bind_ok.mpr ⟨(), tables, forM_ensureClear_run fun permission hperm => ?_,
      rfl⟩
    obtain ⟨row, hrow, hdecs⟩ := (hmem permission).mp hperm
    rw [(toPermission_fields hdecs).1]
    exact (hreadable.permissions row (hsto row hrow)).1
  · rw [hmem permission]
    constructor
    · rintro ⟨row, hrow, hdecs⟩
      obtain ⟨hperm, hgrs⟩ := (mem_grantedRows hspec).mp hrow
      exact ⟨row, hperm, hgrs, hdecs⟩
    · rintro ⟨row, hperm, hgrs, hdecs⟩
      exact ⟨row, (mem_grantedRows hspec).mpr ⟨hperm, hgrs⟩, hdecs⟩

/-- There is a permission of the user that matches the name. -/
def Permitted (tables : RoleTables) (userId applicationId : Id) (permissionName : String) : Prop :=
  ∃ row ∈ tables.permissions, tables.Grants applicationId userId row ∧
    permissionMatches row.name permissionName = true

/-- The answer is whether a granted permission matches. -/
lemma hasUserApplicationPermission_eval (hreadable : tables.Readable) (userId applicationId : Id)
    (permissionName : String) :
    ∃ answer, (hasUserApplicationPermission userId applicationId permissionName).eval tables =
      .ok answer ∧ (answer = true ↔ Permitted tables userId applicationId permissionName) := by
  obtain ⟨found, hfound, hspec⟩ := listUserPermissions_run hreadable applicationId userId
  refine ⟨_, eval_of_run (run_bind_ok.mpr ⟨found, tables, hfound, rfl⟩), ?_⟩
  rw [any_eq_true]
  constructor
  · rintro ⟨permission, hperm, hmatch⟩
    obtain ⟨row, hrow, hgrs, hdecs⟩ := (hspec permission).mp hperm
    rw [(toPermission_fields hdecs).2] at hmatch
    exact ⟨row, hrow, hgrs, hmatch⟩
  · rintro ⟨row, hrow, hgrs, hmatch⟩
    obtain ⟨permission, hdecs⟩ := (hreadable.permissions row hrow).2
    refine ⟨permission, (hspec permission).mpr ⟨row, hrow, hgrs, hdecs⟩, ?_⟩
    rw [(toPermission_fields hdecs).2]
    exact hmatch

/-! ## Other applications, and rows that are gone -/

/-- The rows of the application are the same. A link from a role to a permission is a row of the
application if both its ends are. -/
structure SameApplication (applicationId : Id) (tables tables' : RoleTables) : Prop where
  roles : ∀ row : RoleRow, row.applicationId = applicationId →
    (row ∈ tables.roles ↔ row ∈ tables'.roles)
  permissions : ∀ row : PermissionRow, row.applicationId = applicationId →
    (row ∈ tables.permissions ↔ row ∈ tables'.permissions)
  userRoles : ∀ row : UserRoleRow, row.applicationId = applicationId →
    (row ∈ tables.userRoles ↔ row ∈ tables'.userRoles)
  rolePermissions : ∀ row : RolePermissionRow,
    (∃ role ∈ tables.roles, role.id = row.roleId ∧ role.applicationId = applicationId) →
    (∃ permission ∈ tables.permissions, permission.id = row.permissionId ∧
      permission.applicationId = applicationId) →
    (row ∈ tables.rolePermissions ↔ row ∈ tables'.rolePermissions)

variable {tables' : RoleTables} {permissionName : String}

section
variable (hsame : SameApplication applicationId tables tables')
include hsame

lemma SameApplication.symm :
    SameApplication applicationId tables' tables where
  roles row happ := (hsame.roles row happ).symm
  permissions row happ := (hsame.permissions row happ).symm
  userRoles row happ := (hsame.userRoles row happ).symm
  rolePermissions := by
    rintro row ⟨role, hrole, hroleId, hroleApp⟩
      ⟨permission, hperm, hpermissionId, hpermApp⟩
    have hrole' := (hsame.roles role hroleApp).mpr hrole
    have hperm' := (hsame.permissions permission hpermApp).mpr hperm
    exact (hsame.rolePermissions row ⟨role, hrole', hroleId, hroleApp⟩
      ⟨permission, hperm', hpermissionId, hpermApp⟩).symm

/-- A chain of rows of the application is a chain in any tables with the same rows of it. -/
lemma SameApplication.permitted
    (hpermitted : Permitted tables userId applicationId permissionName) :
    Permitted tables' userId applicationId permissionName := by
  obtain ⟨row, hrow, ⟨happ, hrev, roleId, huser, hhas, hlinks⟩, hmatch⟩ := hpermitted
  obtain ⟨link, hlink, hlinkApp, hlinkUser⟩ := huser
  obtain ⟨role, hrole, hroleId, hroleApp, hroleRevoked⟩ := hhas
  obtain ⟨grant, hgrant, hgrantRole, hgrantPerm, hgrantRevoked⟩ := hlinks
  have hgrant' := (hsame.rolePermissions grant
    ⟨role, hrole, hroleId.trans hgrantRole.symm, hroleApp⟩
    ⟨row, hrow, hgrantPerm.symm, happ⟩).mp hgrant
  refine ⟨row, (hsame.permissions row happ).mp hrow, ⟨happ, hrev, roleId,
    ⟨link, (hsame.userRoles link hlinkApp).mp hlink, hlinkApp, hlinkUser⟩,
    ⟨role, (hsame.roles role hroleApp).mp hrole, hroleId, hroleApp, hroleRevoked⟩,
    ⟨grant, hgrant', hgrantRole, hgrantPerm, hgrantRevoked⟩⟩, hmatch⟩

end

/-- The tables without the links that miss a row at one of their ends. -/
def withoutDangling (tables : RoleTables) : RoleTables where
  roles := tables.roles
  permissions := tables.permissions
  rolePermissions := tables.rolePermissions.filter fun link =>
    (tables.roles.any fun role => role.id == link.roleId) &&
      (tables.permissions.any fun permission => permission.id == link.permissionId)
  userRoles := tables.userRoles.filter fun link =>
    tables.roles.any fun role => role.id == link.roleId
  conflicted := tables.conflicted

lemma withoutDangling_readable (hreadable : tables.Readable) :
    (withoutDangling tables).Readable where
  roles := hreadable.roles
  permissions := hreadable.permissions
  rolePermissions link hlink := hreadable.rolePermissions link (mem_of_mem_filter hlink)
  userRoles link hlink := hreadable.userRoles link (mem_of_mem_filter hlink)

/-- Every chain of rows goes through links that have both their ends. -/
lemma withoutDangling_permitted :
    Permitted (withoutDangling tables) userId applicationId permissionName ↔
      Permitted tables userId applicationId permissionName := by
  constructor
  · rintro ⟨row, hrow, ⟨happ, hrev, roleId, ⟨link, hlink, huser⟩, hhas,
      ⟨grant, hgrant, hlinks⟩⟩, hmatch⟩
    exact ⟨row, hrow, ⟨happ, hrev, roleId,
      ⟨link, mem_of_mem_filter hlink, huser⟩, hhas,
      ⟨grant, mem_of_mem_filter hgrant, hlinks⟩⟩, hmatch⟩
  · rintro ⟨row, hrow, ⟨happ, hrev, roleId, ⟨link, hlink, huser⟩,
      ⟨role, hrole, hroleId, hroleRest⟩, ⟨grant, hgrant, hlinks⟩⟩, hmatch⟩
    have hroleLink : (tables.roles.any fun role => role.id == link.roleId) = true :=
      any_eq_true.mpr ⟨role, hrole, by simp [hroleId, huser.2.2.1]⟩
    have hroleGrant : (tables.roles.any fun role => role.id == grant.roleId) = true :=
      any_eq_true.mpr ⟨role, hrole, by simp [hroleId, hlinks.1]⟩
    have hpermGrant :
        (tables.permissions.any fun permission => permission.id == grant.permissionId) = true :=
      any_eq_true.mpr ⟨row, hrow, by simp [hlinks.2.1]⟩
    refine ⟨row, hrow, ⟨happ, hrev, roleId, ⟨link, ?_, huser⟩,
      ⟨role, hrole, hroleId, hroleRest⟩, ⟨grant, ?_, hlinks⟩⟩, hmatch⟩
    · exact mem_filter.mpr ⟨hlink, hroleLink⟩
    · exact mem_filter.mpr ⟨hgrant, by simp [hroleGrant, hpermGrant]⟩

/-- Tables that permit alike answer alike. -/
lemma hasUserApplicationPermission_congr
    (hreadable : tables.Readable) (hread' : tables'.Readable)
    (hsame : Permitted tables' userId applicationId permissionName ↔
      Permitted tables userId applicationId permissionName) :
    (hasUserApplicationPermission userId applicationId permissionName).eval tables' =
      (hasUserApplicationPermission userId applicationId permissionName).eval tables := by
  obtain ⟨answer, heval, hans⟩ :=
    hasUserApplicationPermission_eval hreadable userId applicationId permissionName
  obtain ⟨answer', heval', hans'⟩ :=
    hasUserApplicationPermission_eval hread' userId applicationId permissionName
  have hequal : answer' = answer := by
    rw [Bool.eq_iff_iff, hans', hans, hsame]
  rw [heval, heval', hequal]

/-- The answer on readable tables: it is true exactly if there is a chain of rows of the
application, none of them revoked, from the user to a matching permission. Links that miss a row
and rows of other applications do not change it. -/
theorem user_permission_by_chain (tables : RoleTables) (hreadable : tables.Readable)
    (userId applicationId : Id) (permissionName : String) :
    (∃ answer, (hasUserApplicationPermission userId applicationId permissionName).eval tables =
        .ok answer ∧ (answer = true ↔ Permitted tables userId applicationId permissionName)) ∧
      (hasUserApplicationPermission userId applicationId permissionName).eval
          (withoutDangling tables) =
        (hasUserApplicationPermission userId applicationId permissionName).eval tables ∧
      ∀ tables' : RoleTables, tables'.Readable → SameApplication applicationId tables tables' →
        (hasUserApplicationPermission userId applicationId permissionName).eval tables' =
          (hasUserApplicationPermission userId applicationId permissionName).eval tables := by
  refine ⟨hasUserApplicationPermission_eval hreadable userId applicationId permissionName, ?_, ?_⟩
  · exact hasUserApplicationPermission_congr hreadable (withoutDangling_readable hreadable)
      withoutDangling_permitted
  · intro tables' hread' hsame
    exact hasUserApplicationPermission_congr hreadable hread'
      ⟨hsame.symm.permitted, hsame.permitted⟩

/-! ## What the role view shows -/

/-- The permissions behind the links of a role. Neither the links nor the permissions are asked
whether they are revoked. -/
def viewed (tables : RoleTables) (applicationId : Id) (links : List RolePermissionRow) :
    List Permission :=
  links.filterMap fun link => (tables.permissions.find? fun row =>
    row.id == link.permissionId && row.applicationId == applicationId).bind
      (toPermission · |>.toOption)

/-- The user is granted what is shown of the roles of the user. -/
def RoleViewAgrees (tables : RoleTables) (applicationId userId : Id) : Prop :=
  ∃ granted roles shown, (listUserPermissions applicationId userId).eval tables = .ok granted ∧
    (listUserRoles applicationId userId).eval tables = .ok roles ∧
    (roles.mapM fun role =>
      (PermissionRepo.listRolePermissions applicationId role.id).eval tables) = .ok shown ∧
    ∀ permission, permission ∈ granted ↔ permission ∈ shown.flatten

/-- The row is a permission of the application, and a role of the user has a link to it. Either of
them may be revoked. -/
def Shown (tables : RoleTables) (applicationId userId : Id) (row : PermissionRow) : Prop :=
  row.applicationId = applicationId ∧ ∃ link ∈ tables.rolePermissions, link.permissionId = row.id ∧
    tables.LinksUser applicationId userId link.roleId ∧ tables.HasRole applicationId link.roleId

lemma toPermission_ok {permission : Permission} (h : toPermission row = .ok permission) :
    row.toPermission = .ok permission := by
  simp only [PermissionRow.toPermission, toPermission, roleTimestamp] at h ⊢
  cases hcre : Idp.DateTime.fromTimestamp row.createdAt <;>
    cases hupd : Idp.DateTime.fromTimestamp row.updatedAt <;>
    simp_all [bind, Except.bind, pure, Except.pure]

/-- What a role's list shows is what its links name. -/
lemma mem_viewed (hids : (tables.permissions.map (·.id)).Nodup) {links : List RolePermissionRow}
    {permission : Permission} : permission ∈ viewed tables applicationId links ↔
      ∃ row ∈ tables.permissions, (row.applicationId = applicationId ∧
        ∃ link ∈ links, link.permissionId = row.id) ∧ toPermission row = .ok permission := by
  simp only [viewed, mem_filterMap, Option.bind_eq_some_iff, toOption_eq_some]
  constructor
  · rintro ⟨link, hlink, row, hfind, hdecs⟩
    have hmatch := find?_some hfind
    simp only [Bool.and_eq_true, beq_iff_eq] at hmatch
    exact ⟨row, mem_of_find?_eq_some hfind, ⟨hmatch.2, link, hlink, hmatch.1.symm⟩,
      hdecs⟩
  · rintro ⟨row, hrow, ⟨happ, link, hlink, hid⟩, hdecs⟩
    refine ⟨link, hlink, row, ?_, hdecs⟩
    obtain ⟨found, hfind⟩ : ∃ found, tables.permissions.find? (fun row =>
        row.id == link.permissionId && row.applicationId == applicationId) = some found :=
      Option.isSome_iff_exists.mp
        (find?_isSome.mpr ⟨row, hrow, by simp [hid, happ]⟩)
    have hmatch := find?_some hfind
    simp only [Bool.and_eq_true, beq_iff_eq] at hmatch
    rw [hfind, inj_on_of_nodup_map hids (mem_of_find?_eq_some hfind) hrow
      (hmatch.1.trans hid)]

section
variable (hreadable : tables.Readable)
include hreadable

lemma linkedPermissions_run (applicationId : Id) {links : List RolePermissionRow}
    (hlinks : ∀ link ∈ links, link ∈ tables.rolePermissions) :
    (PermissionRepo.linkedPermissions applicationId tables.permissions links).run tables =
      (.ok (viewed tables applicationId links), tables) := by
  induction links with
  | nil => rfl
  | cons link links ih =>
    obtain ⟨hlink, hrest⟩ := forall_mem_cons.mp hlinks
    refine run_bind_ok.mpr ⟨(), tables, ensureClear_run ?_, ?_⟩
    · simpa using hreadable.rolePermissions link hlink
    rw [viewed, filterMap_cons]
    cases hfind : tables.permissions.find? fun row =>
        row.id == link.permissionId && row.applicationId == applicationId with
    | none => exact ih hrest
    | some row =>
      obtain ⟨hclear, permission, hdecs⟩ :=
        hreadable.permissions row (mem_of_find?_eq_some hfind)
      rw [Option.bind_some, hdecs]
      have hdecs' := congrArg (·, tables) (toPermission_ok hdecs)
      refine run_bind_ok.mpr ⟨permission, tables, hdecs', ?_⟩
      refine run_bind_ok.mpr ⟨(), tables, ensureClear_run ?_, ?_⟩
      · simpa [(toPermission_fields hdecs).1] using hclear
      · exact run_bind_ok.mpr ⟨_, tables, ih hrest, rfl⟩

/-- The list of a role, sorted by name. -/
lemma listRolePermissions_run (hhas : tables.HasRole applicationId roleId) :
    (PermissionRepo.listRolePermissions applicationId roleId).run tables =
      (.ok ((viewed tables applicationId (tables.rolePermissions.filter (·.roleId == roleId))
        ).insertionSort fun a b => a.name ≤ b.name), tables) := by
  obtain ⟨role, hrole⟩ := exists_roleRow.mpr hhas
  refine run_bind_ok.mpr ⟨some role, tables, ?_, ?_⟩
  · refine run_bind_ok.mpr ⟨tables.roles, tables, rfl, ?_⟩
    rw [← roleRow, hrole]
    have hclear := (hreadable.roles role (roleRow_some hrole).1).1
    exact run_bind_ok.mpr ⟨(), tables, ensureClear_run (by simpa), rfl⟩
  refine run_bind_ok.mpr ⟨role, tables, rfl, ?_⟩
  refine run_bind_ok.mpr ⟨tables.rolePermissions, tables, rfl, ?_⟩
  refine run_bind_ok.mpr ⟨tables.permissions, tables, rfl, ?_⟩
  exact run_bind_ok.mpr ⟨_, tables, linkedPermissions_run hreadable applicationId
    fun link hlink => mem_of_mem_filter hlink, rfl⟩

/-- What the role view shows is what the user is granted exactly if every permission that a role of
the user links to is live, and so is one of the links to it. -/
theorem role_view_agrees_iff (hids : (tables.permissions.map (·.id)).Nodup)
    (applicationId userId : Id) : RoleViewAgrees tables applicationId userId ↔
      ∀ row ∈ tables.permissions, Shown tables applicationId userId row → row.revokedAt = none ∧
        ∃ roleId, tables.LinksUser applicationId userId roleId ∧
          tables.HasRole applicationId roleId ∧ tables.LinksPermission roleId row.id := by
  obtain ⟨granted, hgran, hgrs⟩ := listUserPermissions_run hreadable applicationId userId
  obtain ⟨roles, hroles, hids'⟩ := listUserRoles_run hreadable applicationId userId
  have hshown := mapM_eq_map fun role (hrole : role ∈ roles) => eval_of_run
    (listRolePermissions_run hreadable ((hids' role.id).mp (mem_map_of_mem hrole)).2)
  rw [RoleViewAgrees, eval_of_run hgran, eval_of_run hroles]
  simp only [ok.injEq, exists_and_left, exists_eq_left', hshown, hgrs, mem_flatten,
    mem_map, exists_exists_and_eq_and, mem_insertionSort, mem_viewed hids,
    mem_filter, beq_iff_eq]
  have hview (permission : Permission) : (∃ role ∈ roles, ∃ row ∈ tables.permissions,
      (row.applicationId = applicationId ∧ ∃ link, (link ∈ tables.rolePermissions ∧
        link.roleId = role.id) ∧ link.permissionId = row.id) ∧ toPermission row = .ok permission) ↔
      ∃ row ∈ tables.permissions, Shown tables applicationId userId row ∧
        toPermission row = .ok permission := by
    simp only [Shown, ← hids', mem_map]
    grind
  simp only [hview]
  constructor
  · intro hsame row hrow hrowShown
    obtain ⟨permission, hdecs⟩ := (hreadable.permissions row hrow).2
    obtain ⟨other, hother, hrowGrants, hdecs'⟩ :=
      (hsame permission).mpr ⟨row, hrow, hrowShown, hdecs⟩
    have hid := (toPermission_fields hdecs').1.symm.trans (toPermission_fields hdecs).1
    exact inj_on_of_nodup_map hids hother hrow hid ▸ hrowGrants.2
  · intro hlive permission
    refine exists_congr fun row => and_congr_right fun hrow => and_congr_left fun _ => ?_
    constructor
    · rintro ⟨happ, -, _, huser, hhas, link, hlink, rfl, hid, -⟩
      exact ⟨happ, link, hlink, hid, huser, hhas⟩
    · exact fun hrowShown => ⟨hrowShown.1, hlive row hrow hrowShown⟩

end

/-! ## One chain -/

/-- User 1 has role 2 of application 7, which has the permission 3 to read; the role may be
revoked, and there may be other permissions. -/
def chainTables (revokedAt : Option ℤ) (others : List PermissionRow) : RoleTables where
  roles := [⟨2, 7, "reader", none, revokedAt, 0, 0⟩]
  permissions := ⟨3, 7, "files:*", none, none, 0, 0⟩ :: others
  rolePermissions := [⟨4, 2, 3, none, 0, 0⟩]
  userRoles := [⟨5, 1, 7, 2, none, 0, 0⟩]
  conflicted _ := false

/-- A wildcard permission of another application. -/
def otherPermission : PermissionRow := ⟨6, 8, "*", none, none, 0, 0⟩

lemma chainTables_readable {others : List PermissionRow} (revokedAt : Option ℤ)
    (hothers : ∀ row ∈ others, ∃ permission, toPermission row = .ok permission) :
    (chainTables revokedAt others).Readable where
  roles row hrow := by
    obtain rfl := mem_singleton.mp hrow
    exact ⟨rfl, _, rfl⟩
  permissions row hrow := by
    rcases mem_cons.mp hrow with rfl | hrow
    · exact ⟨rfl, _, rfl⟩
    · exact ⟨rfl, hothers row hrow⟩
  rolePermissions _ _ := rfl
  userRoles _ _ := rfl

/-- The chain of the fixture permits, whatever another application grants. -/
theorem user_permission_by_chain_reader :
    (hasUserApplicationPermission 1 7 "files.read").eval (chainTables none []) = .ok true ∧
      (hasUserApplicationPermission 1 7 "files.read").eval (chainTables none [otherPermission]) =
        (hasUserApplicationPermission 1 7 "files.read").eval (chainTables none []) := by
  have hother : ∀ row ∈ [otherPermission], ∃ permission, toPermission row = .ok permission := by
    intro row hrow
    obtain rfl := mem_singleton.mp hrow
    exact ⟨_, rfl⟩
  have hsame : SameApplication 7 (chainTables none []) (chainTables none [otherPermission]) := by
    constructor
    · exact fun _ _ => .rfl
    · intro row happ
      have hne : row ≠ otherPermission := by
        rintro rfl
        cases happ
      simp [chainTables, hne]
    · exact fun _ _ => .rfl
    · exact fun _ _ _ => .rfl
  exact ⟨by decide, (user_permission_by_chain (chainTables none [])
    (chainTables_readable none (by simp)) 1 7 "files.read").2.2 _
    (chainTables_readable none hother) hsame⟩

/-- A role that is revoked grants nothing, although both links are there and not revoked. -/
theorem revoked_role_grants_nothing :
    let tables := chainTables (some 0) []
    tables.Readable ∧
      (∃ link ∈ tables.userRoles, ∃ role ∈ tables.roles, ∃ grant ∈ tables.rolePermissions,
        ∃ permission ∈ tables.permissions,
          link.userId = 1 ∧ link.revokedAt = none ∧ link.roleId = role.id ∧
          role.applicationId = 7 ∧ grant.revokedAt = none ∧ grant.roleId = role.id ∧
          grant.permissionId = permission.id ∧ permission.applicationId = 7 ∧
          permissionMatches permission.name "files.read" = true) ∧
      (hasUserApplicationPermission 1 7 "files.read").eval tables = .ok false :=
  ⟨chainTables_readable (some 0) (by simp), by decide, by decide⟩

theorem role_view_agrees_reader : RoleViewAgrees (chainTables none []) 7 1 :=
  (role_view_agrees_iff (chainTables_readable none (by simp)) (by decide) 7 1).mpr
    fun _ hrow _ => by
      obtain rfl := mem_singleton.mp hrow
      exact ⟨rfl, 2, ⟨_, mem_singleton_self _, by decide⟩,
        ⟨_, mem_singleton_self _, by decide⟩, ⟨_, mem_singleton_self _, by decide⟩⟩

/-- The link from the role to the permission is revoked: the view of the role still shows the
permission, and the user does not have it. -/
theorem role_view_shows_revoked_link :
    let tables := { chainTables none [] with rolePermissions := [⟨4, 2, 3, some 0, 0, 0⟩] }
    tables.Readable ∧
      (listUserRoles 7 1).eval tables = .ok [⟨2, 7, "reader", none, 0, 0⟩] ∧
      (PermissionRepo.listRolePermissions 7 2).eval tables =
        .ok [⟨3, 7, "files:*", none, 0, 0⟩] ∧
      (listUserPermissions 7 1).eval tables = .ok [] := by
  have hreadable : (chainTables none []).Readable := chainTables_readable none (by simp)
  exact ⟨⟨hreadable.roles, hreadable.permissions, fun _ _ => rfl, hreadable.userRoles⟩, by decide,
    by decide, by decide⟩

end RoleRepo

end LocalPlatform.Management

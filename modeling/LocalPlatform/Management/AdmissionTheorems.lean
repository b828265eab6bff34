import LocalPlatform.Management.Admission
import LocalPlatform.Management.Reference
import LocalPlatform.Management.ResourceTheorems

/-!
# The two admission decisions

Whether two devices may synchronize a resource is decided twice: by the repository, which scans
devices and asks for the resource by its row, and by the route, which looks up two identities and
searches the listed selections. On tables without conflicts both come to the same answer, except
that the repository fails as soon as any device of the table cannot be decoded.
-/

namespace LocalPlatform.Management

open Resumption Text DeviceRepo DeviceRow List Task Except
open Idp (HeaderValue)

/-- The tables of the selection have no conflicts, and a scan of the keys finds every row. -/
structure CleanSelection (P : Platform) (data : Data) : Prop where
  policies : ∀ deviceId, policyConflicts P deviceId data = []
  resources : ∀ id, resourceConflicts P id data = []
  scanned : ∀ id, (resourceRow P data id).isSome → id ∈ data.keys

/-- The policy of the device belongs to the owner, is complete, and has no restriction. -/
def PolicyAllows (P : Platform) (data : Data) (deviceId : Id) (ownerSubject : String) : Prop :=
  ∃ policy, policyRow P data deviceId = some policy ∧ policy.ownerSubject = ownerSubject ∧
    policy.incomplete = false ∧ policy.adminAllowed = true

/-- The row that is named by the selection holds it, and is selected. -/
def selectionStored (P : Platform) (data : Data) (deviceId : Id) (ownerSubject : String)
    (applicationId : Id) (kind : String) (resourceId : Id) : Bool :=
  let id := P.resourceSelectionId deviceId ownerSubject applicationId kind resourceId
  (resourceRow P data id).any fun selection =>
    selection.id == id && selection.deviceId == deviceId &&
      selection.ownerSubject == ownerSubject && selection.applicationId == applicationId &&
      selection.selectedKind == kind && selection.selectedId == resourceId && selection.selected

section
variable {P : Platform} {s s' : Replica} {d : Id} {o : String} {a : Id} {k : String} {r : Id}
  {records : List Device}

/-! ## Reads of tables without conflicts -/

/-- What `get` makes of the row of the device. -/
def ownedPolicy (ownerSubject : String) :
    Option SelectionPolicy → ManagementResult (Option SelectionPolicy)
  | none => .ok none
  | some policy =>
    if policy.ownerSubject != ownerSubject then .error (invalid "selection policy owner mismatch")
    else if policy.incomplete then .error (invalid "incomplete selection policy")
    else .ok (some policy)

/-- The policy is the owner's own and not restricted. -/
lemma policyAllows_iff :
    PolicyAllows P s.data d o ↔ ∃ policy, ownedPolicy o (policyRow P s.data d) = .ok (some policy) ∧
        policy.adminAllowed = true := by
  unfold PolicyAllows
  cases policyRow P s.data d with
  | none => simp [ownedPolicy]
  | some policy =>
    cases howner : policy.ownerSubject != o with
    | true => simp_all [ownedPolicy]
    | false => cases hinc : policy.incomplete <;> simp_all [ownedPolicy]

namespace CleanSelection

section
variable (hclean : CleanSelection P s.data)
include hclean

/-- Without conflicts a policy is read as it is stored. -/
lemma record_run :
    (record P d).run s = (.ok (policyRow P s.data d), s) := by
  have hsettle := resolveConvergentConflicts_run (P := P) d s
  rw [hclean.policies d] at hsettle
  have hsett : (resolveConvergentConflicts P d).run s = (.ok (), s) := hsettle
  have hclear : (clear P d).run s = (.ok (), s) := clear_run_ok.mpr ⟨hclean.policies d, rfl⟩
  simp only [record, run_bind, hsett, hclear, rawRecord, query_run, run_pure]

/-- The same with the check of the owner. -/
lemma get_run :
    (get P d o a).run s = (ownedPolicy o (policyRow P s.data d), s) := by
  rw [get, run_bind, hclean.record_run]
  cases policyRow P s.data d with
  | none => rfl
  | some policy =>
    cases howner : policy.ownerSubject != o with
    | true => simp [ownedPolicy, failIf, run_bind, howner]
    | false =>
      cases hinc : policy.incomplete <;>
        simp [ownedPolicy, failIf, run_bind, howner, hinc]

/-- Without conflicts the stored selection is the answer. -/
lemma resourceSelected_run :
    (resourceSelected P d o a k r).run s = (.ok (selectionStored P s.data d o a k r), s) := by
  have hsettle := settleResource_run (P := P) (P.resourceSelectionId d o a k r) s
  rw [hclean.resources] at hsettle
  have hsett : (settleResource P (P.resourceSelectionId d o a k r)).run s = (.ok (), s) :=
    hsettle
  simp only [resourceSelected, run_bind, hsett, query_run, run_pure]
  rfl

end

/-! ## The listing -/

/-- The listing of a device's resources keeps the row. -/
def keepsRow (P : Platform) (data : Data) (d : Id) (row : ResourceSelection) : Bool :=
  row.deviceId == d && row.selected &&
    selectionStored P data d row.ownerSubject row.applicationId row.selectedKind row.selectedId

/-- The resources that are listed for a device. -/
def listedResources (P : Platform) (data : Data) (d : Id) (rows : List ResourceSelection) :
    List SelectedResource :=
  (rows.filter (keepsRow P data d)).map fun row =>
    { deviceId := d
      ownerSubject := row.ownerSubject
      applicationId := row.applicationId
      kind := row.selectedKind
      resourceId := row.selectedId }

section
variable (hclean : CleanSelection P s.data)
include hclean

lemma rowSelected_run (row : ResourceSelection) :
    (rowSelected P d row).run s = (.ok (keepsRow P s.data d row), s) := by
  unfold rowSelected keepsRow
  cases row.deviceId == d && row.selected with
  | false => rfl
  | true => exact hclean.resourceSelected_run

/-- By induction on the rows: the list is what the rows say. -/
lemma collectSelected_run (rows : List ResourceSelection) :
    (collectSelected P d rows).run s = (.ok (listedResources P s.data d rows), s) := by
  induction rows with
  | nil => rfl
  | cons row rows ih =>
    simp only [collectSelected, run_bind, hclean.rowSelected_run row, ih]
    cases hrow : keepsRow P s.data d row with
    | false => simp [listedResources, hrow]
    | true => simp [listedResources, hrow]

/-- The row that stores a selection is found by a scan for the device. -/
lemma exists_row_of_stored (hsto : selectionStored P s.data d o a k r = true) :
    ∃ row ∈ deviceRows P d s.data, keepsRow P s.data d row = true ∧ row.ownerSubject = o ∧
      row.applicationId = a ∧ row.selectedKind = k ∧ row.selectedId = r := by
  obtain ⟨row, hrow, hfields⟩ : ∃ row,
      resourceRow P s.data (P.resourceSelectionId d o a k r) = some row ∧
        row.deviceId = d ∧ row.ownerSubject = o ∧ row.applicationId = a ∧
        row.selectedKind = k ∧ row.selectedId = r ∧ row.selected = true := by
    obtain ⟨row, hrow, hall⟩ := (Option.any_eq_true _ _).mp hsto
    refine ⟨row, hrow, ?_⟩
    simp only [Bool.and_eq_true, beq_iff_eq] at hall
    tauto
  obtain ⟨rfl, rfl, rfl, rfl, rfl, hsel⟩ := hfields
  have hkey := hclean.scanned _ (Option.isSome_of_eq_some hrow)
  have hmem : row ∈ deviceRows P row.deviceId s.data := by
    refine mem_filter.mpr ⟨mem_filterMap.mpr ⟨_, ?_, hrow⟩, beq_self_eq_true _⟩
    exact (Finset.mem_sort _).mpr hkey
  exact ⟨row, hmem, by simp [keepsRow, hsel, hsto], rfl, rfl, rfl, rfl⟩

/-- Searching the list finds exactly the selections that are stored. -/
lemma resourceIsSelected_listed :
    resourceIsSelected (listedResources P s.data d (deviceRows P d s.data)) d o a k r =
      selectionStored P s.data d o a k r := by
  rw [Bool.eq_iff_iff]
  constructor
  · intro hfound
    obtain ⟨_, hres, hfields⟩ := any_eq_true.mp hfound
    obtain ⟨_, hrow, rfl⟩ := mem_map.mp hres
    have hkept := (mem_filter.mp hrow).2
    simp only [Bool.and_eq_true, beq_iff_eq] at hfields
    obtain ⟨⟨⟨⟨-, rfl⟩, rfl⟩, rfl⟩, rfl⟩ := hfields
    exact (Bool.and_eq_true_iff.mp hkept).2
  · intro hsto
    obtain ⟨_, hmem, hkept, rfl, rfl, rfl, rfl⟩ := hclean.exists_row_of_stored hsto
    refine any_eq_true.mpr ⟨_, mem_map_of_mem (mem_filter.mpr ⟨hmem, hkept⟩), ?_⟩
    simp

end

/-! ## One device -/

/-- The device of the owner may hold the resource. -/
def MayHold (P : Platform) (data : Data) (d : Id) (o : String) (a : Id) (k : String) (r : Id) :
    Prop :=
  PolicyAllows P data d o ∧ selectionStored P data d o a k r = true

/-- The round of the route for one identity. -/
lemma admitIdentity_run_ok (hclean : CleanSelection P s.data) {identity : DeviceEndpointIdentity}
    {u : Unit} :
    (admitIdentity P identity a k r).run s = (.ok u, s') ↔
      MayHold P s.data identity.deviceId identity.ownerSubject a k r ∧ s = s' := by
  rw [MayHold, policyAllows_iff, ← hclean.resourceIsSelected_listed]
  unfold admitIdentity
  rw [run_bind, run_mapError, hclean.get_run]
  cases ownedPolicy identity.ownerSubject (policyRow P s.data identity.deviceId) with
  | error e => simp [Except.mapError]
  | ok policy =>
    cases policy with
    | none => simp [Except.mapError, run_bind, failIf]
    | some policy =>
      cases hallow : policy.adminAllowed with
      | false => simp [Except.mapError, run_bind, failIf, hallow]
      | true =>
        have hlst : (selectedResourcesForDevice P identity.deviceId).run s = _ :=
          hclean.collectSelected_run _
        cases hsel : resourceIsSelected (listedResources P s.data identity.deviceId
            (deviceRows P identity.deviceId s.data)) identity.deviceId identity.ownerSubject
            a k r <;>
          simp [Except.mapError, run_bind, failIf, hallow, hsel, hlst]

/-- The round of the repository for the one device with a key. -/
lemma admitPeer_run_ok (hclean : CleanSelection P s.data) {device : Device}
    {publicKey : String} (hdev : records.filter (·.publicKey == publicKey) = [device])
    (happr : device.state = .approved) :
    (admitPeer P records o a k r publicKey).run s = (.ok true, s') ↔
      (device.ownerSubject = o ∧ MayHold P s.data device.id o a k r) ∧ s = s' := by
  rw [MayHold, policyAllows_iff]
  unfold admitPeer
  simp only [hdev, happr, bne_self_eq_false, Bool.false_or]
  by_cases howner : device.ownerSubject = o
  · simp only [howner, bne_self_eq_false, Bool.false_eq_true, if_false, run_bind,
      hclean.get_run, true_and]
    cases ownedPolicy o (policyRow P s.data device.id) with
    | error e => simp
    | ok policy =>
      cases policy with
      | none => simp
      | some policy =>
        cases hallow : policy.adminAllowed with
        | false => simp [hallow]
        | true => simp [hallow, hclean.resourceSelected_run]
  · simp [howner]

/-! ## The pair -/

/-- The route admits a pair of identities. -/
lemma admitPair_eval_ok (hclean : CleanSelection P s.data)
    {source target : DeviceEndpointIdentity} :
    (admitPair P source target a k r).eval s = .ok () ↔
      source.deviceId ≠ target.deviceId ∧ source.ownerSubject = target.ownerSubject ∧
        MayHold P s.data source.deviceId source.ownerSubject a k r ∧
        MayHold P s.data target.deviceId target.ownerSubject a k r := by
  have hrounds : (admitIdentity P source a k r >>= fun _ => admitIdentity P target a k r).eval s =
      .ok () ↔ MayHold P s.data source.deviceId source.ownerSubject a k r ∧
        MayHold P s.data target.deviceId target.ownerSubject a k r := by
    constructor
    · intro hok
      obtain ⟨_, _, hsrc, hrest⟩ := run_bind_ok.mp (run_of_eval hok)
      obtain ⟨hmaySource, rfl⟩ := hclean.admitIdentity_run_ok.mp hsrc
      exact ⟨hmaySource, (hclean.admitIdentity_run_ok.mp hrest).1⟩
    · rintro ⟨hmaySource, hmayTarget⟩
      have hsrc : (admitIdentity P source a k r).run s = (.ok (), s) :=
        hclean.admitIdentity_run_ok.mpr ⟨hmaySource, rfl⟩
      have htgt : (admitIdentity P target a k r).run s = (.ok (), s) :=
        hclean.admitIdentity_run_ok.mpr ⟨hmayTarget, rfl⟩
      exact eval_of_run (run_bind_ok.mpr ⟨(), s, hsrc, htgt⟩)
  rw [admitPair, eval_bind_iff, ← hrounds]
  simp [and_assoc]

/-- The repository admits the pair of the only devices with two keys. -/
lemma peersSelectedForSync_eval_ok (hclean : CleanSelection P s.data)
    {localKey remoteKey : String} {localDevice remoteDevice : Device}
    (hlocal : records.filter (·.publicKey == localKey) = [localDevice])
    (hrem : records.filter (·.publicKey == remoteKey) = [remoteDevice])
    (hlocAppr : localDevice.state = .approved)
    (hremAppr : remoteDevice.state = .approved) :
    (peersSelectedForSync P (.ok records) localKey remoteKey o a k r).eval s = .ok true ↔
      (localKey ≠ remoteKey ∧ isBlank o = false ∧ (k = "database" ∨ k = "filesystem")) ∧
        (localDevice.ownerSubject = o ∧ MayHold P s.data localDevice.id o a k r) ∧
        remoteDevice.ownerSubject = o ∧ MayHold P s.data remoteDevice.id o a k r := by
  have hrounds : (do
      if ← admitPeer P records o a k r localKey then admitPeer P records o a k r remoteKey
      else pure false : PolicyTask Bool).eval s = .ok true ↔
        (localDevice.ownerSubject = o ∧ MayHold P s.data localDevice.id o a k r) ∧
          remoteDevice.ownerSubject = o ∧ MayHold P s.data remoteDevice.id o a k r := by
    constructor
    · intro hok
      obtain ⟨answer, _, hfirst, hrest⟩ := run_bind_ok.mp (run_of_eval hok)
      cases answer with
      | false => cases congrArg Prod.fst hrest
      | true =>
        obtain ⟨hmay, rfl⟩ := (hclean.admitPeer_run_ok hlocal hlocAppr).mp hfirst
        exact ⟨hmay, ((hclean.admitPeer_run_ok hrem hremAppr).mp hrest).1⟩
    · rintro ⟨hfirst, hsecond⟩
      have hfirst := (hclean.admitPeer_run_ok hlocal hlocAppr).mpr ⟨hfirst, rfl⟩
      have hsecond := (hclean.admitPeer_run_ok hrem hremAppr).mpr ⟨hsecond, rfl⟩
      exact eval_of_run (run_bind_ok.mpr ⟨true, s, hfirst, hsecond⟩)
  rw [← hrounds]
  unfold peersSelectedForSync
  split
  · simp only [eval_pure, ok.injEq, Bool.false_eq_true, false_iff, not_and]
    rintro ⟨_, _, _⟩
    simp_all
  · rename_i hpasses
    have hchecks : localKey ≠ remoteKey ∧ isBlank o = false ∧
        (k = "database" ∨ k = "filesystem") := by
      simp only [Bool.or_eq_true, beq_iff_eq, Bool.not_eq_true', Bool.or_eq_false_iff,
        not_or, Bool.not_eq_true, not_and, beq_eq_false_iff_ne] at hpasses
      tauto
    exact (and_iff_right hchecks).symm

end CleanSelection

end

/-! ## Devices -/

section
variable {table : DeviceTable} {publicKey : String}

/-- What the policy repository reads of a row. -/
def DeviceRow.summary (row : DeviceRow) : Device where
  id := row.id
  ownerSubject := row.ownerSubject
  publicKey := row.publicKey
  state := row.state

lemma DeviceRow.summary_of_toDevice (row : DeviceRow) (device : DeviceRecord)
    (hdev : row.toDevice = .ok device) : device.toDevice = row.summary := by
  obtain ⟨hid, -, hkey, -, howner, hstate⟩ := toDevice_fields hdev
  simp [DeviceRecord.toDevice, summary, hid, hkey, howner, hstate]

/-- No row has a blank owner if the rows can be read. -/
lemma records_eval_ok {rows : List DeviceRow} :
    records.eval table = .ok rows ↔
      (∀ row ∈ table.rows, isBlank row.ownerSubject = false) ∧ table.rows = rows := by
  rw [records, eval_read]
  split
  · rename_i hblank
    obtain ⟨row, hrow, hblank⟩ := any_eq_true.mp hblank
    simp only [reduceCtorEq, false_iff, not_and]
    intro hnone
    simp [hnone row hrow] at hblank
  · rename_i hnone
    simp only [any_eq_true, not_exists, not_and, Bool.not_eq_true] at hnone
    simp only [ok.injEq]
    exact (and_iff_right hnone).symm

/-- A device that is found by its key is the only one with this key. -/
lemma findApprovedByPublicKey_eval_some {device : DeviceRecord}
    (h : (findApprovedByPublicKey publicKey).eval table = .ok (some device)) :
    (∀ row ∈ table.rows, isBlank row.ownerSubject = false) ∧
      ∃ row, (table.rows.filter fun row => row.publicKey == publicKey) = [row] ∧
        row.state = .approved ∧ row.toDevice = .ok device := by
  obtain ⟨_, hrows, h1⟩ := eval_bind_iff.mp h
  obtain ⟨howned, rfl⟩ := records_eval_ok.mp hrows
  refine ⟨howned, ?_⟩
  split at h1
  · rename_i row hfil
    split at h1
    · cases h1
    · rename_i happr
      obtain ⟨_, -, h2⟩ := eval_bind_iff.mp h1
      obtain ⟨_, hdev, hsome⟩ := eval_bind_iff.mp h2
      obtain rfl := Option.some.inj (ok.inj hsome)
      exact ⟨row, hfil, not_not.mp happr, hdev⟩
  · cases h1

/-- The devices are listed exactly when every row can be decoded. -/
lemma listedDevices_ok (hclear : ∀ row ∈ table.rows, table.conflicted row.id = false)
    (howned : ∀ row ∈ table.rows, isBlank row.ownerSubject = false) {records : List Device} :
    listedDevices table = .ok records ↔ (∀ row ∈ table.rows, ∃ device, row.toDevice = .ok device) ∧
        records = table.rows.map summary := by
  have hlist : list.eval table = table.rows.mapM toDevice := by
    have hread : DeviceRepo.records.eval table = .ok table.rows := records_eval_ok.mpr ⟨howned, rfl⟩
    have hchk := ensureClear_all.mpr hclear
    rw [list, eval_bind, hread]
    show (_ >>= fun _ => _ : DeviceTask _).eval table = _
    rw [eval_bind, hchk]
    rfl
  rw [listedDevices, hlist]
  constructor
  · intro hrecs
    cases hmap : table.rows.mapM toDevice with
    | error e =>
      rw [hmap] at hrecs
      cases hrecs
    | ok devices =>
      rw [hmap] at hrecs
      refine ⟨fun row hrow => ?_, ?_⟩
      · obtain ⟨device, -, hdev⟩ := ok_of_mem_of_mapM hmap hrow
        exact ⟨device, hdev⟩
      · rw [← map_eq_of_mapM summary_of_toDevice hmap]
        exact (ok.inj hrecs).symm
  · rintro ⟨hdecs, rfl⟩
    obtain ⟨devices, hmap⟩ := exists_mapM_ok hdecs
    rw [hmap, ← map_eq_of_mapM summary_of_toDevice hmap]
    rfl

/-- Rows with different keys are different devices. -/
lemma id_ne_iff_key_ne (hkeyed : table.Keyed) {otherKey : String} {row other : DeviceRow}
    (hrow : (table.rows.filter fun row => row.publicKey == publicKey) = [row])
    (hother : (table.rows.filter fun row => row.publicKey == otherKey) = [other]) :
    row.id ≠ other.id ↔ publicKey ≠ otherKey := by
  have hmem : row ∈ table.rows ∧ row.publicKey = publicKey := by
    have hfil := hrow ▸ mem_singleton_self row
    simpa using mem_filter.mp hfil
  have hmem' : other ∈ table.rows ∧ other.publicKey = otherKey := by
    have hfil := hother ▸ mem_singleton_self other
    simpa using mem_filter.mp hfil
  constructor
  · rintro hne rfl
    exact hne (by rw [singleton_inj.mp (hrow.symm.trans hother)])
  · intro hne hid
    obtain rfl := inj_on_of_nodup_map hkeyed hmem.1 hmem'.1 hid
    exact hne (hmem.2.symm.trans hmem'.2)

end

/-! ## Both decisions -/

/-- What an authorized request for synchronization asks of the route. -/
lemma replicationAdmission_eval_ok {P : Platform} {s : Replica} {C : ControlPlane}
    {storageAudience : String} {authorization : Option HeaderValue}
    {request : ReplicationAdmissionRequest} {applicationId resourceId : Id}
    {source target : DeviceEndpointIdentity}
    (hcaller : authorizeStorage C storageAudience authorization managementReplicationAdmitScope =
      .ok ())
    (hop : request.operation = "synchronize")
    (happ : C.parseId request.applicationId = some applicationId)
    (hres : C.parseId request.resourceId = some resourceId)
    (hsrc : C.getStorageEndpointIdentity request.sourceEndpointId = .ok source)
    (htgt : C.getStorageEndpointIdentity request.targetEndpointId = .ok target) :
    (replicationAdmission P C storageAudience authorization request).eval s = .ok () ↔
      (request.kind = "database" ∨ request.kind = "filesystem") ∧
        (admitPair P source target applicationId request.kind resourceId).eval s = .ok () := by
  have hroute : replicationAdmission P C storageAudience authorization request =
      (failIf (!(request.kind == "database" || request.kind == "filesystem")) denied >>=
        fun _ => admitPair P source target applicationId request.kind resourceId) := by
    unfold replicationAdmission
    rw [hcaller, happ, hres, hsrc, htgt, hop]
    simp only [bne_self_eq_false, Bool.or_false]
    rfl
  have hkind : (!(request.kind == "database" || request.kind == "filesystem")) = false ↔
      request.kind = "database" ∨ request.kind = "filesystem" := by
    rw [Bool.not_eq_false', Bool.or_eq_true, beq_iff_eq, beq_iff_eq]
  rw [hroute, eval_bind_iff, ← hkind]
  simp only [eval_failIf_ok, exists_const]

/-- On tables without conflicts the repository admits a pair of approved devices exactly when the
route does and every device of the table can be decoded. -/
theorem peersSelectedForSync_iff_replicationAdmission (P : Platform) (C : ControlPlane)
    (table : DeviceTable) (s : Replica) (storageAudience : String)
    (authorization : Option HeaderValue) (request : ReplicationAdmissionRequest)
    (applicationId resourceId : Id) (source target : DeviceRecord) (ownerSubject : String)
    (hclean : CleanSelection P s.data)
    (hclear : ∀ row ∈ table.rows, table.conflicted row.id = false) (hkeyed : table.Keyed)
    (hcaller : authorizeStorage C storageAudience authorization managementReplicationAdmitScope =
      .ok ())
    (hoperation : request.operation = "synchronize")
    (happlication : C.parseId request.applicationId = some applicationId)
    (hresource : C.parseId request.resourceId = some resourceId)
    (hsource : (findApprovedByPublicKey request.sourceEndpointId).eval table =
      .ok (some source))
    (htarget : (findApprovedByPublicKey request.targetEndpointId).eval table =
      .ok (some target))
    (hsourceIdentity : C.getStorageEndpointIdentity request.sourceEndpointId =
      .ok (source.endpointIdentity request.sourceEndpointId))
    (htargetIdentity : C.getStorageEndpointIdentity request.targetEndpointId =
      .ok (target.endpointIdentity request.targetEndpointId))
    (howner : ownerSubject = source.ownerSubject ∨ ownerSubject = target.ownerSubject) :
    (peersSelectedForSync P (listedDevices table) request.sourceEndpointId
        request.targetEndpointId ownerSubject applicationId request.kind resourceId).eval s =
        .ok true ↔
      (replicationAdmission P C storageAudience authorization request).eval s = .ok () ∧
        ∀ row ∈ table.rows, ∃ device, row.toDevice = .ok device := by
  obtain ⟨howned, sourceRow, hsrcRow, hsrcState, hsrcDev⟩ :=
    findApprovedByPublicKey_eval_some hsource
  obtain ⟨-, targetRow, htgtRow, htgtState, htgtDev⟩ :=
    findApprovedByPublicKey_eval_some htarget
  obtain ⟨hsrcId, -, -, -, hsrcOwner, -⟩ := toDevice_fields hsrcDev
  obtain ⟨htgtId, -, -, -, htgtOwner, -⟩ := toDevice_fields htgtDev
  have hids : source.id ≠ target.id ↔ request.sourceEndpointId ≠ request.targetEndpointId := by
    rw [hsrcId, htgtId]
    exact id_ne_iff_key_ne hkeyed hsrcRow htgtRow
  -- the owner is one of the pair, and no owner is blank
  have hnotBlank : isBlank ownerSubject = false := by
    have hsrcMem := mem_of_mem_filter (hsrcRow ▸ mem_singleton_self sourceRow)
    have htgtMem := mem_of_mem_filter (htgtRow ▸ mem_singleton_self targetRow)
    rcases howner with rfl | rfl
    · rw [hsrcOwner]
      exact howned sourceRow hsrcMem
    · rw [htgtOwner]
      exact howned targetRow htgtMem
  rw [replicationAdmission_eval_ok hcaller hoperation happlication hresource hsourceIdentity
    htargetIdentity, hclean.admitPair_eval_ok]
  by_cases hdecs : ∀ row ∈ table.rows, ∃ device, row.toDevice = .ok device
  · have hlst : listedDevices table = .ok (table.rows.map summary) :=
      (listedDevices_ok hclear howned).mpr ⟨hdecs, rfl⟩
    have hlocal : ((table.rows.map summary).filter
        (·.publicKey == request.sourceEndpointId)) = [sourceRow.summary] := by
      rw [filter_map]
      exact congrArg (map summary) hsrcRow
    have hrem : ((table.rows.map summary).filter
        (·.publicKey == request.targetEndpointId)) = [targetRow.summary] := by
      rw [filter_map]
      exact congrArg (map summary) htgtRow
    rw [hlst, hclean.peersSelectedForSync_eval_ok hlocal hrem hsrcState htgtState]
    show (_ ∧ (sourceRow.ownerSubject = _ ∧ CleanSelection.MayHold _ _ sourceRow.id _ _ _ _) ∧
      targetRow.ownerSubject = _ ∧ CleanSelection.MayHold _ _ targetRow.id _ _ _ _) ↔
        (_ ∧ source.id ≠ target.id ∧ source.ownerSubject = target.ownerSubject ∧
          CleanSelection.MayHold _ _ source.id source.ownerSubject _ _ _ ∧
          CleanSelection.MayHold _ _ target.id target.ownerSubject _ _ _) ∧ _
    rw [← hsrcId, ← htgtId, ← hsrcOwner, ← htgtOwner, hids]
    constructor
    · rintro ⟨⟨hkeys, -, hkind⟩, ⟨rfl, hmaySource⟩, htgtOwned, hmayTarget⟩
      refine ⟨⟨hkind, hkeys, htgtOwned.symm, hmaySource, ?_⟩, hdecs⟩
      rw [htgtOwned]
      exact hmayTarget
    · rintro ⟨⟨hkind, hkeys, howners, hmaySource, hmayTarget⟩, -⟩
      have hsrcOwned : ownerSubject = source.ownerSubject := by
        rcases howner with h | h
        · exact h
        · exact h.trans howners.symm
      subst hsrcOwned
      rw [← howners] at hmayTarget ⊢
      exact ⟨⟨hkeys, hnotBlank, hkind⟩, ⟨rfl, hmaySource⟩, rfl, hmayTarget⟩
  · -- without a list of devices there is no answer
    constructor
    · intro hadm
      unfold peersSelectedForSync at hadm
      split at hadm
      · cases hadm
      · obtain ⟨_, hlst, -⟩ := eval_bind_iff.mp hadm
        exact absurd ((listedDevices_ok hclear howned).mp hlst).1 hdecs
    · rintro ⟨-, hall⟩
      exact absurd hall hdecs

/-! ## Two devices and a database -/

namespace AdmissionReference

/-- A platform that names the row of a resource selection by its device. -/
def platform : Platform where
  rules := Reference.rules
  resourceSelectionId deviceId _ _ _ _ := deviceId + 10
  duplicateKey := "duplicate primary key"

/-- A column that has been written once in the given rows. -/
def column {ν : Type} (keys : List Id) (value : ν) (key : Id) : MultiValue.Register ν :=
  if key ∈ keys then MultiValue.Register.empty.write 0 value else .empty

/-- Devices 1 and 2 of the owner have selected database 4 of application 3. -/
def data : Data where
  keys := {1, 2, 11, 12}
  cells
    | .ownerSubject => column [1, 2] "owner"
    | .applicationId => column [1, 2] (some 3)
    | .selectedKind => column [1, 2] (some "database")
    | .selectedId => column [1, 2] (some 4)
    | .adminAllowed => column [1, 2] true
    | .deviceId => fun key => column [11, 12] (key - 10) key
    | .resourceOwnerSubject => column [11, 12] "owner"
    | .resourceApplicationId => column [11, 12] 3
    | .resourceKind => column [11, 12] "database"
    | .resourceId => column [11, 12] 4
    | .selected => column [11, 12] true

/-- The replica of actor 0 over the fixture's data. -/
def replica : Replica := ⟨0, data⟩

lemma column_isConflicted {ν : Type} (keys : List Id) (value : ν) (key : Id) :
    platform.rules.isConflicted (column keys value key) = false := by
  unfold column
  split
  · exact Reference.rules_lawful.isConflicted_write 0 value
  · rfl

/-- The fixture has no conflict. -/
lemma data_clean : CleanSelection platform data where
  policies deviceId := by
    simp [policyConflicts, rowConflictValues, policyColumns, data, column_isConflicted]
  resources id := by
    simp [resourceConflicts, rowConflictValues, resourceColumns, data, column_isConflicted]
  scanned id hrow := by
    obtain ⟨_, hrow⟩ := Option.isSome_iff_exists.mp hrow
    obtain ⟨-, -, -, -, -, -, hsel⟩ := resourceRow_eq_some.mp hrow
    have hkey : id ∈ [11, 12] := by
      by_contra hmiss
      change platform.rules.read (column [11, 12] true id) = _ at hsel
      rw [column, if_neg hmiss] at hsel
      cases hsel
    rcases mem_pair.mp hkey with rfl | rfl <;> decide

/-- An approved device of the owner. -/
def row (id : Id) (publicKey : String) (createdAt : ℤ) : DeviceRow where
  id := id
  ownerSubject := "owner"
  name := "device"
  publicKey := publicKey
  address := ""
  enrollmentCodeHash := none
  enrollmentExpiresAt := none
  pairingAcceptingPublicKey := none
  state := .approved
  approvedAt := none
  revokedAt := none
  createdAt := createdAt
  updatedAt := 0

/-- The same device as the repository returns it. -/
def device (id : Id) (publicKey : String) : DeviceRecord where
  id := id
  ownerSubject := "owner"
  name := "device"
  publicKey := publicKey
  address := ""
  state := .approved
  createdAt := 0
  updatedAt := 0
  revokedAt := none

/-- The two devices and others, without conflicts. -/
def table (others : List DeviceRow) : DeviceTable where
  rows := row 1 "a" 0 :: row 2 "b" 0 :: others
  conflicted _ := false

lemma table_keyed : (table []).Keyed := by
  unfold DeviceTable.Keyed
  decide

/-- The claims of a client of the storage service. -/
def claims : Idp.StandardClaims where
  type := .bearer
  use := .access
  exp := 60
  iat := 0
  nbf := 0
  iss := "idp"
  aud := "storage"
  clientId := "storage"
  sub := "storage"
  principalType := .client
  resource := none
  authorizationDetails := none
  scope := [managementReplicationAdmitScope]

/-- A control plane that knows the two devices. -/
def controlPlane : ControlPlane where
  validateActorToken _ := .ok claims
  getStorageEndpointIdentity endpointId :=
    .ok ((device (if endpointId = "a" then 1 else 2) endpointId).endpointIdentity endpointId)
  parseId text := some (if text = "3" then 3 else 4)

/-- Endpoint `a` asks for a database of endpoint `b`. -/
def request : ReplicationAdmissionRequest where
  sourceEndpointId := "a"
  targetEndpointId := "b"
  applicationId := "3"
  kind := "database"
  resourceId := "4"
  operation := "synchronize"

/-- Both checks admit the fixture's pair. -/
theorem peersSelectedForSync_iff_replicationAdmission_pair :
    (peersSelectedForSync platform (listedDevices (table [])) "a" "b" "owner" 3 "database" 4).eval
        replica = .ok true ∧
      (replicationAdmission platform controlPlane "storage" (some "Bearer t") request).eval replica =
        .ok () := by
  have hpeers : (peersSelectedForSync platform (listedDevices (table [])) "a" "b" "owner" 3
      "database" 4).eval replica = .ok true := by decide
  refine ⟨hpeers, ?_⟩
  exact ((peersSelectedForSync_iff_replicationAdmission platform controlPlane (table []) replica
    "storage" (some "Bearer t") request 3 4 (device 1 "a") (device 2 "b") "owner" data_clean
    (fun _ _ => rfl) table_keyed (by decide) rfl rfl rfl rfl rfl rfl rfl (.inl rfl)).mp hpeers).1

/-- A third device whose time of creation is out of range: the route admits the pair, and the
repository fails. -/
theorem undecodable_device_admitted :
    let devices := table [row 3 "c" (2 ^ 62)]
    CleanSelection platform replica.data ∧ devices.Keyed ∧
      (∀ row ∈ devices.rows, devices.conflicted row.id = false) ∧
      (findApprovedByPublicKey "a").eval devices = .ok (some (device 1 "a")) ∧
      (findApprovedByPublicKey "b").eval devices = .ok (some (device 2 "b")) ∧
      (replicationAdmission platform controlPlane "storage" (some "Bearer t") request).eval
        replica = .ok () ∧
      (peersSelectedForSync platform (listedDevices devices) "a" "b" "owner" 3 "database" 4).eval
        replica = .error (.invalidInput "invalid device timestamp") := by
  refine ⟨data_clean, ?_, fun _ _ => rfl, by decide, by decide, ?_, by decide⟩
  · unfold DeviceTable.Keyed
    decide
  have hmayHold : ∀ d ∈ [1, 2], CleanSelection.MayHold platform data d "owner" 3 "database" 4 := by
    intro d hd
    rcases mem_pair.mp hd with rfl | rfl
    · exact ⟨⟨⟨1, "owner", some 3, some "database", some 4, true⟩, by decide⟩, by decide⟩
    · exact ⟨⟨⟨2, "owner", some 3, some "database", some 4, true⟩, by decide⟩, by decide⟩
  refine (replicationAdmission_eval_ok (by decide) rfl rfl rfl rfl rfl).mpr ⟨.inl rfl, ?_⟩
  exact (data_clean.admitPair_eval_ok).mpr
    ⟨by decide, rfl, hmayHold 1 (by decide), hmayHold 2 (by decide)⟩

end AdmissionReference

end LocalPlatform.Management

import LocalPlatform.Lib.Text
import LocalPlatform.Management.Store

/-!
# The selection policy repository

`DbSelectionPolicyRepo` of `replica/selection_policy.rs`: which resources a device holds, whether
an administrator restricts it, and whether two devices may synchronize a resource. Reads settle
those conflicts that have a safe side, and fail on all others.
-/

namespace LocalPlatform.Management

open Resumption MultiValue Text

/-- `invalid`: the one kind of error the policies have. -/
def invalid (message : String) : ManagementError := .invalidInput message

/-- The error of a policy with conflicting columns. -/
def conflictedPolicy : ManagementError := invalid "conflicted selection policy"

/-- The error of a selection with conflicting columns. -/
def conflictedResource : ManagementError := invalid "conflicted resource selection"

/-- The states of a device. -/
inductive DeviceState where
  | pending
  | approved
  | revoked
deriving DecidableEq, Repr

/-- What the policy repository reads of a device record. -/
structure Device where
  id : Id
  ownerSubject : String
  publicKey : String
  state : DeviceState
deriving DecidableEq, Repr

/-- Application, kind and identifier of a selection are present together or not at all. -/
def SelectionPolicy.incomplete (policy : SelectionPolicy) : Bool :=
  policy.applicationId.isSome != policy.selectedKind.isSome ||
    policy.selectedKind.isSome != policy.selectedId.isSome

section
variable (P : Platform)

/-! ## Reading a policy -/

/-- `row_conflict_values` of a policy. -/
def policyConflicts (deviceId : Id) (data : Data) : List ColumnConflict :=
  rowConflictValues P policyColumns data deviceId

/-- `clear`: fails on any conflict of the policy's row. -/
def clear (deviceId : Id) : PolicyTask Unit := do
  let conflicts ← query (policyConflicts P deviceId)
  failIf (!conflicts.isEmpty) conflictedPolicy

/-- A concurrent deselection or restriction wins; nothing else can be decided here. -/
def convergentResolution : ColumnConflict → ManagementResult Assignment
  | ⟨.applicationId, values⟩ =>
    if none ∈ values then .ok ⟨.applicationId, none⟩ else .error conflictedPolicy
  | ⟨.selectedKind, values⟩ =>
    if none ∈ values then .ok ⟨.selectedKind, none⟩ else .error conflictedPolicy
  | ⟨.selectedId, values⟩ =>
    if none ∈ values then .ok ⟨.selectedId, none⟩ else .error conflictedPolicy
  | ⟨.adminAllowed, values⟩ =>
    if false ∈ values then .ok ⟨.adminAllowed, false⟩ else .error conflictedPolicy
  | _ => .error conflictedPolicy

/-- `resolve_convergent_conflicts`: columns whose conflict has one safe value are written with it. -/
def resolveConvergentConflicts (deviceId : Id) : PolicyTask Unit := do
  let conflicts ← query (policyConflicts P deviceId)
  let resolutions ← Task.lift (conflicts.mapM convergentResolution)
  skipIf resolutions.isEmpty (resolveRow deviceId resolutions)

/-- `raw_record`: the row as the engine shows it, conflicts or not. -/
def rawRecord (deviceId : Id) : PolicyTask (Option SelectionPolicy) :=
  query (policyRow P · deviceId)

/-- `record`: conflicts are looked for before and again after the row is read. -/
def record (deviceId : Id) : PolicyTask (Option SelectionPolicy) := do
  resolveConvergentConflicts P deviceId
  clear P deviceId
  let policy ← rawRecord P deviceId
  clear P deviceId
  pure policy

/-- `get`: the application in the request is not compared with the policy. -/
def get (deviceId : Id) (ownerSubject : String) (_applicationId : Id) :
    PolicyTask (Option SelectionPolicy) := do
  match ← record P deviceId with
  | some policy => do
    failIf (policy.ownerSubject != ownerSubject) (invalid "selection policy owner mismatch")
    failIf policy.incomplete (invalid "incomplete selection policy")
    pure (some policy)
  | none => pure none

/-! ## Resources -/

/-- `row_conflict_values` of a resource selection. -/
def resourceConflicts (id : Id) (data : Data) : List ColumnConflict :=
  rowConflictValues P resourceColumns data id

/-- Only a disagreement about `selected` can be settled, by deselecting. -/
def resourceResolution : ColumnConflict → ManagementResult Assignment
  | ⟨.selected, values⟩ =>
    if false ∈ values then .ok ⟨.selected, false⟩ else .error conflictedResource
  | _ => .error conflictedResource

/-- The first half of `resource_selected`. -/
def settleResource (id : Id) : PolicyTask Unit := do
  let conflicts ← query (resourceConflicts P id)
  let resolutions ← Task.lift (conflicts.mapM resourceResolution)
  skipIf conflicts.isEmpty (resolveRow id resolutions)

/-- `resource_selected`: the row has to repeat every field its identifier was computed from. -/
def resourceSelected (deviceId : Id) (ownerSubject : String) (applicationId : Id) (kind : String)
    (resourceId : Id) : PolicyTask Bool := do
  let id := P.resourceSelectionId deviceId ownerSubject applicationId kind resourceId
  settleResource P id
  let row ← query (resourceRow P · id)
  pure (row.any fun selection => selection.id == id && selection.deviceId == deviceId &&
    selection.ownerSubject == ownerSubject && selection.applicationId == applicationId &&
    selection.selectedKind == kind && selection.selectedId == resourceId && selection.selected)

/-- `resource_selection_exists`. -/
def resourceSelectionExists (id : Id) : PolicyTask Bool := query fun data =>
  (resourceRow P data id).isSome

/-- `exists` in `set_resource_selected`: a conflicted row, or one that a query finds. -/
def rowExists (id : Id) : PolicyTask Bool := do
  let conflicts ← query (resourceConflicts P id)
  if conflicts.isEmpty then resourceSelectionExists P id else pure true

/-- `set_resource_selected`: an existing row is switched on, else one is inserted. -/
def setResourceSelected (policy : SelectionPolicy) : PolicyTask Unit :=
  match policy.applicationId, policy.selectedKind, policy.selectedId with
  | some applicationId, some kind, some resourceId => do
    if ← resourceSelected P policy.deviceId policy.ownerSubject applicationId kind resourceId then
      pure ()
    else
      let id := P.resourceSelectionId policy.deviceId policy.ownerSubject applicationId kind
        resourceId
      if ← rowExists P id then
        execute P [.updateResource (.hasId id) true]
      else
        execute P [.insertResource
          { id
            deviceId := policy.deviceId
            ownerSubject := policy.ownerSubject
            applicationId
            selectedKind := kind
            selectedId := resourceId
            selected := true }]
  | _, _, _ => pure ()

/-- The condition in the loop of `selected_resources_for_device`. -/
def rowSelected (deviceId : Id) (selection : ResourceSelection) : PolicyTask Bool :=
  if selection.deviceId == deviceId && selection.selected then
    resourceSelected P deviceId selection.ownerSubject selection.applicationId
      selection.selectedKind selection.selectedId
  else pure false

/-- The loop of `selected_resources_for_device`. -/
def collectSelected (deviceId : Id) : List ResourceSelection → PolicyTask (List SelectedResource)
  | [] => pure []
  | selection :: rest => do
    let isSelected ← rowSelected P deviceId selection
    let others ← collectSelected deviceId rest
    if isSelected then
      pure ({ deviceId
              ownerSubject := selection.ownerSubject
              applicationId := selection.applicationId
              kind := selection.selectedKind
              resourceId := selection.selectedId } :: others)
    else pure others

/-- The resource rows of a device, in the order of their keys. -/
def deviceRows (deviceId : Id) (data : Data) : List ResourceSelection :=
  (data.keys.sort.filterMap (resourceRow P data)).filter (·.deviceId == deviceId)

/-- `selected_resources_for_device`. -/
def selectedResourcesForDevice (deviceId : Id) : PolicyTask (List SelectedResource) := do
  collectSelected P deviceId (← query (deviceRows P deviceId))

/-! ## Admission of two peers -/

/-- One round of the loop of `peers_selected_for_sync`: the peer with the given key is exactly
one approved device of the owner, unrestricted, and selects the resource. -/
def admitPeer (records : List Device) (ownerSubject : String) (applicationId : Id) (kind : String)
    (resourceId : Id) (publicKey : String) : PolicyTask Bool :=
  match records.filter (·.publicKey == publicKey) with
  | [device] =>
    if device.state != .approved || device.ownerSubject != ownerSubject then pure false
    else do
      match ← get P device.id ownerSubject applicationId with
      | some policy =>
        if !policy.adminAllowed then pure false
        else resourceSelected P device.id ownerSubject applicationId kind resourceId
      | none => pure false
  | _ => pure false

/-- `peers_selected_for_sync`, the outcome of listing the devices being given. -/
def peersSelectedForSync (devices : ManagementResult (List Device))
    (localPublicKey remotePublicKey ownerSubject : String) (applicationId : Id) (kind : String)
    (resourceId : Id) : PolicyTask Bool :=
  if localPublicKey == remotePublicKey || isBlank ownerSubject ||
      !(kind == "database" || kind == "filesystem") then pure false
  else do
    let records ← Task.lift devices
    if ← admitPeer P records ownerSubject applicationId kind resourceId localPublicKey then
      admitPeer P records ownerSubject applicationId kind resourceId remotePublicKey
    else pure false

/-! ## Changing a policy -/

/-- The assignments of the three columns that name a selection. -/
def selectionAssignments (applicationId : Option Id) (selectedKind : Option String)
    (selectedId : Option Id) : List Assignment :=
  [⟨.applicationId, applicationId⟩, ⟨.selectedKind, selectedKind⟩, ⟨.selectedId, selectedId⟩]

/-- The checks of `set_prevalidated` on the row that is there. -/
def checkOldPolicy (policy : SelectionPolicy) : Option SelectionPolicy → PolicyTask Unit
  | some old => do
    failIf (old.ownerSubject != policy.ownerSubject)
      (invalid "selection policy owner mismatch")
    failIf old.incomplete (invalid "incomplete selection policy")
    failIf (policy.selectedId.isSome && !old.adminAllowed)
      (invalid "administrator has restricted selection")
  | none => pure ()

/-- The statement that brings the policy row up to date, if one is needed. -/
def policyStatement (policy : SelectionPolicy) : Option SelectionPolicy → List Statement
  | some old =>
    if old.applicationId = policy.applicationId ∧ old.selectedKind = policy.selectedKind ∧
        old.selectedId = policy.selectedId then []
    else [.updatePolicy policy.deviceId
      (selectionAssignments policy.applicationId policy.selectedKind policy.selectedId)]
  | none => [.insertPolicy policy]

/-- `set_prevalidated`: the policy row first, the resource rows in later calls. -/
def setPrevalidated (policy : SelectionPolicy) : PolicyTask Unit := do
  failIf (isBlank policy.ownerSubject || policy.incomplete ||
    policy.selectedKind.any (· == "")) (invalid "invalid selection policy")
  let old ← record P policy.deviceId
  checkOldPolicy policy old
  let statement := policyStatement policy old
  skipIf statement.isEmpty (execute P statement)
  clear P policy.deviceId
  if policy.selectedId.isNone then execute P [.updateResource (.hasDevice policy.deviceId) false]
  else setResourceSelected P policy

/-- `set_admin_allowed_prevalidated`: a device without policy gets one that selects nothing. -/
def setAdminAllowedPrevalidated (deviceId : Id) (ownerSubject : String) (adminAllowed : Bool) :
    PolicyTask Bool :=
  if isBlank ownerSubject then pure false
  else do
    match ← record P deviceId with
    | none => do
      setPrevalidated P
        { deviceId, ownerSubject, applicationId := none, selectedKind := none, selectedId := none,
          adminAllowed }
      pure true
    | some policy =>
      if policy.ownerSubject != ownerSubject then pure false
      else if policy.adminAllowed == adminAllowed then pure true
      else do
        execute P [.updatePolicy deviceId [⟨.adminAllowed, adminAllowed⟩]]
        clear P deviceId
        pure true

/-- `deselect_resource_owned`: another owner is answered with no. -/
def deselectResourceOwned (deviceId : Id) (ownerSubject : String) (applicationId : Id)
    (kind : String) (resourceId : Id) : PolicyTask Bool := do
  match ← record P deviceId with
  | none => pure false
  | some policy =>
    if ownerSubject == "" || policy.ownerSubject != ownerSubject then pure false
    else if ← resourceSelected P deviceId ownerSubject applicationId kind resourceId then do
      execute P [.updateResource
        (.hasId (P.resourceSelectionId deviceId ownerSubject applicationId kind resourceId)) false]
      pure true
    else pure false

/-- The columns that a deselection may overwrite although they are conflicted. -/
def isSelectionColumn : Column → Bool
  | .applicationId | .selectedKind | .selectedId => true
  | _ => false

/-- The null value of a selection column. -/
def nullAssignment : ColumnConflict → Option Assignment
  | ⟨.applicationId, _⟩ => some ⟨.applicationId, none⟩
  | ⟨.selectedKind, _⟩ => some ⟨.selectedKind, none⟩
  | ⟨.selectedId, _⟩ => some ⟨.selectedId, none⟩
  | _ => none

/-- Overwrite the conflicts of a deselected policy. -/
def resetConflicts (deviceId : Id) (conflicts : List ColumnConflict) : PolicyTask Unit := do
  resolveRow deviceId (conflicts.filterMap nullAssignment)
  clear P deviceId

/-- `deselect_owned`: it may reset conflicts on what is selected, never on owner or restriction. -/
def deselectOwned (deviceId : Id) (ownerSubject : String) : PolicyTask Bool := do
  let conflicts ← query (policyConflicts P deviceId)
  failIf (conflicts.any fun conflict => !isSelectionColumn conflict.column)
    (invalid "conflicted selection policy ownership or admin restriction")
  match ← rawRecord P deviceId with
  | none => pure false
  | some policy =>
    if ownerSubject == "" || policy.ownerSubject != ownerSubject then pure false
    else do
      skipIf conflicts.isEmpty (resetConflicts P deviceId conflicts)
      let policy ← okOr (← record P deviceId) (invalid "selection policy not found")
      if policy.applicationId.isNone && policy.selectedKind.isNone && policy.selectedId.isNone then
        pure true
      else do
        execute P [.updateResource (.hasDevice deviceId) false,
          .updatePolicy deviceId (selectionAssignments none none none)]
        clear P deviceId
        pure true

end

end LocalPlatform.Management

import LocalPlatform.Lib.Task
import LocalPlatform.Lib.MultiValue

/-!
# The replicated tables of the device selection

`device_selection_policies` and `device_resource_selections` as a replica holds them. Every column
of a row is a multi-value register; how the engine reads and reports one is left to its rules.
-/

namespace LocalPlatform.Management

open Resumption MultiValue

/-- An identifier; the source's UUID. -/
abbrev Id := ℕ

/-! ## Columns -/

/-- The columns of both tables, the primary keys apart. -/
inductive Column where
  | ownerSubject
  | applicationId
  | selectedKind
  | selectedId
  | adminAllowed
  | deviceId
  | resourceOwnerSubject
  | resourceApplicationId
  | resourceKind
  | resourceId
  | selected
deriving DecidableEq, Repr

/-- The type of a column in the schema. -/
abbrev Column.Value : Column → Type
  | .ownerSubject => String
  | .applicationId => Option Id
  | .selectedKind => Option String
  | .selectedId => Option Id
  | .adminAllowed => Bool
  | .deviceId => Id
  | .resourceOwnerSubject => String
  | .resourceApplicationId => Id
  | .resourceKind => String
  | .resourceId => Id
  | .selected => Bool

/-- The columns of `device_selection_policies`. -/
def policyColumns : List Column :=
  [.ownerSubject, .applicationId, .selectedKind, .selectedId, .adminAllowed]

/-- The columns of `device_resource_selections`. -/
def resourceColumns : List Column :=
  [.deviceId, .resourceOwnerSubject, .resourceApplicationId, .resourceKind, .resourceId, .selected]

/-- The two selection tables, with every value a replica has seen and not overwritten. -/
abbrev Data := Database Id Column Column.Value

/-- The value that a statement gives to a column. -/
structure Assignment where
  column : Column
  value : column.Value

/-- A conflicted column with the values that are visible in it. -/
structure ColumnConflict where
  column : Column
  values : List column.Value

/-! ## Rows -/

/-- A row of `device_selection_policies`: what a device replicates, and whether it may. -/
structure SelectionPolicy where
  deviceId : Id
  ownerSubject : String
  applicationId : Option Id
  selectedKind : Option String
  selectedId : Option Id
  adminAllowed : Bool
deriving DecidableEq, Repr

/-- A resource as the admission compares it. -/
structure SelectedResource where
  deviceId : Id
  ownerSubject : String
  applicationId : Id
  kind : String
  resourceId : Id
deriving DecidableEq, Repr

/-- A row of `device_resource_selections`. -/
structure ResourceSelection where
  id : Id
  deviceId : Id
  ownerSubject : String
  applicationId : Id
  selectedKind : String
  selectedId : Id
  selected : Bool
deriving DecidableEq, Repr

/-- The columns an insert of the policy writes. -/
def SelectionPolicy.assignments (policy : SelectionPolicy) : List Assignment :=
  [⟨.ownerSubject, policy.ownerSubject⟩, ⟨.applicationId, policy.applicationId⟩,
    ⟨.selectedKind, policy.selectedKind⟩, ⟨.selectedId, policy.selectedId⟩,
    ⟨.adminAllowed, policy.adminAllowed⟩]

/-- The columns an insert of the selection writes. -/
def ResourceSelection.assignments (selection : ResourceSelection) : List Assignment :=
  [⟨.deviceId, selection.deviceId⟩, ⟨.resourceOwnerSubject, selection.ownerSubject⟩,
    ⟨.resourceApplicationId, selection.applicationId⟩, ⟨.resourceKind, selection.selectedKind⟩,
    ⟨.resourceId, selection.selectedId⟩, ⟨.selected, selection.selected⟩]

/-- The code outside of this repository: the rules of the engine, the hash that names the row of
a resource selection, and the text of a uniqueness error. -/
structure Platform where
  rules : Rules
  resourceSelectionId : (deviceId : Id) → (ownerSubject : String) → (applicationId : Id) →
    (kind : String) → (resourceId : Id) → Id
  duplicateKey : String

/-- The engine merges lawfully, and the hash has no collisions. -/
structure Platform.Lawful (P : Platform) : Prop where
  rules : P.rules.Lawful
  selectionId_injective : ∀ {d o a k r d' o' a' k' r'},
    P.resourceSelectionId d o a k r = P.resourceSelectionId d' o' a' k' r' →
      d = d' ∧ o = o' ∧ a = a' ∧ k = k' ∧ r = r'

section
variable (P : Platform)

/-- A row of `device_selection_policies`, as a query returns it. -/
def policyRow (data : Data) (deviceId : Id) : Option SelectionPolicy := do
  let ownerSubject ← P.rules.read (data.cells .ownerSubject deviceId)
  let applicationId ← P.rules.read (data.cells .applicationId deviceId)
  let selectedKind ← P.rules.read (data.cells .selectedKind deviceId)
  let selectedId ← P.rules.read (data.cells .selectedId deviceId)
  let adminAllowed ← P.rules.read (data.cells .adminAllowed deviceId)
  pure { deviceId, ownerSubject, applicationId, selectedKind, selectedId, adminAllowed }

/-- A row of `device_resource_selections`, as a query returns it. -/
def resourceRow (data : Data) (id : Id) : Option ResourceSelection := do
  let deviceId ← P.rules.read (data.cells .deviceId id)
  let ownerSubject ← P.rules.read (data.cells .resourceOwnerSubject id)
  let applicationId ← P.rules.read (data.cells .resourceApplicationId id)
  let selectedKind ← P.rules.read (data.cells .resourceKind id)
  let selectedId ← P.rules.read (data.cells .resourceId id)
  let selected ← P.rules.read (data.cells .selected id)
  pure { id, deviceId, ownerSubject, applicationId, selectedKind, selectedId, selected }

/-- `row_conflict_values` -/
def rowConflictValues (columns : List Column) (data : Data) (key : Id) : List ColumnConflict :=
  columns.filterMap fun c =>
    if P.rules.isConflicted (data.cells c key) then some ⟨c, (data.cells c key).values⟩ else none

/-! ## Statements -/

/-- The `WHERE` clause of a statement on `device_resource_selections`. -/
inductive ResourcePredicate where
  | hasId (key : Id)
  | hasDevice (deviceId : Id)
deriving DecidableEq, Repr

/-- The `WHERE` clause of an update. -/
def ResourcePredicate.holds (row : ResourceSelection) : ResourcePredicate → Bool
  | .hasId key => row.id == key
  | .hasDevice deviceId => row.deviceId == deviceId

/-- The statements the two repositories send. -/
inductive Statement where
  | insertPolicy (policy : SelectionPolicy)
  | updatePolicy (deviceId : Id) (assignments : List Assignment)
  | insertResource (selection : ResourceSelection)
  | updateResource (predicate : ResourcePredicate) (selected : Bool)

/-- A replica: the actor that writes, and what it has written or received. -/
structure Replica where
  actor : ℕ
  data : Data

/-- Change the assigned columns of a row, one after the other. -/
def modifyRow (f : (a : Assignment) → Register a.column.Value → Register a.column.Value) (key : Id)
    (assignments : List Assignment) (data : Data) : Data :=
  assignments.foldl (fun data a => data.modify a.column key (f a)) data

/-- Write all the given columns of a row. -/
def writeRow (actor : ℕ) (key : Id) (assignments : List Assignment) (data : Data) : Data :=
  modifyRow (fun a => Register.write actor a.value) key assignments data

/-- Assign the given columns of a row, as an `UPDATE` does. -/
def assignRow (actor : ℕ) (key : Id) (assignments : List Assignment) (data : Data) : Data :=
  modifyRow (fun a => P.rules.assign actor a.value) key assignments data

/-- The rows that a predicate selects. -/
def matchesRow (predicate : ResourcePredicate) (data : Data) (id : Id) : Bool :=
  (resourceRow P data id).any fun row => predicate.holds row

/-- The effect of a statement; an update of no row changes nothing. -/
def Statement.apply (actor : ℕ) (data : Data) : Statement → Data
  | .insertPolicy policy => writeRow actor policy.deviceId policy.assignments data
  | .updatePolicy deviceId assignments =>
    if (policyRow P data deviceId).isSome then assignRow P actor deviceId assignments data else data
  | .insertResource selection => writeRow actor selection.id selection.assignments data
  | .updateResource predicate selected =>
    { data with cells := Function.update data.cells .selected fun id =>
        if matchesRow P predicate data id then
          P.rules.assign actor selected (data.cells .selected id)
        else data.cells .selected id }

/-- An insertion of a row that exists already. -/
def Statement.duplicate (data : Data) : Statement → Bool
  | .insertPolicy policy => (policyRow P data policy.deviceId).isSome
  | .insertResource selection => (resourceRow P data selection.id).isSome
  | .updatePolicy _ _ | .updateResource _ _ => false

/-! ## Engine calls -/

/-- The errors of the management service. -/
inductive ManagementError where
  | invalidInput (message : String)
deriving DecidableEq, Repr

/-- The result of a call that takes no step. -/
abbrev ManagementResult := Except ManagementError

/-- What an engine call does. -/
inductive EngineCall where
  | query
  | execute (statements : List Statement)
  | resolveRow (key : Id) (resolutions : List Assignment)

/-- A call of the policy repository: steps over the replica. -/
abbrev PolicyTask := Task EngineCall Replica ManagementError

/-- A read of the tables in one step. -/
def query {α : Type} (f : Data → α) : PolicyTask α := Task.read .query fun s => .ok (f s.data)

/-- A list of statements in one step; a duplicate key refuses all of them. -/
def execute (statements : List Statement) : PolicyTask Unit :=
  Task.atomic (.execute statements) fun s =>
    if statements.any fun statement => statement.duplicate P s.data then
      (.error (.invalidInput P.duplicateKey), s)
    else (.ok (), { s with data := statements.foldl (Statement.apply P s.actor) s.data })

/-- `resolve_row`: write the columns whether or not they hold the value already. -/
def resolveRow (key : Id) (resolutions : List Assignment) : PolicyTask Unit :=
  Task.atomic (.resolveRow key resolutions) fun s =>
    (.ok (), { s with data := writeRow s.actor key resolutions s.data })

end

end LocalPlatform.Management

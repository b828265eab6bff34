import LocalPlatform.Lib.Task

/-!
# Resolved conflicts

`resolve` of the replica: an administrator gives values for the columns of a security row that is in
conflict. All of them are assigned, and then the resolution is recorded with the columns that were in
conflict. Values may be given for other columns too, which the record then does not name; a null
among them makes a code or a token that was consumed usable again.
-/

namespace LocalPlatform.Idp.Replica

open Resumption Function List

/-- The tables whose conflicts an administrator resolves. -/
inductive SecurityTable where
  | application | client | credential | device | key | oauthAuthorizationCode | oauthRefreshToken
  | oauthUserConsent | permission | role | rolePermission | userRole
  deriving DecidableEq, Repr

/-- `is_token_state`: a conflict on `consumed_at` of such a row is resolved by a consumption only. -/
def SecurityTable.isTokenState : SecurityTable → Bool
  | .oauthAuthorizationCode | .oauthRefreshToken => true
  | _ => false

/-- A row named by its table and identifier. -/
structure SecurityRow where
  table : SecurityTable
  id : ℕ
  deriving DecidableEq, Repr

/-- A row of the audit table: who resolved which columns. -/
structure ResolutionAudit where
  id : ℕ
  administratorId : ℕ
  table : SecurityTable
  rowId : ℕ
  columns : List String
  createdAt : ℤ
  deriving DecidableEq, Repr

/-- The current values of each column, where `none` is null, the columns that the engine reports as
conflicted, and the recorded resolutions. -/
structure Engine (ν : Type) where
  values : SecurityRow → String → List (Option ν)
  conflicts : SecurityRow → List String
  audits : List ResolutionAudit

/-- The engine calls of a resolution. -/
inductive Call where
  | rowConflicts | resolveRow | insertAudit
  deriving DecidableEq, Repr

/-- `resolve_row` of the engine. Each given column is assigned its given value. Which one it gets
if several are given for it is open, and so is what is in conflict afterwards. -/
structure RowResolver (ν : Type) where
  resolveRow : List (String × Option ν) → (String → List (Option ν)) → String → List (Option ν)
  remaining : List (String × Option ν) → List String → List String
  given : ∀ values columns column, column ∈ values.map Prod.fst →
    ∃ value, (column, value) ∈ values ∧ resolveRow values columns column = [value]
  others : ∀ values columns column, column ∉ values.map Prod.fst →
    resolveRow values columns column = columns column

section
variable {ν ε : Type} (faults : Call → Option ε) (resolver : RowResolver ν)
  (auditId administratorId : ℕ) (row : SecurityRow) (values : List (String × Option ν))
  (createdAt : ℤ)

/-- A call of the engine, which has its effect unless it fails. -/
def execute (call : Call) (effect : Engine ν → Engine ν) : Task Call (Engine ν) ε Unit :=
  .atomic call fun s => (faults call).elim (.ok (), effect s) fun e => (.error e, s)

/-- Nothing is in conflict, or a consumption is and no time is given for it. -/
def refuses (conflicts : List String) : Bool :=
  conflicts.isEmpty || (row.table.isTokenState && conflicts.any (· == "consumed_at") &&
    !values.any fun given => given.1 == "consumed_at" && given.2.isSome)

/-- `resolve` -/
def resolve : Task Call (Engine ν) ε (Option ResolutionAudit) := do
  let conflicts ← .read .rowConflicts fun s =>
    (faults .rowConflicts).elim (.ok (s.conflicts row)) .error
  if refuses row values conflicts then pure none
  else
    let audit := ⟨auditId, administratorId, row.table, row.id, conflicts, createdAt⟩
    execute faults .resolveRow fun s =>
      { s with
        values := update s.values row (resolver.resolveRow values (s.values row))
        conflicts := update s.conflicts row (resolver.remaining values (s.conflicts row)) }
    execute faults .insertAudit fun s => { s with audits := s.audits ++ [audit] }
    pure (some audit)

variable (s : Engine ν)

/-- The call gets as far as the assignment. -/
def Assigns : Prop :=
  faults .rowConflicts = none ∧ refuses row values (s.conflicts row) = false ∧
    faults .resolveRow = none

/-- A current value says that the code or token was consumed. -/
def Consumed (row : SecurityRow) : Prop := ∃ value ∈ s.values row "consumed_at", value ≠ none

/-- Consumed codes and tokens stay so, and a row changes only together with a record that names the
columns that changed. -/
structure Safe (s s' : Engine ν) : Prop where
  consumed : ∀ row, row.table.isTokenState = true → Consumed s row → Consumed s' row
  recorded : ∀ row column, s'.values row column ≠ s.values row column →
    ∃ audit, s'.audits = s.audits ++ [audit] ∧ audit.table = row.table ∧ audit.rowId = row.id ∧
      column ∈ audit.columns

/-- What a call leaves behind. -/
lemma run_resolve :
    let s' := ((resolve faults resolver auditId administratorId row values createdAt).run s).2
    (¬Assigns faults row values s → s' = s) ∧
    (Assigns faults row values s →
      s'.values = update s.values row (resolver.resolveRow values (s.values row)) ∧
      s'.audits = if faults .insertAudit = none then
        s.audits ++ [⟨auditId, administratorId, row.table, row.id, s.conflicts row, createdAt⟩]
      else s.audits) := by
  unfold Assigns resolve
  cases hread : faults .rowConflicts with
  | some e => simp [run_bind]
  | none =>
    cases hrefuses : refuses row values (s.conflicts row) with
    | true => simp [run_bind, hrefuses]
    | false =>
      cases hresv : faults .resolveRow with
      | some e => simp [run_bind, execute, hrefuses, hresv]
      | none =>
        cases hins : faults .insertAudit <;>
          simp [run_bind, execute, hrefuses, hresv, hins]

end

section
variable {ν ε : Type} {faults : Call → Option ε} {auditId administratorId : ℕ} {row : SecurityRow}
  {values : List (String × Option ν)} {createdAt : ℤ} {s : Engine ν}

/-- With one resolver: every column that changes was in conflict and the record can be inserted, and
the consumption of a consumed code or token does not become null. -/
lemma resolve_safe_iff_assigned (resolver : RowResolver ν) :
    Safe s ((resolve faults resolver auditId administratorId row values createdAt).run s).2 ↔
      (Assigns faults row values s →
        (∀ column, resolver.resolveRow values (s.values row) column ≠ s.values row column →
          faults .insertAudit = none ∧ column ∈ s.conflicts row) ∧
        (row.table.isTokenState = true → Consumed s row →
          resolver.resolveRow values (s.values row) "consumed_at" ≠ [none])) := by
  obtain ⟨hsame, hassigned⟩ :=
    run_resolve faults resolver auditId administratorId row values createdAt s
  generalize ((resolve faults resolver auditId administratorId row values createdAt).run s).2 = s'
    at *
  by_cases hassigns : Assigns faults row values s
  swap
  · rw [hsame hassigns]
    exact iff_of_true ⟨fun _ _ h => h, fun _ _ h => absurd rfl h⟩ fun h => absurd h hassigns
  obtain ⟨hvalues, haudits⟩ := hassigned hassigns
  have hother : ∀ other, other ≠ row → s'.values other = s.values other := fun other hne => by
    rw [hvalues, update_of_ne hne]
  have hown : s'.values row = resolver.resolveRow values (s.values row) := by
    rw [hvalues, update_self]
  -- the conditions follow from the audit row, and only the given row can break them
  refine ⟨fun h _ => ⟨fun column hchg => ?_, fun htoken hconsumed hnull => ?_⟩,
    fun h => ⟨fun other htoken hconsumed => ?_, fun other column hchg => ?_⟩⟩
  · obtain ⟨audit, haudit, -, -, hmem⟩ := h.recorded row column (hown ▸ hchg)
    by_cases hins : faults .insertAudit = none
    · rw [haudits, if_pos hins, append_cancel_left_eq, singleton_inj] at haudit
      rw [← haudit] at hmem
      exact ⟨hins, hmem⟩
    · rw [haudits, if_neg hins] at haudit
      simp at haudit
  · obtain ⟨value, hvalue, hsome⟩ := h.consumed row htoken hconsumed
    rw [hown, hnull] at hvalue
    exact hsome (mem_singleton.mp hvalue)
  · by_cases hrow : other = row
    · subst hrow
      have hkept := (h hassigns).2 htoken hconsumed
      unfold Consumed
      rw [hown]
      by_cases hgiven : "consumed_at" ∈ values.map Prod.fst
      · obtain ⟨value, -, hvalue⟩ := resolver.given values (s.values other) _ hgiven
        rw [hvalue] at hkept ⊢
        exact ⟨value, mem_singleton_self value, fun hnone => hkept (hnone ▸ rfl)⟩
      · rwa [resolver.others values _ _ hgiven]
    · unfold Consumed
      rwa [hother other hrow]
  · by_cases hrow : other = row
    · subst hrow
      obtain ⟨hins, hconf⟩ := (h hassigns).1 column (hown ▸ hchg)
      rw [haudits, if_pos hins]
      exact ⟨_, rfl, rfl, rfl, hconf⟩
    · exact absurd (congrFun (hother other hrow) column) hchg

/-- The resolver that takes the first value given for a column. -/
def RowResolver.firstGiven : RowResolver ν where
  resolveRow values columns column :=
    (values.find? (·.1 == column)).elim (columns column) fun given => [given.2]
  remaining values conflicts := conflicts.filter fun column => values.all (·.1 != column)
  given values columns column hcol := by
    obtain ⟨given, hgiven, rfl⟩ := mem_map.mp hcol
    cases hfind : values.find? (·.1 == given.1) with
    | none => simpa using find?_eq_none.mp hfind given hgiven
    | some found =>
      have hname : found.1 = given.1 := by simpa using find?_some hfind
      exact ⟨found.2, hname ▸ mem_of_find?_eq_some hfind, rfl⟩
  others values columns column hcol := by
    have hfind : values.find? (·.1 == column) = none :=
      find?_eq_none.mpr fun given hgiven hname =>
        hcol (mem_map.mpr ⟨given, hgiven, by simpa using hname⟩)
    rw [hfind]
    rfl

open Classical in
/-- For every value that is given for a column some resolver takes that one. -/
lemma RowResolver.exists_taking {column : String} {value : Option ν}
    (h : (column, value) ∈ values) :
    ∃ resolver : RowResolver ν, ∀ columns, resolver.resolveRow values columns column = [value] := by
  refine ⟨{ firstGiven with
    resolveRow := fun values' columns column' => if column' = column ∧ values' = values then [value]
      else firstGiven.resolveRow values' columns column'
    given := fun values' columns column' hcol => ?_
    others := fun values' columns column' hcol => ?_ }, fun columns => if_pos ⟨rfl, rfl⟩⟩
  · split_ifs with hthis
    · obtain ⟨rfl, rfl⟩ := hthis
      exact ⟨value, h, rfl⟩
    · exact firstGiven.given values' columns column' hcol
  · have hnot : ¬(column' = column ∧ values' = values) := by
      rintro ⟨rfl, rfl⟩
      exact hcol (mem_map_of_mem h)
    rw [if_neg hnot]
    exact firstGiven.others values' columns column' hcol

/-- Whichever of the given values are taken, a resolution is safe exactly if it assigns nothing, or
every value that is not the current one is given for a column in conflict and can be recorded, and
no null is given for the consumption of a code or token that was consumed. -/
theorem resolve_safe_iff :
    (∀ resolver : RowResolver ν,
      Safe s ((resolve faults resolver auditId administratorId row values createdAt).run s).2) ↔
      (Assigns faults row values s →
        (∀ column value, (column, value) ∈ values → s.values row column ≠ [value] →
          faults .insertAudit = none ∧ column ∈ s.conflicts row) ∧
        (row.table.isTokenState = true → Consumed s row → ("consumed_at", none) ∉ values)) := by
  simp only [resolve_safe_iff_assigned]
  refine ⟨fun h hassigns => ⟨fun column value hgiven hne => ?_, fun htoken hconsumed hnull => ?_⟩,
    fun h resolver hassigns => ⟨fun column hchg => ?_, fun htoken hconsumed hnull => ?_⟩⟩
  · obtain ⟨resolver, htaken⟩ := RowResolver.exists_taking hgiven
    exact (h resolver hassigns).1 column (htaken (s.values row) ▸ hne.symm)
  · obtain ⟨resolver, htaken⟩ := RowResolver.exists_taking hnull
    exact (h resolver hassigns).2 htoken hconsumed (htaken _)
  · by_cases hgiven : column ∈ values.map Prod.fst
    · obtain ⟨value, hmem, hvalue⟩ := resolver.given values (s.values row) column hgiven
      exact (h hassigns).1 column value hmem (hvalue ▸ hchg.symm)
    · exact absurd (resolver.others values _ column hgiven) hchg
  · by_cases hgiven : "consumed_at" ∈ values.map Prod.fst
    · obtain ⟨value, hmem, hvalue⟩ := resolver.given values (s.values row) _ hgiven
      obtain rfl : value = none := singleton_inj.mp (hvalue.symm.trans hnull)
      exact (h hassigns).2 htoken hconsumed hmem
    · rw [resolver.others values _ _ hgiven] at hnull
      obtain ⟨value, hmem, hsome⟩ := hconsumed
      rw [hnull] at hmem
      exact hsome (mem_singleton.mp hmem)

end

/-- A code that was consumed, with a conflict about its scopes. -/
def conflictedCode : Engine ℤ where
  values _ column := if column = "scopes" then [some 1, some 2] else [some 5]
  conflicts _ := ["scopes"]
  audits := []

/-- Besides the column in conflict a null is given for the consumption. The code becomes usable
again, and the record names the scopes only. Or one value is given, and only the record fails. -/
theorem resolve_unsafe :
    let row : SecurityRow := ⟨.oauthAuthorizationCode, 6⟩
    let failing (failed : Option Call) (call : Call) : Option String :=
      if failed = some call then some "unavailable" else none
    let resolved := (resolve (failing none) .firstGiven 7 8 row
      [("scopes", some 1), ("consumed_at", none)] 3).run conflictedCode
    let unrecorded := (resolve (failing (some .insertAudit)) .firstGiven 7 8 row
      [("scopes", some 1)] 3).run conflictedCode
    conflictedCode.values row "consumed_at" = [some 5] ∧
    resolved.1.isOk = true ∧ resolved.2.values row "consumed_at" = [none] ∧
    resolved.2.audits.map (·.columns) = [["scopes"]] ∧
    unrecorded.1 = .error "unavailable" ∧ unrecorded.2.values row "scopes" = [some 1] ∧
    unrecorded.2.audits = [] := by
  decide +kernel

end LocalPlatform.Idp.Replica

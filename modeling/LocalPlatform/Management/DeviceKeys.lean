import LocalPlatform.Management.PairingTheorems

/-!
# Keys of devices

The engine keeps ids and public keys unique. A call of the repository that runs alone keeps every
row with its id and key, and a revoked device revoked: an approval looks at the row it updates.
-/

namespace LocalPlatform.Management

open Resumption Rows Text DeviceRepo DeviceRow List
open Idp (DateTime Bytes)

/-- Ids and public keys are unique. -/
structure DeviceTable.Distinct (table : DeviceTable) : Prop where
  keyed : table.Keyed
  publicKeys : (table.rows.map (·.publicKey)).Nodup

/-- A row at two points of time. -/
structure Remains (old new : DeviceRow) : Prop where
  id : new.id = old.id
  publicKey : new.publicKey = old.publicKey
  revoked : old.state = .revoked → new.state = .revoked

/-- Every row remains, and keys stay unique. -/
structure DeviceTable.Keeps (table table' : DeviceTable) : Prop where
  rows : Grows DeviceRow.id Remains table.rows table'.rows
  publicKeys : (table.rows.map (·.publicKey)).Nodup → (table'.rows.map (·.publicKey)).Nodup

/-- There is a row with this id and this public key. -/
def DeviceTable.Names (table : DeviceTable) (id : Id) (publicKey : String) : Prop :=
  ∃ row ∈ table.rows, row.id = id ∧ row.publicKey = publicKey

/-- There is a device with this public key in this state. -/
def DeviceTable.KeyIn (table : DeviceTable) (publicKey : String) (state : DeviceState) : Prop :=
  ∃ row ∈ table.rows, row.publicKey = publicKey ∧ row.state = state

section
variable {P : DevicePlatform} {table table' table'' : DeviceTable} {row : DeviceRow} {id : Id}
  {publicKey : String} {assignments : List DeviceAssignment} {hash : Bytes}

lemma Remains.refl (row : DeviceRow) : Remains row row := ⟨rfl, rfl, fun h => h⟩

lemma Remains.trans {a b c : DeviceRow} (hab : Remains a b) (hbc : Remains b c) : Remains a c :=
  ⟨hbc.id.trans hab.id, hbc.publicKey.trans hab.publicKey, fun h => hbc.revoked (hab.revoked h)⟩

lemma Remains.id_eq (a b : DeviceRow) (h : Remains a b) : a.id = b.id := h.id.symm

namespace DeviceTable

lemma Keeps.refl (table : DeviceTable) : table.Keeps table := ⟨.refl .refl _, fun h => h⟩

lemma Keeps.trans (h : table.Keeps table') (h' : table'.Keeps table'') : table.Keeps table'' :=
  ⟨.trans Remains.id_eq (fun _ _ _ => .trans) h.rows h'.rows,
    fun hkeys => h'.publicKeys (h.publicKeys hkeys)⟩

lemma Keeps.distinct (h : table.Keeps table') (hdistinct : table.Distinct) : table'.Distinct :=
  ⟨h.rows.nodup hdistinct.keyed, h.publicKeys hdistinct.publicKeys⟩

/-- Rows that are updated in place. -/
lemma Keeps.map {f : DeviceRow → DeviceRow} (hf : ∀ row ∈ table.rows, Remains row (f row)) :
    table.Keeps { table with rows := table.rows.map f } := by
  have hids : (table.rows.map f).map (·.id) = table.rows.map (·.id) := by
    rw [map_map]
    exact map_congr_left fun row hrow => (hf row hrow).id
  have hkeys : (table.rows.map f).map (·.publicKey) = table.rows.map (·.publicKey) := by
    rw [map_map]
    exact map_congr_left fun row hrow => (hf row hrow).publicKey
  refine ⟨⟨fun row hrow => ?_, fun before hbef => ?_, fun h => hids ▸ h⟩, fun h => hkeys ▸ h⟩
  · obtain ⟨before, hbef, rfl⟩ := mem_map.mp hrow
    exact .inl ⟨before, hbef, hf before hbef⟩
  · exact ⟨f before, mem_map_of_mem hbef, (hf before hbef).id⟩

/-- A new row with a new id and a new key. -/
lemma Keeps.append (hnew : table.Lacks row) :
    table.Keeps { table with rows := table.rows ++ [row] } := by
  refine ⟨.append .refl fun other hother => (hnew other hother).1, fun hkeys => ?_⟩
  rw [map_append, nodup_append]
  refine ⟨hkeys, nodup_singleton _, fun key hkey key' hkey' heq => ?_⟩
  obtain ⟨other, hother, rfl⟩ := mem_map.mp hkey
  obtain rfl : key' = row.publicKey := by simpa using hkey'
  exact (hnew other hother).2 heq

section
variable (h : table.Keeps table')
include h

variable (hdistinct : table.Distinct)
include hdistinct

/-- Every row goes on. -/
lemma Keeps.kept (hrow : row ∈ table.rows) :
    ∃ row' ∈ table'.rows, Remains row row' := by
  obtain ⟨row', hrow', hid⟩ := h.rows.keys row hrow
  exact ⟨row', hrow', h.rows.same_of_key_eq Remains.id_eq hrow
    (fun other hother heq => inj_on_of_nodup_map hdistinct.keyed hother hrow heq) hrow' hid⟩

lemma Keeps.names (hnames : table.Names id publicKey) : table'.Names id publicKey := by
  obtain ⟨_, hrow, hid, hkey⟩ := hnames
  obtain ⟨row', hrow', hremains⟩ := h.kept hdistinct hrow
  exact ⟨row', hrow', hremains.id.trans hid, hremains.publicKey.trans hkey⟩

/-- A revoked device stays revoked. -/
lemma Keeps.revoked
    (hrev : table.KeyIn publicKey .revoked) : table'.KeyIn publicKey .revoked := by
  obtain ⟨_, hrow, hkey, hstate⟩ := hrev
  obtain ⟨row', hrow', hremains⟩ := h.kept hdistinct hrow
  exact ⟨row', hrow', hremains.publicKey.trans hkey, hremains.revoked hstate⟩

end

/-- One key is in one state. -/
lemma Distinct.state_unique (h : table.Distinct) {state state' : DeviceState}
    (hstate : table.KeyIn publicKey state) (hstate' : table.KeyIn publicKey state') :
    state = state' := by
  obtain ⟨_, hrow, hkey, rfl⟩ := hstate
  obtain ⟨_, hrow', hkey', rfl⟩ := hstate'
  rw [inj_on_of_nodup_map h.publicKeys hrow hrow' (hkey.trans hkey'.symm)]

/-- The row of an id is the one that carries the key. -/
lemma Distinct.keyIn (h : table.Distinct) (hnames : table.Names id publicKey)
    (hrow : row ∈ table.rows) (hid : row.id = id) : table.KeyIn publicKey row.state := by
  obtain ⟨other, hother, hid', hkey⟩ := hnames
  obtain rfl := inj_on_of_nodup_map h.keyed hother hrow (hid'.trans hid.symm)
  exact ⟨other, hother, hkey, rfl⟩

end DeviceTable

/-! ## Calls of the repository -/

/-- An UPDATE that sets no other state than revoked. -/
lemma DeviceTable.Keeps.update
    (hstate : ∀ state, .state state ∈ assignments → state = .revoked) :
    table.Keeps (table.update id assignments) := by
  refine .map fun row _ => ?_
  split
  · refine ⟨id_assignments .., publicKey_assignments .., fun hrev => ?_⟩
    rcases state_assignments row assignments with hsame | hmem
    · exact hsame.trans hrev
    · exact hstate _ hmem
  · exact .refl row

lemma DeviceTable.Keeps.revoke (now : DateTime) : table.Keeps (table.update id (revocation now)) :=
  .update fun state h => by simpa [revocation] using h

/-- An UPDATE of a pending device. -/
lemma DeviceTable.Distinct.keeps_update (hdistinct : table.Distinct) (hrow : row ∈ table.rows)
    (hid : row.id = id) (hpend : row.state = .pending) :
    table.Keeps (table.update id assignments) := by
  refine .map fun other hother => ?_
  split
  · rename_i hsame
    obtain rfl := inj_on_of_nodup_map hdistinct.keyed hother hrow (hsame.trans hid.symm)
    refine ⟨id_assignments .., publicKey_assignments .., fun hrev => ?_⟩
    rw [hpend] at hrev
    cases hrev
  · exact .refl other

lemma approve_keeps (hdistinct : table.Distinct) (now updatedAt : DateTime) (id : Id)
    (hash : Bytes) : table.Keeps ((approve now updatedAt id hash).run table).2 := by
  refine ends_checked (.refl table) fun row hrow hid hcheck => ?_
  simp only [not_or, not_not] at hcheck
  exact hdistinct.keeps_update hrow hid hcheck.1

/-- Every call of the repository that runs alone keeps every row. -/
lemma RepoCall.keeps (call : RepoCall) (hdistinct : table.Distinct) :
    (call.task P).Ends table.Keeps table := by
  cases call with
  | create => exact .map (ends_create (.refl table) fun _ hnew _ _ => .append hnew) _
  | createPairing =>
    exact .map (ends_createPairing (.refl table) fun _ hnew _ _ _ _ => .append hnew) _
  | approvePairing now id =>
    refine .map (ends_checked (.refl table) fun row hrow hid hcheck => ?_) _
    simp only [not_or, not_not] at hcheck
    exact hdistinct.keeps_update hrow hid hcheck.1
  | approve now updatedAt id hash => exact .map (approve_keeps hdistinct now updatedAt id hash) _
  | rename => exact .map (ends_checked (.refl table) fun _ _ _ _ => .update (by simp)) _
  | revoke now => exact .map (ends_revoke (.refl table) fun _ _ _ => .revoke now) _
  | revokeSelf =>
    exact .map (ends_revokeSelf (.refl table) fun _ _ _ _ now hs => hs.trans (.revoke now)) _

/-! ## What the callers of an approval learn -/

variable {device : DeviceRecord} {devices : List DeviceRecord}

/-- An approval with a code leaves the device approved. -/
lemma approve_some {now updatedAt : DateTime}
    (h : (approve now updatedAt id hash).eval table = .ok (some device)) :
    ∃ row ∈ ((approve now updatedAt id hash).run table).2.rows,
      row.id = id ∧ row.state = .approved := by
  obtain ⟨table', hrun⟩ : ∃ table', (approve now updatedAt id hash).run table =
      (.ok (some device), table') := ⟨_, run_of_eval h⟩
  rw [hrun]
  obtain ⟨found, hfound, h1⟩ := run_bind_iff.mp hrun
  cases found with
  | none => cases h1
  | some row =>
    obtain ⟨hrow, hid⟩ := record_some hfound
    obtain ⟨_, -, h2⟩ := run_bind_iff.mp h1
    split at h2
    · cases h2
    · obtain ⟨_, _, hupd, h3⟩ := run_bind_ok.mp h2
      cases hupd
      obtain ⟨_, _, hdev, h4⟩ := run_bind_ok.mp h3
      obtain ⟨-, rfl⟩ := Prod.mk.inj hdev
      cases h4
      exact ⟨_, mem_map_of_mem hrow, by rw [if_pos hid]; exact hid, by rw [if_pos hid]; rfl⟩

lemma findApprovedByPublicKey_some
    (h : (findApprovedByPublicKey publicKey).eval table = .ok (some device)) :
    table.KeyIn publicKey .approved := by
  obtain ⟨rows, hrows, h1⟩ := eval_bind_iff.mp h
  obtain rfl := records_ok hrows
  split at h1
  · rename_i row hfil
    have hmem : row ∈ table.rows.filter fun row => row.publicKey == publicKey := by
      rw [hfil]
      exact mem_singleton_self row
    obtain ⟨hrow, hkey⟩ := mem_filter.mp hmem
    split at h1
    · cases h1
    · rename_i happr
      exact ⟨row, hrow, by simpa using hkey, not_not.mp happr⟩
  · cases h1

instance (publicKey : String) : (findApprovedByPublicKey publicKey).Reads := by
  refine .bind fun rows => ?_
  split
  · split <;> infer_instance
  · infer_instance

/-! ## New devices and lists -/

/-- An INSERT that succeeds finds neither the id nor the key. -/
lemma insert_ok {row : DeviceRow} :
    (insert P row).run table = (.ok (), table') ↔
      (∀ other ∈ table.rows, other.id ≠ row.id ∧ other.publicKey ≠ row.publicKey) ∧
        table' = { table with rows := table.rows ++ [row] } := by
  rw [DeviceRepo.insert, run_atomic]
  split
  · rename_i hold
    simp only [Prod.mk.injEq, reduceCtorEq, false_and, false_iff, not_and]
    obtain ⟨other, hother, hsame⟩ := any_eq_true.mp hold
    have hsame' : other.id = row.id ∨ other.publicKey = row.publicKey := by simpa using hsame
    exact fun hnew => absurd hsame' (not_or.mpr (hnew other hother))
  · rename_i hnew
    simp only [Prod.mk.injEq, true_and]
    refine ⟨fun h => ⟨fun other hother => ?_, h.symm⟩, fun h => h.2.symm⟩
    have hdiffers : ¬(other.id == row.id || other.publicKey == row.publicKey) = true :=
      fun hsame => hnew (any_eq_true.mpr ⟨other, hother, hsame⟩)
    simpa using hdiffers

/-- A new device is in the table with its key. -/
lemma create_ok {new : Id} {now : DateTime} {ownerSubject name address : String} {expiresAt : ℤ}
    (h : (create P new now ownerSubject name publicKey address hash expiresAt).run table =
      (.ok device, table')) : table'.Names device.id publicKey := by
  obtain ⟨_, -, h1⟩ := run_bind_iff.mp h
  obtain ⟨_, -, h2⟩ := run_bind_iff.mp h1
  obtain ⟨_, inserted, hins, h3⟩ := run_bind_ok.mp h2
  obtain ⟨hdev, rfl⟩ : _ = Except.ok device ∧ inserted = table' := Prod.ext_iff.mp h3
  have hid := (toDevice_fields hdev).1
  obtain ⟨-, rfl⟩ := insert_ok.mp hins
  exact ⟨_, mem_append_right _ (mem_singleton_self _), hid.symm, rfl⟩

instance : list.Reads := by
  unfold list
  infer_instance

/-- No conflict is reported for any of the rows. -/
lemma ensureClear_all {rows : List DeviceRow} :
    (rows.forM fun row => ensureClear row.id).eval table = .ok () ↔
      ∀ row ∈ rows, table.conflicted row.id = false := by
  induction rows with
  | nil => exact ⟨fun _ _ h => absurd h not_mem_nil, fun _ => rfl⟩
  | cons row rows ih =>
    have hclear : ∀ u : PUnit, (ensureClear row.id).eval table = .ok u ↔
        table.conflicted row.id = false := by
      intro u
      rw [ensureClear, Task.eval_read]
      cases table.conflicted row.id <;> simp
    show (ensureClear row.id >>= fun _ => _).eval table = _ ↔ _
    rw [eval_bind_iff, forall_mem_cons, ← ih]
    exact ⟨fun ⟨u, hrow, hrows⟩ => ⟨(hclear u).mp hrow, hrows⟩,
      fun ⟨hrow, hrows⟩ => ⟨(), (hclear ()).mpr hrow, hrows⟩⟩

variable (h : list.eval table = .ok devices)
include h

/-- A list that is returned is one of all rows, which have owners and no conflicts. -/
lemma list_ok :
    records.eval table = .ok table.rows ∧ (∀ row ∈ table.rows, table.conflicted row.id = false) ∧
      table.rows.mapM toDevice = .ok devices := by
  obtain ⟨rows, hrows, h1⟩ := eval_bind_iff.mp h
  obtain rfl := records_ok hrows
  obtain ⟨_, hclear, h2⟩ := eval_bind_iff.mp h1
  exact ⟨hrows, ensureClear_all.mp hclear, h2⟩

/-- Every listed device is in the table with its key. -/
lemma list_names (hdev : device ∈ devices) :
    table.Names device.id device.publicKey := by
  obtain ⟨row, hrow, hrec⟩ := exists_of_mem_mapM (list_ok h).2.2 hdev
  obtain ⟨hid, -, hkey, -⟩ := toDevice_fields hrec
  exact ⟨row, hrow, hid.symm, hkey.symm⟩

end

end LocalPlatform.Management

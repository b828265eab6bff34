import LocalPlatform.Lib.Encoding
import LocalPlatform.Management.DeviceTheorems
import LocalPlatform.Management.Reference
import LocalPlatform.Management.SelectionTheorems

/-!
# Payloads and keys made of fields

What a device signs to accept a pairing and to revoke itself, and what is hashed for the key of a
resource selection. Every field is one line, has a fixed size or stands behind its size, so the
whole determines the fields.
-/

namespace LocalPlatform.Management

open Text Resumption MultiValue List

/-- `device_self_revocation_payload` -/
def deviceSelfRevocationPayload (publicKey : String) : String :=
  "\n".intercalate ["idp-device-self-revocation-v1", toString publicKey.utf8ByteSize, publicKey]

/-- The approval text, as lines and sized fields. -/
lemma devicePairingApprovalPayload_eq (P : DevicePlatform) (id : Id)
    (name publicKey address : String) :
    devicePairingApprovalPayload P id name publicKey address =
      line "idp-device-pairing-approval-v1" (line (P.idText id)
        (sized name ("\n" ++ sized publicKey ("\n" ++ sized address "")))) := by
  simp [devicePairingApprovalPayload, sized, line, String.append_assoc]

/-- The revocation text, as lines and sized fields. -/
lemma deviceSelfRevocationPayload_eq (publicKey : String) : deviceSelfRevocationPayload publicKey =
    line "idp-device-self-revocation-v1" (sized publicKey "") := by
  simp [deviceSelfRevocationPayload, sized, line, String.append_assoc]

/-- A payload has the fields of one pairing only and is none of a self-revocation. -/
theorem devicePayloads_separate (P : DevicePlatform) (hid : Function.Injective P.idText)
    (hline : ∀ id, '\n' ∉ (P.idText id).toList) (id : Id) (name publicKey address : String) :
    (∀ id' name' publicKey' address',
      (devicePairingApprovalPayload P id name publicKey address).toUTF8.toList =
        (devicePairingApprovalPayload P id' name' publicKey' address').toUTF8.toList →
      id = id' ∧ name = name' ∧ publicKey = publicKey' ∧ address = address') ∧
    ∀ revokedKey, (devicePairingApprovalPayload P id name publicKey address).toUTF8.toList ≠
      (deviceSelfRevocationPayload revokedKey).toUTF8.toList := by
  constructor
  · intro id' name' publicKey' address' hbytes
    have h := utf8_inj hbytes
    rw [devicePairingApprovalPayload_eq, devicePairingApprovalPayload_eq] at h
    obtain ⟨-, h⟩ := line_inj (by decide) (by decide) h
    obtain ⟨htext, h⟩ := line_inj (hline id) (hline id') h
    obtain ⟨hname, h⟩ := sized_inj h
    obtain ⟨hkey, h⟩ := sized_inj ((String.append_right_inj _).mp h)
    obtain ⟨haddr, -⟩ := sized_inj ((String.append_right_inj _).mp h)
    exact ⟨hid htext, hname, hkey, haddr⟩
  · intro revokedKey hbytes
    have h := utf8_inj hbytes
    rw [devicePairingApprovalPayload_eq, deviceSelfRevocationPayload_eq] at h
    -- already the first lines differ
    obtain ⟨htag, -⟩ := line_inj (by decide) (by decide) h
    exact absurd htag (by decide)

/-- Two names that run into each other without their sizes. -/
theorem devicePayloads_separate_reference :
    devicePairingApprovalPayload Reference.devicePlatform 1 "a\n1" "b" "c" ≠
      devicePairingApprovalPayload Reference.devicePlatform 1 "a" "1\nb" "c" := by
  intro h
  have hfields := (devicePayloads_separate Reference.devicePlatform
    (fun _ _ => toString_nat_injective) newline_notMem_toString 1 "a\n1" "b" "c").1 1 "a" "1\nb" "c"
    (by rw [h])
  exact absurd hfields.2.1 (by decide)

/-! ## The key of a resource selection -/

namespace SelectedResource

/-- The bytes that `resource_selection_id` hashes. -/
def identity (x : SelectedResource) : List UInt8 :=
  beBytes 16 x.deviceId ++ beBytes 8 x.ownerSubject.utf8ByteSize ++ x.ownerSubject.toUTF8.toList ++
    beBytes 16 x.applicationId ++ beBytes 8 x.kind.utf8ByteSize ++ x.kind.toUTF8.toList ++
    beBytes 16 x.resourceId

/-- Identifiers are UUIDs, and the sizes of texts are `u64`. -/
structure Valid (x : SelectedResource) : Prop where
  deviceId : x.deviceId < 256 ^ 16
  ownerSubject : x.ownerSubject.utf8ByteSize < 256 ^ 8
  applicationId : x.applicationId < 256 ^ 16
  kind : x.kind.utf8ByteSize < 256 ^ 8
  resourceId : x.resourceId < 256 ^ 16

/-- The row that stands for a selected resource. -/
def rowId (P : Platform) (x : SelectedResource) : Id :=
  P.resourceSelectionId x.deviceId x.ownerSubject x.applicationId x.kind x.resourceId

/-- The policy that selects the resource. -/
def policy (x : SelectedResource) (adminAllowed : Bool) : SelectionPolicy :=
  ⟨x.deviceId, x.ownerSubject, some x.applicationId, some x.kind, some x.resourceId, adminAllowed⟩

/-- The bytes that are hashed determine the resource. -/
lemma identity_inj {x y : SelectedResource} (hx : x.Valid) (hy : y.Valid)
    (h : x.identity = y.identity) : x = y := by
  simp only [identity, append_assoc] at h
  obtain ⟨hdev, h⟩ := append_inj h (by simp)
  obtain ⟨hsize, h⟩ := append_inj h (by simp)
  have hsize := beBytes_inj hx.ownerSubject hy.ownerSubject hsize
  obtain ⟨howner, h⟩ := append_inj h (by rw [length_utf8, length_utf8, hsize])
  obtain ⟨happ, h⟩ := append_inj h (by simp)
  obtain ⟨hsize, h⟩ := append_inj h (by simp)
  have hsize := beBytes_inj hx.kind hy.kind hsize
  obtain ⟨hkind, hres⟩ := append_inj h (by rw [length_utf8, length_utf8, hsize])
  have hdev := beBytes_inj hx.deviceId hy.deviceId hdev
  have happ := beBytes_inj hx.applicationId hy.applicationId happ
  have hres := beBytes_inj hx.resourceId hy.resourceId hres
  cases x
  cases y
  exact (SelectedResource.mk.injEq ..).mpr
    ⟨hdev, utf8_inj howner, happ, utf8_inj hkind, hres⟩

end SelectedResource

/-- A platform that names rows by a code of the bytes that are hashed. -/
def Reference.hashing : Platform :=
  { platform with
    resourceSelectionId := fun d o a k r =>
      Encodable.encode ((SelectedResource.identity ⟨d, o, a, k, r⟩).map UInt8.toNat) }

/-- The bytes that are hashed determine the selection, different selections have different rows, and
selecting or deselecting one resource leaves the rows of all others as they are. -/
theorem resourceSelections_separate (P : Platform) (newV5 : List UInt8 → Id)
    (hv5 : Function.Injective newV5)
    (hP : ∀ x : SelectedResource, x.rowId P = newV5 x.identity) {x y : SelectedResource}
    (hx : x.Valid) (hy : y.Valid) :
    (x.identity = y.identity → x = y) ∧
    (x ≠ y → x.rowId P ≠ y.rowId P ∧ ∀ s : Replica, ∀ c ∈ resourceColumns,
      (∀ adminAllowed, ((setPrevalidated P (x.policy adminAllowed)).run s).2.data.cells c
        (y.rowId P) = s.data.cells c (y.rowId P)) ∧
      ((deselectResourceOwned P x.deviceId x.ownerSubject x.applicationId x.kind
        x.resourceId).run s).2.data.cells c (y.rowId P) = s.data.cells c (y.rowId P)) := by
  have hinj := SelectedResource.identity_inj hx hy
  refine ⟨hinj, fun hne => ?_⟩
  have hrow : x.rowId P ≠ y.rowId P := by
    rw [hP, hP]
    exact fun heq => hne (hinj (hv5 heq))
  refine ⟨hrow, fun s c hc => ?_⟩
  have hT := not_onRow hc hrow.symm
  constructor
  · intro adminAllowed
    exact Touches.cells ((setPrevalidated_touches (T := OnRow (x.rowId P)) _ _ _
      (fun _ _ => .inr rfl) fun _ hc => .inl hc).run s) hT
  · exact Touches.cells ((deselectResourceOwned_touches (T := OnRow (x.rowId P)) _ _ _
      (fun _ _ => .inr rfl) fun _ hc => .inl hc).run s) hT

/-- Databases 4 and 5 of one device have rows of their own. -/
theorem resourceSelections_separate_reference :
    let x : SelectedResource := ⟨1, "owner", 3, "database", 4⟩
    let y : SelectedResource := ⟨1, "owner", 3, "database", 5⟩
    x.rowId Reference.hashing ≠ y.rowId Reference.hashing :=
  ((resourceSelections_separate Reference.hashing (fun bytes => Encodable.encode (bytes.map UInt8.toNat))
    (fun _ _ h => map_injective_iff.mpr (fun _ _ => UInt8.toNat_inj.mp)
      (Encodable.encode_injective h))
    (fun _ => rfl) ⟨by decide, by decide, by decide, by decide, by decide⟩
    ⟨by decide, by decide, by decide, by decide, by decide⟩).2 (by decide)).1

end LocalPlatform.Management

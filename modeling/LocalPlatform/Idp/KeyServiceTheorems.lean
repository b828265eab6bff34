import LocalPlatform.Idp.PublishedKeyTheorems

/-!
# The key service

`KeyService` deletes the key material of an entity by going through the keys that are active, and
then drops all its key rows. The private key of a key that has expired or was revoked stays in the
ring, with no row that leads to it any more.
-/

namespace LocalPlatform.Idp

open Resumption List

/-! ## Deleting key material -/

/-- `delete` of the private key repository -/
def deletePrivateKey (ns : String) (path : DerivationPath) : RepoTask Unit :=
  .atomic .deletePrivateKey fun s =>
    (.ok (), { s with privateKeys := fun ns' path' =>
      if ns' = ns ∧ path' = path then none else s.privateKeys ns' path' })

/-- The predicate of `delete_by_entity_type_and_id` -/
def KeyRow.isOf (row : KeyRow) (entityType : EntityType) (entityId : Id) : Bool :=
  row.entityType == entityType.toInteger && row.entityId == entityId

/-- `delete_by_entity_type_and_id` -/
def deleteKeysByEntity (entityType : EntityType) (entityId : Id) : RepoTask Unit :=
  .atomic (.delete .keys entityId) fun s =>
    (.ok (), { s with keys := s.keys.filter (!·.isOf entityType entityId) })

/-- Delete the private key of a path if there is one. -/
def deleteIfStored (ns : String) (path : DerivationPath) : RepoTask Unit := do
  if (← loadPrivateKey ns path).isSome then
    deletePrivateKey ns path

/-- The loop of `delete_entity_key_material` over the keys that were listed. -/
def deleteListed (L : Libraries) (ns : String) : List Key → RepoTask Unit
  | [] => pure ()
  | key :: keys => do
    let path ← Task.lift ((L.parseDerivationPath key.derivationPath).mapError .key)
    deleteIfStored ns path
    deleteListed L ns keys

/-- `KeyService::delete_entity_key_material`: the secrets of the listed keys, then the master key,
and the rows last. -/
def deleteEntityKeyMaterial (L : Libraries) (base : String) (entityType : EntityType)
    (entityId : Id) : RepoTask Unit := do
  let ns := scopedNamespace L base entityType entityId
  let keys ← listKeysByEntity entityType entityId
  deleteListed L ns keys
  deleteIfStored ns []
  deleteKeysByEntity entityType entityId

variable {L : Libraries} {base ns : String} {entityType : EntityType} {entityId : Id}
  {s s' : Store}

/-- The ring without the private keys of some paths. -/
def Store.forget (s : Store) (ns : String) (paths : List DerivationPath) : Store :=
  { s with privateKeys := fun ns' path =>
      if ns' = ns ∧ path ∈ paths then none else s.privateKeys ns' path }

lemma forget_append (s : Store) (ns : String) (paths paths' : List DerivationPath) :
    (s.forget ns paths).forget ns paths' = s.forget ns (paths ++ paths') := by
  simp only [Store.forget, Store.mk.injEq, true_and, and_true]
  funext ns' path
  grind

lemma forget_nil (s : Store) (ns : String) : s.forget ns [] = s := by
  simp [Store.forget]

/-- A secret is gone afterwards, whether it was stored or not. -/
lemma run_deleteIfStored (s : Store) (ns : String) (path : DerivationPath) :
    (deleteIfStored ns path).run s = (.ok (), s.forget ns [path]) := by
  show (Task.run (if (s.privateKeys ns path).isSome then _ else pure ()) s) = _
  split_ifs with hsto
  · simp [deletePrivateKey, Store.forget]
  · -- there was nothing to delete
    have hsame : s.forget ns [path] = s := by
      simp only [Store.forget, mem_singleton]
      congr 1
      funext ns' path'
      split_ifs with hpath
      · rw [hpath.1, hpath.2, Option.not_isSome_iff_eq_none.mp hsto]
      · rfl
    rw [hsame]
    rfl

/-- The loop reads the path of every key and deletes what is stored there. -/
lemma deleteListed_ok {keys : List Key} (h : (deleteListed L ns keys).run s = (.ok (), s')) :
    ∃ paths, keys.mapM (fun key => L.parseDerivationPath key.derivationPath) = .ok paths ∧
      s' = s.forget ns paths := by
  induction keys generalizing s with
  | nil =>
    obtain rfl := congrArg Prod.snd h
    exact ⟨[], rfl, (forget_nil s ns).symm⟩
  | cons key keys ih =>
    obtain ⟨path, hpath, h1⟩ := run_bind_iff.mp h
    rw [run_bind, run_deleteIfStored] at h1
    obtain ⟨paths, hpaths, rfl⟩ := ih h1
    refine ⟨path :: paths, mapM_cons_ok.mpr ⟨path, paths, ?_, hpaths, rfl⟩, ?_⟩
    · exact except_mapError_ok.mp hpath
    · rw [forget_append, singleton_append]

/-! ## What is left -/

/-- The key belongs to the entity and has the given path. -/
structure PathOf (L : Libraries) (entityType : EntityType) (entityId : Id) (key : Key)
    (path : DerivationPath) : Prop where
  entityType : key.entityType = entityType
  entityId : key.entityId = entityId
  path : L.parseDerivationPath key.derivationPath = .ok path

/-- Nothing of the entity's keys is left, and everything else is as it was. -/
structure KeyMaterialDeleted (L : Libraries) (base : String) (entityType : EntityType)
    (entityId : Id) (s s' : Store) : Prop where
  root : s'.privateKeys (scopedNamespace L base entityType entityId) [] = none
  paths : ∀ row ∈ s.keys, ∀ key path, row.toKey = .ok key → PathOf L entityType entityId key path →
    s'.privateKeys (scopedNamespace L base entityType entityId) path = none
  rows : s'.keys = s.keys.filter (!·.isOf entityType entityId)
  others : ∀ type id path, (type, id) ≠ (entityType, entityId) →
    s'.privateKeys (scopedNamespace L base type id) path =
      s.privateKeys (scopedNamespace L base type id) path

/-- Every private key of the entity is one of the root or of an active key. -/
def NoStaleKeys (L : Libraries) (base : String) (entityType : EntityType) (entityId : Id)
    (s : Store) : Prop :=
  ∀ row ∈ s.keys, ∀ key path, row.toKey = .ok key → PathOf L entityType entityId key path →
    s.privateKeys (scopedNamespace L base entityType entityId) path = none ∨ path = [] ∨
      ∃ active, ActiveKey s active ∧ PathOf L entityType entityId active path

/-- Each entity has a namespace of its own. -/
lemma scopedNamespace_injective (hL : L.Lawful) (base : String) {type type' : EntityType}
    {id id' : Id} (h : scopedNamespace L base type id = scopedNamespace L base type' id') :
    (type, id) = (type', id') := by
  unfold scopedNamespace at h
  have hlist := congrArg String.toList h
  simp only [String.toList_append, append_assoc, append_cancel_left_eq] at hlist
  have hid : L.idToString id = L.idToString id' → id = id' := fun heq => by
    have hparse := congrArg L.parseId heq
    rwa [hL.id_roundtrip, hL.id_roundtrip, Option.some.injEq] at hparse
  cases type <;> cases type' <;> simp_all [EntityType.toString]

/-- The paths that the deletion clears are those of the active keys and the root. -/
lemma deleteEntityKeyMaterial_ok
    (h : (deleteEntityKeyMaterial L base entityType entityId).run s = (.ok (), s')) :
    ∃ paths, (∀ path, path ∈ paths ↔ path = [] ∨
        ∃ active, ActiveKey s active ∧ PathOf L entityType entityId active path) ∧
      s' = { s.forget (scopedNamespace L base entityType entityId) paths with
        keys := s.keys.filter (!·.isOf entityType entityId) } := by
  obtain ⟨_, hkeys, h1⟩ := run_bind_iff.mp h
  obtain ⟨_, hall, rfl, -⟩ := listKeysByEntity_ok_iff.mp hkeys
  obtain ⟨_, _, hloop, h2⟩ := run_bind_ok.mp h1
  obtain ⟨paths, hpaths, rfl⟩ := deleteListed_ok hloop
  rw [run_bind, run_deleteIfStored, forget_append] at h2
  refine ⟨paths ++ [[]], fun path => ?_, (congrArg Prod.snd h2).symm⟩
  rw [mem_append, mem_singleton, or_comm]
  refine or_congr_right ⟨fun hpath => ?_, fun ⟨active, hact, hof⟩ => ?_⟩
  · obtain ⟨key, hkey, hparse⟩ := exists_of_mem_mapM hpaths hpath
    simp only [mem_filter, Bool.and_eq_true, beq_iff_eq] at hkey
    exact ⟨key, (activeKey_iff_mem hall).mpr ⟨hkey.1, hkey.2.2⟩, hkey.2.1.1, hkey.2.1.2, hparse⟩
  · obtain ⟨hmem, hact⟩ := (activeKey_iff_mem hall).mp hact
    obtain ⟨_, hpath', hparse⟩ := ok_of_mem_of_mapM hpaths (mem_filter.mpr
      ⟨hmem, by simp [hof.entityType, hof.entityId, hact]⟩)
    rw [hof.path] at hparse
    exact Except.ok.inj hparse ▸ hpath'

/-- The deletion is complete exactly when no expired or revoked key has a private key of its own. -/
theorem deleteEntityKeyMaterial_complete_iff (hL : L.Lawful)
    (h : (deleteEntityKeyMaterial L base entityType entityId).run s = (.ok (), s')) :
    KeyMaterialDeleted L base entityType entityId s s' ↔
      NoStaleKeys L base entityType entityId s := by
  obtain ⟨paths, hpaths, rfl⟩ := deleteEntityKeyMaterial_ok h
  have hring : ∀ path, (s.forget (scopedNamespace L base entityType entityId) paths).privateKeys
      (scopedNamespace L base entityType entityId) path = none ↔
        s.privateKeys (scopedNamespace L base entityType entityId) path = none ∨ path = [] ∨
          ∃ active, ActiveKey s active ∧ PathOf L entityType entityId active path := by
    intro path
    rw [← hpaths path]
    by_cases hpath : path ∈ paths <;> simp [Store.forget, hpath]
  refine ⟨fun hdel row hrow key path hkey hof => ?_, fun hstale => ⟨?_, ?_, rfl, ?_⟩⟩
  · exact (hring path).mp (hdel.paths row hrow key path hkey hof)
  · exact (hring []).mpr (.inr (.inl rfl))
  · intro row hrow key path hkey hof
    exact (hring path).mpr (hstale row hrow key path hkey hof)
  · intro type id path hother
    exact if_neg fun hsame => hother (scopedNamespace_injective hL base hsame.1)

namespace Reference

/-- The keys of two users, each at the first hardened step of a ring of its own. -/
def twoUsers : Store :=
  { store with keys := [userKey, { userKey with id := 5, entityId := 6 }] }

/-- The material of one user is deleted, and that of the other one stays. -/
theorem deleteEntityKeyMaterial_complete_iff_reference :
    ∃ s', (deleteEntityKeyMaterial pathLibraries "idp" .user 1).run twoUsers = (.ok (), s') ∧
      KeyMaterialDeleted pathLibraries "idp" .user 1 twoUsers s' ∧
      s'.privateKeys (scopedNamespace pathLibraries "idp" .user 1) [⟨0, true⟩] = none ∧
      s'.privateKeys (scopedNamespace pathLibraries "idp" .user 6) [⟨0, true⟩] =
        some ⟨[7], [⟨0, true⟩]⟩ := by
  have hrun : (deleteEntityKeyMaterial pathLibraries "idp" .user 1).run twoUsers =
      (.ok (), ((deleteEntityKeyMaterial pathLibraries "idp" .user 1).run twoUsers).2) :=
    run_of_eval (by rfl)
  have hactive : NoStaleKeys pathLibraries "idp" .user 1 twoUsers := by
    intro row hrow key path hkey hof
    refine .inr (.inr ⟨key, ⟨⟨row, hrow, hkey⟩, ?_⟩, hof⟩)
    rcases mem_pair.mp hrow with rfl | rfl <;> cases hkey <;> rfl
  have hdel := (deleteEntityKeyMaterial_complete_iff pathLibraries_lawful hrun).mpr hactive
  exact ⟨_, hrun, hdel, hdel.paths userKey (by simp [twoUsers]) _ _ rfl ⟨rfl, rfl, rfl⟩,
    hdel.others .user 6 _ (by decide)⟩

/-- The user's only key has expired, and its private key stays after the deletion. -/
theorem deleteEntityKeyMaterial_keeps_expired :
    ((deleteEntityKeyMaterial pathLibraries "idp" .user 1).eval
        { store with keys := [{ userKey with expiresAt := some 0 }] }).isOk = true ∧
      ¬ KeyMaterialDeleted pathLibraries "idp" .user 1
        { store with keys := [{ userKey with expiresAt := some 0 }] }
        ((deleteEntityKeyMaterial pathLibraries "idp" .user 1).run
          { store with keys := [{ userKey with expiresAt := some 0 }] }).2 := by
  refine ⟨by decide +kernel, fun hdel => ?_⟩
  have hnone := hdel.paths _ (mem_singleton_self _) _ [⟨0, true⟩] rfl ⟨rfl, rfl, rfl⟩
  exact absurd hnone (by decide +kernel)

end Reference

end LocalPlatform.Idp

import LocalPlatform.Storage.DatabaseRuntime
import LocalPlatform.Storage.FileSystemRuntime

/-!
# A reference host

Concrete instances of what storage takes from elsewhere, for runs on concrete inputs: a display of
UUIDs, a host without faults, and a filesystem crate whose catalogs are maps from ids to tombstone
flags.
-/

namespace LocalPlatform.Storage.Reference

open List

/-- A UUID displayed as so many strokes. -/
def uuid : Uuid where
  toText id := String.ofList (List.replicate id '1')
  parse text := some text.length
  parse_toText := by simp

/-- A host on which nothing fails. -/
def host : Host where
  uuid := uuid
  faults := noFaults
  openDatabase _ := .ok ()
  openKvStore _ := .ok ()

lemma host_reliable : host.Reliable := ⟨rfl, fun _ => rfl, fun _ => rfl⟩

/-- A namespace with a directory of its own. -/
def scope : Namespace := ⟨"owner", 1⟩

/-! ## A filesystem crate -/

/-- The filesystems of a catalog, and whether they are deleted. -/
abbrev Entries := Std.TreeMap Id Bool

/-- A crate whose open filesystems are their ids. -/
def crate : FileSystemCrate Entries Id where
  parse text := some text.length
  empty := ∅
  openCatalog _ := .ok ()
  create id name entries := (.ok ⟨id, name⟩, entries.insert id false)
  list entries := .ok ((entries.toList.filter fun entry => !entry.2).map fun entry =>
    ⟨entry.1, none⟩)
  snapshot entries := .ok (entries.toList.map fun entry => ⟨⟨entry.1, none⟩, entry.2⟩)
  delete id entries :=
    if entries[id]? = some false then (.ok (), entries.insert id true)
    else (.error .notFound, entries)
  applyTombstone id entries := (.ok (), entries.insert id true)
  importSnapshot snapshot entries := (.ok (), snapshot.foldl (fun entries entry =>
    if entries[entry.resource.id]?.isSome then entries
    else entries.insert entry.resource.id entry.deleted) entries)
  markProjected _ entries := (.ok (), entries)
  markProjectedSelected _ entries := (.ok (), entries)
  projectedSelected _ := .ok []
  evictProjectedCopy _ entries := (.ok (), entries)
  openFilesystem id entries := if entries[id]? = some false then .ok id else .error .notFound
  setResidency _ := .ok ()

/-- The status a flag stands for. -/
def statusOf : Option Bool → Status
  | none => .absent
  | some false => .live
  | some true => .deleted

lemma status_eq (entries : Entries) (id : Id) :
    crate.status entries id = statusOf entries[id]? := by
  simp only [FileSystemCrate.status, crate]
  cases hfind : (entries.toList.map fun entry =>
      (⟨⟨entry.1, none⟩, entry.2⟩ : CatalogEntry)).find? fun entry => entry.resource.id == id with
  | none =>
    have hnone : entries[id]? = none := by
      by_contra hsome
      obtain ⟨deleted, hdel⟩ := Option.ne_none_iff_exists'.mp hsome
      have hmem := Std.TreeMap.mem_toList_iff_getElem?_eq_some.mpr hdel
      have hno := find?_eq_none.mp hfind _ (mem_map.mpr ⟨_, hmem, rfl⟩)
      simp at hno
    rw [hnone]
    rfl
  | some entry =>
    have hid : entry.resource.id = id := by simpa using find?_some hfind
    obtain ⟨⟨_, deleted⟩, hmem, rfl⟩ := mem_map.mp (mem_of_find?_eq_some hfind)
    have hget := Std.TreeMap.mem_toList_iff_getElem?_eq_some.mp hmem
    obtain rfl := hid
    rw [hget]
    cases deleted <;> rfl

lemma getElem?_insert (entries : Entries) (id other : Id) (deleted : Bool) :
    (entries.insert id deleted)[other]? = if other = id then some deleted else entries[other]? := by
  rw [Std.TreeMap.getElem?_insert]
  by_cases h : other = id
  · simp [h]
  · simp [h, Ne.symm h]

lemma statusOf_eq_live {flag : Option Bool} : statusOf flag = .live ↔ flag = some false := by
  rcases flag with _ | _ | _ <;> simp [statusOf]

lemma crate_lawful : crate.Lawful where
  openCatalog _ := rfl
  snapshot entries := by
    refine ⟨_, rfl, ?_⟩
    rw [map_map]
    exact pairwise_map.mpr (Std.TreeMap.distinct_keys_toList.imp fun h => by simpa using h)
  list entries := by
    refine ⟨_, rfl, fun id => ?_⟩
    rw [status_eq, statusOf_eq_live, ← Std.TreeMap.mem_toList_iff_getElem?_eq_some]
    simp
  delete_live entries id h := by
    rw [status_eq, statusOf_eq_live] at h
    have hdelete : crate.delete id entries = (.ok (), entries.insert id true) := if_pos h
    rw [hdelete, status_eq, getElem?_insert, if_pos rfl]
    exact ⟨rfl, rfl⟩
  delete_of_ne_live entries id h := by
    rw [status_eq, Ne, statusOf_eq_live] at h
    exact if_neg h
  delete_frame entries id other h := by
    show crate.status (if entries[id]? = some false then _ else _ : _ × Entries).2 other = _
    split
    · rw [status_eq, getElem?_insert, if_neg h, status_eq]
    · rfl
  applyTombstone entries id := by
    refine ⟨rfl, ?_⟩
    show crate.status (entries.insert id true) id = .deleted
    rw [status_eq, getElem?_insert, if_pos rfl]
    rfl
  applyTombstone_frame entries id other h := by
    show crate.status (entries.insert id true) other = _
    rw [status_eq, getElem?_insert, if_neg h, status_eq]
  importSnapshot entries entry h := by
    refine ⟨rfl, fun id => ?_⟩
    show crate.status (if entries[entry.resource.id]?.isSome then entries
      else entries.insert entry.resource.id entry.deleted) id = _
    rw [status_eq, status_eq]
    cases hget : entries[entry.resource.id]? with
    | none =>
      show statusOf (entries.insert entry.resource.id entry.deleted)[id]? = _
      rw [getElem?_insert, h]
      by_cases hid : id = entry.resource.id
      · subst hid
        simp [hget, statusOf]
      · simp [hid]
    | some deleted =>
      show statusOf entries[id]? = _
      have hpres : ¬(id = entry.resource.id ∧ statusOf entries[id]? = .absent) := by
        rintro ⟨rfl, habs⟩
        rw [hget] at habs
        cases deleted <;> cases habs
      rw [if_neg hpres]
  markProjected _ _ := ⟨rfl, fun _ => rfl⟩
  markProjectedSelected _ _ := ⟨rfl, fun _ => rfl⟩
  evictProjectedCopy_frame _ _ _ _ := rfl
  openFilesystem entries id := by
    rw [status_eq, statusOf_eq_live]
    show (∃ fileSystem, (if entries[id]? = some false then Except.ok id else _) = _) ↔ _
    split <;> simp [*]
  setResidency _ := rfl

end LocalPlatform.Storage.Reference

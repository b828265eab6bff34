import LocalPlatform.Storage.IsolationTheorems

/-!
# Where resources are stored

Catalogs, databases, key-value stores and filesystems are stored in paths that are made of a subject
and of UUIDs. A subject that is accepted is the name of a directory, so every path stays in the
directory of its subject, and no two paths are the same.
-/

namespace LocalPlatform.Storage

open Resumption

/-- The part of a file name before its last dot, or all of it if nothing is there. -/
def fileStem (name : String) : String :=
  match name.toList.reverse.dropWhile (· != '.') with
  | _ :: c :: cs => String.ofList (c :: cs).reverse
  | _ => name

/-- `PathBuf::set_extension` of a path that ends in a file name. -/
def setExtension (path : Path) (extension : String) : Path :=
  path.dropLast ++ [fileStem (path.getLast?.getD "") ++ "." ++ extension]

/-- What a namespace has a path for. -/
inductive PathKind where
  | catalog
  | database (id : Id)
  | keyValue (id : Id)
  | fileSystem

/-- The path, where the namespace is accepted. The key-value store of a database is beside it. -/
def storedAt (uuid : Uuid) (scope : Namespace) : PathKind → Option Path
  | .catalog => (catalogPath uuid scope).toOption
  | .database id => (databasePath uuid scope id).toOption
  | .keyValue id => ((databasePath uuid scope id).map (setExtension · "kv.redb")).toOption
  | .fileSystem => ((storageNamespaceId scope).map (namespaceRoot uuid)).toOption

/-- UUIDs are displayed with digits, letters and hyphens. -/
def Uuid.Hyphenated (uuid : Uuid) : Prop :=
  ∀ id, uuid.toText id ≠ "" ∧ ∀ c ∈ (uuid.toText id).toList, c.isAlphanum = true ∨ c = '-'

/-- A component that names an entry of its directory. -/
def NormalComponent (name : String) : Prop :=
  name ≠ "" ∧ name ≠ "." ∧ name ≠ ".." ∧ '/' ∉ name.toList

/-- The directory at the root, and the names below the directory of the namespace. -/
def PathKind.place (uuid : Uuid) : PathKind → String × List String
  | .catalog => ("databases", ["catalog.json"])
  | .database id => ("databases", [uuid.toText id ++ ".redb"])
  | .keyValue id => ("databases", [uuid.toText id ++ ".kv.redb"])
  | .fileSystem => ("filesystems", [])

section
variable {uuid : Uuid} {scope scope' : Namespace} {kind kind' : PathKind} {path path' : Path}

lemma fileStem_append {text : String} (htext : text ≠ "") : fileStem (text ++ ".redb") = text := by
  have hdrop : (text ++ ".redb").toList.reverse.dropWhile (· != '.') =
      '.' :: text.toList.reverse := by
    simp
  cases hchars : text.toList.reverse with
  | nil => exact absurd (by simpa using hchars) htext
  | cons c cs =>
    rw [fileStem, hdrop, hchars]
    simp [← hchars]

/-- The path of a kind in the directory of its namespace. -/
lemma storedAt_some (huuid : uuid.Hyphenated) (h : storedAt uuid scope kind = some path) :
    validSubject scope.userSub = true ∧ path = (kind.place uuid).1 :: scope.userSub ::
      uuid.toText scope.applicationId :: (kind.place uuid).2 := by
  cases hsub : validSubject scope.userSub <;> by_cases hid : scope.applicationId = 0 <;>
    cases kind <;> simp [storedAt, catalogPath, databasePath, namespaceDirectory,
      storageNamespaceId, hsub, hid, Except.map, Except.toOption] at h
  all_goals refine ⟨rfl, h.symm.trans ?_⟩
  · rfl
  · rfl
  · simp [setExtension, fileStem_append (huuid _).1, PathKind.place, String.append_assoc]
  · rfl

/-- Resources of one namespace are stored apart. -/
lemma place_injective (huuid : uuid.Hyphenated) (h : kind.place uuid = kind'.place uuid) :
    kind = kind' := by
  have hkeyValue (id id' : Id) : uuid.toText id ++ ".redb" ≠ uuid.toText id' ++ ".kv.redb" := by
    intro hsame
    -- a UUID would end in the first part of the longer extension
    have htext : (uuid.toText id).toList = (uuid.toText id').toList ++ ".kv".toList := by
      simpa using congrArg (·.toList.reverse) hsame
    simpa using (huuid id).2 '.' (by simp [htext])
  have hcat (text : String) :
      text ++ ".redb" ≠ "catalog.json" ∧ text ++ ".kv.redb" ≠ "catalog.json" := by
    constructor <;> intro hsame <;> simpa using congrArg (·.toList.reverse) hsame
  have hinjective := uuid.toText_injective
  cases kind <;> cases kind' <;> simp_all [PathKind.place, hinjective.eq_iff, eq_comm]
  exact hkeyValue _ _ h.symm

/-- The subject is one component of every path, between a directory of the root and a UUID, and the
path belongs to nothing else. -/
theorem storedAt_separate (huuid : uuid.Hyphenated) (h : storedAt uuid scope kind = some path)
    (h' : storedAt uuid scope' kind' = some path') :
    NormalComponent scope.userSub ∧ path = (kind.place uuid).1 :: scope.userSub ::
        uuid.toText scope.applicationId :: (kind.place uuid).2 ∧
      (path = path' → kind = kind' ∧ scope = scope') := by
  obtain ⟨hvalid, rfl⟩ := storedAt_some huuid h
  obtain ⟨-, rfl⟩ := storedAt_some huuid h'
  refine ⟨?_, rfl, fun hpath => ?_⟩
  · simp only [validSubject, Bool.not_eq_true', Bool.or_eq_false_iff, beq_eq_false_iff_ne,
      Bool.not_eq_false', List.all_eq_true] at hvalid
    refine ⟨by simpa using hvalid.1.1.1, hvalid.1.1.2, hvalid.1.2, fun hslash => ?_⟩
    exact absurd (hvalid.2 _ hslash) (by decide)
  · simp only [List.cons.injEq] at hpath
    obtain ⟨htop, hsub, happ, hfile⟩ := hpath
    refine ⟨place_injective huuid (Prod.ext htop hfile), ?_⟩
    cases scope
    cases scope'
    simp_all [uuid.toText_injective.eq_iff]

end

/-- UUIDs displayed as strokes, the nil one as one stroke. -/
def Reference.strokes : Uuid where
  toText id := String.ofList (List.replicate (id + 1) '1')
  parse text := some (text.length - 1)
  parse_toText := by simp

/-- A subject that starts with dots is still a plain directory. -/
theorem storedAt_separate_strokes :
    storedAt Reference.strokes ⟨"..a", 1⟩ (.keyValue 2) =
        some ["databases", "..a", "11", "111.kv.redb"] ∧
      NormalComponent "..a" := by
  have huuid : Reference.strokes.Hyphenated := by
    intro id
    simp [Reference.strokes, List.mem_replicate, String.ext_iff]
  have hpath : storedAt Reference.strokes ⟨"..a", 1⟩ (.keyValue 2) =
      some ["databases", "..a", "11", "111.kv.redb"] := by decide
  exact ⟨hpath, (storedAt_separate huuid hpath hpath).1⟩

end LocalPlatform.Storage

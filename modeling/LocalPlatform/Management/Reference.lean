import Mathlib.Logic.Encodable.Basic
import Mathlib.Logic.Equiv.List
import LocalPlatform.Management.System

/-!
# A reference platform

One engine with the assumed laws, for runs on concrete inputs: a query sees the latest live write,
any two live writes are a conflict, and every assignment writes. A few runs of two replicas on it
serve as inputs later.
-/

namespace LocalPlatform.Management.Reference

open MultiValue

/-- An engine that reads the last live write and reports a conflict whenever two are live. -/
def rules : Rules where
  pick live := live.getLast?.map (·.value)
  conflicted live := decide (∃ w ∈ live, ∃ w' ∈ live, w.id ≠ w'.id)
  rewrites _ _ := true

/-- The reference engine keeps the laws. -/
lemma rules_lawful : rules.Lawful where
  pick_mem := by
    intro ν r v h
    obtain ⟨w, hlast, rfl⟩ := Option.map_eq_some_iff.mp h
    exact ⟨w, List.mem_of_getLast? hlast, rfl⟩
  pick_isSome := by
    intro ν r h
    simp [rules, h]
  single := by
    intro ν r h
    refine decide_eq_false ?_
    rintro ⟨w, hw, w', hw', hne⟩
    exact hne (by rw [h w hw w' hw'])
  distinct := by
    rintro ν r ⟨w, hw, w', hw', hne⟩
    refine decide_eq_true ⟨w, hw, w', hw', fun hid => hne ?_⟩
    rw [r.eq_of_id (Register.mem_live.mp hw).1 (Register.mem_live.mp hw').1 hid]
  keeps := by
    intro ν r v h
    cases h

/-- A text as a list of numbers. -/
def codes (s : String) : List ℕ := s.toList.map Char.toNat

lemma codes_injective : Function.Injective codes := by
  intro s s' h
  have hlist : s.toList = s'.toList :=
    List.map_injective_iff.mpr (fun c c' hc => Char.toNat_inj.mp hc) h
  exact String.toList_inj.mp hlist

/-- A platform that names the row of a resource selection by a code of its five parts. -/
def platform : Platform where
  rules := rules
  resourceSelectionId d o a k r := Encodable.encode (d, codes o, a, codes k, r)
  duplicateKey := "duplicate primary key"

lemma platform_lawful : platform.Lawful where
  rules := rules_lawful
  selectionId_injective := by
    intro d o a k r d' o' a' k' r' h
    have hparts := Encodable.encode_injective h
    simp only [Prod.mk.injEq] at hparts
    obtain ⟨hd, ho, ha, hk, hr⟩ := hparts
    exact ⟨hd, codes_injective ho, ha, codes_injective hk, hr⟩

/-! ## Runs -/

/-- Device 1 of the owner selects a database. -/
def choice (resourceId : Id) : SelectionPolicy :=
  ⟨1, "owner", some 3, some "database", some resourceId, true⟩

/-- Replica 0 has selected database 4. -/
def selected : System := System.initial.operate platform 0 (.setPolicy (choice 4))

/-- Both replicas know of database 4. -/
def common : System := selected.merge 1 0

lemma selected_reachable : selected.Reachable platform := .single (.operate 0 _)

lemma common_reachable : common.Reachable platform := selected_reachable.tail (.merge 1 0)

lemma common_replicas : common.replicas 0 = common.replicas 1 := by
  have hzero : common.replicas 0 = selected.replicas 0 := System.merge_of_ne (by decide)
  have hone : common.replicas 1 = (selected.replicas 1).merge (selected.replicas 0) :=
    System.merge_self
  have hempty : selected.replicas 1 = .empty := System.operate_of_ne (by decide)
  rw [hzero, hone, hempty, Database.empty_merge]

end LocalPlatform.Management.Reference

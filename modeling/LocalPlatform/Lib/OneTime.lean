import Mathlib.Data.List.Induction
import Mathlib.Data.List.Nodup
import Mathlib.Logic.Function.Basic
import Mathlib.Tactic.Common

/-!
# Values that are used once

A table in which a value is issued under a key and taken out by the first use of the key. A log of
issues and uses is honest if every use finds only what the table has at that point; it may find
nothing although there is a value, so that a table which forgets is covered too. In an honest log
every value that is found was issued under its key and not used since, and if no key is issued twice
no key is found twice.
-/

namespace OneTime

open List Prod

variable {Key Value : Type}

/-- A value is issued under a key, or a key is used, with what is found under it. -/
inductive Act (Key Value : Type) where
  | issue (key : Key) (value : Value)
  | use (key : Key) (found : Option Value)

/-- What an issuing act puts under its key. -/
def Act.issued : Act Key Value → Option (Key × Value)
  | .issue key value => some (key, value)
  | .use _ _ => none

/-- What a using act finds under its key. -/
def Act.found : Act Key Value → Option (Key × Value)
  | .issue _ _ => none
  | .use key found => found.map fun value => (key, value)

/-- The values that a log issues, with their keys. -/
def issued (log : List (Act Key Value)) : List (Key × Value) := log.filterMap Act.issued

/-- The values that a log finds, with their keys. -/
def found (log : List (Act Key Value)) : List (Key × Value) := log.filterMap Act.found

variable (key : Key)

@[simp] lemma issued_issue (value : Value) (log : List (Act Key Value)) :
    issued (.issue key value :: log) = (key, value) :: issued log := rfl

@[simp] lemma issued_use (value : Option Value) (log : List (Act Key Value)) :
    issued (.use key value :: log) = issued log := rfl

@[simp] lemma found_issue (value : Value) (log : List (Act Key Value)) :
    found (.issue key value :: log) = found log := rfl

@[simp] lemma found_use_none (log : List (Act Key Value)) :
    found (.use key none :: log) = found log := rfl

@[simp] lemma found_use_some (value : Value) (log : List (Act Key Value)) :
    found (.use key (some value) :: log) = (key, value) :: found log := rfl

@[simp] lemma issued_append (log log' : List (Act Key Value)) :
    issued (log ++ log') = issued log ++ issued log' := filterMap_append

@[simp] lemma found_append (log log' : List (Act Key Value)) :
    found (log ++ log') = found log ++ found log' := filterMap_append

variable [DecidableEq Key]

/-- The table after one act. -/
def next (table : Key → Option Value) : Act Key Value → Key → Option Value
  | .issue key value => Function.update table key (some value)
  | .use key _ => Function.update table key none

/-- An act finds only what the table has. -/
def Act.Honest (table : Key → Option Value) : Act Key Value → Prop
  | .issue _ _ => True
  | .use key found => ∀ value ∈ found, table key = some value

/-- Every act of the log fits the table the acts before it lead to. -/
def Honest : (Key → Option Value) → List (Act Key Value) → Prop
  | _, [] => True
  | table, act :: log => act.Honest table ∧ Honest (next table act) log

/-- The table after a log. -/
def tableAfter (table : Key → Option Value) (log : List (Act Key Value)) : Key → Option Value :=
  log.foldl next table

variable {table : Key → Option Value} {log : List (Act Key Value)} {value : Value}

/-- A log is honest if its halves are, the second from the table the first leads to. -/
lemma honest_append {log log' : List (Act Key Value)} :
    Honest table (log ++ log') ↔ Honest table log ∧ Honest (tableAfter table log) log' := by
  induction log generalizing table with
  | nil => simp [Honest, tableAfter]
  | cons act log ih => simp [Honest, ih, tableAfter, and_assoc]

/-- A value that is in the table was there at the start or was issued, and has not been used
since. -/
lemma exists_issue {key : Key} (hvalue : tableAfter table log key = some value)
    (hempty : table key = none) : ∃ before after, log = before ++ .issue key value :: after ∧
      ∀ found, .use key found ∉ after := by
  induction log using reverseRecOn with
  | nil => simp [tableAfter, hempty] at hvalue
  | append_singleton log act ih =>
    have hlast : tableAfter table (log ++ [act]) = next (tableAfter table log) act := by
      simp [tableAfter]
    rw [hlast] at hvalue
    cases act with
    | issue key' value' =>
      by_cases hkey : key = key'
      · have heq : value' = value := by simpa [next, hkey] using hvalue
        exact ⟨log, [], by simp [hkey, heq], by simp⟩
      · have hold : tableAfter table log key = some value := by simpa [next, hkey] using hvalue
        obtain ⟨before, after, hlog, hfree⟩ := ih hold
        refine ⟨before, after ++ [.issue key' value'], by simp [hlog], ?_⟩
        intro found hmem
        exact hfree found (by simpa using hmem)
    | use key' found' =>
      by_cases hkey : key = key'
      · simp [next, hkey] at hvalue
      · have hold : tableAfter table log key = some value := by simpa [next, hkey] using hvalue
        obtain ⟨before, after, hlog, hfree⟩ := ih hold
        refine ⟨before, after ++ [.use key' found'], by simp [hlog], ?_⟩
        intro found hmem
        have hcases : .use key found ∈ after ∨ key = key' ∧ found = found' := by
          simpa using hmem
        rcases hcases with hafter | ⟨heq, -⟩
        · exact hfree found hafter
        · exact hkey heq

/-- What an honest log finds was in the table at the start or is issued by the log. -/
lemma mem_found (hlog : Honest table log) {key : Key} (hfound : (key, value) ∈ found log) :
    table key = some value ∨ (key, value) ∈ issued log := by
  induction log generalizing table with
  | nil => simp [found] at hfound
  | cons act log ih =>
    obtain ⟨hact, hrest⟩ := hlog
    cases act with
    | issue key' value' =>
      rcases ih hrest hfound with htable | hiss
      · by_cases hkey : key = key'
        · have heq : value' = value := by simpa [next, hkey] using htable
          exact .inr (by simp [hkey, heq])
        · exact .inl (by simpa [next, hkey] using htable)
      · exact .inr (mem_cons_of_mem _ hiss)
    | use key' found' =>
      have hlater (hmem : (key, value) ∈ found log) :
          table key = some value ∨ (key, value) ∈ issued log := by
        rcases ih hrest hmem with htable | hiss
        · by_cases hkey : key = key'
          · simp [next, hkey] at htable
          · exact .inl (by simpa [next, hkey] using htable)
        · exact .inr hiss
      cases found' with
      | none => exact hlater hfound
      | some value' =>
        rcases mem_cons.mp hfound with heq | hmem
        · obtain ⟨rfl, rfl⟩ := mk.inj heq
          exact .inl (hact value rfl)
        · exact hlater hmem

/-- If no key is issued twice, nor one that has a value at the start, then no key is found twice. -/
lemma found_nodup (hlog : Honest table log) (hkeys : ((issued log).map fst).Nodup)
    (hnew : ∀ key ∈ (issued log).map fst, table key = none) :
    ((found log).map fst).Nodup := by
  induction log generalizing table with
  | nil => simp [found]
  | cons act log ih =>
    obtain ⟨hact, hrest⟩ := hlog
    cases act with
    | issue key value =>
      rw [issued_issue, map_cons, nodup_cons] at hkeys
      have hnew' : ∀ key' ∈ (issued log).map fst, next table (.issue key value) key' = none := by
        intro key' hmem
        have hne : key' ≠ key := fun heq => hkeys.1 (heq ▸ hmem)
        have hnone := hnew key' (mem_cons_of_mem _ hmem)
        simpa [next, hne] using hnone
      exact ih hrest hkeys.2 hnew'
    | use key found' =>
      have hnew' : ∀ key' ∈ (issued log).map fst, next table (.use key found') key' = none := by
        intro key' hmem
        by_cases hkey : key' = key
        · simp [next, hkey]
        · simpa [next, hkey] using hnew key' hmem
      have hfound := ih hrest hkeys hnew'
      cases found' with
      | none => exact hfound
      | some value =>
        rw [found_use_some, map_cons, nodup_cons]
        refine ⟨?_, hfound⟩
        -- the value that is found leaves the table, and no other is issued under its key
        intro hagain
        obtain ⟨⟨key', value'⟩, hmem, rfl⟩ := mem_map.mp hagain
        have htable : table key' = some value := hact value rfl
        rcases mem_found hrest hmem with hnext | hiss
        · simp [next] at hnext
        · have hnone := hnew key' (mem_map.mpr ⟨(key', value'), hiss, rfl⟩)
          simp [hnone] at htable

end OneTime

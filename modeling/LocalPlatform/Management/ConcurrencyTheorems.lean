import LocalPlatform.Management.DeselectionTheorems
import LocalPlatform.Management.SelectionTheorems

/-!
# Calls on two replicas at the same time

Two replicas with the same tables, one call on each, and a merge in either direction: a deselection
of everything against a selection, and two selections of different resources.
-/

namespace LocalPlatform.Management

open Resumption MultiValue Register

section
variable {P : Platform} {s s' : Replica} {data data' : Data} {d : Id} {o : String} {a : Id}
  {k : String} {r : Id}

/-- A row that one side has not touched is after a merge as the other side has it. -/
lemma SelectedRow.merge (h : SelectedRow P data d o a k r)
    (hless : ∀ c ∈ resourceColumns, ∀ w ∈ data'.cells c (P.resourceSelectionId d o a k r),
      w ∈ data.cells c (P.resourceSelectionId d o a k r)) :
    SelectedRow P (data.merge data') d o a k r ∧ SelectedRow P (data'.merge data) d o a k r := by
  have hcongr : ∀ merged : Data, (∀ c ∈ resourceColumns,
      merged.cells c (P.resourceSelectionId d o a k r) =
        data.cells c (P.resourceSelectionId d o a k r)) → SelectedRow P merged d o a k r := by
    intro merged hsame
    refine ⟨rowConflictValues_eq_nil.mpr fun c hc => ?_, ?_⟩
    · rw [hsame c hc]
      exact rowConflictValues_eq_nil.mp h.1 c hc
    · rw [resourceRow_congr hsame]
      exact h.2
  constructor
  · exact hcongr _ fun c hc => merge_eq_left (hless c hc)
  · exact hcongr _ fun c hc => merge_eq_right (hless c hc)

/-! ## What a deselection does to the row of a resource -/

/-- Otherwise the rows of the device are assigned `false`. -/
lemma deselectOwned_selected (hP : P.Lawful) (hn : NamedRows P s.data)
    (h : (deselectOwned P d o).run s = (.ok true, s')) (hclr : ¬SelectionCleared P s.data d) :
    (∀ c ∈ resourceColumns, c ≠ .selected → ∀ x, s'.data.cells c x = s.data.cells c x) ∧
      ∀ o a k r, s'.data.cells .selected (P.resourceSelectionId d o a k r) =
        if (resourceRow P s.data (P.resourceSelectionId d o a k r)).isSome then
          P.rules.assign s.actor false (s.data.cells .selected (P.resourceSelectionId d o a k r))
        else s.data.cells .selected (P.resourceSelectionId d o a k r) := by
  obtain ⟨-, -, ⟨hyes, -⟩ | ⟨-, rfl⟩⟩ := deselectOwned_run_ok hP h
  · exact absurd hyes hclr
  · refine ⟨fun c hc hne x => ?_, fun o a k r => ?_⟩
    · rw [after_deselect_resource hc, after_updateResource_of_ne hne, resetRow_resource hc]
    · have hmatch : matchesRow P (.hasDevice d) (s.resetRow P d).data
          (P.resourceSelectionId d o a k r) =
          (resourceRow P s.data (P.resourceSelectionId d o a k r)).isSome := by
        rw [matchesRow, resourceRow_congr fun c hc => resetRow_resource hc _]
        cases hrow : resourceRow P s.data (P.resourceSelectionId d o a k r) with
        | none => rfl
        | some row =>
          rw [hn.row_eq hP hrow]
          simp [ResourcePredicate.holds]
      rw [after_deselect_resource (by decide), after_updateResource_selected, hmatch,
        resetRow_resource (by decide)]
      rfl

end

/-! ## Deselecting against selecting -/

/-- The deselection writes into the row of the resource: it does not return early, the row is
there, and the engine records the assignment. -/
def DeselectionWrites (P : Platform) (data : Data) (d : Id) (o : String) (a : Id) (k : String)
    (r : Id) : Prop :=
  ¬SelectionCleared P data d ∧
    (resourceRow P data (P.resourceSelectionId d o a k r)).isSome ∧
    P.rules.rewrites (data.cells .selected (P.resourceSelectionId d o a k r)).live false = true

section
variable {P : Platform} {s s' : Replica} {d : Id} {o : String} {a : Id} {k : String} {r : Id}

/-- A deselection that does not write the row leaves every column of it alone. -/
lemma deselectOwned_of_not_writes (hP : P.Lawful) (hn : NamedRows P s.data)
    (h : (deselectOwned P d o).run s = (.ok true, s'))
    (hwrites : ¬DeselectionWrites P s.data d o a k r) {c : Column} (hc : c ∈ resourceColumns) :
    s'.data.cells c (P.resourceSelectionId d o a k r) =
      s.data.cells c (P.resourceSelectionId d o a k r) := by
  by_cases hclr : SelectionCleared P s.data d
  · obtain ⟨-, -, ⟨-, rfl⟩ | ⟨hnot, -⟩⟩ := deselectOwned_run_ok hP h
    · exact resetRow_resource hc _
    · exact absurd hclr hnot
  · obtain ⟨hothers, hsel⟩ := deselectOwned_selected hP hn h hclr
    by_cases hne : c = .selected
    · subst hne
      rw [hsel]
      split
      · rename_i hrow
        rw [Rules.assign, if_neg fun hrewrites => hwrites ⟨hclr, hrow, hrewrites⟩]
      · rfl
    · exact hothers c hc hne _

end

/-- One replica deselects all resources of a device while another one, with the same tables,
selects a resource: after a merge, the resource is not selected on either replica exactly when the
deselection has written into the row of the resource. -/
theorem concurrent_deselection_iff (P : Platform) (hP : P.Lawful) (s : System)
    (hs : s.Reachable P) (i j : ℕ) (hij : i ≠ j) (hcommon : s.replicas i = s.replicas j) (d : Id)
    (o : String) (a : Id) (k : String) (r : Id) (b : Bool) (A B : Replica)
    (hA : (deselectOwned P d o).run ⟨i, s.replicas i⟩ = (.ok true, A))
    (hB : (setPrevalidated P ⟨d, o, some a, some k, some r, b⟩).run ⟨j, s.replicas j⟩ =
      (.ok (), B)) :
    ((resourceSelected P d o a k r).eval ⟨i, A.data.merge B.data⟩ ≠ .ok true ∧
      (resourceSelected P d o a k r).eval ⟨j, B.data.merge A.data⟩ ≠ .ok true) ↔
      DeselectionWrites P (s.replicas i) d o a k r := by
  have hn := hs.namedRows hP i
  have hreachA : QuietRun P ⟨i, s.replicas i⟩ A := (deselectOwned_reaches hP d o).of_run hA
  have hreachB : Relation.ReflTransGen (PolicyStep P (fun _ => True) fun _ => False)
      ⟨j, s.replicas j⟩ B := (setPrevalidated_reaches hP fun _ => trivial).of_run hB
  obtain ⟨-, hevolvesA⟩ := evolves_of_steps hreachA
  obtain ⟨-, hevolvesB⟩ := evolves_of_steps hreachB
  simp only [← hcommon] at hevolvesB
  have hnA : NamedRows P A.data := hn.steps hP hreachA
  have hnB : NamedRows P B.data := (hs.namedRows hP j).steps hP hreachB
  constructor
  · intro hboth
    by_contra hwrites
    obtain ⟨hsel, -, -⟩ := setPrevalidated_spec hP (hs.namedRows hP j) hB
    have hless : ∀ c ∈ resourceColumns, ∀ w ∈ A.data.cells c (P.resourceSelectionId d o a k r),
          w ∈ B.data.cells c (P.resourceSelectionId d o a k r) := by
      intro c hc w hw
      rw [deselectOwned_of_not_writes hP hn hA hwrites hc] at hw
      exact (hevolvesB c _).mem hw
    have hmerged := (hsel.merge hless).2
    exact hboth.1 (congrArg Prod.fst (resourceSelected_of_selectedRow hP (hnA.merge hP hnB)
        hmerged))
  · rintro ⟨hclr, hrow, hrewrites⟩
    have hcells := (deselectOwned_selected hP hn hA hclr).2 o a k r
    rw [if_pos hrow, Rules.assign, if_pos hrewrites] at hcells
    -- the deselection is a new write, and the other replica cannot have replaced it
    obtain ⟨w, hlive, hnew, hfalse⟩ : ∃ w,
        w ∈ (A.data.cells .selected (P.resourceSelectionId d o a k r)).live ∧
        w ∉ (s.replicas i).cells .selected (P.resourceSelectionId d o a k r) ∧
        w.value = false := by
      rw [hcells]
      exact ⟨_, mem_live_write.mpr rfl, newWrite_notMem _ _ _, rfl⟩
    obtain ⟨hliveA, hliveB⟩ := (hevolvesA .selected _).live_merge (hevolvesB .selected _) hij
      hlive hnew
    constructor
    · exact resourceSelected_ne_true hP (hnA.merge hP hnB)
        (.inr (mem_values.mpr ⟨w, hliveA, hfalse⟩))
    · exact resourceSelected_ne_true hP (hnB.merge hP hnA)
        (.inr (mem_values.mpr ⟨w, hliveB, hfalse⟩))

open Reference

/-- A resource that both replicas had selected is deselected. -/
theorem concurrent_deselection_iff_reference :
    (resourceSelected platform 1 "owner" 3 "database" 4).eval
      ⟨0, ((deselectOwned platform 1 "owner").run
        ⟨0, common.replicas 0⟩).2.data.merge
        ((setPrevalidated platform (choice 4)).run
          ⟨1, common.replicas 1⟩).2.data⟩ ≠ .ok true := by
  have hwrites : DeselectionWrites platform (common.replicas 0) 1 "owner" 3 "database" 4 := by
    refine ⟨fun hclr => ?_, by decide +kernel, by decide +kernel⟩
    have hcolumn := hclr .selectedId rfl
    revert hcolumn
    decide +kernel
  have hdesel : (deselectOwned platform 1 "owner").eval
      ⟨0, common.replicas 0⟩ = .ok true := by decide +kernel
  have hsel : (setPrevalidated platform (choice 4)).eval
      ⟨1, common.replicas 1⟩ = .ok () := by decide +kernel
  exact ((concurrent_deselection_iff platform platform_lawful _
    common_reachable 0 1 (by decide) common_replicas 1 "owner" 3 "database" 4
    true _ _ (Prod.ext hdesel rfl) (Prod.ext hsel rfl)).mpr hwrites).1

/-- A resource that is selected for the first time stays selected on both replicas. -/
theorem concurrent_deselection_loses :
    common.Reachable platform ∧
    (deselectOwned platform 1 "owner").eval ⟨0, common.replicas 0⟩ =
      .ok true ∧
    (setPrevalidated platform (choice 5)).eval
      ⟨1, common.replicas 1⟩ = .ok () ∧
    (resourceSelected platform 1 "owner" 3 "database" 5).eval
      ⟨0, ((deselectOwned platform 1 "owner").run
        ⟨0, common.replicas 0⟩).2.data.merge
        ((setPrevalidated platform (choice 5)).run
          ⟨1, common.replicas 1⟩).2.data⟩ = .ok true ∧
    (resourceSelected platform 1 "owner" 3 "database" 5).eval
      ⟨1, ((setPrevalidated platform (choice 5)).run
        ⟨1, common.replicas 1⟩).2.data.merge
        ((deselectOwned platform 1 "owner").run
          ⟨0, common.replicas 0⟩).2.data⟩ = .ok true :=
  ⟨common_reachable, by decide +kernel, by decide +kernel, by decide +kernel,
    by decide +kernel⟩

end LocalPlatform.Management

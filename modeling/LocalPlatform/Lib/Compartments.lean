import LocalPlatform.Lib.Interleaving

/-!
# Compartments of a shared state

A family of views divides a state into compartments. A routine is confined to one compartment when
its steps leave the view of every other one as it is, and what a step does to its own view and how
the routine goes on depend on nothing but that view.

* `Task.Confined` has a rule for each way to build a task.
* `Config.Alike.schedule` is noninterference: when some routines are confined to a compartment and
  all others leave its view alone, then what these routines do depends on the view at the start and
  on the order of their own steps, and on nothing else.
-/

namespace Resumption

open Function

section
variable {ν υ ℓ ℓ' σ τ ε ε' α β : Type} (view : ν → σ → υ) (n : ν) {l : ℓ}

/-- Every step leaves the other compartments alone, and depends only on the view of its own. -/
def Prog.Confined : Prog ℓ σ α → Prop
  | .done _ => True
  | .step _ upd next => ∀ s, (∀ m, m ≠ n → view m (upd s) = view m s) ∧ (next s).Confined ∧
      ∀ s', view n s = view n s' → view n (upd s) = view n (upd s') ∧ next s = next s'

/-- The steps of the task are confined. -/
structure Task.Confined (t : Task ℓ σ ε α) : Prop where
  steps : t.prog.Confined view n

variable {view n}

/-! ## One routine -/

namespace Prog.Confined

variable {p : Prog ℓ σ α}

section
variable (hp : p.Confined view n)
include hp

/-- Confinement of a sequence. -/
lemma bind {f : α → Prog ℓ σ β} (hf : ∀ a, (f a).Confined view n) : (p.bind f).Confined view n := by
  induction p with
  | done a => exact hf a
  | step l upd next ih =>
    intro s
    obtain ⟨hothers, hnext, hown⟩ := hp s
    refine ⟨hothers, ih s hnext, fun s' h => ?_⟩
    obtain ⟨hview, hsame⟩ := hown s' h
    refine ⟨hview, ?_⟩
    show (next s).bind f = (next s').bind f
    rw [hsame]

/-- The other compartments stay as they are. -/
lemma within : p.Within fun s s' => ∀ m, m ≠ n → view m s' = view m s := by
  induction p with
  | done a => trivial
  | step l upd next ih =>
    intro s
    obtain ⟨hothers, hnext, -⟩ := hp s
    exact ⟨hothers, ih s hnext⟩

/-- In states with the same view, a run gives the same result and the same view. -/
lemma run_eq {s s' : σ} (h : view n s = view n s') :
    (p.run s).1 = (p.run s').1 ∧ view n (p.run s).2 = view n (p.run s').2 := by
  induction p generalizing s s' with
  | done a => exact ⟨rfl, h⟩
  | step l upd next ih =>
    obtain ⟨-, hnext, hown⟩ := hp s
    obtain ⟨hview, hsame⟩ := hown s' h
    rw [run_step, run_step, ← hsame]
    exact ih s hnext hview

end

/-- On a part of a larger state, with the views of the whole. -/
lemma zoom {υ' : Type} {whole : ν → σ → υ'} {L : Lens σ τ} {view : ν → τ → υ}
    (hpart : ∀ s s', whole n s = whole n s' → view n (L.get s) = view n (L.get s'))
    (hown : ∀ s s' t t', whole n s = whole n s' → view n t = view n t' →
      whole n (L.put t s) = whole n (L.put t' s'))
    (hothers : ∀ m s t, view m t = view m (L.get s) → whole m (L.put t s) = whole m s)
    (f : ℓ → ℓ') {p : Prog ℓ τ α} (hp : p.Confined view n) : (p.zoom f L).Confined whole n := by
  induction p with
  | done a => trivial
  | step l upd next ih =>
    intro s
    obtain ⟨hleft, hnext, hsees⟩ := hp (L.get s)
    refine ⟨fun m hm => hothers m s _ (hleft m hm), ih (L.get s) hnext, fun s' h => ?_⟩
    obtain ⟨hview, hsame⟩ := hsees (L.get s') (hpart s s' h)
    refine ⟨hown s s' _ _ h hview, ?_⟩
    show (next (L.get s)).zoom f L = (next (L.get s')).zoom f L
    rw [hsame]

end Prog.Confined

namespace Task.Confined

lemma pure (a : α) : (pure a : Task ℓ σ ε α).Confined view n := ⟨trivial⟩

lemma lift (x : Except ε α) : (lift x : Task ℓ σ ε α).Confined view n := ⟨trivial⟩

/-- A read is confined if it depends on its own view. -/
lemma read {f : σ → Except ε α} (hf : ∀ s s', view n s = view n s' → f s = f s') :
    (read l f).Confined view n := by
  refine ⟨fun s => ⟨fun _ _ => rfl, trivial, fun s' h => ⟨h, ?_⟩⟩⟩
  show .done (f s) = Prog.done (f s')
  rw [hf s s' h]

/-- A step is confined if it leaves the other views alone and depends on its own. -/
lemma atomic {f : σ → Except ε α × σ} (hothers : ∀ s m, m ≠ n → view m (f s).2 = view m s)
    (hown : ∀ s s', view n s = view n s' → (f s).1 = (f s').1 ∧ view n (f s).2 = view n (f s').2) :
    (atomic l f).Confined view n := by
  refine ⟨fun s => ⟨hothers s, trivial, fun s' h => ⟨(hown s s' h).2, ?_⟩⟩⟩
  show .done (f s).1 = Prog.done (f s').1
  rw [(hown s s' h).1]

/-- A step on what no view shows. -/
lemma hidden {f : σ → σ} {r : Except ε α} (hf : ∀ s m, view m (f s) = view m s) :
    (Task.atomic l fun s => (r, f s)).Confined view n := by
  refine atomic (fun s m _ => hf s m) fun s s' h => ⟨rfl, ?_⟩
  rw [hf, hf, h]

variable {t : Task ℓ σ ε α} {f : α → Task ℓ σ ε β}

lemma handle {f : Except ε α → Task ℓ σ ε' β} (ht : t.Confined view n)
    (hf : ∀ r, (f r).Confined view n) : (t.handle f).Confined view n :=
  ⟨ht.steps.bind fun r => (hf r).steps⟩

/-- Confinement of a sequence, for calls. -/
lemma bind (ht : t.Confined view n)
    (hf : ∀ a, (f a).Confined view n) : (t >>= f).Confined view n := by
  refine handle ht fun r => ?_
  cases r with
  | ok a => exact hf a
  | error e => exact ⟨trivial⟩

lemma lift_bind {x : Except ε α}
    (hf : ∀ a, x = .ok a → (f a).Confined view n) : (Task.lift x >>= f).Confined view n := by
  cases x with
  | ok a => exact hf a rfl
  | error e => exact ⟨trivial⟩

lemma mapError (ht : t.Confined view n) (f : ε → ε') : (t.mapError f).Confined view n :=
  ⟨ht.steps.bind fun _ => trivial⟩

/-- A call between confined entry and exit steps is confined. -/
lemma bracket {enter exit : Task ℓ σ ε Unit} (henter : enter.Confined view n)
    (hexit : exit.Confined view n) (ht : t.Confined view n) :
    (bracket enter exit t).Confined view n :=
  bind henter fun _ => handle ht fun r => bind hexit fun _ => lift r

/-- A run inside one step. -/
lemma run_eq (ht : t.Confined view n) {s s' : σ} (h : view n s = view n s') :
    (t.run s).1 = (t.run s').1 ∧ view n (t.run s).2 = view n (t.run s').2 :=
  ht.steps.run_eq h

/-- A confined call does not change what another compartment sees. -/
lemma run_others (ht : t.Confined view n) (s : σ) {m : ν} (hm : m ≠ n) :
    view m (t.run s).2 = view m s := by
  have hwithin := ht.steps.within.run (fun s m _ => rfl)
    (fun a b c hab hbc m hm => (hbc m hm).trans (hab m hm)) s
  exact hwithin m hm

end Task.Confined

end

/-! ## Many routines -/

/-- The result of a routine that has finished. -/
def Prog.result? {ℓ σ α : Type} : Prog ℓ σ α → Option α
  | .done a => some a
  | .step _ _ _ => none

namespace Config

variable {ν υ ι ℓ σ α : Type} (view : ν → σ → υ) (n : ν) (inside : ι → Bool) {i : ι}

/-- The routines inside are confined to the compartment, and the others leave it alone. -/
structure Separates (c : Config ι ℓ σ α) : Prop where
  confined : ∀ i, inside i = true → (c.threads i).Confined view n
  unseen : ∀ i, inside i = false → (c.threads i).Within fun s s' => view n s' = view n s

/-- The compartment and the routines inside are as in the other configuration. -/
structure Alike (c c' : Config ι ℓ σ α) : Prop where
  shared : view n c.shared = view n c'.shared
  threads : ∀ i, inside i = true → c.threads i = c'.threads i

variable {view n inside} {c c' c'' : Config ι ℓ σ α}

lemma Alike.symm (h : Alike view n inside c c') : Alike view n inside c' c :=
  ⟨h.shared.symm, fun i hi => (h.threads i hi).symm⟩

lemma Alike.trans (h : Alike view n inside c c') (h' : Alike view n inside c' c'') :
    Alike view n inside c c'' :=
  ⟨h.shared.trans h'.shared, fun i hi => (h.threads i hi).trans (h'.threads i hi)⟩

variable [DecidableEq ι]

/-- What the rest of a routine inherits, every routine keeps when one of them goes on. -/
lemma advance_threads {P : Prog ℓ σ α → Prop}
    (hP : ∀ l upd next s, P (.step l upd next) → P (next s)) {j : ι} (h : P (c.threads j)) (i : ι) :
    P ((c.advance i).threads j) := by
  unfold Config.advance
  cases hthr : c.threads i with
  | done a => exact h
  | step l upd next =>
    show P (update c.threads i (next c.shared) j)
    by_cases hji : j = i
    · subst hji
      rw [hthr] at h
      rw [update_self]
      exact hP l upd next c.shared h
    · rwa [update_of_ne hji]

/-- A step of any thread keeps the separation. -/
lemma Separates.advance (h : c.Separates view n inside) (i : ι) :
    (c.advance i).Separates view n inside where
  confined j hj := advance_threads (fun _ _ _ s hstep => (hstep s).2.1) (h.confined j hj) i
  unseen j hj := advance_threads (fun _ _ _ s hstep => (hstep s).2) (h.unseen j hj) i

section
variable (h : Alike view n inside c c')
include h

variable (hc : c.Separates view n inside)
include hc

/-- A step outside is not noticed. -/
lemma Alike.advance_outside (hi : inside i = false) : Alike view n inside (c.advance i) c' := by
  have hwithin := hc.unseen i hi
  unfold Config.advance
  cases hthr : c.threads i with
  | done a => exact h
  | step l upd next =>
    rw [hthr] at hwithin
    constructor
    · exact ((hwithin c.shared).1).trans h.shared
    · intro j hj
      have hji : j ≠ i := by
        rintro rfl
        rw [hi] at hj
        cases hj
      show update c.threads i (next c.shared) j = _
      rw [update_of_ne hji]
      exact h.threads j hj

/-- A step inside is the same step in both. -/
lemma Alike.advance_inside
    (hi : inside i = true) : Alike view n inside (c.advance i) (c'.advance i) := by
  have hconfined := hc.confined i hi
  have hsame := h.threads i hi
  unfold Config.advance
  rw [← hsame]
  cases hthr : c.threads i with
  | done a => exact h
  | step l upd next =>
    rw [hthr] at hconfined
    obtain ⟨hview, hnext⟩ := (hconfined c.shared).2.2 c'.shared h.shared
    refine ⟨hview, fun j hj => ?_⟩
    show update c.threads i (next c.shared) j =
      update c'.threads i (next c'.shared) j
    by_cases hji : j = i
    · subst hji
      rw [update_self, update_self, hnext]
    · rw [update_of_ne hji, update_of_ne hji]
      exact h.threads j hj

/-- Only the steps inside count. -/
lemma Alike.schedule_filter (order : List ι) :
    Alike view n inside (c.schedule order) (c'.schedule (order.filter inside)) := by
  induction order generalizing c c' with
  | nil => exact h
  | cons i order ih =>
    cases hi : inside i with
    | true =>
      rw [List.filter_cons_of_pos hi]
      exact ih (h.advance_inside hc hi) (hc.advance i)
    | false =>
      rw [List.filter_cons_of_neg (by simp [hi])]
      exact ih (h.advance_outside hc hi) (hc.advance i)

end

/-- Two runs in which the routines inside take the same steps are alike, whatever the others do. -/
theorem Alike.schedule (h : Alike view n inside c c') (hc : c.Separates view n inside)
    (hc' : c'.Separates view n inside) {order order' : List ι}
    (horder : order.filter inside = order'.filter inside) :
    Alike view n inside (c.schedule order) (c'.schedule order') := by
  have hleft := h.schedule_filter hc order
  have hright := (⟨rfl, fun _ _ => rfl⟩ : Alike view n inside c' c').schedule_filter hc' order'
  rw [horder] at hleft
  exact hleft.trans hright.symm

/-- Hence every schedule keeps it. -/
lemma Separates.schedule (h : c.Separates view n inside) (order : List ι) :
    (c.schedule order).Separates view n inside := by
  induction order generalizing c with
  | nil => exact h
  | cons i order ih => exact ih (h.advance i)

/-- A step inside leaves every other compartment as it is. -/
lemma Separates.advance_others (h : c.Separates view n inside) (hi : inside i = true)
    {m : ν} (hm : m ≠ n) : view m (c.advance i).shared = view m c.shared := by
  have hconfined := h.confined i hi
  unfold Config.advance
  cases hthr : c.threads i with
  | done a => rfl
  | step l upd next =>
    rw [hthr] at hconfined
    exact (hconfined c.shared).1 m hm

end Config

end Resumption

import LocalPlatform.Lib.Task

/-!
# Interleaved routines

Any number of routines over one shared state. One atomic step of one routine, or a step of the
environment, happens at a time.

* `Config.Step` is the transition relation, with a guard on labelled steps.
* `Config.schedule` runs the routines in a given order.
* `Config.success_unique` is the rule for a resource that can be taken once: when every way to
  succeed passes a critical step that marks the state, and critical steps only happen in unmarked
  states, at most one routine succeeds.
-/

namespace Resumption

open Function

/-- A shared state and the routines that are under way, by their names. -/
structure Config (ι ℓ σ α : Type) where
  shared : σ
  threads : ι → Prog ℓ σ α

namespace Config

variable {ι ℓ σ α : Type} [DecidableEq ι]

/-- One step of a routine whose label meets the guard in the current state, or a step of the
environment. -/
inductive Step (env : σ → σ → Prop) (guard : ℓ → σ → Prop) (c : Config ι ℓ σ α) :
    Config ι ℓ σ α → Prop where
  | thread (i : ι) (label : ℓ) (upd : σ → σ) (next : σ → Prog ℓ σ α)
      (hthread : c.threads i = .step label upd next) (hguard : guard label c.shared) :
      Step env guard c
        { shared := upd c.shared, threads := Function.update c.threads i (next c.shared) }
  | environment (s : σ) (henv : env c.shared s) : Step env guard c { c with shared := s }

/-- Let routine `i` take its next step, if it has one. -/
def advance (c : Config ι ℓ σ α) (i : ι) : Config ι ℓ σ α :=
  match c.threads i with
  | .done _ => c
  | .step _ upd next =>
    { shared := upd c.shared, threads := Function.update c.threads i (next c.shared) }

/-- Let the routines take steps in the given order. -/
def schedule (c : Config ι ℓ σ α) (order : List ι) : Config ι ℓ σ α := order.foldl advance c

/-- The step that routine `p` is about to take meets the guard. -/
def NextMeets (guard : ℓ → σ → Prop) (s : σ) : Prog ℓ σ α → Prop
  | .done _ => True
  | .step label _ _ => guard label s

instance (guard : ℓ → σ → Prop) [∀ label s, Decidable (guard label s)] (s : σ)
    (p : Prog ℓ σ α) : Decidable (NextMeets guard s p) :=
  match p with
  | .done _ => isTrue trivial
  | .step label _ _ => inferInstanceAs (Decidable (guard label s))

/-- The routine has finished with a value. -/
def Succeeded {ε : Type} : Prog ℓ σ (Except ε α) → Bool
  | .done (.ok _) => true
  | .done (.error _) | .step _ _ _ => false

lemma exists_of_succeeded {ε : Type} {p : Prog ℓ σ (Except ε α)} (h : Succeeded p = true) :
    ∃ a, p = .done (.ok a) := by
  match p, h with
  | .done (.ok a), _ => exact ⟨a, rfl⟩

/-- Every step of the schedule meets the guard. -/
def Meets (guard : ℓ → σ → Prop) : Config ι ℓ σ α → List ι → Prop
  | _, [] => True
  | c, i :: order => NextMeets guard c.shared (c.threads i) ∧ Meets guard (c.advance i) order

instance Meets.decidable (guard : ℓ → σ → Prop) [∀ label s, Decidable (guard label s)] :
    (c : Config ι ℓ σ α) → (order : List ι) → Decidable (c.Meets guard order)
  | _, [] => isTrue trivial
  | c, i :: order =>
    have := Meets.decidable guard (c.advance i) order
    inferInstanceAs (Decidable (NextMeets guard c.shared (c.threads i) ∧ _))

variable {guard : ℓ → σ → Prop}

lemma Meets.of_forall (h : ∀ label s, guard label s)
    (c : Config ι ℓ σ α) (order : List ι) : c.Meets guard order := by
  induction order generalizing c with
  | nil => trivial
  | cons i order ih =>
    refine ⟨?_, ih _⟩
    cases c.threads i with
    | done a => trivial
    | step label upd next => exact h label c.shared

/-- A routine that is not scheduled stays where it is. -/
lemma schedule_threads {i : ι} {c : Config ι ℓ σ α} {order : List ι} (h : i ∉ order) :
    (c.schedule order).threads i = c.threads i := by
  induction order generalizing c with
  | nil => rfl
  | cons j order ih =>
    obtain ⟨hne, hrest⟩ : i ≠ j ∧ i ∉ order := by simpa using h
    have hadvance : (c.advance j).threads i = c.threads i := by
      unfold advance
      split
      · rfl
      · exact update_of_ne hne _ _
    exact (ih hrest).trans hadvance

/-- A schedule whose steps meet the guard is a run. -/
lemma schedule_reachable (env : σ → σ → Prop) {c : Config ι ℓ σ α}
    {order : List ι} (h : c.Meets guard order) :
    Relation.ReflTransGen (Step env guard) c (c.schedule order) := by
  induction order generalizing c with
  | nil => exact .refl
  | cons i order ih =>
    obtain ⟨hnext, hrest⟩ := h
    refine .trans ?_ (ih hrest)
    unfold advance
    cases hthr : c.threads i with
    | done a => exact .refl
    | step label upd next =>
      rw [hthr] at hnext
      exact .single (.thread i label upd next hthr hnext)

end Config

/-! ## Results and critical steps of one routine -/

section
variable {ℓ σ ε α β : Type} (I : σ → Prop) {Q : α → Prop}

/-- Every result the routine can reach through states with `I` meets `Q`. -/
def Prog.Ensures (Q : α → Prop) : Prog ℓ σ α → Prop
  | .done a => Q a
  | .step _ _ next => ∀ s, I s → (next s).Ensures Q

variable (critical : ℓ → Prop) (marked : σ → Prop)

/-- Every way to succeed through states with `I` still has a critical step ahead, and that step
marks the state. -/
def Prog.Pending : Prog ℓ σ (Except ε α) → Prop
  | .done (.ok _) => False
  | .done (.error _) => True
  | .step label upd next =>
    (critical label ∧ ∀ s, I s → marked (upd s)) ∨ ∀ s, I s → (next s).Pending

variable {I critical marked}

lemma Prog.Ensures.of_forall (hQ : ∀ a, Q a) (p : Prog ℓ σ α) : p.Ensures I Q := by
  induction p with
  | done a => exact hQ a
  | step l upd next ih => exact fun s _ => ih s

/-- The rule of sequences. -/
lemma Prog.Ensures.bind {Q' : β → Prop} {p : Prog ℓ σ α} {f : α → Prog ℓ σ β}
    (hp : p.Ensures I Q) (hf : ∀ a, Q a → (f a).Ensures I Q') : (p.bind f).Ensures I Q' := by
  induction p with
  | done a => exact hf a hp
  | step l upd next ih => exact fun s hs => ih s (hp s hs)

/-- A sequence is pending when its second part is, for every result the first part can have. -/
lemma Prog.Ensures.bind_pending {Q : β → Prop} {p : Prog ℓ σ β} {f : β → Prog ℓ σ (Except ε α)}
    (hp : p.Ensures I Q) (hf : ∀ b, Q b → (f b).Pending I critical marked) :
    (p.bind f).Pending I critical marked := by
  induction p with
  | done b => exact hf b hp
  | step l upd next ih => exact .inr fun s hs => ih s (hp s hs)

/-- A sequence that stops at errors is pending when its first part is. -/
lemma Prog.Pending.bind_left {ε' : Type} {p : Prog ℓ σ (Except ε β)}
    {f : Except ε β → Prog ℓ σ (Except ε' α)} (hp : p.Pending I critical marked)
    (herror : ∀ e, (f (.error e)).Pending I critical marked) :
    (p.bind f).Pending I critical marked := by
  induction p with
  | done r =>
    cases r with
    | ok b => exact hp.elim
    | error e => exact herror e
  | step l upd next ih =>
    rcases hp with hcritical | hnext
    · exact .inl hcritical
    · exact .inr fun s hs => ih s (hnext s hs)

end

/-! ## Tasks -/

namespace Task

variable {ℓ σ ε ε' α β : Type}

/-- Every value the task can return through states with `I` meets `Q`. -/
structure Ensures (I : σ → Prop) (Q : α → Prop) (t : Task ℓ σ ε α) : Prop where
  results : t.prog.Ensures I fun r => ∀ a, r = .ok a → Q a

/-- Every way to succeed through states with `I` passes a critical step, which marks the state. -/
structure Pending (I : σ → Prop) (critical : ℓ → Prop) (marked : σ → Prop) (t : Task ℓ σ ε α) :
    Prop where
  paths : t.prog.Pending I critical marked

section
variable {I marked : σ → Prop} {critical : ℓ → Prop} {Q : α → Prop} {t : Task ℓ σ ε α}

lemma Ensures.trivial (t : Task ℓ σ ε α) : t.Ensures I fun _ => True :=
  ⟨.of_forall (fun _ _ _ => True.intro) _⟩

lemma Ensures.pure {a : α} (h : Q a) : (pure a : Task ℓ σ ε α).Ensures I Q :=
  ⟨fun _ hb => Except.ok.inj hb ▸ h⟩

lemma Ensures.lift {x : Except ε α} (h : ∀ a, x = .ok a → Q a) :
    (lift x : Task ℓ σ ε α).Ensures I Q :=
  ⟨h⟩

lemma Ensures.okOr {x : Option α} {e : ε} (h : ∀ a, x = some a → Q a) :
    (okOr x e : Task ℓ σ ε α).Ensures I Q := by
  refine .lift fun a ha => h a ?_
  cases x with
  | none => cases ha
  | some b => exact congrArg some (Except.ok.inj ha)

/-- A result computed from the state has what the invariant gives it. -/
lemma Ensures.read {l : ℓ} {f : σ → Except ε α} (h : ∀ s, I s → ∀ a, f s = .ok a → Q a) :
    (read l f).Ensures I Q :=
  ⟨h⟩

variable {f : α → Task ℓ σ ε β}

/-- The rule of sequences, for calls. -/
lemma Ensures.bind {Q' : β → Prop} (ht : t.Ensures I Q)
    (hf : ∀ a, Q a → (f a).Ensures I Q') : (t >>= f).Ensures I Q' := by
  refine ⟨.bind ht.results fun r hr => ?_⟩
  cases r with
  | ok a => exact (hf a (hr a rfl)).results
  | error e => exact fun b hb => nomatch hb

lemma Ensures.mapError (ht : t.Ensures I Q) (f : ε → ε') : (t.mapError f).Ensures I Q := by
  refine ⟨.bind ht.results fun r hr => ?_⟩
  cases r with
  | ok a => exact fun b hb => Except.ok.inj hb ▸ hr a rfl
  | error e => exact fun b hb => nomatch hb

/-- A critical step has to leave the mark. -/
lemma Pending.atomic {l : ℓ} {f : σ → Except ε α × σ} (hl : critical l)
    (hf : ∀ s, I s → marked (f s).2) : (atomic l f).Pending I critical marked :=
  ⟨.inl ⟨hl, hf⟩⟩

/-- A sequence is pending when its first part is. -/
lemma Pending.bind (ht : t.Pending I critical marked) (f : α → Task ℓ σ ε β) :
    (t >>= f).Pending I critical marked :=
  ⟨ht.paths.bind_left fun _ => True.intro⟩

/-- A sequence is pending when its second part is, for every value of the first. -/
lemma Ensures.bind_pending (ht : t.Ensures I Q)
    (hf : ∀ a, Q a → (f a).Pending I critical marked) : (t >>= f).Pending I critical marked := by
  refine ⟨ht.results.bind_pending fun r hr => ?_⟩
  cases r with
  | ok a => exact (hf a (hr a rfl)).paths
  | error e => exact True.intro

/-- Whatever comes first, a sequence is pending when its second part always is. -/
lemma Pending.after (t : Task ℓ σ ε α)
    (hf : ∀ a, (f a).Pending I critical marked) : (t >>= f).Pending I critical marked :=
  (Ensures.trivial t).bind_pending fun a _ => hf a

lemma Pending.mapError (ht : t.Pending I critical marked) (f : ε → ε') :
    (t.mapError f).Pending I critical marked :=
  ⟨ht.paths.bind_left fun _ => True.intro⟩

end

end Task

/-! ## A resource that can be taken once -/

section
variable {ι ℓ σ ε α : Type} [DecidableEq ι] {I marked : σ → Prop} {critical : ℓ → Prop}
  {env : σ → σ → Prop} {guard : ℓ → σ → Prop}

/-- Both the invariant and the mark survive. -/
def Keeps (I marked : σ → Prop) (s s' : σ) : Prop := (I s → I s') ∧ (marked s → marked s')

/-- At most one routine is past its critical step, and then the state is marked. -/
structure Config.Exclusive (I marked : σ → Prop) (critical : ℓ → Prop)
    (c : Config ι ℓ σ (Except ε α)) : Prop where
  inv : I c.shared
  steps : ∀ i, (c.threads i).Within (Keeps I marked)
  unique : ∀ i j, ¬(c.threads i).Pending I critical marked →
    ¬(c.threads j).Pending I critical marked → i = j
  mark : ∀ i, ¬(c.threads i).Pending I critical marked → marked c.shared

variable {c c' : Config ι ℓ σ (Except ε α)}

section
variable (hguard : ∀ label s, critical label → guard label s → ¬marked s)
include hguard

variable (henv : ∀ s s', env s s' → Keeps I marked s s')
include henv

variable (h : c.Exclusive I marked critical)
include h

/-- A step keeps the exclusion: at most one thread is past its critical step. -/
lemma Config.Exclusive.step
    (hstep : Step env guard c c') :
    c'.Exclusive I marked critical := by
  cases hstep with
  | environment s hs =>
    have hkeeps := henv _ _ hs
    exact ⟨hkeeps.1 h.inv, h.steps, h.unique, fun i hi => hkeeps.2 (h.mark i hi)⟩
  | thread i label upd next hthr hlabel =>
    have hwithin : (Prog.step label upd next).Within (Keeps I marked) := hthr ▸ h.steps i
    obtain ⟨hkeeps, hnext⟩ := hwithin c.shared
    have hother : ∀ j, j ≠ i → update c.threads i (next c.shared) j = c.threads j :=
      fun j hj => update_of_ne hj _ _
    refine ⟨hkeeps.1 h.inv, ?_, ?_, ?_⟩
    · intro j
      by_cases hj : j = i
      · subst hj
        simpa using hnext
      · simpa [hother j hj] using h.steps j
    all_goals by_cases hpend : (c.threads i).Pending I critical marked
    -- the routine had its critical step ahead, and this may be it
    · rw [hthr] at hpend
      rcases hpend with ⟨hcritical, -⟩ | hahead
      · have hunmarked := hguard label c.shared hcritical hlabel
        have hall : ∀ j, (c.threads j).Pending I critical marked := by
          intro j
          by_contra hj
          exact hunmarked (h.mark j hj)
        have honly : ∀ j, ¬(update c.threads i (next c.shared) j).Pending I critical
            marked → j = i := by
          intro j hj
          by_contra hne
          rw [hother j hne] at hj
          exact hj (hall j)
        intro j k hj hk
        rw [honly j hj, honly k hk]
      · have hsame : ∀ j, ¬(update c.threads i (next c.shared) j).Pending I critical
            marked → ¬(c.threads j).Pending I critical marked := by
          intro j hj
          by_cases hji : j = i
          · subst hji
            simp only [update_self] at hj
            exact absurd (hahead c.shared h.inv) hj
          · rwa [hother j hji] at hj
        exact fun j k hj hk => h.unique j k (hsame j hj) (hsame k hk)
    -- the routine was past its critical step already, so all others are not
    · have honly : ∀ j, ¬(update c.threads i (next c.shared) j).Pending I critical
          marked → j = i := by
        intro j hj
        by_contra hne
        rw [hother j hne] at hj
        exact hne (h.unique j i hj hpend)
      intro j k hj hk
      rw [honly j hj, honly k hk]
    · intro j hj
      rw [hthr] at hpend
      rcases hpend with ⟨-, hmarks⟩ | hahead
      · exact hmarks c.shared h.inv
      · by_cases hji : j = i
        · subst hji
          simp only [update_self] at hj
          exact absurd (hahead c.shared h.inv) hj
        · simp only [hother j hji] at hj
          exact hkeeps.2 (h.mark j hj)
    · intro j _
      exact hkeeps.2 (h.mark i hpend)

/-- Hence every run keeps it. -/
lemma Config.Exclusive.run
    (hrun : Relation.ReflTransGen (Step env guard) c c') :
    c'.Exclusive I marked critical := by
  induction hrun with
  | refl => exact h
  | tail _ hstep ih => exact ih.step hguard henv hstep

end

/-- If routines start before their critical step, keep the mark, and take critical steps only in
unmarked states, then at most one of them succeeds. -/
theorem Config.success_unique (hguard : ∀ label s, critical label → guard label s → ¬marked s)
    (henv : ∀ s s', env s s' → Keeps I marked s s') {c0 c : Config ι ℓ σ (Except ε α)}
    (hinv : I c0.shared) (hsteps : ∀ i, (c0.threads i).Within (Keeps I marked))
    (hpend : ∀ i, (c0.threads i).Pending I critical marked)
    (hrun : Relation.ReflTransGen (Step env guard) c0 c) {i j : ι} {a b : α}
    (hi : c.threads i = .done (.ok a)) (hj : c.threads j = .done (.ok b)) : i = j := by
  have hstart : c0.Exclusive I marked critical :=
    ⟨hinv, hsteps, fun i _ hi => absurd (hpend i) hi, fun i hi => absurd (hpend i) hi⟩
  have hend := hstart.run hguard henv hrun
  exact hend.unique i j (by rw [hi]; exact id) (by rw [hj]; exact id)

end

end Resumption

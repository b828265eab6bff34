import LocalPlatform.Lib.Interleaving

/-!
# Rely and guarantee

What one of several interleaved routines does while the others move the state.

* `Contract` says how the others may move the state, how the routine itself does, and in which
  states a labelled step may be taken at all.
* `Prog.Under` is the outcome of a routine under its contract, by recursion on its steps, and
  `Task.Obeys` is the part of it that is about the steps alone.
* `Config.under_run` composes contracts: when what each routine guarantees is within what the
  others rely on, every routine stays under its contract in every run.
-/

namespace Resumption

open List Function

/-- What a routine relies on and what it guarantees. Other routines may take any number of steps
between two of its own, so the relation they respect is reflexive and transitive. -/
structure Contract (ℓ σ : Type) where
  rely : σ → σ → Prop
  guarantee : σ → σ → Prop
  guard : ℓ → σ → Prop
  refl : ∀ s, rely s s
  trans : ∀ {a b c}, rely a b → rely b c → rely a c

/-- The others do not falsify `A`. -/
def Contract.Stable {ℓ σ : Type} (C : Contract ℓ σ) (A : σ → Prop) : Prop :=
  ∀ s s', C.rely s s' → A s → A s'

section
variable {ℓ σ : Type} {C : Contract ℓ σ} {A B : σ → Prop}

/-- Stable assertions are closed under conjunction. -/
lemma Contract.Stable.and (hA : C.Stable A) (hB : C.Stable B) : C.Stable fun s => A s ∧ B s :=
  fun s s' hs h => ⟨hA s s' hs h.1, hB s s' hs h.2⟩

/-- A condition that does not read the state is stable. -/
lemma Contract.Stable.and_const (hA : C.Stable A) (p : Prop) : C.Stable fun s => A s ∧ p :=
  fun s s' hs h => ⟨hA s s' hs h.1, h.2⟩

lemma Contract.Stable.imp (p : Prop) (hA : C.Stable A) : C.Stable fun s => p → A s :=
  fun s s' hs h hp => hA s s' hs (h hp)

end

section
variable {ℓ σ ε ε' α β : Type} (C : Contract ℓ σ) {R : σ → σ → Prop}

/-- From `s` on, every own step keeps the guarantee, and every result meets `Q` from then on. -/
def Prog.Under (Q : α → σ → Prop) : Prog ℓ σ α → σ → Prop
  | .done a, s => ∀ s', C.rely s s' → Q a s'
  | .step label upd next, s => ∀ s', C.rely s s' → C.guard label s' →
      C.guarantee s' (upd s') ∧ (next s').Under Q (upd s')

variable {C} {Q : α → σ → Prop} {Q' : β → σ → Prop} {s s' : σ}

variable {p : Prog ℓ σ α}

/-- The others may move before the routine does. -/
lemma Prog.Under.rely (h : p.Under C Q s) (hs : C.rely s s') : p.Under C Q s' := by
  cases p with
  | done a => exact fun t ht => h t (C.trans hs ht)
  | step label upd next => exact fun t ht => h t (C.trans hs ht)

/-- The postcondition may be weakened. -/
lemma Prog.Under.mono {Q' : α → σ → Prop} (hQ : ∀ a s, Q a s → Q' a s)
    (h : p.Under C Q s) : p.Under C Q' s := by
  induction p generalizing s with
  | done a => exact fun t ht => hQ a t (h t ht)
  | step label upd next ih =>
    intro t ht hguard
    have hstep := h t ht hguard
    exact ⟨hstep.1, ih t hstep.2⟩

/-- The rest of a routine starts where the result of the first part holds for good. -/
lemma Prog.Under.bind {f : α → Prog ℓ σ β} (hp : p.Under C Q s)
    (hf : ∀ a s, (∀ s', C.rely s s' → Q a s') → (f a).Under C Q' s) :
    (p.bind f).Under C Q' s := by
  induction p generalizing s with
  | done a => exact hf a s hp
  | step label upd next ih =>
    intro t ht hguard
    have hstep := hp t ht hguard
    exact ⟨hstep.1, ih t hstep.2⟩

/-- A result that is there meets its condition. -/
lemma Prog.Under.result {a : α} (h : (Prog.done a : Prog ℓ σ α).Under C Q s) : Q a s :=
  h s (C.refl s)

/-- Nobody else runs: the result of an uninterrupted run meets its condition. -/
lemma Prog.Under.run (h : p.Under C Q s) (hguard : ∀ label s, C.guard label s) :
    Q (p.run s).1 (p.run s).2 := by
  induction p generalizing s with
  | done a => exact h.result
  | step label upd next ih => exact ih s (h s (C.refl s) (hguard label s)).2

/-- Steps that all respect `R` keep what `R` keeps. -/
lemma Prog.Under.of_within {A : σ → Prop} (hA : C.Stable A)
    (hR : ∀ s s', R s s' → C.guarantee s s' ∧ (A s → A s')) (hp : p.Within R)
    (hs : A s) : p.Under C (fun _ => A) s := by
  induction p generalizing s with
  | done a => exact fun s' hs' => hA s s' hs' hs
  | step label upd next ih =>
    intro s' hs' _
    have hstep := hR s' (upd s') (hp s').1
    exact ⟨hstep.1, ih s' (hp s').2 (hstep.2 (hA s s' hs' hs))⟩

/-- A routine on a part of the state, under a contract on that part, with a frame `F` about the
rest. -/
lemma Prog.Under.zoom {ℓ' τ : Type} {D : Contract ℓ' τ} {f : ℓ' → ℓ} {L : Lens σ τ}
    {Q : α → τ → Prop} {F : σ → Prop}
    (hrely : ∀ s s', C.rely s s' → D.rely (L.get s) (L.get s'))
    (hguard : ∀ label s, C.guard (f label) s → D.guard label (L.get s))
    (hguarantee : ∀ s t, D.guarantee (L.get s) t → C.guarantee s (L.put t s))
    (hF : C.Stable F) (hput : ∀ s t, F s → F (L.put t s))
    {p : Prog ℓ' τ α} (h : p.Under D Q (L.get s)) (hs : F s) :
    (p.zoom f L).Under C (fun a s => Q a (L.get s) ∧ F s) s := by
  induction p generalizing s with
  | done a => exact fun s' hs' => ⟨h _ (hrely s s' hs'), hF s s' hs' hs⟩
  | step label upd next ih =>
    intro s' hs' hlabel
    have hstep := h _ (hrely s s' hs') (hguard label s' hlabel)
    refine ⟨hguarantee s' _ hstep.1, ih _ ?_ (hput s' _ (hF s s' hs' hs))⟩
    rw [L.get_put]
    exact hstep.2

/-! ## Tasks -/

/-- From `s` on, the task keeps its guarantee and ends with `Q`. -/
structure Task.Under (C : Contract ℓ σ) (Q : Except ε α → σ → Prop) (t : Task ℓ σ ε α)
    (s : σ) : Prop where
  steps : t.prog.Under C Q s

namespace Task

variable {P : Except ε α → σ → Prop} {P' : Except ε β → σ → Prop} {t : Task ℓ σ ε α}

lemma Under.mono {P' : Except ε α → σ → Prop} (hP : ∀ r s, P r s → P' r s)
    (h : t.Under C P s) : t.Under C P' s :=
  ⟨h.steps.mono hP⟩

/-- A call without steps needs its postcondition to be stable. -/
lemma Under.lift {x : Except ε α} (hP : C.Stable (P x)) (h : P x s) :
    (lift x : Task ℓ σ ε α).Under C P s :=
  ⟨fun s' hs' => hP s s' hs' h⟩

lemma Under.pure {a : α} (hP : C.Stable (P (.ok a))) (h : P (.ok a) s) :
    (pure a : Task ℓ σ ε α).Under C P s :=
  ⟨fun s' hs' => hP s s' hs' h⟩

variable {A : σ → Prop} {label : ℓ} {f : σ → Except ε α × σ} {B : σ → Prop} {l : List β}

/-- One atomic step: what holds before it survives the others, and so does what it leaves. -/
lemma Under.atomic (hA : C.Stable A) (hP : ∀ r, C.Stable (P r)) (hs : A s)
    (h : ∀ s, A s → C.guard label s → C.guarantee s (f s).2 ∧ P (f s).1 (f s).2) :
    (atomic label f).Under C P s := by
  refine ⟨fun s' hs' hguard => ?_⟩
  have hstep := h s' (hA s s' hs' hs) hguard
  exact ⟨hstep.1, fun s'' hs'' => hP _ _ _ hs'' hstep.2⟩

/-- The rule of a read under a stable assertion. -/
lemma Under.read (hA : C.Stable A) (hP : ∀ r, C.Stable (P r)) (hs : A s) {f : σ → Except ε α}
    (h : ∀ s, A s → C.guarantee s s ∧ P (f s) s) : (read label f).Under C P s := by
  refine ⟨fun s' hs' _ => ?_⟩
  have hstep := h s' (hA s s' hs' hs)
  exact ⟨hstep.1, fun s'' hs'' => hP _ _ _ hs'' hstep.2⟩

/-- The rule of handlers. -/
lemma Under.handle {P' : Except ε' β → σ → Prop} {f : Except ε α → Task ℓ σ ε' β}
    (ht : t.Under C P s) (hf : ∀ r s, P r s → (f r).Under C P' s) :
    (t.handle f).Under C P' s :=
  ⟨ht.steps.bind fun r s hr => (hf r s (hr s (C.refl s))).steps⟩

lemma Under.mapError {P : Except ε' α → σ → Prop} {f : ε → ε'}
    (ht : t.Under C (fun r => P (r.mapError f)) s) : (t.mapError f).Under C P s :=
  ⟨ht.steps.bind fun _ _ hr => hr⟩

/-- The rule of sequences; the assertion between the parts has to cover errors too. -/
lemma Under.bind {f : α → Task ℓ σ ε β} (ht : t.Under C P s)
    (hok : ∀ a s, P (.ok a) s → (f a).Under C P' s)
    (herror : ∀ e s, P (.error e) s → P' (.error e) s) : (t >>= f).Under C P' s := by
  refine ⟨ht.steps.bind fun r s hr => ?_⟩
  cases r with
  | ok a => exact (hok a s (hr s (C.refl s))).steps
  | error e => exact fun s' hs' => herror e s' (hr s' hs')

/-- A check before a call keeps a stable assertion. -/
lemma Under.lift_bind {x : Except ε α} {f : α → Task ℓ σ ε β} (hA : C.Stable A) (hs : A s)
    (hok : ∀ a s, A s → (f a).Under C P' s) (herror : ∀ e s, A s → P' (.error e) s) :
    (Task.lift x >>= f).Under C P' s :=
  .bind (P := fun _ => A) (.lift hA hs) hok herror

lemma Under.map (g : α → β) (ht : t.Under C (fun r => P' (r.map g)) s) :
    (g <$> t).Under C P' s := by
  refine ⟨ht.steps.bind fun r s hr => ?_⟩
  cases r with
  | ok a => exact hr
  | error e => exact hr

/-- A call that runs alone meets its postcondition. -/
lemma Under.run (h : t.Under C P s) (hguard : ∀ label s, C.guard label s) :
    P (t.run s).1 (t.run s).2 :=
  h.steps.run hguard

/-- A frame rule: what every step keeps is kept under interference. -/
lemma Under.of_within (hA : C.Stable A)
    (hR : ∀ s s', R s s' → C.guarantee s s' ∧ (A s → A s')) (ht : t.Within R) (hs : A s) :
    t.Under C (fun _ => A) s :=
  ⟨.of_within hA hR ht.steps hs⟩

/-- A call whose result is thrown away cannot fail. -/
lemma Under.ignore (ht : t.Under C (fun _ => B) s) :
    (t.ignore : Task ℓ σ ε' Unit).Under C (fun r s => B s ∧ r = .ok ()) s :=
  ⟨ht.steps.bind fun _ _ hs s' hs' => ⟨hs s' hs', rfl⟩⟩

/-- A loop whose rounds cannot fail keeps what each round keeps. -/
lemma Under.forM (hB : C.Stable B) {f : β → Task ℓ σ ε PUnit}
    (h : ∀ b ∈ l, ∀ s, B s → (f b).Under C (fun r s => B s ∧ r = .ok ()) s) (hs : B s) :
    (l.forM f).Under C (fun r s => B s ∧ r = .ok ()) s := by
  induction l generalizing s with
  | nil => exact .pure (hB.and_const _) ⟨hs, rfl⟩
  | cons b l ih =>
    refine .bind (h b mem_cons_self s hs) ?_ (fun e s h => h)
    rintro - s ⟨hs, -⟩
    exact ih (fun b' hb' => h b' (mem_cons_of_mem b hb')) hs

/-- The same when rounds may fail, which ends the loop. -/
lemma Under.forM_of_keeps (hB : C.Stable B) {f : β → Task ℓ σ ε PUnit}
    (h : ∀ b ∈ l, ∀ s, B s → (f b).Under C (fun _ => B) s) (hs : B s) :
    (l.forM f).Under C (fun _ => B) s := by
  induction l generalizing s with
  | nil => exact .pure hB hs
  | cons b l ih =>
    exact .bind (h b mem_cons_self s hs)
      (fun _ s hs => ih (fun b' hb' => h b' (mem_cons_of_mem b hb')) hs) (fun _ _ h => h)

/-- A loop in which one round brings about what all rounds then keep. -/
lemma Under.forM_achieves {A B : σ → Prop} (hB : C.Stable B)
    {f : β → Task ℓ σ ε PUnit} {b : β} (hb : b ∈ l)
    (hkeepA : ∀ b ∈ l, ∀ s, A s → (f b).Under C (fun r s => A s ∧ r = .ok ()) s)
    (hkeepB : ∀ b ∈ l, ∀ s, B s → (f b).Under C (fun r s => B s ∧ r = .ok ()) s)
    (h : ∀ s, A s → (f b).Under C (fun r s => B s ∧ r = .ok ()) s) (hs : A s) :
    (l.forM f).Under C (fun r s => B s ∧ r = .ok ()) s := by
  induction l generalizing s with
  | nil => cases hb
  | cons b' l ih =>
    rcases mem_cons.mp hb with rfl | hb
    · refine .bind (h s hs) ?_ (fun e s h => h)
      rintro - s ⟨hs, -⟩
      exact .forM hB (fun b' hb' => hkeepB b' (mem_cons_of_mem _ hb')) hs
    · refine .bind (hkeepA b' mem_cons_self s hs) ?_ (fun e s h => nomatch h.2)
      rintro - s ⟨hs, -⟩
      exact ih hb (fun b'' hb'' => hkeepA b'' (mem_cons_of_mem _ hb''))
        (fun b'' hb'' => hkeepB b'' (mem_cons_of_mem _ hb'')) hs

/-- A bracket whose first and last steps always succeed. -/
lemma Under.bracket {enter exit : Task ℓ σ ε Unit} {P' : Except ε α → σ → Prop}
    (henter : enter.Under C (fun x s => A s ∧ x = .ok ()) s)
    (ht : ∀ s, A s → t.Under C P s)
    (hexit : ∀ r s, P r s → exit.Under C (fun x s => P' r s ∧ x = .ok ()) s) :
    (bracket enter exit t).Under C P' s := by
  refine .handle henter fun x s hx => ?_
  obtain ⟨hA, rfl⟩ := hx
  refine .handle (ht s hA) fun r s hP => ?_
  refine ⟨(hexit r s hP).steps.bind fun x s hx => ?_⟩
  obtain ⟨-, rfl⟩ := hx s (C.refl s)
  exact fun s' hs' => (hx s' hs').1

/-- Whatever the state, every step of the task keeps the guarantee. -/
def Obeys (C : Contract ℓ σ) (t : Task ℓ σ ε α) : Prop := ∀ s, t.Under C (fun _ _ => True) s

lemma Obeys.lift (x : Except ε α) : (lift x : Task ℓ σ ε α).Obeys C :=
  fun _ => .lift (fun _ _ _ _ => trivial) trivial

lemma Obeys.pure (a : α) : (pure a : Task ℓ σ ε α).Obeys C := .lift (.ok a)

/-- A step obeys a contract if it guarantees its effect wherever its guard holds. -/
lemma Obeys.atomic
    (h : ∀ s, C.guard label s → C.guarantee s (f s).2) : (Task.atomic label f).Obeys C :=
  fun _ => .atomic (fun _ _ _ _ => trivial) (fun _ _ _ _ _ => trivial)
    trivial fun s _ hguard => ⟨h s hguard, trivial⟩

lemma Obeys.read {f : σ → Except ε α} (h : ∀ s, C.guarantee s s) : (Task.read label f).Obeys C :=
  fun _ => .read (fun _ _ _ _ => trivial) (fun _ _ _ _ _ => trivial)
    trivial fun s _ => ⟨h s, trivial⟩

/-- A sequence of obedient calls is obedient. -/
lemma Obeys.bind {f : α → Task ℓ σ ε β} (ht : t.Obeys C) (hf : ∀ a, (f a).Obeys C) :
    (t >>= f).Obeys C :=
  fun s => .bind (ht s) (fun a s _ => hf a s) (fun _ _ _ => trivial)

lemma Obeys.map (g : α → β) (ht : t.Obeys C) : (g <$> t).Obeys C := ht.bind fun a => .pure (g a)

/-- A loop of obedient calls is obedient. -/
lemma Obeys.forM {f : β → Task ℓ σ ε PUnit} (hf : ∀ b ∈ l, (f b).Obeys C) : (l.forM f).Obeys C := by
  induction l with
  | nil => exact .pure _
  | cons b l ih =>
    exact (hf b mem_cons_self).bind fun _ =>
      ih fun b' hb' => hf b' (mem_cons_of_mem b hb')

end Task

end

/-! ## A routine never comes back to where it was -/

section
variable {ℓ σ α : Type}

/-- `p` is what is left of `q` after one step. -/
inductive Prog.Next : Prog ℓ σ α → Prog ℓ σ α → Prop where
  | step (label : ℓ) (upd : σ → σ) (next : σ → Prog ℓ σ α) (s : σ) :
      Next (next s) (.step label upd next)

/-- Programs are finite, so a thread cannot step for ever. -/
lemma Prog.next_wellFounded : WellFounded (Prog.Next : Prog ℓ σ α → Prog ℓ σ α → Prop) := by
  refine ⟨fun p => ?_⟩
  induction p with
  | done a => exact ⟨_, fun q hq => nomatch hq⟩
  | step label upd next ih =>
    refine ⟨_, fun q hq => ?_⟩
    cases hq with
    | step _ _ _ s => exact ih s

end

/-! ## Composition -/

section
variable {ι ℓ σ α : Type} [DecidableEq ι] {C : ι → Contract ℓ σ} {Q : ι → α → σ → Prop}
  {env : σ → σ → Prop} {guard : ℓ → σ → Prop} {c c' : Config ι ℓ σ α}

/-- Every routine is under its contract. -/
def Config.Under (C : ι → Contract ℓ σ) (Q : ι → α → σ → Prop) (c : Config ι ℓ σ α) : Prop :=
  ∀ i, (c.threads i).Under (C i) (Q i) c.shared

/-- What the environment and the other routines do is within what each routine relies on. -/
structure Compatible (C : ι → Contract ℓ σ) (env : σ → σ → Prop) (guard : ℓ → σ → Prop) :
    Prop where
  env : ∀ i s s', env s s' → (C i).rely s s'
  guard : ∀ i label s, guard label s → (C i).guard label s
  routines : ∀ i j s s', j ≠ i → (C i).guarantee s s' → (C j).rely s s'

variable (hC : Compatible C env guard)
include hC

/-- The judgement of every thread survives a step of any of them. -/
lemma Config.Under.step (h : c.Under C Q) (hstep : Config.Step env guard c c') : c'.Under C Q := by
  cases hstep with
  | environment s hs => exact fun i => (h i).rely (hC.env i _ _ hs)
  | thread i label upd next hthr hlabel =>
    have hi : (Prog.step label upd next).Under (C i) (Q i) c.shared := hthr ▸ h i
    have hown := hi c.shared ((C i).refl _) (hC.guard i label _ hlabel)
    intro j
    by_cases hj : j = i
    · subst hj
      show (update c.threads j (next c.shared) j).Under (C j) (Q j) (upd c.shared)
      rw [update_self]
      exact hown.2
    · show (update c.threads i (next c.shared) j).Under (C j) (Q j) (upd c.shared)
      rw [update_of_ne hj]
      exact (h j).rely (hC.routines i j _ _ hj hown.1)

/-- When the guarantees are within what the others rely on, contracts hold in every run. -/
theorem Config.Under.run (h : c.Under C Q) (hrun : Relation.ReflTransGen (Config.Step env guard) c c') :
    c'.Under C Q := by
  induction hrun with
  | refl => exact h
  | tail _ hstep ih => exact ih.step hC hstep

/-- A routine that is where it started has taken no step, so what it relies on survives. -/
theorem Config.Under.unstarted {A : σ → Prop} {i : ι} (hA : (C i).Stable A)
    (h : c.Under C Q) (hrun : Relation.ReflTransGen (Config.Step env guard) c c')
    (hc : A c.shared) (hi : c'.threads i = c.threads i) : A c'.shared := by
  have hinv : (c'.threads i = c.threads i ∧ A c'.shared) ∨
      Relation.TransGen Prog.Next (c'.threads i) (c.threads i) := by
    clear hi
    induction hrun with
    | refl => exact .inl ⟨rfl, hc⟩
    | @tail d d' hrun hstep ih =>
      have hd := h.run hC hrun
      cases hstep with
      | environment s hs =>
        exact ih.imp (fun hd => ⟨hd.1, hA _ _ (hC.env i _ _ hs) hd.2⟩) id
      | thread j label upd next hthr hlabel =>
        by_cases hj : j = i
        · subst hj
          right
          show Relation.TransGen Prog.Next (update d.threads j _ j) _
          have hnext : Prog.Next (next d.shared) (d.threads j) := hthr ▸ .step label upd next _
          rw [update_self]
          rcases ih with ⟨heq, -⟩ | hbelow
          · exact heq ▸ .single hnext
          · exact .head hnext hbelow
        · have hother : update d.threads j (next d.shared) i = d.threads i :=
            update_of_ne (Ne.symm hj) _ _
          have hj' : (Prog.step label upd next).Under (C j) (Q j) d.shared := hthr ▸ hd j
          have hown := (hj' d.shared ((C j).refl _) (hC.guard j label _ hlabel)).1
          refine ih.imp (fun hd => ⟨hother.trans hd.1, ?_⟩) (fun hbelow => ?_)
          · exact hA _ _ (hC.routines j i _ _ (Ne.symm hj) hown) hd.2
          · show Relation.TransGen Prog.Next (update d.threads j _ i) _
            rw [hother]
            exact hbelow
  rcases hinv with ⟨-, hA⟩ | hbelow
  · exact hA
  · rw [hi] at hbelow
    exact absurd hbelow (Prog.next_wellFounded.transGen.irrefl.irrefl _)

/-- What every guarantee and the environment preserve holds in every run. -/
theorem Config.Under.keeps {J : σ → Prop} (hJenv : ∀ s s', env s s' → J s → J s')
    (hJ : ∀ i s s', (C i).guarantee s s' → J s → J s')
    (h : c.Under C Q) (hrun : Relation.ReflTransGen (Config.Step env guard) c c')
    (hc : J c.shared) : J c'.shared := by
  induction hrun with
  | refl => exact hc
  | @tail d d' hrun hstep ih =>
    have hd := h.run hC hrun
    cases hstep with
    | environment s hs => exact hJenv _ _ hs ih
    | thread i label upd next hthr hlabel =>
      have hi : (Prog.step label upd next).Under (C i) (Q i) d.shared := hthr ▸ hd i
      exact hJ i _ _ (hi d.shared ((C i).refl _) (hC.guard i label _ hlabel)).1 ih

end

end Resumption

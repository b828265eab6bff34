import Mathlib.Tactic

/-!
# Resumption tasks

An asynchronous routine over a shared state, cut at the points where other routines may run.
The state is only touched by atomic steps, and everything between two of them is local.

* `Prog` is the tree of atomic steps, `Prog.run` executes it without interruption.
* `Task` is a `Prog` that ends in a value or an error; `do` blocks propagate errors as `?` does.
* `Prog.Within R` says that every atomic step moves the state along `R`; a task is `ReadOnly`
  when no step changes it, and then a sequence evaluates like one in `Except`.
-/

namespace Resumption

open List Except

/-- A routine over the state `σ`: finished, or about to take one atomic step. A step carries a
label, its effect on the state, and the rest of the routine, which sees the state before the
step. -/
inductive Prog (ℓ σ α : Type) where
  | done (a : α)
  | step (label : ℓ) (upd : σ → σ) (next : σ → Prog ℓ σ α)

namespace Prog

variable {ℓ σ α β : Type}

/-- Run a routine from start to end with nobody else running. -/
def run : Prog ℓ σ α → σ → α × σ
  | done a, s => (a, s)
  | step _ upd next, s => (next s).run (upd s)

/-- Continue a routine with another one that depends on its result. -/
def bind : Prog ℓ σ α → (α → Prog ℓ σ β) → Prog ℓ σ β
  | done a, f => f a
  | step l upd next, f => step l upd fun s => (next s).bind f

@[simp] lemma run_done (a : α) (s : σ) : (done a : Prog ℓ σ α).run s = (a, s) := rfl

@[simp] lemma run_step (l : ℓ) (upd : σ → σ) (next : σ → Prog ℓ σ α) (s : σ) :
    (step l upd next).run s = (next s).run (upd s) := rfl

/-- Running a sequence is running its parts one after the other. -/
@[simp] lemma run_bind (p : Prog ℓ σ α) (f : α → Prog ℓ σ β) (s : σ) :
    (p.bind f).run s = (f (p.run s).1).run (p.run s).2 := by
  induction p generalizing s with
  | done a => rfl
  | step l upd next ih => exact ih s (upd s)

/-- Every atomic step the routine can take moves the state along `R`. -/
def Within (R : σ → σ → Prop) : Prog ℓ σ α → Prop
  | done _ => True
  | step _ upd next => ∀ s, R s (upd s) ∧ (next s).Within R

variable {R : σ → σ → Prop} {p : Prog ℓ σ α}

/-- A sequence stays within what both of its parts stay within. -/
lemma Within.bind {f : α → Prog ℓ σ β}
    (hp : p.Within R) (hf : ∀ a, (f a).Within R) : (p.bind f).Within R := by
  induction p with
  | done a => exact hf a
  | step l upd next ih =>
    intro s
    exact ⟨(hp s).1, ih s (hp s).2⟩

lemma Within.mono {R R' : σ → σ → Prop} (hR : ∀ s s', R s s' → R' s s')
    (hp : p.Within R) : p.Within R' := by
  induction p with
  | done a => trivial
  | step l upd next ih =>
    intro s
    exact ⟨hR _ _ (hp s).1, ih s (hp s).2⟩

/-- Every step is some step. -/
lemma Within.trivial (p : Prog ℓ σ α) : p.Within fun _ _ => True := by
  induction p with
  | done a => exact True.intro
  | step l upd next ih => exact fun s => ⟨True.intro, ih s⟩

/-- A relation that every step keeps holds across a whole run, if it is a preorder. -/
lemma Within.run (hp : p.Within R) (hrefl : ∀ s, R s s)
    (htrans : ∀ a b c, R a b → R b c → R a c) (s : σ) : R s (p.run s).2 := by
  induction p generalizing s with
  | done a => exact hrefl s
  | step l upd next ih => exact htrans _ _ _ (hp s).1 (ih s (hp s).2 (upd s))

end Prog

/-- A routine that ends in a value or in an error. -/
structure Task (ℓ σ ε α : Type) where
  prog : Prog ℓ σ (Except ε α)

variable {ε α β : Type} {s : σ}

/-- A sequence in `Except` succeeds exactly when both parts do. -/
lemma except_bind_ok {x : Except ε α} {f : α → Except ε β} {b : β} :
    (x >>= f) = .ok b ↔ ∃ a, x = .ok a ∧ f a = .ok b := by
  cases x <;> simp [bind, Except.bind]

/-- Replacing the error does not touch a success. -/
lemma except_mapError_ok {ε ε' α : Type} {f : ε → ε'} {x : Except ε α} {a : α} :
    x.mapError f = .ok a ↔ x = .ok a := by
  cases x <;> simp [Except.mapError]

lemma toOption_eq_some {ε α : Type} {x : Except ε α} {a : α} :
    x.toOption = some a ↔ x = .ok a := by
  cases x <;> simp [Except.toOption]

lemma mem_concat {a b : α} {l : List α} : a ∈ l ++ [b] ↔ a ∈ l ∨ a = b := by
  rw [mem_append, mem_singleton]

/-- What holds of the elements of a list and of one more. -/
lemma forall_mem_concat {p : α → Prop} {b : α} {l : List α} (hl : ∀ a ∈ l, p a) (hb : p b) :
    ∀ a ∈ l ++ [b], p a := by
  intro a ha
  rcases mem_concat.mp ha with ha | rfl
  · exact hl a ha
  · exact hb

/-- A traversal succeeds exactly when its first element and the rest do. -/
lemma mapM_cons_ok {f : α → Except ε β} {a : α} {l : List α} {bs : List β} :
    (a :: l).mapM f = .ok bs ↔ ∃ b bs', f a = .ok b ∧ l.mapM f = .ok bs' ∧ bs = b :: bs' := by
  rw [mapM_cons]
  constructor
  · intro h
    obtain ⟨b, hb, h⟩ := except_bind_ok.mp h
    obtain ⟨bs', hbs', h⟩ := except_bind_ok.mp h
    exact ⟨b, bs', hb, hbs', (ok.inj h).symm⟩
  · rintro ⟨b, bs', hb, hbs', rfl⟩
    rw [hb, hbs']
    rfl

/-- Every result of a successful traversal comes from an element of the list. -/
lemma exists_of_mem_mapM {f : α → Except ε β} {l : List α} {bs : List β} {b : β}
    (h : l.mapM f = .ok bs) (hb : b ∈ bs) : ∃ a ∈ l, f a = .ok b := by
  induction l generalizing bs with
  | nil =>
    obtain rfl : [] = bs := by simpa [pure, Except.pure] using h
    cases hb
  | cons a l ih =>
    obtain ⟨_, _, hb', hbs', rfl⟩ := mapM_cons_ok.mp h
    rcases mem_cons.mp hb with rfl | hb
    · exact ⟨a, mem_cons_self, hb'⟩
    · obtain ⟨a', ha', hfa'⟩ := ih hbs' hb
      exact ⟨a', mem_cons_of_mem a ha', hfa'⟩

/-- Every element of a successful traversal succeeded. -/
lemma ok_of_mem_of_mapM {f : α → Except ε β} {l : List α} {bs : List β} {a : α}
    (h : l.mapM f = .ok bs) (ha : a ∈ l) : ∃ b ∈ bs, f a = .ok b := by
  induction l generalizing bs with
  | nil => cases ha
  | cons a' l ih =>
    obtain ⟨b', _, hb', hbs', rfl⟩ := mapM_cons_ok.mp h
    rcases mem_cons.mp ha with rfl | ha
    · exact ⟨b', mem_cons_self, hb'⟩
    · obtain ⟨b, hb, hfa⟩ := ih hbs' ha
      exact ⟨b, mem_cons_of_mem b' hb, hfa⟩

/-- The results of a traversal that succeeded are those of its elements. -/
lemma mem_mapM {f : α → Except ε β} {l : List α} {bs : List β} {b : β} (h : l.mapM f = .ok bs) :
    b ∈ bs ↔ ∃ a ∈ l, f a = .ok b := by
  refine ⟨exists_of_mem_mapM h, fun ⟨a, ha, hb⟩ => ?_⟩
  obtain ⟨_, hb', hb''⟩ := ok_of_mem_of_mapM h ha
  exact ok.inj (hb''.symm.trans hb) ▸ hb'

/-- A traversal that undoes another one element by element gives back its input. -/
lemma mapM_of_leftInverse {ε ε' α β : Type} {f : α → Except ε β} {g : β → Except ε' α}
    (hg : ∀ a b, f a = .ok b → g b = .ok a) {l : List α} {bs : List β} (h : l.mapM f = .ok bs) :
    bs.mapM g = .ok l := by
  induction l generalizing bs with
  | nil =>
    obtain rfl : [] = bs := by simpa [pure, Except.pure] using h
    rfl
  | cons a l ih =>
    obtain ⟨b, _, hb, hbs', rfl⟩ := mapM_cons_ok.mp h
    exact mapM_cons_ok.mpr ⟨a, l, hg a b hb, ih hbs', rfl⟩

/-- What every element of a traversal keeps, the traversal keeps in order. -/
lemma map_eq_of_mapM {ε α β γ : Type} {f : α → Except ε β} {g : β → γ} {g' : α → γ}
    (hf : ∀ a b, f a = .ok b → g b = g' a) {l : List α} {bs : List β} (h : l.mapM f = .ok bs) :
    bs.map g = l.map g' := by
  induction l generalizing bs with
  | nil =>
    obtain rfl : [] = bs := by simpa [pure, Except.pure] using h
    rfl
  | cons a l ih =>
    obtain ⟨b, _, hb, hbs', rfl⟩ := mapM_cons_ok.mp h
    rw [map_cons, map_cons, hf a b hb, ih hbs']

/-- The error of a traversal is that of an element. -/
lemma exists_of_mapM_error {f : α → Except ε β} {e : ε} {l : List α}
    (h : l.mapM f = .error e) : ∃ a ∈ l, f a = .error e := by
  induction l with
  | nil => cases h
  | cons b l ih =>
    rw [mapM_cons] at h
    cases hb : f b with
    | error e' =>
      rw [hb] at h
      obtain rfl := error.inj h
      exact ⟨b, mem_cons_self, hb⟩
    | ok b' =>
      rw [hb] at h
      cases hl : l.mapM f with
      | error e' =>
        rw [hl] at h
        obtain rfl := error.inj h
        obtain ⟨a, ha, hfa⟩ := ih hl
        exact ⟨a, mem_cons_of_mem b ha, hfa⟩
      | ok bs =>
        rw [hl] at h
        cases h

/-- A traversal fails when an element does, with the only error there is. -/
lemma mapM_eq_error {f : α → Except ε β} {e : ε} {l : List α} {a : α}
    (honly : ∀ a e', f a = .error e' → e' = e) (ha : a ∈ l) (hfa : f a = .error e) :
    l.mapM f = .error e := by
  induction l with
  | nil => cases ha
  | cons b l ih =>
    rw [mapM_cons]
    cases hb : f b with
    | error e' => rw [honly b e' hb]; rfl
    | ok b' =>
      rcases mem_cons.mp ha with rfl | ha
      · rw [hfa] at hb
        cases hb
      · rw [ih ha]
        rfl

/-- A traversal succeeds when every element does. -/
lemma exists_mapM_ok {f : α → Except ε β} {l : List α}
    (hf : ∀ a ∈ l, ∃ b, f a = .ok b) : ∃ bs, l.mapM f = .ok bs := by
  induction l with
  | nil => exact ⟨[], rfl⟩
  | cons a l ih =>
    obtain ⟨b, hb⟩ := hf a mem_cons_self
    obtain ⟨bs, hbs⟩ := ih fun a' ha' => hf a' (mem_cons_of_mem a ha')
    refine ⟨b :: bs, ?_⟩
    rw [mapM_cons, hb, hbs]
    rfl

/-- A traversal whose every element succeeds maps the list. -/
lemma mapM_eq_map {f : α → Except ε β} {g : α → β} {l : List α}
    (hf : ∀ a ∈ l, f a = .ok (g a)) : l.mapM f = .ok (l.map g) := by
  induction l with
  | nil => rfl
  | cons a l ih =>
    rw [mapM_cons, hf a mem_cons_self,
      ih fun a' ha' => hf a' (mem_cons_of_mem a ha')]
    rfl

namespace Task

variable {ℓ σ ε ε' α β : Type} {R : σ → σ → Prop}

/-- Run a task from start to end. What it did to the state before an error stays done. -/
def run (t : Task ℓ σ ε α) (s : σ) : Except ε α × σ := t.prog.run s

/-- The outcome of an uninterrupted run. -/
def eval (t : Task ℓ σ ε α) (s : σ) : Except ε α := (t.run s).1

/-- One atomic step that may fail. -/
def atomic (label : ℓ) (f : σ → Except ε α × σ) : Task ℓ σ ε α :=
  ⟨.step label (fun s => (f s).2) fun s => .done (f s).1⟩

/-- One atomic step that only looks at the state. -/
def read (label : ℓ) (f : σ → Except ε α) : Task ℓ σ ε α :=
  ⟨.step label id fun s => .done (f s)⟩

/-- A local computation. -/
def lift (x : Except ε α) : Task ℓ σ ε α := ⟨.done x⟩

/-- Fail with `e` if the condition holds. -/
def failIf (c : Bool) (e : ε) : Task ℓ σ ε Unit := lift (if c then .error e else .ok ())

/-- The value of an option, or the error `e`. -/
def okOr (x : Option α) (e : ε) : Task ℓ σ ε α := lift (x.elim (.error e) .ok)

/-- Nothing to do if the condition holds. -/
def skipIf (c : Bool) (t : Task ℓ σ ε Unit) : Task ℓ σ ε Unit := if c then ⟨.done (.ok ())⟩ else t

/-- Replace the error of a task. -/
def mapError (f : ε → ε') (t : Task ℓ σ ε α) : Task ℓ σ ε' α :=
  ⟨t.prog.bind fun r => .done (r.mapError f)⟩

/-- Go on after a task, whether it succeeded or not. -/
def handle (t : Task ℓ σ ε α) (f : Except ε α → Task ℓ σ ε' β) : Task ℓ σ ε' β :=
  ⟨t.prog.bind fun r => (f r).prog⟩

instance : Monad (Task ℓ σ ε) where
  pure a := ⟨.done (.ok a)⟩
  bind t f := t.handle fun
    | .ok a => f a
    | .error e => ⟨.done (.error e)⟩

@[simp] lemma run_pure (a : α) (s : σ) : (pure a : Task ℓ σ ε α).run s = (.ok a, s) := rfl

@[simp] lemma run_lift (x : Except ε α) (s : σ) : (lift x : Task ℓ σ ε α).run s = (x, s) := rfl

@[simp] lemma run_atomic (l : ℓ) (f : σ → Except ε α × σ) (s : σ) :
    (atomic l f).run s = f s := rfl

@[simp] lemma run_read (l : ℓ) (f : σ → Except ε α) (s : σ) :
    (read l f).run s = (f s, s) := rfl

/-- The handler runs where the call has ended, whatever the call returned. -/
@[simp] lemma run_handle (t : Task ℓ σ ε α) (f : Except ε α → Task ℓ σ ε' β) (s : σ) :
    (t.handle f).run s = (f (t.run s).1).run (t.run s).2 :=
  Prog.run_bind t.prog _ s

@[simp] lemma run_mapError (f : ε → ε') (t : Task ℓ σ ε α) (s : σ) :
    (t.mapError f).run s = ((t.run s).1.mapError f, (t.run s).2) :=
  Prog.run_bind t.prog _ s

/-- An error ends the sequence and leaves the state it occurred in. -/
lemma run_bind (t : Task ℓ σ ε α) (f : α → Task ℓ σ ε β) (s : σ) :
    (t >>= f).run s = match t.run s with
      | (.ok a, s') => (f a).run s'
      | (.error e, s') => (.error e, s') := by
  change (t.handle _).run s = _
  rw [run_handle]
  rcases t.run s with ⟨_ | a, -⟩ <;> rfl

variable {t : Task ℓ σ ε α} {f : α → Task ℓ σ ε β} {a : α} {s s' : σ} {b : β} {e : ε} {x : Option α}

/-- A sequence goes on from where its first part stopped. -/
lemma run_bind_of_ok {s₁ : σ} (h : t.run s = (.ok a, s₁)) : (t >>= f).run s = (f a).run s₁ := by
  rw [run_bind, h]

/-- A sequence succeeds exactly when both parts do, the second from where the first stopped. -/
lemma run_bind_ok : (t >>= f).run s = (.ok b, s') ↔
      ∃ a s₁, t.run s = (.ok a, s₁) ∧ (f a).run s₁ = (.ok b, s') := by
  rw [run_bind]
  rcases h : t.run s with ⟨_ | a, -⟩ <;> simp

/-- A sequence fails with the error of one of its parts. -/
lemma run_bind_error : (t >>= f).run s = (.error e, s') ↔
      t.run s = (.error e, s') ∨ ∃ a s₁, t.run s = (.ok a, s₁) ∧ (f a).run s₁ = (.error e, s') := by
  rw [run_bind]
  rcases h : t.run s with ⟨_ | a, -⟩ <;> simp

/-- What holds where the first part stops, and is kept by the second from there, holds where the
sequence stops. -/
lemma run_bind_state {P : σ → Prop}
    (ht : P (t.run s).2) (hf : ∀ a s₁, t.run s = (.ok a, s₁) → P s₁ → P ((f a).run s₁).2) :
    P ((t >>= f).run s).2 := by
  rw [run_bind]
  rcases h : t.run s with ⟨_ | a, s₁⟩
  · rw [h] at ht
    exact ht
  · rw [h] at ht
    exact hf a s₁ h ht

/-! ### What the steps of a task can do to the state -/

/-- Every atomic step the task can take moves the state along `R`. -/
structure Within (R : σ → σ → Prop) (t : Task ℓ σ ε α) : Prop where
  steps : t.prog.Within R

section
variable {R : σ → σ → Prop} {t : Task ℓ σ ε α}

lemma Within.pure (a : α) : (pure a : Task ℓ σ ε α).Within R := ⟨trivial⟩

lemma Within.lift (x : Except ε α) : (lift x : Task ℓ σ ε α).Within R := ⟨trivial⟩

lemma Within.okOr (x : Option α) (e : ε) : (okOr x e : Task ℓ σ ε α).Within R := ⟨trivial⟩

lemma Within.failIf (c : Bool) (e : ε) : (failIf c e : Task ℓ σ ε Unit).Within R := ⟨trivial⟩

lemma Within.read (hR : ∀ s, R s s) (l : ℓ) (f : σ → Except ε α) : (read l f).Within R :=
  ⟨fun s => ⟨hR s, trivial⟩⟩

/-- A step is within `R` if its effect is. -/
lemma Within.atomic {l : ℓ} {f : σ → Except ε α × σ} (hf : ∀ s, R s (f s).2) :
    (atomic l f).Within R :=
  ⟨fun s => ⟨hf s, trivial⟩⟩

lemma Within.handle {f : Except ε α → Task ℓ σ ε' β} (ht : t.Within R)
    (hf : ∀ r, (f r).Within R) : (t.handle f).Within R :=
  ⟨.bind ht.steps fun r => (hf r).steps⟩

variable {f : α → Task ℓ σ ε β}

/-- After an error no further step is taken, so both parts suffice. -/
lemma Within.bind (ht : t.Within R) (hf : ∀ a, (f a).Within R) : (t >>= f).Within R := by
  refine .handle ht fun r => ?_
  cases r with
  | ok a => exact hf a
  | error e => exact ⟨trivial⟩

/-- After a local computation, only its actual result matters. -/
lemma Within.lift_bind {x : Except ε α}
    (hf : ∀ a, x = .ok a → (f a).Within R) : (Task.lift x >>= f).Within R := by
  cases x with
  | ok a => exact hf a rfl
  | error e => exact ⟨trivial⟩

lemma Within.mapError (ht : t.Within R) (f : ε → ε') : (t.mapError f).Within R :=
  ⟨.bind ht.steps fun _ => trivial⟩

/-- A loop stays within what each round stays within. -/
lemma Within.forM {f : β → Task ℓ σ ε PUnit} {l : List β} (hf : ∀ b ∈ l, (f b).Within R) :
    (l.forM f).Within R := by
  induction l with
  | nil => exact .pure _
  | cons b l ih =>
    refine .bind (hf b mem_cons_self) fun _ => ?_
    exact ih fun b' hb' => hf b' (mem_cons_of_mem b hb')

lemma Within.mono {R' : σ → σ → Prop} (hR : ∀ s s', R s s' → R' s s') (ht : t.Within R) :
    t.Within R' :=
  ⟨ht.steps.mono hR⟩

/-- A whole run moves the state along any reflexive and transitive relation that all its steps
respect. -/
lemma Within.run (ht : t.Within R) (hrefl : ∀ s, R s s)
    (htrans : ∀ a b c, R a b → R b c → R a c) (s : σ) : R s (t.run s).2 :=
  ht.steps.run hrefl htrans s

end

/-! ### What an uninterrupted run does to the state -/

/-- An uninterrupted run moves the state by steps of `R`. -/
structure Reaches (R : σ → σ → Prop) (t : Task ℓ σ ε α) : Prop where
  run : ∀ s, Relation.ReflTransGen R s (t.run s).2

section
variable {R : σ → σ → Prop} {t : Task ℓ σ ε α}

/-- The run of a call that reaches its end by `R`, as an equation. -/
lemma Reaches.of_run {s s' : σ} {r : Except ε α} (ht : t.Reaches R) (h : t.run s = (r, s')) :
    Relation.ReflTransGen R s s' := by
  have hrun := ht.run s
  rwa [h] at hrun

lemma Reaches.pure (a : α) : (pure a : Task ℓ σ ε α).Reaches R := ⟨fun _ => .refl⟩

lemma Reaches.lift (x : Except ε α) : (lift x : Task ℓ σ ε α).Reaches R := ⟨fun _ => .refl⟩

lemma Reaches.okOr (x : Option α) (e : ε) : (okOr x e : Task ℓ σ ε α).Reaches R :=
  ⟨fun _ => .refl⟩

lemma Reaches.failIf (c : Bool) (e : ε) : (failIf c e : Task ℓ σ ε Unit).Reaches R :=
  ⟨fun _ => .refl⟩

lemma Reaches.read (l : ℓ) (f : σ → Except ε α) : (read l f).Reaches R := ⟨fun _ => .refl⟩

lemma Reaches.skipIf {t : Task ℓ σ ε Unit} (c : Bool) (ht : t.Reaches R) :
    (skipIf c t).Reaches R := by
  unfold Task.skipIf
  split
  · exact .pure ()
  · exact ht

variable {f : α → Task ℓ σ ε β}

/-- A sequence reaches what its second part does from where the first one stopped. -/
lemma reaches_bind_at (ht : Relation.ReflTransGen R s (t.run s).2)
    (hf : ∀ a s₁, t.run s = (.ok a, s₁) → Relation.ReflTransGen R s₁ ((f a).run s₁).2) :
    Relation.ReflTransGen R s ((t >>= f).run s).2 := by
  rw [run_bind]
  rcases h : t.run s with ⟨_ | a, s₁⟩
  · rw [h] at ht
    exact ht
  · rw [h] at ht
    exact ht.trans (hf a s₁ h)

/-- The paths of the parts, joined. -/
lemma Reaches.bind (ht : t.Reaches R) (hf : ∀ a, (f a).Reaches R) : (t >>= f).Reaches R :=
  ⟨fun s => reaches_bind_at (ht.run s) fun a s₁ _ => (hf a).run s₁⟩

end

/-- The task only looks at the state. -/
def ReadOnly (t : Task ℓ σ ε α) : Prop := t.Within fun s s' => s' = s

lemma ReadOnly.read (l : ℓ) (f : σ → Except ε α) : (read l f).ReadOnly :=
  ⟨fun _ => ⟨rfl, trivial⟩⟩

/-- A call that only reads is within every reflexive relation. -/
lemma ReadOnly.within (hR : ∀ s, R s s) (ht : t.ReadOnly) : t.Within R := by
  refine .mono (fun s s' hs => ?_) ht
  rw [hs]
  exact hR s

/-- A call that only reads leaves the state as it was. -/
lemma ReadOnly.run (ht : t.ReadOnly) (s : σ) : t.run s = (t.eval s, s) := by
  have hstate : (t.run s).2 = s :=
    Within.run ht (fun _ => rfl) (fun _ _ _ hab hbc => hbc.trans hab) s
  exact Prod.ext rfl hstate

/-- The task is seen to be read-only by its shape. -/
class Reads (t : Task ℓ σ ε α) : Prop where
  readOnly : t.ReadOnly

section Reads
variable {t : Task ℓ σ ε α}

/-- A sequence of reading calls reads. -/
lemma Reads.bind [h : t.Reads] {f : α → Task ℓ σ ε β} (hf : ∀ a, (f a).Reads) : (t >>= f).Reads :=
  ⟨.bind h.readOnly fun a => (hf a).readOnly⟩

lemma Reads.handle [h : t.Reads] {f : Except ε α → Task ℓ σ ε' β} (hf : ∀ r, (f r).Reads) :
    (t.handle f).Reads :=
  ⟨.handle h.readOnly fun r => (hf r).readOnly⟩

instance (a : α) : (pure a : Task ℓ σ ε α).Reads := ⟨.pure a⟩

instance (x : Except ε α) : (lift x : Task ℓ σ ε α).Reads := ⟨.lift x⟩

instance (x : Option α) (e : ε) : (okOr x e : Task ℓ σ ε α).Reads := ⟨.okOr x e⟩

instance (c : Bool) (e : ε) : (failIf c e : Task ℓ σ ε Unit).Reads := ⟨.failIf c e⟩

instance (l : ℓ) (f : σ → Except ε α) : (read l f).Reads := ⟨.read l f⟩

instance [t.Reads] {f : α → Task ℓ σ ε β} [hf : ∀ a, (f a).Reads] : (t >>= f).Reads := .bind hf

instance [t.Reads] (f : α → β) : (f <$> t).Reads := .bind fun a => ⟨.pure (f a)⟩

instance [h : t.Reads] (f : ε → ε') : (t.mapError f).Reads := ⟨h.readOnly.mapError f⟩

instance {f : β → Task ℓ σ ε PUnit} [hf : ∀ b, (f b).Reads] (l : List β) : (l.forM f).Reads :=
  ⟨.forM fun b _ => (hf b).readOnly⟩

/-- `ReadOnly.within`, by the class. -/
lemma Within.reads [h : t.Reads] (hR : ∀ s, R s s) : t.Within R :=
  h.readOnly.within hR

/-- `ReadOnly.run`, by the class. -/
lemma run_reads (t : Task ℓ σ ε α) [h : t.Reads] (s : σ) : t.run s = (t.eval s, s) :=
  h.readOnly.run s

end Reads

/-! ### Evaluation -/

/-- The result of a successful run. -/
lemma eval_of_run (h : t.run s = (.ok a, s')) : t.eval s = .ok a := by
  rw [eval, h]

lemma run_of_eval (h : t.eval s = .ok a) : t.run s = (.ok a, (t.run s).2) := Prod.ext h rfl

/-- A run that is seen to succeed returns something. -/
lemma exists_of_isOk (h : (t.eval s).isOk = true) : ∃ a, t.eval s = .ok a := by
  cases hr : t.eval s with
  | ok a => exact ⟨a, rfl⟩
  | error e =>
    rw [hr] at h
    cases h

@[simp] lemma eval_pure (a : α) (s : σ) : (pure a : Task ℓ σ ε α).eval s = .ok a := rfl

@[simp] lemma eval_lift (x : Except ε α) (s : σ) : (lift x : Task ℓ σ ε α).eval s = x := rfl

@[simp] lemma eval_read (l : ℓ) (f : σ → Except ε α) (s : σ) : (read l f).eval s = f s := rfl

/-- `okOr` succeeds on `some` only. -/
@[simp] lemma eval_okOr_ok : (okOr x e : Task ℓ σ ε α).eval s = .ok a ↔ x = some a := by
  cases x <;> simp [okOr]

/-- `failIf` succeeds where its condition does not hold. -/
@[simp] lemma eval_failIf_ok {c : Bool} {u : Unit} :
    (failIf c e : Task ℓ σ ε Unit).eval s = .ok u ↔ c = false := by
  cases c <;> simp [failIf]

@[simp] lemma eval_mapError (f : ε → ε') (t : Task ℓ σ ε α) (s : σ) :
    (t.mapError f).eval s = (t.eval s).mapError f := by
  rw [eval, run_mapError, eval]

@[simp] lemma eval_mapError_ok {f : ε → ε'} :
    (t.mapError f).eval s = .ok a ↔ t.eval s = .ok a := by
  rw [eval_mapError, except_mapError_ok]

/-- A handler after a reading call sees the same state. -/
lemma eval_handle [t.Reads] (f : Except ε α → Task ℓ σ ε' β) (s : σ) :
    (t.handle f).eval s = (f (t.eval s)).eval s := by
  rw [eval, run_handle, run_reads t]
  rfl

/-- A sequence after a reading call starts in the same state. -/
lemma eval_bind [t.Reads] (f : α → Task ℓ σ ε β) (s : σ) :
    (t >>= f).eval s = t.eval s >>= fun a => (f a).eval s := by
  rw [eval, run_bind, run_reads t]
  rcases t.eval s with _ | a <;> rfl

/-- After a part that only reads, a sequence succeeds exactly when both parts do from the same
state. -/
lemma eval_bind_iff [t.Reads] :
    (t >>= f).eval s = .ok b ↔ ∃ a, t.eval s = .ok a ∧ (f a).eval s = .ok b := by
  rw [eval, run_bind, run_reads t]
  rcases t.eval s with _ | a <;> simp [eval]

/-- A sequence whose first part may change the state. -/
lemma eval_bind_run :
    (t >>= f).eval s = .ok b ↔ ∃ a, t.eval s = .ok a ∧ (f a).eval (t.run s).2 = .ok b := by
  simp only [eval, run_bind]
  rcases t.run s with ⟨_ | a, s₁⟩ <;> simp

/-- The same for a sequence whose second part may change the state. -/
lemma run_bind_iff [t.Reads] :
    (t >>= f).run s = (.ok b, s') ↔ ∃ a, t.eval s = .ok a ∧ (f a).run s = (.ok b, s') := by
  rw [run_bind, run_reads t]
  rcases t.eval s with _ | a <;> simp

/-- A sequence stops in its first part, which only reads, or runs its second part. -/
lemma run_bind_or (t : Task ℓ σ ε α) [t.Reads] (f : α → Task ℓ σ ε β) (s : σ) :
    (∃ e, (t >>= f).run s = (.error e, s)) ∨
      ∃ a, t.eval s = .ok a ∧ (t >>= f).run s = (f a).run s := by
  rw [run_bind, run_reads t]
  rcases t.eval s with e | a
  · exact .inl ⟨e, rfl⟩
  · exact .inr ⟨a, rfl, rfl⟩

/-- Going on from a part that only reads. -/
lemma exists_eval_bind [t.Reads] (h : t.eval s = .ok a)
    (hf : ∃ b, (f a).eval s = .ok b) : ∃ b, (t >>= f).eval s = .ok b := by
  obtain ⟨b, hb⟩ := hf
  exact ⟨b, eval_bind_iff.mpr ⟨a, h, hb⟩⟩

/-- A sequence succeeds if its optional part is there and the rest succeeds. -/
lemma exists_okOr_bind
    (h : x = some a) (hf : ∃ b, (f a).eval s = .ok b) : ∃ b, (okOr x e >>= f).eval s = .ok b :=
  exists_eval_bind (eval_okOr_ok.mpr h) hf

/-! ### Outcomes -/

/-- The outcome of the task and the state after it meet `Q`. -/
def Gives (Q : Except ε α × σ → Prop) (t : Task ℓ σ ε α) (s : σ) : Prop := Q (t.run s)

section Gives
variable {Q : Except ε β × σ → Prop}

/-- After a part that only reads. -/
lemma Gives.after [t.Reads] (herror : ∀ e, Q (.error e, s))
    (hf : ∀ a, t.eval s = .ok a → (f a).Gives Q s) : (t >>= f).Gives Q s := by
  rcases run_bind_or t f s with ⟨e, hrun⟩ | ⟨a, ha, hrun⟩ <;> rw [Gives, hrun]
  · exact herror e
  · exact hf a ha

/-- The rule of sequences: an error is passed on, a value goes to the next call. -/
lemma Gives.bind {P : Except ε α × σ → Prop} (h : t.Gives P s)
    (herror : ∀ e s', P (.error e, s') → Q (.error e, s'))
    (hf : ∀ a s', P (.ok a, s') → (f a).Gives Q s') : (t >>= f).Gives Q s := by
  unfold Gives at h ⊢
  rw [run_bind]
  rcases hrun : t.run s with ⟨e | a, s'⟩ <;> rw [hrun] at h
  · exact herror e s' h
  · exact hf a s' h

end Gives

/-- The state after the task meets `E`. -/
def Ends (E : σ → Prop) (t : Task ℓ σ ε α) (s : σ) : Prop := E (t.run s).2

section Ends
variable {E : σ → Prop}

/-- A reading call ends where it started. -/
lemma Ends.reads [t.Reads] (h : E s) : t.Ends E s := by
  rw [Ends, run_reads]
  exact h

/-- After a part that only reads. -/
lemma Ends.after [t.Reads] (h : E s) (hf : ∀ a, t.eval s = .ok a → (f a).Ends E s) :
    (t >>= f).Ends E s :=
  Gives.after (Q := fun out => E out.2) (fun _ => h) hf

/-- What holds at the end of every call holds at the end of the sequence. -/
lemma Ends.bind (h : t.Ends E s) (hf : ∀ a s, E s → (f a).Ends E s) : (t >>= f).Ends E s :=
  Gives.bind (P := fun out => E out.2) (Q := fun out => E out.2) h (fun _ _ h => h) hf

/-- Before a part that only reads. -/
lemma Ends.before [∀ a, (f a).Reads] (h : t.Ends E s) : (t >>= f).Ends E s :=
  h.bind fun _ _ => .reads

lemma Ends.map (h : t.Ends E s) (g : α → β) : (g <$> t).Ends E s := h.bind fun _ _ hs => hs

lemma Ends.mapError (h : t.Ends E s) (g : ε → ε') : (t.mapError g).Ends E s := by
  rw [Ends, run_mapError]
  exact h

/-- The rule of loops, with the end condition as invariant. -/
lemma Ends.forM {l : List β} {f : β → Task ℓ σ ε PUnit}
    (hf : ∀ b ∈ l, ∀ s, E s → (f b).Ends E s) (h : E s) : (l.forM f).Ends E s := by
  induction l generalizing s with
  | nil => exact h
  | cons b l ih =>
    exact (hf b mem_cons_self s h).bind fun _ _ =>
      ih fun b' hb' => hf b' (mem_cons_of_mem b hb')

end Ends

/-! ### Brackets, ignored failures and parts of the state -/

/-- Run `t` between `enter` and `exit`, which happens whether `t` succeeds or not. -/
def bracket (enter exit : Task ℓ σ ε Unit) (t : Task ℓ σ ε α) : Task ℓ σ ε α := do
  enter
  t.handle fun r => do
    exit
    lift r

/-- Run a task for its effect, and go on after a failure as after a success. -/
def ignore (t : Task ℓ σ ε α) : Task ℓ σ ε' Unit := t.handle fun _ => pure ()

@[simp] lemma run_ignore (t : Task ℓ σ ε α) (s : σ) :
    (t.ignore : Task ℓ σ ε' Unit).run s = (.ok (), (t.run s).2) := by
  rw [ignore, run_handle, run_pure]

end Task

export Task (okOr failIf skipIf eval_bind_iff run_bind_iff run_bind_or run_reads exists_eval_bind
  exists_okOr_bind exists_of_isOk run_of_eval eval_of_run eval_okOr_ok eval_failIf_ok run_atomic
  run_mapError run_bind run_bind_ok run_bind_of_ok)

/-- A part of the state that can be read and replaced. -/
structure Lens (σ τ : Type) where
  get : σ → τ
  put : τ → σ → σ
  get_put : ∀ t s, get (put t s) = t
  put_get : ∀ s, put (get s) s = s
  put_put : ∀ t t' s, put t' (put t s) = put t' s

section
variable {ℓ ℓ' σ τ ε α : Type}

/-- The routine on a part of a larger state, with its labels renamed. -/
def Prog.zoom (f : ℓ → ℓ') (L : Lens σ τ) : Prog ℓ τ α → Prog ℓ' σ α
  | .done a => .done a
  | .step l upd next =>
    .step (f l) (fun s => L.put (upd (L.get s)) s) fun s => (next (L.get s)).zoom f L

/-- The task on a part of a larger state, with its labels renamed. -/
def Task.zoom (f : ℓ → ℓ') (L : Lens σ τ) (t : Task ℓ τ ε α) : Task ℓ' σ ε α :=
  ⟨t.prog.zoom f L⟩

variable (f : ℓ → ℓ')

/-- A program on a part of the state runs on that part and leaves the rest. -/
lemma Prog.run_zoom (L : Lens σ τ) (p : Prog ℓ τ α) (s : σ) :
    (p.zoom f L).run s = ((p.run (L.get s)).1, L.put (p.run (L.get s)).2 s) := by
  induction p generalizing s with
  | done a =>
    show (a, s) = (a, L.put (L.get s) s)
    rw [L.put_get]
  | step l upd next ih =>
    show ((next (L.get s)).zoom f L).run (L.put (upd (L.get s)) s) = _
    rw [ih, L.get_put, L.put_put]
    rfl

/-- The same for a call with its result. -/
@[simp] lemma Task.run_zoom (L : Lens σ τ) (t : Task ℓ τ ε α) (s : σ) :
    (t.zoom f L).run s = ((t.run (L.get s)).1, L.put (t.run (L.get s)).2 s) :=
  Prog.run_zoom f L t.prog s

variable {R : σ → σ → Prop} {L : Lens σ τ}

/-- Steps along `R'` on the part are steps along `R` on the whole. -/
lemma Prog.Within.zoom {R' : τ → τ → Prop}
    (hput : ∀ s u, R' (L.get s) u → R s (L.put u s)) (f : ℓ → ℓ') {p : Prog ℓ τ α}
    (hp : p.Within R') : (p.zoom f L).Within R := by
  induction p with
  | done r => trivial
  | step l upd next ih =>
    intro s
    obtain ⟨hupd, hnext⟩ := hp (L.get s)
    exact ⟨hput s _ hupd, ih (L.get s) hnext⟩

/-- What leaves the part alone leaves the whole alone. -/
instance {t : Task ℓ τ ε α} [h : t.Reads] (f : ℓ → ℓ') (L : Lens σ τ) : (t.zoom f L).Reads := by
  refine ⟨⟨Prog.Within.zoom (fun s u hu => ?_) f h.readOnly.steps⟩⟩
  rw [hu, L.put_get]

/-- A task on a part does what any change of the part does. -/
lemma Task.Within.zoom_any (hput : ∀ s u, R s (L.put u s))
    (f : ℓ → ℓ') (t : Task ℓ τ ε α) : (t.zoom f L).Within R :=
  ⟨.zoom (fun s u _ => hput s u) f (.trivial t.prog)⟩

end

end Resumption

import LocalPlatform.Lib.Task

/-!
# Tasks that are stopped on the way

A process can stop between any two atomic steps of a task, and then what the steps did so far stays
done. A step that fails where errors are only handed on leaves the same states behind.

* `Prog.after` is the state in which a routine that is stopped after `n` steps leaves.
* `Task.Stays C` says that `C` holds wherever the task is stopped.
* `Task.Leaves C E` adds that `E` holds where it fails; its rules follow the text of a task.
-/

namespace Resumption

open Resumption.Task

namespace Prog

variable {ℓ σ α β : Type}

/-- The state that a routine leaves when it is stopped after at most `n` steps. -/
def after : Prog ℓ σ α → ℕ → σ → σ
  | done _, _, s => s
  | step _ _ _, 0, s => s
  | step _ upd next, n + 1, s => (next s).after n (upd s)

variable (p : Prog ℓ σ α)

/-- A sequence is stopped in its first part, or in its second part after the first is over. -/
lemma after_bind (f : α → Prog ℓ σ β) (n : ℕ) (s : σ) : (p.bind f).after n s = p.after n s ∨
      ∃ m, (p.bind f).after n s = (f (p.run s).1).after m (p.run s).2 := by
  induction p generalizing n s with
  | done a => exact .inr ⟨n, rfl⟩
  | step l upd next ih =>
    cases n with
    | zero => exact .inl rfl
    | succ n => exact ih s n (upd s)

/-- A routine that is given enough steps is not stopped at all. -/
lemma exists_after_eq_run (s : σ) : ∃ n, p.after n s = (p.run s).2 := by
  induction p generalizing s with
  | done a => exact ⟨0, rfl⟩
  | step l upd next ih =>
    obtain ⟨n, hn⟩ := ih s (upd s)
    exact ⟨n + 1, hn⟩

end Prog

namespace Task

variable {ℓ σ ε α β : Type}

/-- The state that a task leaves when it is stopped after at most `n` steps. -/
def after (t : Task ℓ σ ε α) (n : ℕ) (s : σ) : σ := t.prog.after n s

/-- Wherever the task is stopped, the state satisfies `C`. -/
structure Stays (C : σ → Prop) (t : Task ℓ σ ε α) (s : σ) : Prop where
  stops : ∀ n, C (t.after n s)

section Stays
variable {C : σ → Prop} {t : Task ℓ σ ε α} {s : σ}

/-- The condition holds where the call ends. -/
lemma Stays.run (h : t.Stays C s) : C (t.run s).2 := by
  obtain ⟨n, hn⟩ := t.prog.exists_after_eq_run s
  have hlast : C (t.prog.after n s) := h.stops n
  rwa [hn] at hlast

/-- A local computation has no place where it could be stopped. -/
lemma Stays.lift (x : Except ε α) (hC : C s) : (lift x : Task ℓ σ ε α).Stays C s :=
  ⟨fun _ => hC⟩

lemma Stays.atomic {l : ℓ} {f : σ → Except ε α × σ} (hC : C s) (hC' : C (f s).2) :
    (atomic l f).Stays C s := by
  refine ⟨fun n => ?_⟩
  cases n with
  | zero => exact hC
  | succ n => exact hC'

/-- The rule of sequences: an interruption is in the first part or in the second. -/
lemma Stays.bind {f : α → Task ℓ σ ε β} (ht : t.Stays C s)
    (hf : ∀ a s', t.run s = (.ok a, s') → (f a).Stays C s') : (t >>= f).Stays C s := by
  refine ⟨fun n => ?_⟩
  change C ((t.prog.bind _).after n s)
  have hrun : C (t.prog.run s).2 := ht.run
  rcases Prog.after_bind t.prog _ n s with h | ⟨m, h⟩ <;> rw [h]
  · exact ht.stops n
  · rcases hts : t.prog.run s with ⟨e | a, s'⟩
    · rw [hts] at hrun
      exact hrun
    · exact (hf a s' hts).stops m

end Stays

/-- Wherever the task is stopped, the state satisfies `C`, and where it fails, `E`. -/
structure Leaves (C E : σ → Prop) (t : Task ℓ σ ε α) (s : σ) : Prop where
  stays : t.Stays C s
  failed : ∀ e s', t.run s = (.error e, s') → E s'

section Leaves
variable {C E : σ → Prop} {t : Task ℓ σ ε α} {s : σ}

lemma Leaves.lift (x : Except ε α) (hC : C s) (hE : ∀ e, x = .error e → E s) :
    (lift x : Task ℓ σ ε α).Leaves C E s := by
  refine ⟨.lift x hC, fun e s' h => ?_⟩
  obtain ⟨hx, rfl⟩ := Prod.mk.inj h
  exact hE e hx

/-- A step leaves the state before it or the state after it. -/
lemma Leaves.atomic {l : ℓ} {f : σ → Except ε α × σ} (hC : C s) (hC' : C (f s).2)
    (hE : ∀ e, (f s).1 = .error e → E (f s).2) : (atomic l f).Leaves C E s := by
  refine ⟨.atomic hC hC', fun e s' h => ?_⟩
  obtain ⟨hout, rfl⟩ := Prod.ext_iff.mp h
  exact hE e hout

lemma Leaves.read {l : ℓ} {f : σ → Except ε α} (hC : C s) (hE : ∀ e, f s = .error e → E s) :
    (read l f).Leaves C E s :=
  .atomic (f := fun s => (f s, s)) hC hC hE

/-- The rule of sequences, with the errors of both parts. -/
lemma Leaves.bind {f : α → Task ℓ σ ε β} (ht : t.Leaves C E s)
    (hf : ∀ a s', t.run s = (.ok a, s') → (f a).Leaves C E s') : (t >>= f).Leaves C E s := by
  refine ⟨ht.stays.bind fun a s' h => (hf a s' h).stays, fun e s' h => ?_⟩
  rw [run_bind] at h
  rcases hts : t.run s with ⟨e' | a, s''⟩ <;> rw [hts] at h
  · obtain ⟨-, rfl⟩ := Prod.ext_iff.mp h
    exact ht.failed e' _ hts
  · exact (hf a s'' hts).failed e s' h

end Leaves

end Task

end Resumption

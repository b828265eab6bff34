import Mathlib.Data.Prod.Lex
import Mathlib.Data.List.Sort
import Mathlib.Logic.Relation
import Mathlib.Tactic

/-!
# Multi-value registers

A register that several actors write while they are apart. A write replaces exactly the writes its
author could see, and a merge keeps everything both sides know, so concurrent writes stay visible
side by side until a later write replaces them all.

* `Register` is a set of writes, closed under what they replace; `live` are those not replaced.
* `write` leaves one live write, `merge` is a union.
* `Evolves` is a sequence of writes by one actor.
* `Rules` is what an engine is free to decide: which live value it reads, which registers it
  reports as conflicted, and when it saves itself a write.
-/

namespace MultiValue

open List

/-- A logical time and the actor that wrote at this time. -/
structure WriteId where
  counter : ℕ
  actor : ℕ
deriving DecidableEq, Repr

namespace WriteId

/-- Writes are ordered by their counter, ties by the actor. -/
def key (i : WriteId) : ℕ ×ₗ ℕ := toLex (i.counter, i.actor)

/-- Counter and actor determine a write. -/
lemma key_injective : Function.Injective key := by
  rintro ⟨_, _⟩ ⟨_, _⟩ h
  simpa [key] using h

instance : LinearOrder WriteId := LinearOrder.lift' key key_injective

end WriteId

/-- A value together with the writes it replaces. -/
structure Write (ν : Type) where
  id : WriteId
  value : ν
  seen : List WriteId
deriving DecidableEq, Repr

section
variable {ν : Type}

/-- The list is in the order of its identifiers, each of which occurs once. -/
def Ordered (l : List (Write ν)) : Prop := l.Pairwise fun w w' => w.id < w'.id

variable {l : List (Write ν)}

/-- In an ordered list, a write is determined by its identifier. -/
lemma Ordered.eq_of_id (h : Ordered l) {w w' : Write ν} (hw : w ∈ l)
    (hw' : w' ∈ l) (hid : w.id = w'.id) : w = w' := by
  have hnodup : (l.map Write.id).Nodup := pairwise_map.mpr (List.Pairwise.imp ne_of_lt h)
  exact inj_on_of_nodup_map hnodup hw hw' hid

/-- Put a write into its place, unless there is one with the same identifier. -/
def insertWrite (w : Write ν) (l : List (Write ν)) : List (Write ν) :=
  if ∃ w' ∈ l, w'.id = w.id then l else l.orderedInsert (fun a b => a.id ≤ b.id) w

/-- A write is inserted unless its identifier is there already. -/
lemma mem_insertWrite {w x : Write ν} :
    x ∈ insertWrite w l ↔ x ∈ l ∨ x = w ∧ ∀ y ∈ l, y.id ≠ w.id := by
  unfold insertWrite
  split
  · rename_i h
    obtain ⟨y, hy, hid⟩ := h
    constructor
    · exact .inl
    · rintro (hx | ⟨-, hnew⟩)
      · exact hx
      · exact absurd hid (hnew y hy)
  · rename_i h
    push Not at h
    rw [mem_orderedInsert]
    constructor
    · rintro (rfl | hx)
      · exact .inr ⟨rfl, h⟩
      · exact .inl hx
    · rintro (hx | ⟨rfl, -⟩)
      · exact .inr hx
      · exact .inl rfl

lemma Ordered.orderedInsert {w : Write ν} (h : Ordered l)
    (hnew : ∀ y ∈ l, y.id ≠ w.id) : Ordered (l.orderedInsert (fun a b => a.id ≤ b.id) w) := by
  induction l with
  | nil => exact pairwise_singleton _ _
  | cons x l ih =>
    obtain ⟨hx, hl⟩ := pairwise_cons.mp h
    rw [List.orderedInsert]
    split
    · rename_i hle
      have hwx : w.id < x.id := lt_of_le_of_ne hle (hnew x mem_cons_self).symm
      refine pairwise_cons.mpr ⟨fun y hy => ?_, h⟩
      rcases mem_cons.mp hy with rfl | hy
      · exact hwx
      · exact hwx.trans (hx y hy)
    · rename_i hle
      refine pairwise_cons.mpr ⟨fun y hy => ?_, ih hl fun y hy =>
        hnew y (mem_cons_of_mem x hy)⟩
      rcases (mem_orderedInsert _).mp hy with rfl | hy
      · exact not_le.mp hle
      · exact hx y hy

lemma Ordered.insertWrite (h : Ordered l) (w : Write ν) : Ordered (insertWrite w l) := by
  unfold MultiValue.insertWrite
  split
  · exact h
  · rename_i hnew
    push Not at hnew
    exact h.orderedInsert hnew

/-- Everything of the first list, and what the second one adds to it. -/
def mergeWrites (l l' : List (Write ν)) : List (Write ν) :=
  l'.foldl (fun acc w => insertWrite w acc) l

lemma Ordered.mergeWrites (h : Ordered l) (l' : List (Write ν)) : Ordered (mergeWrites l l') := by
  induction l' generalizing l with
  | nil => exact h
  | cons w l' ih => exact ih (h.insertWrite w)

/-- A merge keeps the writes of the left side and adds those with new identifiers. -/
lemma mem_mergeWrites {l l' : List (Write ν)} (h' : Ordered l') {x : Write ν} :
    x ∈ mergeWrites l l' ↔ x ∈ l ∨ x ∈ l' ∧ ∀ y ∈ l, y.id ≠ x.id := by
  induction l' generalizing l with
  | nil => simp [mergeWrites]
  | cons w l' ih =>
    obtain ⟨hw, hl'⟩ := pairwise_cons.mp h'
    have hrest : x ∈ mergeWrites l (w :: l') ↔ x ∈ mergeWrites (insertWrite w l) l' := .rfl
    rw [hrest, ih hl', mem_insertWrite, mem_cons]
    constructor
    · rintro ((hx | ⟨rfl, hnew⟩) | ⟨hx, hnew⟩)
      · exact .inl hx
      · exact .inr ⟨.inl rfl, hnew⟩
      · exact .inr ⟨.inr hx, fun y hy => hnew y (mem_insertWrite.mpr (.inl hy))⟩
    · rintro (hx | ⟨rfl | hx, hnew⟩)
      · exact .inl (.inl hx)
      · exact .inl (.inr ⟨rfl, hnew⟩)
      · refine .inr ⟨hx, fun y hy => ?_⟩
        rcases mem_insertWrite.mp hy with hy | ⟨rfl, -⟩
        · exact hnew y hy
        · exact (hw x hx).ne

end

/-! ## Registers -/

/-- A set of writes in the order of their identifiers. What a write replaces is older than the
write and stands in the register as well. -/
structure Register (ν : Type) where
  writes : List (Write ν)
  ordered : Ordered writes
  past : ∀ w ∈ writes, ∀ i ∈ w.seen, i.counter < w.id.counter
  closed : ∀ w ∈ writes, ∀ i ∈ w.seen, ∃ w' ∈ writes, w'.id = i

namespace Register

variable {ν : Type} {P : Write ν → Prop}

instance : Membership (Write ν) (Register ν) := ⟨fun r w => w ∈ r.writes⟩

variable {r : Register ν} {w : Write ν} {v : ν} {actor : ℕ}

lemma mem_def : w ∈ r ↔ w ∈ r.writes := .rfl

/-- Nothing has been written. -/
def empty : Register ν :=
  ⟨[], List.Pairwise.nil, fun _ h => absurd h List.not_mem_nil, fun _ h => absurd h List.not_mem_nil⟩

lemma notMem_empty (w : Write ν) : w ∉ (empty : Register ν) := not_mem_nil

/-- A register is its list of writes. -/
lemma eq_of_writes {r r' : Register ν} (h : r.writes = r'.writes) : r = r' := by
  cases r
  cases r'
  cases h
  rfl

/-- Registers are sets: two with the same writes are equal. -/
lemma ext_mem {r r' : Register ν} (h : ∀ w, w ∈ r ↔ w ∈ r') : r = r' := by
  have hnodup : ∀ r : Register ν, r.writes.Nodup := fun r =>
    List.Pairwise.imp (fun hlt heq => by rw [heq] at hlt; exact lt_irrefl _ hlt) r.ordered
  have hperm := (perm_ext_iff_of_nodup (hnodup r) (hnodup r')).mpr h
  refine eq_of_writes (hperm.eq_of_pairwise ?_ r.ordered r'.ordered)
  exact fun a b _ _ hab hba => absurd (hab.trans hba) (lt_irrefl _)

/-- A register has one write under an identifier. -/
lemma eq_of_id (r : Register ν) {w w' : Write ν} (hw : w ∈ r) (hw' : w' ∈ r)
    (hid : w.id = w'.id) : w = w' :=
  r.ordered.eq_of_id hw hw' hid

/-- The writes that no other write has replaced. -/
def live (r : Register ν) : List (Write ν) :=
  r.writes.filter fun w => decide (∀ w' ∈ r.writes, w.id ∉ w'.seen)

/-- The values that are visible side by side. -/
def values (r : Register ν) : List ν := r.live.map (·.value)

/-- A write is live as long as no other write has seen it. -/
lemma mem_live : w ∈ r.live ↔ w ∈ r ∧ ∀ w' ∈ r, w.id ∉ w'.seen := by
  rw [live, mem_filter, decide_eq_true_iff]
  rfl

lemma mem_values : v ∈ r.values ↔ ∃ w ∈ r.live, w.value = v := mem_map

/-- A time after everything in the register. -/
def next (r : Register ν) : ℕ := r.writes.foldr (fun w n => max (w.id.counter + 1) n) 0

/-- The next counter is above all counters so far. -/
lemma counter_lt_next (h : w ∈ r) : w.id.counter < r.next := by
  have hfold : ∀ l : List (Write ν), w ∈ l →
      w.id.counter < l.foldr (fun w n => max (w.id.counter + 1) n) 0 := by
    intro l
    induction l with
    | nil => exact fun hw => absurd hw not_mem_nil
    | cons x l ih =>
      intro hw
      rw [foldr_cons]
      rcases mem_cons.mp hw with rfl | hw
      · omega
      · have := ih hw
        omega
  exact hfold r.writes h

/-- Climbing from a write to those that replace it ends at a live one. A property that is kept on
the way holds there. -/
lemma exists_live (hw : w ∈ r) (hP : P w)
    (hup : ∀ w x, w ∈ r → x ∈ r → P w → w.id ∈ x.seen → P x) : ∃ x ∈ r.live, P x := by
  have hclimb : ∀ n, ∀ w ∈ r, P w → r.next - w.id.counter ≤ n → ∃ x ∈ r.live, P x := by
    intro n
    induction n with
    | zero =>
      intro w hw _ hn
      have := counter_lt_next hw
      omega
    | succ n ih =>
      intro w hw hP hn
      by_cases hlive : w ∈ r.live
      · exact ⟨w, hlive, hP⟩
      · rw [mem_live] at hlive
        push Not at hlive
        obtain ⟨x, hx, hseen⟩ := hlive hw
        have hcounter := r.past x hx _ hseen
        exact ih x hx (hup w x hw hx hP hseen) (by omega)
  exact hclimb _ w hw hP le_rfl

/-! ### Writing -/

/-- The write that `actor` adds. It replaces everything that is live. -/
def newWrite (r : Register ν) (actor : ℕ) (v : ν) : Write ν :=
  { id := ⟨r.next, actor⟩, value := v, seen := r.live.map (·.id) }

/-- Write a value over everything that is live. -/
def write (actor : ℕ) (v : ν) (r : Register ν) : Register ν where
  writes := r.writes ++ [r.newWrite actor v]
  ordered := by
    refine List.pairwise_append.mpr ⟨r.ordered, List.pairwise_singleton _ _, fun w hw w' hw' => ?_⟩
    obtain rfl := List.mem_singleton.mp hw'
    exact Prod.Lex.lt_iff.mpr (Or.inl (counter_lt_next hw))
  past := by
    intro w hw i hi
    rcases List.mem_append.mp hw with hw | hw
    · exact r.past w hw i hi
    · obtain rfl := List.mem_singleton.mp hw
      obtain ⟨x, hx, rfl⟩ := List.mem_map.mp hi
      exact counter_lt_next (mem_live.mp hx).1
  closed := by
    intro w hw i hi
    rcases List.mem_append.mp hw with hw | hw
    · obtain ⟨x, hx, hid⟩ := r.closed w hw i hi
      exact ⟨x, List.mem_append_left _ hx, hid⟩
    · obtain rfl := List.mem_singleton.mp hw
      obtain ⟨x, hx, rfl⟩ := List.mem_map.mp hi
      exact ⟨x, List.mem_append_left _ (mem_live.mp hx).1, rfl⟩

/-- A local write adds one write and removes none. -/
lemma mem_write : w ∈ r.write actor v ↔ w ∈ r ∨ w = r.newWrite actor v := by
  rw [mem_def, write, mem_append, mem_singleton]
  rfl

/-- No write of the register has the identifier of a new one. -/
lemma id_ne_newWrite (h : w ∈ r) (actor : ℕ) (v : ν) : w.id ≠ (r.newWrite actor v).id := by
  intro heq
  have hlt := counter_lt_next h
  rw [heq] at hlt
  exact lt_irrefl _ hlt

/-- The new write really is new. -/
lemma newWrite_notMem (r : Register ν) (actor : ℕ) (v : ν) : r.newWrite actor v ∉ r :=
  fun h => id_ne_newWrite h actor v rfl

/-- After a write, it alone is live. -/
lemma mem_live_write : w ∈ (r.write actor v).live ↔ w = r.newWrite actor v := by
  rw [mem_live, mem_write]
  constructor
  · rintro ⟨hw | rfl, hlive⟩
    · have hold : w ∈ r.live := mem_live.mpr ⟨hw, fun x hx => hlive x (mem_write.mpr (.inl hx))⟩
      exact absurd (mem_map_of_mem hold) (hlive _ (mem_write.mpr (.inr rfl)))
    · rfl
  · rintro rfl
    refine ⟨.inr rfl, fun x hx hseen => ?_⟩
    rcases mem_write.mp hx with hx | rfl
    · obtain ⟨y, hy, hid⟩ := r.closed x hx _ hseen
      exact id_ne_newWrite hy actor v hid
    · obtain ⟨y, hy, hid⟩ := mem_map.mp hseen
      exact id_ne_newWrite (mem_live.mp hy).1 actor v hid

/-- A write has seen all others, so it alone stays visible. -/
lemma mem_values_write {v v' : ν} : v' ∈ (r.write actor v).values ↔ v' = v := by
  rw [mem_values]
  constructor
  · rintro ⟨w, hw, rfl⟩
    rw [mem_live_write.mp hw]
    rfl
  · rintro rfl
    exact ⟨r.newWrite actor v', mem_live_write.mpr rfl, rfl⟩

/-! ### Merging -/

/-- Everything that stands in either register. -/
def merge (r r' : Register ν) : Register ν where
  writes := mergeWrites r.writes r'.writes
  ordered := r.ordered.mergeWrites r'.writes
  past := by
    intro w hw i hi
    rcases (mem_mergeWrites r'.ordered).mp hw with hw | ⟨hw, -⟩
    · exact r.past w hw i hi
    · exact r'.past w hw i hi
  closed := by
    intro w hw i hi
    rcases (mem_mergeWrites r'.ordered).mp hw with hw | ⟨hw, -⟩
    · obtain ⟨x, hx, hid⟩ := r.closed w hw i hi
      exact ⟨x, (mem_mergeWrites r'.ordered).mpr (Or.inl hx), hid⟩
    · obtain ⟨x, hx, hid⟩ := r'.closed w hw i hi
      by_cases hknown : ∃ y ∈ r.writes, y.id = x.id
      · obtain ⟨y, hy, hyid⟩ := hknown
        exact ⟨y, (mem_mergeWrites r'.ordered).mpr (Or.inl hy), hyid.trans hid⟩
      · push Not at hknown
        exact ⟨x, (mem_mergeWrites r'.ordered).mpr (Or.inr ⟨hx, hknown⟩), hid⟩

section
variable {r r' : Register ν} {w : Write ν}

/-- A merge collects the writes of both sides; under one identifier the left side's is kept. -/
lemma mem_merge : w ∈ r.merge r' ↔ w ∈ r ∨ w ∈ r' ∧ ∀ x ∈ r, x.id ≠ w.id :=
  mem_mergeWrites r'.ordered

lemma mem_or_mem_of_merge (h : w ∈ r.merge r') : w ∈ r ∨ w ∈ r' :=
  (mem_merge.mp h).imp_right And.left

lemma exists_mem_merge (h : w ∈ r ∨ w ∈ r') : ∃ x, x ∈ r.merge r' := by
  by_cases hr : ∃ x, x ∈ r
  · obtain ⟨x, hx⟩ := hr
    exact ⟨x, mem_merge.mpr (.inl hx)⟩
  · push Not at hr
    exact ⟨w, mem_merge.mpr (.inr ⟨h.resolve_left (hr w), fun x hx => absurd hx (hr x)⟩)⟩

/-- Merging with a register that knows more gives that register. -/
lemma merge_eq_right (h : ∀ w ∈ r, w ∈ r') : r.merge r' = r' := by
  refine ext_mem fun w => ⟨fun hw => ?_, fun hw => mem_merge.mpr ?_⟩
  · rcases mem_or_mem_of_merge hw with hw | hw
    · exact h w hw
    · exact hw
  · by_cases hr : w ∈ r
    · exact .inl hr
    · refine .inr ⟨hw, fun x hx hid => hr ?_⟩
      rw [← r'.eq_of_id (h x hx) hw hid]
      exact hx

/-- Merging what is known already changes nothing. -/
lemma merge_eq_left (h : ∀ w ∈ r', w ∈ r) : r.merge r' = r := by
  refine ext_mem fun w => ⟨fun hw => ?_, fun hw => mem_merge.mpr (.inl hw)⟩
  rcases mem_or_mem_of_merge hw with hw | hw
  · exact hw
  · exact h w hw

/-- If everything that a merge adds over an older write has a property, and so does a live write
before the merge, then some live write has it afterwards. -/
lemma exists_live_merge
    (hnew : ∀ w ∈ r.merge r', w ∉ r → w.seen ≠ [] → P w) (h : ∃ w ∈ r.live, P w) :
    ∃ w ∈ (r.merge r').live, P w := by
  obtain ⟨w, hw, hP⟩ := h
  obtain ⟨hmem, hfree⟩ := mem_live.mp hw
  -- nothing above a live write of `r` stands in `r`
  obtain ⟨x, hx, hPx, -⟩ := exists_live (P := fun w => P w ∧ ∀ x ∈ r, w.id ∉ x.seen)
    (mem_merge.mpr (.inl hmem)) ⟨hP, hfree⟩ (by
      rintro w x - hx ⟨-, hfree⟩ hseen
      have hxr : x ∉ r := fun hxr => hfree x hxr hseen
      refine ⟨hnew x hx hxr (ne_nil_of_mem hseen), fun y hy hyseen => hxr ?_⟩
      obtain ⟨z, hz, hzid⟩ := r.closed y hy _ hyseen
      rw [← (r.merge r').eq_of_id (mem_merge.mpr (.inl hz)) hx hzid]
      exact hz)
  exact ⟨x, hx, hPx⟩

end

/-! ### Writing apart -/

/-- Some writes by one actor. -/
def Evolves (actor : ℕ) : Register ν → Register ν → Prop :=
  Relation.ReflTransGen fun r r' => ∃ v, r' = r.write actor v

section
variable {r r' r₁ r₂ : Register ν} {actor a b : ℕ} {w : Write ν}

lemma Evolves.write (r : Register ν) (actor : ℕ) (v : ν) : r.Evolves actor (r.write actor v) :=
  .single ⟨v, rfl⟩

section
variable (h : r.Evolves actor r')
include h

/-- No write is ever lost. -/
lemma Evolves.mem (hw : w ∈ r) : w ∈ r' := by
  induction h with
  | refl => exact hw
  | tail _ hstep ih =>
    obtain ⟨v, rfl⟩ := hstep
    exact mem_write.mpr (.inl ih)

/-- What is added is later than everything before and carries the name of the actor. -/
lemma Evolves.mem_or_new (hw : w ∈ r') :
    w ∈ r ∨ w.id.actor = actor ∧ ∀ x ∈ r, x.id.counter < w.id.counter := by
  induction h with
  | refl => exact .inl hw
  | tail hbef hstep ih =>
    obtain ⟨v, rfl⟩ := hstep
    rcases mem_write.mp hw with hw | rfl
    · exact ih hw
    · exact .inr ⟨rfl, fun x hx => counter_lt_next (Evolves.mem hbef hx)⟩

/-- Unless nothing was written, the last write is live. -/
lemma Evolves.eq_or_exists_live : r' = r ∨ ∃ w ∈ r'.live, w ∉ r := by
  rcases Relation.ReflTransGen.cases_tail h with rfl | ⟨r₁, hbef, v, rfl⟩
  · exact .inl rfl
  · refine .inr ⟨r₁.newWrite actor v, mem_live_write.mpr rfl, fun hmem => ?_⟩
    exact newWrite_notMem r₁ actor v (Evolves.mem hbef hmem)

end

variable (h1 : r.Evolves a r₁)
include h1

variable (h2 : r.Evolves b r₂)
include h2

/-- Two actors that start from the same register do not use the same identifier. -/
lemma Evolves.id_ne (hab : a ≠ b) {x : Write ν}
    (hw : w ∈ r₁) (hnew : w ∉ r) (hx : x ∈ r₂) : x.id ≠ w.id := by
  obtain ⟨hactor, hlater⟩ := (h1.mem_or_new hw).resolve_left hnew
  intro hid
  rcases h2.mem_or_new hx with hold | ⟨hother, -⟩
  · have hlt := hlater x hold
    rw [hid] at hlt
    exact lt_irrefl _ hlt
  · rw [hid, hactor] at hother
    exact hab hother

/-- Nothing comes back to life in a merge. -/
lemma Evolves.live_of_merge (hab : a ≠ b)
    (hw : w ∈ (r₁.merge r₂).live) : w ∈ r₁.live ∨ w ∈ r₂.live := by
  have hall : ∀ x, x ∈ r₁ ∨ x ∈ r₂ → x ∈ r₁.merge r₂ := by
    rintro x (hx | hx)
    · exact mem_merge.mpr (.inl hx)
    · by_cases hold : x ∈ r
      · exact mem_merge.mpr (.inl (h1.mem hold))
      · exact mem_merge.mpr (.inr ⟨hx, fun y hy => h2.id_ne h1 hab.symm hx hold hy⟩)
  obtain ⟨hmem, hfree⟩ := mem_live.mp hw
  rcases mem_or_mem_of_merge hmem with hmem | hmem
  · exact .inl (mem_live.mpr ⟨hmem, fun x hx => hfree x (hall x (.inl hx))⟩)
  · exact .inr (mem_live.mpr ⟨hmem, fun x hx => hfree x (hall x (.inr hx))⟩)

/-- A new live write of one actor is still live when the other's writes come in. -/
lemma Evolves.live_merge (hab : a ≠ b) (hw : w ∈ r₁.live) (hnew : w ∉ r) :
    w ∈ (r₁.merge r₂).live ∧ w ∈ (r₂.merge r₁).live := by
  obtain ⟨hmem, hfree⟩ := mem_live.mp hw
  -- the other side has no write with this identifier, so nothing there replaces it
  have hforeign : ∀ x ∈ r₂, x.id ≠ w.id := fun x hx => h1.id_ne h2 hab hmem hnew hx
  have hfree' : ∀ x ∈ r₂, w.id ∉ x.seen := by
    intro x hx hseen
    obtain ⟨y, hy, hid⟩ := r₂.closed x hx _ hseen
    exact hforeign y hy hid
  constructor
  · refine mem_live.mpr ⟨mem_merge.mpr (.inl hmem), fun x hx => ?_⟩
    rcases mem_or_mem_of_merge hx with hx | hx
    · exact hfree x hx
    · exact hfree' x hx
  · refine mem_live.mpr ⟨mem_merge.mpr (.inr ⟨hmem, hforeign⟩), fun x hx => ?_⟩
    rcases mem_or_mem_of_merge hx with hx | hx
    · exact hfree' x hx
    · exact hfree x hx

end

end Register

/-! ## What an engine decides -/

/-- The choices that multi-value merging leaves open. All of them look at the live writes. -/
structure Rules where
  /-- The value that a query sees. -/
  pick : {ν : Type} → List (Write ν) → Option ν
  /-- Whether the register is reported as conflicted. -/
  conflicted : {ν : Type} → List (Write ν) → Bool
  /-- Whether assigning the value adds a write. -/
  rewrites : {ν : Type} → List (Write ν) → ν → Bool

/-- A query sees a live value. One live write is no conflict, two different values are one, and
an assignment may only be left out where the register holds nothing but the assigned value. -/
structure Rules.Lawful (E : Rules) : Prop where
  pick_mem : ∀ {ν : Type} (r : Register ν) (v : ν),
    E.pick r.live = some v → ∃ w ∈ r.live, w.value = v
  pick_isSome : ∀ {ν : Type} (r : Register ν), r.live ≠ [] → (E.pick r.live).isSome
  single : ∀ {ν : Type} (r : Register ν),
    (∀ w ∈ r.live, ∀ w' ∈ r.live, w = w') → E.conflicted r.live = false
  distinct : ∀ {ν : Type} (r : Register ν),
    (∃ w ∈ r.live, ∃ w' ∈ r.live, w.value ≠ w'.value) → E.conflicted r.live = true
  keeps : ∀ {ν : Type} (r : Register ν) (v : ν), E.rewrites r.live v = false →
    r.live ≠ [] ∧ ∀ w ∈ r.live, w.value = v

namespace Rules

variable (E : Rules) {ν : Type}

/-- The value a query sees in a register. -/
def read (r : Register ν) : Option ν := E.pick r.live

/-- The engine reports a conflict on the register. -/
def isConflicted (r : Register ν) : Bool := E.conflicted r.live

/-- Assign a value, with a new write if the engine makes one. -/
def assign (actor : ℕ) (v : ν) (r : Register ν) : Register ν :=
  if E.rewrites r.live v then r.write actor v else r

end Rules

namespace Rules.Lawful

variable {E : Rules} (hE : E.Lawful) {ν : Type} {r : Register ν} {v : ν} {w : Write ν}
include hE

/-- What is read is one of the visible values. -/
lemma mem_values_of_read (h : E.read r = some v) : v ∈ r.values :=
  Register.mem_values.mpr (hE.pick_mem r v h)

/-- Only an untouched register has no value. -/
lemma read_isSome (h : w ∈ r) : (E.read r).isSome := by
  obtain ⟨x, hx, -⟩ := Register.exists_live h trivial (fun _ _ _ _ _ _ => trivial)
  exact hE.pick_isSome _ (ne_nil_of_mem hx)

lemma mem_of_read (h : E.read r = some v) : ∃ w ∈ r, w.value = v := by
  obtain ⟨w, hw, hv⟩ := hE.pick_mem r v h
  exact ⟨w, (Register.mem_live.mp hw).1, hv⟩

/-- A register is readable once it was written. -/
lemma read_isSome_iff : (E.read r).isSome ↔ ∃ w, w ∈ r := by
  constructor
  · intro h
    obtain ⟨v, hv⟩ := Option.isSome_iff_exists.mp h
    obtain ⟨w, hw, -⟩ := hE.mem_of_read hv
    exact ⟨w, hw⟩
  · rintro ⟨w, hw⟩
    exact hE.read_isSome hw

/-- A register in which only one value is visible reads as this value. -/
lemma read_eq (hw : w ∈ r) (h : ∀ v' ∈ r.values, v' = v) : E.read r = some v := by
  obtain ⟨v', hv'⟩ := Option.isSome_iff_exists.mp (hE.read_isSome hw)
  rw [hv', h v' (hE.mem_values_of_read hv')]

variable (actor : ℕ)

/-- A local write is read back. -/
@[simp] lemma read_write (v : ν) : E.read (r.write actor v) = some v :=
  hE.read_eq (Register.mem_write.mpr (.inr rfl)) fun _ hv' => Register.mem_values_write.mp hv'

/-- A local write settles every conflict. -/
@[simp] lemma isConflicted_write (v : ν) : E.isConflicted (r.write actor v) = false := by
  refine hE.single _ fun w hw w' hw' => ?_
  rw [Register.mem_live_write.mp hw, Register.mem_live_write.mp hw']

/-- Without a reported conflict, only one value is visible. -/
lemma eq_of_not_isConflicted (h : E.isConflicted r = false) {v v' : ν} (hv : v ∈ r.values)
    (hv' : v' ∈ r.values) : v = v' := by
  by_contra hne
  obtain ⟨w, hw, rfl⟩ := Register.mem_values.mp hv
  obtain ⟨w', hw', rfl⟩ := Register.mem_values.mp hv'
  rw [isConflicted, hE.distinct r ⟨w, hw, w', hw', hne⟩] at h
  cases h

/-- After an assignment only the assigned value is visible, written or not. -/
lemma mem_values_assign {actor : ℕ} {v v' : ν} (h : v' ∈ (E.assign actor v r).values) : v' = v := by
  unfold assign at h
  split at h
  · exact Register.mem_values_write.mp h
  · rename_i hkeeps
    obtain ⟨w, hw, rfl⟩ := Register.mem_values.mp h
    exact (hE.keeps _ _ (by simpa using hkeeps)).2 w hw

lemma exists_mem_assign (v : ν) (r : Register ν) : ∃ w, w ∈ E.assign actor v r := by
  unfold assign
  split
  · exact ⟨_, Register.mem_write.mpr (.inr rfl)⟩
  · rename_i hkeeps
    obtain ⟨w, hw⟩ := exists_mem_of_ne_nil _ (hE.keeps _ _ (by simpa using hkeeps)).1
    exact ⟨w, (Register.mem_live.mp hw).1⟩

/-- An assignment is read back. -/
@[simp] lemma read_assign (v : ν) : E.read (E.assign actor v r) = some v := by
  obtain ⟨w, hw⟩ := hE.exists_mem_assign actor v r
  exact hE.read_eq hw fun _ => hE.mem_values_assign

/-- An assignment makes no conflict. -/
lemma isConflicted_assign (h : E.isConflicted r = false) (actor : ℕ) (v : ν) :
    E.isConflicted (E.assign actor v r) = false := by
  unfold assign
  split
  · exact hE.isConflicted_write actor v
  · exact h

omit hE in
/-- An assignment is at most one write of the actor. -/
lemma evolves_assign (E : Rules) (actor : ℕ) (v : ν) (r : Register ν) :
    r.Evolves actor (E.assign actor v r) := by
  unfold assign
  split
  · exact .write r actor v
  · exact .refl

end Rules.Lawful

/-! ## Databases of registers -/

/-- A register for every column and key, and the keys in use. -/
structure Database (κ γ : Type) (V : γ → Type) where
  keys : Finset κ
  cells : (c : γ) → κ → Register (V c)

namespace Database

variable {κ γ : Type} {V : γ → Type}

/-- No row, and no write to any cell. -/
def empty : Database κ γ V := ⟨∅, fun _ _ => .empty⟩

/-- Everything that stands in either database. -/
def merge [DecidableEq κ] (d d' : Database κ γ V) : Database κ γ V where
  keys := d.keys ∪ d'.keys
  cells c k := (d.cells c k).merge (d'.cells c k)

@[simp] lemma cells_merge [DecidableEq κ] (d d' : Database κ γ V) (c : γ) (k : κ) :
    (d.merge d').cells c k = (d.cells c k).merge (d'.cells c k) := rfl

/-- A fresh replica becomes a copy of what it merges. -/
lemma empty_merge [DecidableEq κ] (d : Database κ γ V) : empty.merge d = d := by
  have hkeys : (∅ : Finset κ) ∪ d.keys = d.keys := Finset.empty_union d.keys
  have hcells : (fun c k => Register.empty.merge (d.cells c k)) = d.cells := by
    funext c k
    exact Register.merge_eq_right fun w hw => absurd hw (Register.notMem_empty w)
  unfold merge empty
  rw [hkeys, hcells]

variable [DecidableEq κ] [DecidableEq γ]

/-- Change one register. -/
def modify (c : γ) (k : κ) (f : Register (V c) → Register (V c)) (d : Database κ γ V) :
    Database κ γ V where
  keys := insert k d.keys
  cells := Function.update d.cells c (Function.update (d.cells c) k (f (d.cells c k)))

@[simp] lemma cells_modify_self (c : γ) (k : κ) (f : Register (V c) → Register (V c))
    (d : Database κ γ V) : (d.modify c k f).cells c k = f (d.cells c k) := by
  simp [modify]

/-- All other cells are left alone. -/
lemma cells_modify_of_ne {c c' : γ} {k k' : κ} (h : c' ≠ c ∨ k' ≠ k)
    (f : Register (V c) → Register (V c)) (d : Database κ γ V) :
    (d.modify c k f).cells c' k' = d.cells c' k' := by
  unfold modify
  by_cases hc : c' = c
  · subst hc
    have hk : k' ≠ k := h.resolve_left fun hne => hne rfl
    simp [hk]
  · simp [hc]

end Database

end MultiValue

import Mathlib.Tactic

/-!
# Tables that only grow

Rows of a table are told apart by a key. Over time a row may change along `same`, which keeps the
key, and new rows get new keys. A key that is in use therefore stays with one row for good.
-/

namespace Rows

open List

variable {ρ κ : Type} {key : ρ → κ} {same : ρ → ρ → Prop} {old mid new : List ρ}

/-- Every row is an earlier one, up to `same`, or has a new key; no key disappears, and keys stay
unique. -/
structure Grows (key : ρ → κ) (same : ρ → ρ → Prop) (old new : List ρ) : Prop where
  rows : ∀ row ∈ new, (∃ before ∈ old, same before row) ∨ ∀ before ∈ old, key before ≠ key row
  keys : ∀ before ∈ old, ∃ row ∈ new, key row = key before
  nodup : (old.map key).Nodup → (new.map key).Nodup

lemma Grows.refl (hrefl : ∀ row, same row row) (rows : List ρ) : Grows key same rows rows where
  rows row hrow := .inl ⟨row, hrow, hrefl row⟩
  keys before hbef := ⟨before, hbef, rfl⟩
  nodup h := h

/-- Two growths make one. -/
lemma Grows.trans (hkey : ∀ a b, same a b → key a = key b)
    (htrans : ∀ a b c, same a b → same b c → same a c) (h1 : Grows key same old mid)
    (h2 : Grows key same mid new) : Grows key same old new where
  rows row hrow := by
    rcases h2.rows row hrow with ⟨between, hbetween, hsame⟩ | hnew
    · rcases h1.rows between hbetween with ⟨before, hbef, hsame'⟩ | hnew
      · exact .inl ⟨before, hbef, htrans _ _ _ hsame' hsame⟩
      · exact .inr fun before hbef => hkey between row hsame ▸ hnew before hbef
    · refine .inr fun before hbef => ?_
      obtain ⟨between, hbetween, heq⟩ := h1.keys before hbef
      exact heq ▸ hnew between hbetween
  keys before hbef := by
    obtain ⟨between, hbetween, hkey1⟩ := h1.keys before hbef
    obtain ⟨row, hrow, hkey2⟩ := h2.keys between hbetween
    exact ⟨row, hrow, hkey2.trans hkey1⟩
  nodup h := h2.nodup (h1.nodup h)

/-- Inserting a row with a new key. -/
lemma Grows.append (hrefl : ∀ row, same row row) {row : ρ}
    (hnew : ∀ before ∈ old, key before ≠ key row) : Grows key same old (old ++ [row]) where
  rows row' hrow' := by
    rcases mem_append.mp hrow' with hold | hlast
    · exact .inl ⟨row', hold, hrefl row'⟩
    · obtain rfl := mem_singleton.mp hlast
      exact .inr hnew
  keys before hbef := ⟨before, mem_append_left _ hbef, rfl⟩
  nodup h := by
    rw [map_append, nodup_append]
    refine ⟨h, nodup_singleton _, ?_⟩
    intro k hk k' hk' heq
    obtain ⟨before, hbef, rfl⟩ := mem_map.mp hk
    obtain rfl : k' = key row := by simpa using hk'
    exact hnew before hbef heq

variable (hkey : ∀ a b, same a b → key a = key b)
include hkey

/-- Updating rows in place. -/
lemma Grows.map {f : ρ → ρ} (hf : ∀ row, same row (f row)) : Grows key same old (old.map f) where
  rows row hrow := by
    obtain ⟨before, hbef, rfl⟩ := mem_map.mp hrow
    exact .inl ⟨before, hbef, hf before⟩
  keys before hbef := ⟨f before, mem_map_of_mem hbef, (hkey _ _ (hf before)).symm⟩
  nodup h := by
    rw [map_map]
    exact (map_congr_left fun row _ => hkey row (f row) (hf row)) ▸ h

/-- A row that is the only one with its key is, up to `same`, still the only one later on. -/
lemma Grows.same_of_key_eq (h : Grows key same old new) {before row : ρ} (hbef : before ∈ old)
    (hunique : ∀ other ∈ old, key other = key before → other = before) (hrow : row ∈ new)
    (heq : key row = key before) : same before row := by
  rcases h.rows row hrow with ⟨other, hother, hsame⟩ | hnew
  · obtain rfl := hunique other hother ((hkey _ _ hsame).trans heq)
    exact hsame
  · exact absurd heq.symm (hnew before hbef)

end Rows

import Mathlib.Data.List.Basic
import Mathlib.Data.List.Sort

/-!
# White space and words

The Unicode notion of white space, blank strings, the words of a string, and strings that spell
sets of words. Words that are joined by spaces can be read back; a list that is sorted and freed
of repetitions before it is joined has one spelling for each set of words. The pieces of a list
between separators have none, and a number has one decimal spelling.
-/

namespace Text

open List

/-- The characters of the Unicode property `White_Space`, at which `split_whitespace` cuts. -/
def isWhitespace (c : Char) : Bool :=
  let n := c.toNat
  (9 ≤ n && n ≤ 13) || n == 32 || n == 133 || n == 160 || n == 5760 || (8192 ≤ n && n ≤ 8202) ||
    n == 8232 || n == 8233 || n == 8239 || n == 8287 || n == 12288

/-- `s.trim().is_empty()` -/
def isBlank (s : String) : Bool := s.toList.all isWhitespace

/-- The pieces of a character list between white space, `word` being the piece under way. -/
def splitWords (word : List Char) : List Char → List (List Char)
  | [] => if word.isEmpty then [] else [word.reverse]
  | c :: cs =>
    if isWhitespace c then
      if word.isEmpty then splitWords [] cs else word.reverse :: splitWords [] cs
    else splitWords (c :: word) cs

/-- `str::split_whitespace` -/
def splitWhitespace (s : String) : List String := (splitWords [] s.toList).map String.ofList

/-- A non-empty string without white space. -/
def IsWord (s : String) : Prop := s ≠ "" ∧ ∀ c ∈ s.toList, isWhitespace c = false

/-- Words are not empty and have no white space. -/
lemma splitWords_spec (word cs : List Char) (hword : ∀ c ∈ word, isWhitespace c = false) :
    ∀ w ∈ splitWords word cs, w ≠ [] ∧ ∀ c ∈ w, isWhitespace c = false := by
  induction cs generalizing word with
  | nil =>
    intro w hw
    simp only [splitWords] at hw
    split at hw
    · simp at hw
    · rename_i hne
      obtain rfl : w = word.reverse := by simpa using hw
      exact ⟨by simpa using hne, by simpa using hword⟩
  | cons c cs ih =>
    intro w hw
    simp only [splitWords] at hw
    split at hw
    · split at hw
      · exact ih [] (by simp) w hw
      · rename_i hne
        rcases mem_cons.mp hw with rfl | hw
        · exact ⟨by simpa using hne, by simpa using hword⟩
        · exact ih [] (by simp) w hw
    · rename_i hc
      refine ih (c :: word) ?_ w hw
      intro d hd
      rcases mem_cons.mp hd with rfl | hd
      · simpa using hc
      · exact hword d hd

/-- What `split_whitespace` yields are words. -/
lemma isWord_of_mem_splitWhitespace {s w : String} (h : w ∈ splitWhitespace s) : IsWord w := by
  obtain ⟨cs, hcs, rfl⟩ := mem_map.mp h
  obtain ⟨hne, hws⟩ := splitWords_spec [] s.toList (by simp) cs hcs
  refine ⟨?_, by simpa using hws⟩
  intro hempty
  exact hne (by simpa using congrArg String.toList hempty)

/-! ## Reading back what was joined -/

/-- A word goes on until white space ends it. -/
lemma splitWords_append {w : List Char} (hw : ∀ c ∈ w, isWhitespace c = false)
    (word rest : List Char) : splitWords word (w ++ rest) = splitWords (w.reverse ++ word) rest := by
  induction w generalizing word with
  | nil => rfl
  | cons c w ih =>
    have hc : isWhitespace c = false := hw c mem_cons_self
    rw [cons_append, splitWords, if_neg (by simp [hc]),
      ih fun d hd => hw d (mem_cons_of_mem c hd)]
    simp

/-- A word that white space follows is a piece of its own. -/
lemma splitWords_word {w : List Char} (hne : w ≠ []) (hw : ∀ c ∈ w, isWhitespace c = false)
    {c : Char} (hc : isWhitespace c = true) (rest : List Char) :
    splitWords [] (w ++ c :: rest) = w :: splitWords [] rest := by
  rw [splitWords_append hw, append_nil, splitWords, if_pos hc, if_neg (by simpa using hne),
    reverse_reverse]

variable {ws : List (List Char)} {w : String} {l : List String}

/-- Words joined by spaces are read back as they were. -/
lemma splitWords_intercalate (h : ∀ w ∈ ws, w ≠ [] ∧ ∀ c ∈ w, isWhitespace c = false) :
    splitWords [] ([' '].intercalate ws) = ws := by
  induction ws with
  | nil => rfl
  | cons w ws ih =>
    obtain ⟨hne, hw⟩ := h w mem_cons_self
    have hrest := ih fun v hv => h v (mem_cons_of_mem w hv)
    cases ws with
    | nil =>
      have hlast := splitWords_append hw [] []
      rw [append_nil, append_nil, splitWords, if_neg (by simpa using hne),
        reverse_reverse] at hlast
      simpa using hlast
    | cons v ws =>
      rw [intercalate_cons_cons, append_assoc, singleton_append,
        splitWords_word hne hw (by decide), hrest]

/-- Words joined by spaces are split into the same words. -/
lemma splitWhitespace_intercalate {ws : List String} (h : ∀ w ∈ ws, IsWord w) :
    splitWhitespace (" ".intercalate ws) = ws := by
  have hlists : ∀ l ∈ ws.map String.toList, l ≠ [] ∧ ∀ c ∈ l, isWhitespace c = false := by
    intro l hl
    obtain ⟨w, hw, rfl⟩ := mem_map.mp hl
    exact ⟨by simpa using (h w hw).1, (h w hw).2⟩
  have hlist : (" ".intercalate ws).toList = [' '].intercalate (ws.map String.toList) := by simp
  rw [splitWhitespace, hlist, splitWords_intercalate hlists]
  simp

/-- A list has a property throughout or up to a first element that lacks it. -/
lemma forall_or_first {α : Type} (p : α → Prop) (l : List α) :
    (∀ a ∈ l, p a) ∨ ∃ l1 a l2, l = l1 ++ a :: l2 ∧ (∀ b ∈ l1, p b) ∧ ¬p a := by
  induction l with
  | nil => exact .inl (by simp)
  | cons b l ih =>
    by_cases hb : p b
    · rcases ih with hall | ⟨l1, a, l2, rfl, hl1, ha⟩
      · exact .inl (by simpa using ⟨hb, hall⟩)
      · exact .inr ⟨b :: l1, a, l2, rfl, by simpa using ⟨hb, hl1⟩, ha⟩
    · exact .inr ⟨[], b, l, rfl, by simp, hb⟩

/-- A joined item with white space inside is cut there, whatever comes after it. -/
lemma splitWords_intercalate_cut
    (h : ∀ w ∈ ws, w ≠ [] ∧ ∀ c ∈ w, isWhitespace c = false) {p q : List Char} (hne : p ≠ [])
    (hp : ∀ c ∈ p, isWhitespace c = false) {c : Char} (hc : isWhitespace c = true)
    (rest : List (List Char)) : ∃ pieces,
      splitWords [] ([' '].intercalate (ws ++ (p ++ c :: q) :: rest)) = ws ++ p :: pieces := by
  induction ws with
  | nil =>
    cases rest with
    | nil => exact ⟨_, by simpa using splitWords_word hne hp hc q⟩
    | cons r rest =>
      rw [nil_append, intercalate_cons_cons, append_assoc, append_assoc,
        cons_append]
      exact ⟨_, splitWords_word hne hp hc _⟩
  | cons w ws ih =>
    obtain ⟨hwne, hw⟩ := h w mem_cons_self
    obtain ⟨pieces, hpieces⟩ := ih fun v hv => h v (mem_cons_of_mem w hv)
    refine ⟨pieces, ?_⟩
    have hcons : ∃ v vs, ws ++ (p ++ c :: q) :: rest = v :: vs := by
      cases ws with
      | nil => exact ⟨_, _, rfl⟩
      | cons v vs => exact ⟨_, _, rfl⟩
    obtain ⟨v, vs, hvs⟩ := hcons
    rw [hvs] at hpieces
    rw [cons_append, hvs, intercalate_cons_cons, append_assoc,
      singleton_append, splitWords_word hwne hw (by decide), hpieces, cons_append]

/-- An item with a space inside is cut there. -/
lemma splitWhitespace_intercalate_cut {ws : List String} (h : ∀ w ∈ ws, IsWord w) {item : String}
    {first : Char} {tail : List Char} (hitem : item.toList = first :: tail)
    (hfirst : isWhitespace first = false) (hspace : ¬∀ c ∈ item.toList, isWhitespace c = false)
    (rest : List String) : ∃ p pieces, p.toList <+: item.toList ∧ p ≠ item ∧
      splitWhitespace (" ".intercalate (ws ++ item :: rest)) = ws ++ p :: pieces := by
  obtain hall | ⟨p, c, q, hsplit, hp, hc⟩ :=
    forall_or_first (fun c => isWhitespace c = false) item.toList
  · exact absurd hall hspace
  have hlists : ∀ l ∈ ws.map String.toList, l ≠ [] ∧ ∀ c ∈ l, isWhitespace c = false := by
    intro l hl
    obtain ⟨w, hw, rfl⟩ := mem_map.mp hl
    exact ⟨by simpa using (h w hw).1, (h w hw).2⟩
  -- the piece before the cut is not empty, since the item does not open with white space
  have hne : p ≠ [] := by
    rintro rfl
    rw [hitem, nil_append, cons.injEq] at hsplit
    exact hc (hsplit.1 ▸ hfirst)
  have hjoined : (" ".intercalate (ws ++ item :: rest)).toList =
      [' '].intercalate (ws.map String.toList ++ (p ++ c :: q) :: rest.map String.toList) := by
    rw [← hsplit]
    simp
  obtain ⟨pieces, hpieces⟩ := splitWords_intercalate_cut hlists hne hp (by simpa using hc)
    (rest.map String.toList)
  refine ⟨String.ofList p, pieces.map String.ofList, ?_, ?_, ?_⟩
  · rw [String.toList_ofList, hsplit]
    exact prefix_append p _
  · rintro rfl
    simp at hsplit
  · rw [splitWhitespace, hjoined, hpieces]
    simp

/-! ## Spelling sets of words -/

/-- `Vec::dedup`: of equal neighbours only one is kept. -/
def dedup : List String → List String
  | [] => []
  | [a] => [a]
  | a :: b :: rest => if a = b then dedup (b :: rest) else a :: dedup (b :: rest)

@[simp] lemma mem_dedup : w ∈ dedup l ↔ w ∈ l := by
  fun_induction dedup l with
  | case1 => rfl
  | case2 a => rfl
  | case3 a rest ih => simp [ih]
  | case4 a b rest hab ih => simp [ih]

instance total_le : Std.Total fun a b : String => a ≤ b := ⟨String.le_total⟩

instance isTrans_le : IsTrans String fun a b => a ≤ b := ⟨fun _ _ _ => String.le_trans⟩

/-- Sorted and without repetitions. -/
def sortedSet (l : List String) : List String := dedup (l.insertionSort fun a b => a ≤ b)

@[simp] lemma mem_sortedSet : w ∈ sortedSet l ↔ w ∈ l := by
  rw [sortedSet, mem_dedup, mem_insertionSort]

/-- In an ordered list, equal neighbours are all the repetitions there are. -/
lemma pairwise_dedup (h : l.Pairwise fun a b => a ≤ b) :
    (dedup l).Pairwise fun a b => a ≤ b ∧ a ≠ b := by
  fun_induction dedup l with
  | case1 => exact List.Pairwise.nil
  | case2 a => exact pairwise_singleton _ a
  | case3 a rest ih => exact ih h.of_cons
  | case4 a b rest hab ih =>
    rw [pairwise_cons] at h ⊢
    refine ⟨fun w hw => ⟨h.1 w (mem_dedup.mp hw), ?_⟩, ih h.2⟩
    -- everything after `b` is at least `b`, so `a` can only come back if it is `b`
    rintro rfl
    have hba : b ≤ a := by
      rcases mem_cons.mp (mem_dedup.mp hw) with rfl | hmem
      · exact String.le_refl _
      · exact (pairwise_cons.mp h.2).1 a hmem
    exact hab (String.le_antisymm (h.1 b mem_cons_self) hba)

/-- Two lists of the same words have the same sorted form. -/
lemma sortedSet_congr {l l' : List String} (h : ∀ w, w ∈ l ↔ w ∈ l') :
    sortedSet l = sortedSet l' := by
  have hsorted : ∀ l, (sortedSet l).Pairwise fun a b => a ≤ b ∧ a ≠ b := fun l =>
    pairwise_dedup (pairwise_insertionSort _ l)
  have : Std.Antisymm fun a b : String => a ≤ b ∧ a ≠ b :=
    ⟨fun _ _ hab hba => String.le_antisymm hab.1 hba.1⟩
  have : Std.Irrefl fun a b : String => a ≤ b ∧ a ≠ b := ⟨fun _ ha => ha.2 rfl⟩
  exact (hsorted l).eq_of_mem_iff (hsorted l') fun w => by simp [h]

/-- Lists of words are spelled alike exactly when they have the same words. -/
lemma intercalate_sortedSet_eq_iff {l l' : List String} (hl : ∀ w ∈ l, IsWord w)
    (hl' : ∀ w ∈ l', IsWord w) :
    " ".intercalate (sortedSet l) = " ".intercalate (sortedSet l') ↔ ∀ w, w ∈ l ↔ w ∈ l' := by
  constructor
  · intro h w
    have hwords : splitWhitespace (" ".intercalate (sortedSet l)) = sortedSet l :=
      splitWhitespace_intercalate fun w hw => hl w (mem_sortedSet.mp hw)
    have hwords' : splitWhitespace (" ".intercalate (sortedSet l')) = sortedSet l' :=
      splitWhitespace_intercalate fun w hw => hl' w (mem_sortedSet.mp hw)
    rw [← mem_sortedSet, ← mem_sortedSet (l := l'), ← hwords, ← hwords', h]
  · intro h
    rw [sortedSet_congr h]

/-! ## Numbers -/

/-- The decimal text determines the number. -/
lemma toString_nat_injective {m n : ℕ} (h : toString m = toString n) : m = n := by
  have hrepr : m.repr = n.repr := h
  have hdigits : Nat.toDigits 10 m = Nat.toDigits 10 n := by
    simpa only [Nat.repr, String.ofList_inj] using hrepr
  rw [← Nat.ofDigitChars_ten_toDigits (n := m), hdigits, Nat.ofDigitChars_ten_toDigits]

end Text

import LocalPlatform.Lib.Text
import Mathlib.Data.List.TakeWhile
import Mathlib.Tactic

/-!
# Texts as bytes, and texts in two parts

UTF-8 and Latin-1, and when they agree; trimming; the two parts of a text that has a separator;
fields behind their lengths; and the two alphabets of base64. The bytes of a text in UTF-8 are at
least as many as its characters, and as many only for ASCII.
-/

namespace Text

open List

/-! ## UTF-8 -/

/-- The text that is spelled by bytes, `String::from_utf8`. -/
def ofUtf8 (bytes : List UInt8) : Option String := String.fromUTF8? ⟨bytes.toArray⟩

lemma byteArray_toList_loop (bytes : ByteArray) (i : ℕ) (r : List UInt8) :
    ByteArray.toList.loop bytes i r = r.reverse ++ bytes.data.toList.drop i := by
  induction i, r using ByteArray.toList.loop.induct bytes with
  | case1 i r hlt ih =>
    have hlt' : i < bytes.data.toList.length := by simpa using hlt
    have hget : bytes.get! i = bytes.data.toList.get ⟨i, hlt'⟩ := by
      rcases bytes with ⟨data⟩
      exact getElem!_pos data i hlt
    rw [ByteArray.toList.loop, if_pos hlt, ih, drop_eq_getElem_cons hlt', hget]
    simp
  | case2 i r hlt =>
    have hlen : bytes.data.toList.length ≤ i := by
      simpa only [Array.length_toList, ByteArray.size_data] using Nat.le_of_not_lt hlt
    rw [ByteArray.toList.loop, if_neg hlt, drop_eq_nil_of_le hlen, append_nil]

/-- A byte array and its list. -/
lemma byteArray_toList (bytes : ByteArray) : bytes.toList = bytes.data.toList := by
  rw [ByteArray.toList, byteArray_toList_loop]
  rfl

variable {bytes : List UInt8} {s : String} {cs : List Char}

/-- Bytes spell one text, the one that they are the bytes of. -/
lemma ofUtf8_eq_some_iff : ofUtf8 bytes = some s ↔ s.toUTF8.toList = bytes := by
  constructor
  · intro h
    rw [ofUtf8, String.fromUTF8?] at h
    split at h
    · obtain rfl := Option.some.inj h
      exact byteArray_toList _
    · cases h
  · rintro rfl
    have hbytes : (⟨s.toUTF8.toList.toArray⟩ : ByteArray) = s.toUTF8 := by
      rw [byteArray_toList, Array.toArray_toList]
    have hvalid : s.toUTF8.IsValidUTF8 := s.isValidUTF8
    rw [ofUtf8, hbytes, String.fromUTF8?, dif_pos hvalid]
    rfl

/-- The UTF-8 bytes of a text, character by character. -/
lemma toList_toUTF8 (s : String) : s.toUTF8.toList = s.toList.flatMap String.utf8EncodeChar := by
  have hbytes : s.toUTF8 = s.toList.utf8Encode := by
    conv_lhs => rw [← String.ofList_toList (s := s)]
    exact String.toByteArray_ofList
  rw [hbytes, byteArray_toList, utf8Encode, data_toByteArray]

/-! ## Latin-1 -/

/-- A character of one byte. -/
def isAscii (c : Char) : Bool := c.toNat < 128

/-- One byte for every character, if all of them are below 256. -/
def latin1 (s : String) : Option (List UInt8) :=
  if s.toList.all fun c => c.toNat < 256 then some (s.toList.map fun c => c.val.toUInt8) else none

/-- Only ASCII characters take one byte. -/
lemma utf8Size_eq_one_iff {c : Char} : c.utf8Size = 1 ↔ isAscii c = true := by
  have hval : c.val ≤ 127 ↔ c.toNat < 128 := by
    exact Nat.lt_succ_iff.symm
  rw [Char.utf8Size_eq_one_iff, hval, isAscii, decide_eq_true_iff]

/-- Below 128 the two encodings agree. -/
lemma flatMap_utf8EncodeChar_of_ascii (h : ∀ c ∈ cs, isAscii c = true) :
    cs.flatMap String.utf8EncodeChar = cs.map fun c => c.val.toUInt8 := by
  induction cs with
  | nil => rfl
  | cons c cs ih =>
    have hc : c.utf8Size = 1 := utf8Size_eq_one_iff.mpr (h c mem_cons_self)
    rw [flatMap_cons, map_cons, String.utf8EncodeChar_eq_singleton hc,
      ih fun d hd => h d (mem_cons_of_mem c hd)]
    rfl

/-- A text has at most as many characters as bytes. -/
lemma length_le_length_flatMap_utf8 (cs : List Char) :
    cs.length ≤ (cs.flatMap String.utf8EncodeChar).length := by
  induction cs with
  | nil => rfl
  | cons c cs ih =>
    have hc : 0 < c.utf8Size := Char.utf8Size_pos c
    rw [flatMap_cons, length_append, String.length_utf8EncodeChar, length_cons]
    omega

/-- A text with no more bytes than characters is ASCII. -/
lemma ascii_of_length_flatMap_utf8_le
    (h : (cs.flatMap String.utf8EncodeChar).length ≤ cs.length) : ∀ c ∈ cs, isAscii c = true := by
  induction cs with
  | nil => simp
  | cons c cs ih =>
    have hc : 0 < c.utf8Size := Char.utf8Size_pos c
    have hcs := length_le_length_flatMap_utf8 cs
    rw [flatMap_cons, length_append, String.length_utf8EncodeChar, length_cons] at h
    intro d hd
    rcases mem_cons.mp hd with rfl | hd
    · exact utf8Size_eq_one_iff.mp (by omega)
    · exact ih (by omega) d hd

/-- On ASCII the two encodings agree. -/
lemma latin1_of_ascii (h : ∀ c ∈ s.toList, isAscii c = true) : latin1 s = some s.toUTF8.toList := by
  have hall : (s.toList.all fun c => c.toNat < 256) = true := by
    rw [all_eq_true]
    intro c hc
    have hlt : c.toNat < 128 := by simpa [isAscii] using h c hc
    simpa using (by omega : c.toNat < 256)
  rw [latin1, if_pos hall, toList_toUTF8, flatMap_utf8EncodeChar_of_ascii h]

lemma length_of_latin1 (h : latin1 s = some bytes) : bytes.length = s.toList.length := by
  rw [latin1] at h
  split at h
  · obtain rfl := Option.some.inj h
    exact length_map _
  · cases h

/-! ## Trimming -/

/-- The text without the white space at its ends. -/
def trimChars (cs : List Char) : List Char :=
  ((cs.dropWhile isWhitespace).reverse.dropWhile isWhitespace).reverse

/-- `str::trim` -/
def trim (s : String) : String := String.ofList (trimChars s.toList)

lemma trimChars_isInfix (cs : List Char) : trimChars cs <:+: cs := by
  have hback : trimChars cs <+: cs.dropWhile isWhitespace := by
    have hsuffix := dropWhile_suffix isWhitespace (l := (cs.dropWhile isWhitespace).reverse)
    rw [← reverse_prefix, reverse_reverse] at hsuffix
    exact hsuffix
  exact hback.isInfix.trans (dropWhile_suffix isWhitespace).isInfix

/-- Trimming that does not shorten a text does not change it. -/
lemma trim_eq_self_of_length {s t : String} (h : trim s = t)
    (hlen : s.toList.length ≤ t.toList.length) : s = t := by
  have hchars : trimChars s.toList = t.toList := by rw [← h, trim, String.toList_ofList]
  have hpart := trimChars_isInfix s.toList
  rw [hchars] at hpart
  exact (String.toList_injective (hpart.eq_of_length (le_antisymm hpart.length_le hlen))).symm

/-! ## Two parts -/

/-- `s.splitn(2, separator)`: what stands before the first separator, and what stands after it. -/
def splitOnce (separator : Char) (s : String) : String × Option String :=
  let before := String.ofList (s.toList.takeWhile (· != separator))
  match s.toList.dropWhile (· != separator) with
  | [] => (before, none)
  | _ :: after => (before, some (String.ofList after))

/-- The text is cut at the first separator. -/
lemma splitOnce_eq_iff {separator : Char} {s before after : String} :
    splitOnce separator s = (before, some after) ↔
      s.toList = before.toList ++ separator :: after.toList ∧ separator ∉ before.toList := by
  constructor
  · intro h
    have hsplit := takeWhile_append_dropWhile (p := (· != separator)) (l := s.toList)
    have hfirst := head?_dropWhile_not (· != separator) s.toList
    rw [splitOnce] at h
    split at h
    · cases h
    · rename_i mark back hback
      obtain ⟨rfl, hafter⟩ := Prod.mk.inj h
      obtain rfl := Option.some.inj hafter
      rw [hback] at hfirst hsplit
      obtain rfl : mark = separator := by simpa using hfirst
      refine ⟨by simpa using hsplit.symm, ?_⟩
      rw [String.toList_ofList]
      intro hmem
      simpa using mem_takeWhile_imp hmem
  · rintro ⟨hs, hnotMem⟩
    have hall : ∀ c ∈ before.toList, (c != separator) = true := by
      intro c hc
      have hne : c ≠ separator := fun heq => hnotMem (heq ▸ hc)
      simpa using hne
    have htake : s.toList.takeWhile (· != separator) = before.toList := by
      rw [hs, takeWhile_append_of_pos hall]
      simp
    have hdrop : s.toList.dropWhile (· != separator) = separator :: after.toList := by
      rw [hs, dropWhile_append_of_pos hall]
      simp
    simp [splitOnce, htake, hdrop]

/-! ## Lengths before fields -/

/-- The bytes of a number from the highest to the lowest, `to_be_bytes` at the given width. -/
def beBytes : ℕ → ℕ → List UInt8
  | 0, _ => []
  | width + 1, n => beBytes width (n / 256) ++ [UInt8.ofNat n]

/-- `from_be_bytes` -/
def ofBeBytes (bytes : List UInt8) : ℕ := bytes.foldl (fun n b => n * 256 + b.toNat) 0

@[simp] lemma length_beBytes (width n : ℕ) : (beBytes width n).length = width := by
  induction width generalizing n with
  | zero => rfl
  | succ width ih => rw [beBytes, length_append, ih, length_singleton]

/-- A number that fits is read back. -/
lemma ofBeBytes_beBytes {width n : ℕ} (h : n < 256 ^ width) : ofBeBytes (beBytes width n) = n := by
  induction width generalizing n with
  | zero =>
    have hn : n = 0 := by simpa using h
    rw [hn]
    rfl
  | succ width ih =>
    have hhigh : ofBeBytes (beBytes width (n / 256)) = n / 256 :=
      ih (Nat.div_lt_of_lt_mul (by rwa [← Nat.pow_succ']))
    have hlow : (UInt8.ofNat n).toNat = n % 256 := UInt8.toNat_ofNat'
    rw [ofBeBytes] at hhigh ⊢
    rw [beBytes, foldl_append, hhigh, foldl_cons, foldl_nil, hlow]
    omega

lemma beBytes_inj {width m n : ℕ} (hm : m < 256 ^ width) (hn : n < 256 ^ width)
    (h : beBytes width m = beBytes width n) : m = n := by
  rw [← ofBeBytes_beBytes hm, h, ofBeBytes_beBytes hn]

/-- A text is determined by its bytes. -/
lemma utf8_inj {s t : String} (h : s.toUTF8.toList = t.toUTF8.toList) : s = t :=
  Option.some.inj ((ofUtf8_eq_some_iff.mpr rfl).symm.trans (ofUtf8_eq_some_iff.mpr h.symm))

lemma length_utf8 (s : String) : s.toUTF8.toList.length = s.utf8ByteSize := by
  rw [byteArray_toList]
  exact Array.length_toList

/-- Texts of equal size before others can be told apart. -/
lemma append_inj_of_size {s s' t t' : String} (hsize : s.utf8ByteSize = s'.utf8ByteSize)
    (h : s ++ t = s' ++ t') : s = s' ∧ t = t' := by
  have happend : ∀ s t : String, (s ++ t).toUTF8.toList = s.toUTF8.toList ++ t.toUTF8.toList := by
    simp only [toList_toUTF8, String.toList_append, flatMap_append, implies_true]
  have hbytes := congrArg (fun s : String => s.toUTF8.toList) h
  simp only [happend] at hbytes
  obtain ⟨hs, ht⟩ := append_inj hbytes (by rw [length_utf8, length_utf8, hsize])
  exact ⟨utf8_inj hs, utf8_inj ht⟩

/-- A line before more text. -/
def line (first rest : String) : String := first ++ "\n" ++ rest

/-- A text after the line with its size. -/
def sized (s rest : String) : String := line (toString s.utf8ByteSize) (s ++ rest)

/-- A line determines its text and what follows it. -/
lemma line_inj {s s' t t' : String} (hs : '\n' ∉ s.toList) (hs' : '\n' ∉ s'.toList)
    (h : line s t = line s' t') : s = s' ∧ t = t' := by
  have hsplit : ∀ {s t : String}, '\n' ∉ s.toList → splitOnce '\n' (line s t) = (s, some t) :=
    fun hs => splitOnce_eq_iff.mpr ⟨by simp [line], hs⟩
  have heq := (hsplit hs).symm.trans ((congrArg _ h).trans (hsplit hs'))
  exact ⟨congrArg Prod.fst heq, Option.some.inj (congrArg Prod.snd heq)⟩

lemma newline_notMem_toString (n : ℕ) : '\n' ∉ (toString n).toList := by
  intro hmem
  have hdigit := Nat.isDigit_of_mem_toDigits (b := 10) (by decide) (by decide)
    (show '\n' ∈ Nat.toDigits 10 n by rwa [← Nat.toList_repr])
  exact absurd hdigit (by decide)

/-- A text with its length in front determines itself and what follows it. -/
lemma sized_inj {s s' t t' : String} (h : sized s t = sized s' t') : s = s' ∧ t = t' := by
  obtain ⟨hsize, hrest⟩ := line_inj (newline_notMem_toString _) (newline_notMem_toString _) h
  exact append_inj_of_size (toString_nat_injective hsize) hrest

/-! ## Base64 -/

/-- The standard alphabet of RFC 4648. -/
def standardChar (n : ℕ) : Char :=
  if n < 26 then Char.ofNat (n + 65)
  else if n < 52 then Char.ofNat (n + 71)
  else if n < 62 then Char.ofNat (n - 4)
  else if n = 62 then '+'
  else '/'

/-- The character of the URL-safe alphabet in the place of one of the standard alphabet. -/
def urlSafeChar (c : Char) : Char := if c = '+' then '-' else if c = '/' then '_' else c

/-- Three bytes as four characters; without padding at the end. -/
def base64Chars (char : ℕ → Char) : List UInt8 → List Char
  | [] => []
  | [a] => [char (a.toNat / 4), char (a.toNat % 4 * 16)]
  | [a, b] =>
    [char (a.toNat / 4), char (a.toNat % 4 * 16 + b.toNat / 16), char (b.toNat % 16 * 4)]
  | a :: b :: c :: rest =>
    char (a.toNat / 4) :: char (a.toNat % 4 * 16 + b.toNat / 16) ::
      char (b.toNat % 16 * 4 + c.toNat / 64) :: char (c.toNat % 64) :: base64Chars char rest

/-- Base64 in the standard alphabet. -/
def base64Standard (bytes : List UInt8) : String := String.ofList (base64Chars standardChar bytes)

/-- Base64 in the alphabet that URLs leave alone. -/
def base64UrlSafe (bytes : List UInt8) : String :=
  String.ofList (base64Chars (urlSafeChar ∘ standardChar) bytes)

lemma base64Chars_comp (f : Char → Char) (char : ℕ → Char) (bytes : List UInt8) :
    base64Chars (f ∘ char) bytes = (base64Chars char bytes).map f := by
  fun_induction base64Chars char bytes with
  | case1 => rfl
  | case2 => rfl
  | case3 => rfl
  | case4 a b c rest ih => simp [base64Chars, ih]

/-- The alphabets differ in two characters. -/
lemma urlSafeChar_eq_self_iff {c : Char} : urlSafeChar c = c ↔ c ≠ '+' ∧ c ≠ '/' := by
  unfold urlSafeChar
  by_cases hplus : c = '+'
  · subst hplus
    decide
  · by_cases hslash : c = '/'
    · subst hslash
      decide
    · simp [hplus, hslash]

/-- The two alphabets spell bytes alike if the standard one does without its last two characters. -/
lemma base64Standard_eq_urlSafe_iff : base64Standard bytes = base64UrlSafe bytes ↔
      ∀ c ∈ (base64Standard bytes).toList, c ≠ '+' ∧ c ≠ '/' := by
  have hmap : base64Standard bytes = base64UrlSafe bytes ↔
      (base64Chars standardChar bytes).map urlSafeChar = (base64Chars standardChar bytes).map id := by
    rw [base64Standard, base64UrlSafe, String.ofList_inj, base64Chars_comp, map_id]
    exact eq_comm
  rw [hmap, map_inj_left, base64Standard, String.toList_ofList]
  exact forall₂_congr fun c _ => urlSafeChar_eq_self_iff

end Text

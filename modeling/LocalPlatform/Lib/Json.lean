import Mathlib.Data.List.Basic
import Mathlib.Tactic

/-!
# JSON

JSON values, the text that a printer without spaces writes for them, and a parser of JSON texts. The
parser reads back what was printed. Decoders of records and of unions with a tag read the members of
an object by name.
-/

/-- A number is whole, or a mantissa with a power of ten if it was written with a fraction or an
exponent. -/
inductive Json where
  | null
  | bool (value : Bool)
  | number (value : ℤ)
  | decimal (mantissa exponent : ℤ)
  | string (value : String)
  | array (items : List Json)
  | object (members : List (String × Json))

namespace Json

open List Prod

/-! ## Printing -/

/-- A digit of a `\u` escape. -/
def hexDigit (n : ℕ) : Char := Nat.digitChar n

/-- A character inside of a string: quotation marks, backslashes and control characters are
escaped. -/
def escapeChar (c : Char) : List Char :=
  if c = '"' then ['\\', '"']
  else if c = '\\' then ['\\', '\\']
  else if c.toNat = 8 then ['\\', 'b']
  else if c.toNat = 9 then ['\\', 't']
  else if c.toNat = 10 then ['\\', 'n']
  else if c.toNat = 12 then ['\\', 'f']
  else if c.toNat = 13 then ['\\', 'r']
  else if c.toNat < 32 then ['\\', 'u', '0', '0', hexDigit (c.toNat / 16), hexDigit (c.toNat % 16)]
  else [c]

/-- The characters of a string and the quotation mark that ends it. -/
def printChars : List Char → List Char
  | [] => ['"']
  | c :: cs => escapeChar c ++ printChars cs

/-- A string literal. -/
def printString (s : String) : List Char := '"' :: printChars s.toList

/-- An integer in decimal. -/
def printNumber (n : ℤ) : List Char :=
  if n < 0 then '-' :: Nat.toDigits 10 n.natAbs else Nat.toDigits 10 n.natAbs

mutual

/-- The text of a value; no white space is written. -/
def print : Json → List Char
  | .null => ['n', 'u', 'l', 'l']
  | .bool true => ['t', 'r', 'u', 'e']
  | .bool false => ['f', 'a', 'l', 's', 'e']
  | .number n => printNumber n
  | .decimal m e => printNumber m ++ 'e' :: printNumber e
  | .string s => printString s
  | .array [] => ['[', ']']
  | .array (item :: items) => '[' :: (print item ++ printItems items)
  | .object [] => ['{', '}']
  | .object ((key, value) :: members) =>
    '{' :: (printString key ++ ':' :: (print value ++ printMembers members))

/-- What follows an item of an array. -/
def printItems : List Json → List Char
  | [] => [']']
  | item :: items => ',' :: (print item ++ printItems items)

/-- What follows a member of an object. -/
def printMembers : List (String × Json) → List Char
  | [] => ['}']
  | (key, value) :: members =>
    ',' :: (printString key ++ ':' :: (print value ++ printMembers members))

end

/-- `JSON.stringify`, `serde_json::to_string` -/
def stringify (j : Json) : String := String.ofList (print j)

/-! ## Parsing -/

/-- The white space of JSON. -/
def isSpace (c : Char) : Bool := c.toNat = 32 || c.toNat = 9 || c.toNat = 10 || c.toNat = 13

/-- The text after its leading white space. -/
def skipSpace (cs : List Char) : List Char := cs.dropWhile isSpace

/-- The value of a hexadecimal digit in either case. -/
def hexValue (c : Char) : Option ℕ :=
  if '0' ≤ c ∧ c ≤ '9' then some (c.toNat - 48)
  else if 'a' ≤ c ∧ c ≤ 'f' then some (c.toNat - 87)
  else if 'A' ≤ c ∧ c ≤ 'F' then some (c.toNat - 55)
  else none

/-- Four hexadecimal digits. -/
def parseHex : List Char → Option (ℕ × List Char)
  | a :: b :: c :: d :: rest => do
    let a ← hexValue a
    let b ← hexValue b
    let c ← hexValue c
    let d ← hexValue d
    pure (((a * 16 + b) * 16 + c) * 16 + d, rest)
  | _ => none

/-- The code unit after `\u`, and the second one of a surrogate pair. -/
def parseUnicode (cs : List Char) : Option (Char × List Char) := do
  let (high, rest) ← parseHex cs
  if 0xD800 ≤ high ∧ high < 0xDC00 then
    match rest with
    | '\\' :: 'u' :: rest =>
      let (low, rest) ← parseHex rest
      if 0xDC00 ≤ low ∧ low < 0xE000 then
        pure (Char.ofNat (0x10000 + (high - 0xD800) * 0x400 + (low - 0xDC00)), rest)
      else none
    | _ => none
  else if 0xDC00 ≤ high ∧ high < 0xE000 then none
  else pure (Char.ofNat high, rest)

/-- The character that an escape stands for, after the backslash. -/
def parseEscape : List Char → Option (Char × List Char)
  | [] => none
  | c :: rest =>
    if c = '"' ∨ c = '\\' ∨ c = '/' then some (c, rest)
    else if c = 'b' then some (Char.ofNat 8, rest)
    else if c = 't' then some (Char.ofNat 9, rest)
    else if c = 'n' then some (Char.ofNat 10, rest)
    else if c = 'f' then some (Char.ofNat 12, rest)
    else if c = 'r' then some (Char.ofNat 13, rest)
    else if c = 'u' then parseUnicode rest
    else none

/-- A string up to the quotation mark that ends it. Every character takes some fuel. -/
def parseChars : ℕ → List Char → Option (List Char × List Char)
  | 0, _ => none
  | _ + 1, [] => none
  | fuel + 1, c :: cs =>
    if c = '"' then some ([], cs)
    else if c = '\\' then do
      let (c, rest) ← parseEscape cs
      (parseChars fuel rest).map fun (read, rest) => (c :: read, rest)
    else if c.toNat < 32 then none
    else (parseChars fuel cs).map fun (read, rest) => (c :: read, rest)

/-- The rest of a string literal, after its opening quote. -/
def parseString (cs : List Char) : Option (String × List Char) :=
  (parseChars cs.length cs).map fun (read, rest) => (String.ofList read, rest)

/-- A natural number without leading zeros. -/
def parseDigits (cs : List Char) : Option (ℕ × List Char) :=
  let digits := cs.takeWhile Char.isDigit
  if digits = [] ∨ digits.head? = some '0' ∧ digits ≠ ['0'] then none
  else some (Nat.ofDigitChars 10 digits 0, cs.dropWhile Char.isDigit)

/-- Some digits, at least one. -/
def someDigits (cs : List Char) : Option (List Char × List Char) :=
  if cs.takeWhile Char.isDigit = [] then none
  else some (cs.takeWhile Char.isDigit, cs.dropWhile Char.isDigit)

/-- The digits after a dot, if there is one. -/
def parseFraction : List Char → Option (List Char × List Char)
  | '.' :: cs => someDigits cs
  | cs => some ([], cs)

/-- A sign, if there is one. -/
def parseSign : List Char → ℤ × List Char
  | '+' :: cs => (1, cs)
  | '-' :: cs => (-1, cs)
  | cs => (1, cs)

/-- The digits of an exponent, after its sign. -/
def parseExponentDigits (sign : ℤ) (cs : List Char) : Option (Option ℤ × List Char) :=
  (someDigits cs).map fun (digits, rest) => (some (sign * Nat.ofDigitChars 10 digits 0), rest)

/-- The exponent, if there is one. -/
def parseExponent : List Char → Option (Option ℤ × List Char)
  | [] => some (none, [])
  | c :: cs =>
    if c = 'e' ∨ c = 'E' then parseExponentDigits (parseSign cs).1 (parseSign cs).2
    else some (none, c :: cs)

/-- A number after its sign. A negative zero is no whole number. -/
def parseNumber (sign : ℤ) (cs : List Char) : Option (Json × List Char) := do
  let (whole, rest) ← parseDigits cs
  let (fraction, rest) ← parseFraction rest
  let (exponent, rest) ← parseExponent rest
  if fraction = [] ∧ exponent = none ∧ (sign = 1 ∨ whole ≠ 0) then
    pure (.number (sign * whole), rest)
  else
    pure (.decimal (sign * Nat.ofDigitChars 10 fraction whole)
      (exponent.getD 0 - fraction.length), rest)

/-- The rest after a word. -/
def parseWord (word : List Char) (cs : List Char) : Option (List Char) :=
  if word.isPrefixOf cs then some (cs.drop word.length) else none

mutual

/-- Reads one value; the fuel bounds the depth and the number of items. -/
def parseValue : ℕ → List Char → Option (Json × List Char)
  | 0, _ => none
  | fuel + 1, cs =>
    match skipSpace cs with
    | [] => none
    | c :: rest =>
      if c = 'n' then (parseWord ['u', 'l', 'l'] rest).map fun rest => (.null, rest)
      else if c = 't' then (parseWord ['r', 'u', 'e'] rest).map fun rest => (.bool true, rest)
      else if c = 'f' then (parseWord ['a', 'l', 's', 'e'] rest).map fun rest => (.bool false, rest)
      else if c = '"' then (parseString rest).map fun (s, rest) => (.string s, rest)
      else if c = '[' then
        match skipSpace rest with
        | ']' :: rest => some (.array [], rest)
        | _ => do
          let (item, rest) ← parseValue fuel rest
          let (items, rest) ← parseItems fuel rest
          pure (.array (item :: items), rest)
      else if c = '{' then
        match skipSpace rest with
        | '}' :: rest => some (.object [], rest)
        | _ => do
          let (member, rest) ← parseMember fuel rest
          let (members, rest) ← parseMembers fuel rest
          pure (.object (member :: members), rest)
      else if c = '-' then parseNumber (-1) rest
      else parseNumber 1 (c :: rest)

/-- What follows an item of an array. -/
def parseItems : ℕ → List Char → Option (List Json × List Char)
  | 0, _ => none
  | fuel + 1, cs =>
    match skipSpace cs with
    | ']' :: rest => some ([], rest)
    | ',' :: rest => do
      let (item, rest) ← parseValue fuel rest
      let (items, rest) ← parseItems fuel rest
      pure (item :: items, rest)
    | _ => none

/-- Reads a key, the colon and its value. -/
def parseMember : ℕ → List Char → Option ((String × Json) × List Char)
  | 0, _ => none
  | fuel + 1, cs =>
    match skipSpace cs with
    | '"' :: rest => do
      let (key, rest) ← parseString rest
      match skipSpace rest with
      | ':' :: rest =>
        let (value, rest) ← parseValue fuel rest
        pure ((key, value), rest)
      | _ => none
    | _ => none

/-- What follows a member of an object. -/
def parseMembers : ℕ → List Char → Option (List (String × Json) × List Char)
  | 0, _ => none
  | fuel + 1, cs =>
    match skipSpace cs with
    | '}' :: rest => some ([], rest)
    | ',' :: rest => do
      let (member, rest) ← parseMember fuel rest
      let (members, rest) ← parseMembers fuel rest
      pure (member :: members, rest)
    | _ => none

end

/-- A text with one value in it. -/
def parse (text : String) : Option Json :=
  match parseValue (text.toList.length + 1) text.toList with
  | some (j, rest) => if (skipSpace rest).isEmpty then some j else none
  | none => none

/-! ## Strings -/

lemma hexValue_hexDigit : ∀ n < 16, hexValue (hexDigit n) = some n := by decide

/-- The escape of a character is read as the character. -/
lemma parseChars_escapeChar (fuel : ℕ) (c : Char) (cs : List Char) :
    parseChars (fuel + 1) (escapeChar c ++ cs) =
      (parseChars fuel cs).map fun (read, rest) => (c :: read, rest) := by
  have hofNat : ∀ {n}, c.toNat = n → Char.ofNat n = c := fun hn => hn ▸ Char.ofNat_toNat c
  unfold escapeChar
  split_ifs with hquote hbackslash h8 h9 h10 h12 h13 hcontrol
  · subst hquote
    simp [parseChars, parseEscape]
  · subst hbackslash
    simp [parseChars, parseEscape]
  · simp [parseChars, parseEscape, ← hofNat h8]
  · simp [parseChars, parseEscape, ← hofNat h9]
  · simp [parseChars, parseEscape, ← hofNat h10]
  · simp [parseChars, parseEscape, ← hofNat h12]
  · simp [parseChars, parseEscape, ← hofNat h13]
  · have hzero : hexValue '0' = some 0 := rfl
    have hhigh := hexValue_hexDigit (c.toNat / 16) (by omega)
    have hlow := hexValue_hexDigit (c.toNat % 16) (by omega)
    have hcode : c.toNat / 16 * 16 + c.toNat % 16 = c.toNat := Nat.div_add_mod' _ _
    have hsmall : ¬ (0xD800 ≤ c.toNat ∧ c.toNat < 0xDC00) := by omega
    have hsmall' : ¬ (0xDC00 ≤ c.toNat ∧ c.toNat < 0xE000) := by omega
    simp [parseChars, parseEscape, parseUnicode, parseHex, hzero, hhigh, hlow, hcode, hsmall,
      hsmall', Char.ofNat_toNat]
  · simp [parseChars, hquote, hbackslash, hcontrol]

lemma length_escapeChar_pos (c : Char) : 0 < (escapeChar c).length := by
  unfold escapeChar
  split_ifs <;> simp

/-- Escaped characters are read back. -/
lemma parseChars_printChars (cs rest : List Char) {fuel : ℕ}
    (hfuel : (printChars cs).length ≤ fuel) :
    parseChars fuel (printChars cs ++ rest) = some (cs, rest) := by
  induction cs generalizing fuel with
  | nil =>
    obtain ⟨fuel, rfl⟩ : ∃ n, fuel = n + 1 := Nat.exists_eq_add_of_le' hfuel
    simp [printChars, parseChars]
  | cons c cs ih =>
    have hpos := length_escapeChar_pos c
    rw [printChars, length_append] at hfuel
    obtain ⟨fuel, rfl⟩ : ∃ n, fuel = n + 1 := Nat.exists_eq_add_of_le' (by omega : 1 ≤ fuel)
    have hrest := ih (by omega : (printChars cs).length ≤ fuel)
    rw [printChars, append_assoc, parseChars_escapeChar, hrest]
    rfl

/-- A printed string is read back. -/
lemma parseString_printChars (s : String) (rest : List Char) :
    parseString (printChars s.toList ++ rest) = some (s, rest) := by
  have hfuel : (printChars s.toList).length ≤ (printChars s.toList ++ rest).length := by simp
  rw [parseString, parseChars_printChars _ _ hfuel]
  simp

/-! ## Numbers -/

/-- The text does not go on with a digit. -/
def EndsDigits (rest : List Char) : Prop := ∀ c ∈ rest.head?, c.isDigit = false

/-- And not with a fraction or an exponent either. -/
def EndsNumber (rest : List Char) : Prop :=
  EndsDigits rest ∧ ∀ c ∈ rest.head?, c ≠ '.' ∧ c ≠ 'e' ∧ c ≠ 'E'

/-- A positive number is printed without a leading zero. -/
lemma head_toDigits {n : ℕ} (hn : 0 < n) : (Nat.toDigits 10 n).head? ≠ some '0' := by
  induction n using Nat.strong_induction_on with
  | _ n ih =>
    by_cases hlt : n < 10
    · interval_cases n <;> decide
    · have hdiv : 0 < n / 10 := by omega
      have hhead := ih (n / 10) (by omega) hdiv
      rw [Nat.toDigits_of_base_le (by decide) (by omega), head?_append]
      have hne : Nat.toDigits 10 (n / 10) ≠ [] := Nat.toDigits_ne_nil
      obtain ⟨d, _, hds⟩ := exists_cons_of_ne_nil hne
      rw [hds] at hhead ⊢
      exact hhead

lemma isDigit_toDigits (n : ℕ) : ∀ c ∈ Nat.toDigits 10 n, c.isDigit = true :=
  fun _ hc => Nat.isDigit_of_mem_toDigits (by decide) (by decide) hc

section
variable (n : ℕ) {rest : List Char} (hrest : EndsDigits rest)
include hrest

/-- The digits end where the number ends. -/
lemma takeWhile_toDigits :
    (Nat.toDigits 10 n ++ rest).takeWhile Char.isDigit = Nat.toDigits 10 n := by
  have hnone : rest.takeWhile Char.isDigit = [] := by
    cases rest with
    | nil => rfl
    | cons c rest => rw [takeWhile_cons, if_neg (by simp [hrest c rfl])]
  rw [takeWhile_append_of_pos (isDigit_toDigits n), hnone, append_nil]

lemma dropWhile_toDigits : (Nat.toDigits 10 n ++ rest).dropWhile Char.isDigit = rest := by
  have hall : rest.dropWhile Char.isDigit = rest := by
    cases rest with
    | nil => rfl
    | cons c rest => rw [dropWhile_cons, if_neg (by simp [hrest c rfl])]
  rw [dropWhile_append_of_pos (isDigit_toDigits n), hall]

/-- A printed number is read back. -/
lemma parseDigits_toDigits : parseDigits (Nat.toDigits 10 n ++ rest) = some (n, rest) := by
  have hleading : ¬ (Nat.toDigits 10 n = [] ∨
      (Nat.toDigits 10 n).head? = some '0' ∧ Nat.toDigits 10 n ≠ ['0']) := by
    rintro (hnil | ⟨hhead, hne⟩)
    · exact Nat.toDigits_ne_nil hnil
    · rcases Nat.eq_zero_or_pos n with rfl | hpos
      · exact hne rfl
      · exact head_toDigits hpos hhead
  simp only [parseDigits, takeWhile_toDigits n hrest, dropWhile_toDigits n hrest, if_neg hleading,
    Nat.ofDigitChars_ten_toDigits]

lemma parseExponentDigits_toDigits (sign : ℤ) :
    parseExponentDigits sign (Nat.toDigits 10 n ++ rest) = some (some (sign * n), rest) := by
  have hne : Nat.toDigits 10 n ≠ [] := Nat.toDigits_ne_nil
  simp only [parseExponentDigits, someDigits, takeWhile_toDigits n hrest,
    dropWhile_toDigits n hrest, if_neg hne, Option.map_some, Nat.ofDigitChars_ten_toDigits]

end

/-! ## Values -/

lemma skipSpace_cons {c : Char} (hc : isSpace c = false) (cs : List Char) :
    skipSpace (c :: cs) = c :: cs := by
  rw [skipSpace, dropWhile_cons, if_neg (by simp [hc])]

lemma parseWord_append (word rest : List Char) : parseWord word (word ++ rest) = some rest := by
  have hword : word.isPrefixOf (word ++ rest) = true := by simp
  rw [parseWord, if_pos hword, drop_left]

/-- Digits begin none of the other values. -/
lemma digit_ne {c : Char} (hc : c.isDigit = true) :
    isSpace c = false ∧ c ≠ 'n' ∧ c ≠ 't' ∧ c ≠ 'f' ∧ c ≠ '"' ∧ c ≠ '[' ∧ c ≠ '{' ∧ c ≠ '-' ∧
      c ≠ ']' := by
  have hrange : 48 ≤ c.toNat ∧ c.toNat ≤ 57 := by
    simpa [Char.isDigit, UInt32.le_iff_toNat_le] using hc
  have hne : ∀ d : Char, d.toNat < 48 ∨ 57 < d.toNat → c ≠ d := by
    rintro d hd rfl
    omega
  refine ⟨?_, ?_, ?_, ?_, ?_, ?_, ?_, ?_, ?_⟩
  · simp only [isSpace, Bool.or_eq_false_iff, decide_eq_false_iff_not]
    omega
  all_goals exact hne _ (by decide)

lemma toDigits_cons (n : ℕ) : ∃ d ds, Nat.toDigits 10 n = d :: ds ∧ d.isDigit = true := by
  have hne : Nat.toDigits 10 n ≠ [] := Nat.toDigits_ne_nil
  obtain ⟨d, ds, hds⟩ := exists_cons_of_ne_nil hne
  have hmem : d ∈ Nat.toDigits 10 n := hds ▸ mem_cons_self
  exact ⟨d, ds, hds, Nat.isDigit_of_mem_toDigits (by decide) (by decide) hmem⟩

/-- A printed number starts with neither white space nor a bracket. -/
lemma printNumber_cons (n : ℤ) :
    ∃ c cs, printNumber n = c :: cs ∧ isSpace c = false ∧ c ≠ ']' := by
  rw [printNumber]
  split_ifs
  · exact ⟨_, _, rfl, by decide, by decide⟩
  · obtain ⟨d, ds, hds, hd⟩ := toDigits_cons n.natAbs
    obtain ⟨hspace, -, -, -, -, -, -, -, hclose⟩ := digit_ne hd
    exact ⟨d, ds, hds, hspace, hclose⟩

/-- A value does not begin like white space or like the end of an array. -/
lemma print_cons (j : Json) : ∃ c cs, print j = c :: cs ∧ isSpace c = false ∧ c ≠ ']' := by
  match j with
  | .null => exact ⟨_, _, by rw [print], by decide, by decide⟩
  | .bool true => exact ⟨_, _, by rw [print], by decide, by decide⟩
  | .bool false => exact ⟨_, _, by rw [print], by decide, by decide⟩
  | .number n =>
    rw [print]
    exact printNumber_cons n
  | .decimal m e =>
    obtain ⟨c, cs, hcs, hc⟩ := printNumber_cons m
    exact ⟨c, cs ++ 'e' :: printNumber e, by rw [print, hcs, cons_append], hc⟩
  | .string s => exact ⟨_, _, by rw [print, printString], by decide, by decide⟩
  | .array [] => exact ⟨_, _, by rw [print], by decide, by decide⟩
  | .array (item :: items) => exact ⟨_, _, by rw [print], by decide, by decide⟩
  | .object [] => exact ⟨_, _, by rw [print], by decide, by decide⟩
  | .object ((key, value) :: members) => exact ⟨_, _, by rw [print], by decide, by decide⟩

/-- A number in an array is followed by a comma or a bracket. -/
lemma endsNumber_printItems (items : List Json) (rest : List Char) :
    EndsNumber (printItems items ++ rest) := by
  cases items with
  | nil => simp [printItems, EndsNumber, EndsDigits]
  | cons item items => simp [printItems, EndsNumber, EndsDigits]

/-- A number in an object is followed by a comma or a brace. -/
lemma endsNumber_printMembers (members : List (String × Json)) (rest : List Char) :
    EndsNumber (printMembers members ++ rest) := by
  cases members with
  | nil => simp [printMembers, EndsNumber, EndsDigits]
  | cons member members => simp [printMembers, EndsNumber, EndsDigits]

/-- The sign of a number goes to the parser of its digits. -/
lemma parseValue_printNumber (n : ℤ) (rest : List Char) (fuel : ℕ) :
    parseValue (fuel + 1) (printNumber n ++ rest) =
      parseNumber (if n < 0 then -1 else 1) (Nat.toDigits 10 n.natAbs ++ rest) := by
  rw [printNumber]
  split_ifs with hneg
  · rw [cons_append, parseValue, skipSpace_cons (by decide)]
    simp
  · obtain ⟨d, _, hds, hd⟩ := toDigits_cons n.natAbs
    obtain ⟨hspace, hnull, htrue, hfalse, hquote, harray, hobject, hminus, -⟩ := digit_ne hd
    rw [hds, cons_append, parseValue, skipSpace_cons hspace]
    simp [hnull, htrue, hfalse, hquote, harray, hobject, hminus]

lemma sign_mul_natAbs (n : ℤ) : (if n < 0 then -1 else 1) * (n.natAbs : ℤ) = n := by
  split_ifs <;> omega

/-- Without a point there is no fraction. -/
lemma parseFraction_of_ends {rest : List Char} (h : ∀ c ∈ rest.head?, c ≠ '.') :
    parseFraction rest = some ([], rest) := by
  unfold parseFraction
  split
  · exact absurd rfl (h '.' rfl)
  · rfl

/-- Without an `e` there is no exponent. -/
lemma parseExponent_of_ends {rest : List Char} (hrest : EndsNumber rest) :
    parseExponent rest = some (none, rest) := by
  cases rest with
  | nil => rfl
  | cons c cs =>
    obtain ⟨-, hlower, hupper⟩ := hrest.2 c rfl
    rw [parseExponent, if_neg (by simp [hlower, hupper])]

lemma parseSign_printNumber (e : ℤ) (rest : List Char) :
    parseSign (printNumber e ++ rest) =
      (if e < 0 then -1 else 1, Nat.toDigits 10 e.natAbs ++ rest) := by
  rw [printNumber]
  split_ifs with hneg
  · rfl
  · obtain ⟨d, _, hds, hd⟩ := toDigits_cons e.natAbs
    have hplus : d ≠ '+' := by
      rintro rfl
      cases hd
    obtain ⟨-, -, -, -, -, -, -, hminus, -⟩ := digit_ne hd
    rw [hds, cons_append]
    simp [parseSign, hplus, hminus]

/-- A printed exponent is read back. -/
lemma parseExponent_printNumber (e : ℤ) {rest : List Char} (hrest : EndsDigits rest) :
    parseExponent ('e' :: (printNumber e ++ rest)) = some (some e, rest) := by
  rw [parseExponent, if_pos (.inl rfl), parseSign_printNumber,
    parseExponentDigits_toDigits e.natAbs hrest, sign_mul_natAbs]

/-- A printed integer is read back as one. -/
lemma parseValue_number (n : ℤ) {rest : List Char} (hrest : EndsNumber rest) (fuel : ℕ) :
    parseValue (fuel + 1) (printNumber n ++ rest) = some (.number n, rest) := by
  have hfrac : parseFraction rest = some ([], rest) :=
    parseFraction_of_ends fun c hc => (hrest.2 c hc).1
  have hsign : (if n < 0 then -1 else 1) = (1 : ℤ) ∨ n.natAbs ≠ 0 := by
    split_ifs with hneg
    · exact .inr (by omega)
    · exact .inl rfl
  rw [parseValue_printNumber, parseNumber]
  simp only [parseDigits_toDigits n.natAbs hrest.1, hfrac, parseExponent_of_ends hrest,
    Option.bind_eq_bind, Option.bind_some, true_and, if_pos hsign, sign_mul_natAbs]
  rfl

/-- A printed decimal is read back as one. -/
lemma parseValue_decimal (m e : ℤ) {rest : List Char} (hrest : EndsNumber rest) (fuel : ℕ) :
    parseValue (fuel + 1) ((printNumber m ++ 'e' :: printNumber e) ++ rest) =
      some (.decimal m e, rest) := by
  have hends : EndsDigits ('e' :: (printNumber e ++ rest)) := by
    rintro c ⟨⟩
    rfl
  have hfrac : parseFraction ('e' :: (printNumber e ++ rest)) =
      some ([], 'e' :: (printNumber e ++ rest)) :=
    parseFraction_of_ends fun c hc => by cases hc; decide
  rw [append_assoc, cons_append, parseValue_printNumber, parseNumber]
  simp only [parseDigits_toDigits m.natAbs hends, hfrac, parseExponent_printNumber e hrest.1,
    Option.bind_eq_bind, Option.bind_some, reduceCtorEq, false_and, and_false, if_false]
  have hmantissa : Nat.ofDigitChars 10 [] m.natAbs = m.natAbs := rfl
  rw [hmantissa, sign_mul_natAbs]
  simp

/-- A printed member is read back, given that its value is. -/
lemma parseMember_print (key : String) {value : Json} {rest : List Char} {fuel : ℕ}
    (hvalue : parseValue fuel (print value ++ rest) = some (value, rest)) :
    parseMember (fuel + 1) (printString key ++ ':' :: (print value ++ rest)) =
      some ((key, value), rest) := by
  rw [printString, cons_append, parseMember, skipSpace_cons (by decide)]
  simp only [parseString_printChars, Option.bind_eq_bind, Option.bind_some]
  rw [skipSpace_cons (by decide)]
  simp [hvalue]

mutual

/-- A printed value is read back; the length of the text is enough fuel. -/
lemma parseValue_print (j : Json) {rest : List Char} (hrest : EndsNumber rest) {fuel : ℕ}
    (hfuel : (print j).length ≤ fuel) : parseValue fuel (print j ++ rest) = some (j, rest) := by
  -- a printed value is not empty, so there is fuel for its first character
  obtain ⟨c, _, hprint, _, _⟩ := print_cons j
  obtain ⟨fuel, rfl⟩ : ∃ n, fuel = n + 1 := by
    rw [hprint] at hfuel
    exact Nat.exists_eq_add_of_le' (by simp at hfuel; omega : 1 ≤ fuel)
  match j with
  | .null =>
    have hword := parseWord_append ['u', 'l', 'l'] rest
    rw [print, cons_append, parseValue, skipSpace_cons (by decide)]
    simpa using hword
  | .bool true =>
    have hword := parseWord_append ['r', 'u', 'e'] rest
    rw [print, cons_append, parseValue, skipSpace_cons (by decide)]
    simpa using hword
  | .bool false =>
    have hword := parseWord_append ['a', 'l', 's', 'e'] rest
    rw [print, cons_append, parseValue, skipSpace_cons (by decide)]
    simpa using hword
  | .number n =>
    exact parseValue_number n hrest fuel
  | .decimal m e =>
    rw [print]
    exact parseValue_decimal m e hrest fuel
  | .string s =>
    rw [print, printString, cons_append, parseValue, skipSpace_cons (by decide)]
    simp [parseString_printChars]
  | .array [] =>
    rw [print, cons_append, parseValue, skipSpace_cons (by decide)]
    simp [skipSpace, isSpace]
  | .array (item :: items) =>
    rw [print, length_cons, length_append] at hfuel
    have hitem := parseValue_print item (endsNumber_printItems items rest)
      (by omega : (print item).length ≤ fuel)
    have hitems := parseItems_print items rest (by omega : (printItems items).length ≤ fuel)
    obtain ⟨d, ds, hd, hdspace, hdclose⟩ := print_cons item
    rw [print, cons_append, parseValue, skipSpace_cons (by decide), append_assoc]
    have hskip : skipSpace (print item ++ (printItems items ++ rest)) =
        d :: (ds ++ (printItems items ++ rest)) := by
      rw [hd, cons_append, skipSpace_cons hdspace]
    simp [hskip, hdclose, hitem, hitems]
  | .object [] =>
    rw [print, cons_append, parseValue, skipSpace_cons (by decide)]
    simp [skipSpace, isSpace]
  | .object ((key, value) :: members) =>
    rw [print, length_cons, length_append, length_cons, length_append] at hfuel
    obtain ⟨fuel, rfl⟩ : ∃ n, fuel = n + 1 := Nat.exists_eq_add_of_le' (by omega : 1 ≤ fuel)
    have hvalue := parseValue_print value (endsNumber_printMembers members rest)
      (by omega : (print value).length ≤ fuel)
    have hmemb := parseMember_print key hvalue
    have hmembers := parseMembers_print members rest
      (by omega : (printMembers members).length ≤ fuel + 1)
    rw [print, cons_append, parseValue, skipSpace_cons (by decide)]
    have hskip : skipSpace
        (printString key ++ ':' :: (print value ++ (printMembers members ++ rest))) =
        '"' :: (printChars key.toList ++ ':' :: (print value ++ (printMembers members ++ rest))) := by
      rw [printString, cons_append, skipSpace_cons (by decide)]
    simp [hskip, hmemb, hmembers]

/-- The same for the rest of an array. -/
lemma parseItems_print (items : List Json) (rest : List Char) {fuel : ℕ}
    (hfuel : (printItems items).length ≤ fuel) :
    parseItems fuel (printItems items ++ rest) = some (items, rest) := by
  match items with
  | [] =>
    obtain ⟨fuel, rfl⟩ : ∃ n, fuel = n + 1 := Nat.exists_eq_add_of_le' hfuel
    rw [printItems, cons_append, parseItems, skipSpace_cons (by decide)]
    simp
  | item :: items =>
    rw [printItems, length_cons, length_append] at hfuel
    obtain ⟨fuel, rfl⟩ : ∃ n, fuel = n + 1 := Nat.exists_eq_add_of_le' (by omega : 1 ≤ fuel)
    have hitem := parseValue_print item (endsNumber_printItems items rest)
      (by omega : (print item).length ≤ fuel)
    have hitems := parseItems_print items rest (by omega : (printItems items).length ≤ fuel)
    rw [printItems, cons_append, parseItems, skipSpace_cons (by decide), append_assoc]
    simp [hitem, hitems]

/-- The same for the rest of an object. -/
lemma parseMembers_print (members : List (String × Json)) (rest : List Char) {fuel : ℕ}
    (hfuel : (printMembers members).length ≤ fuel) :
    parseMembers fuel (printMembers members ++ rest) = some (members, rest) := by
  match members with
  | [] =>
    obtain ⟨fuel, rfl⟩ : ∃ n, fuel = n + 1 := Nat.exists_eq_add_of_le' hfuel
    rw [printMembers, cons_append, parseMembers, skipSpace_cons (by decide)]
    simp
  | (key, value) :: members =>
    rw [printMembers, length_cons, length_append, length_cons, length_append]
      at hfuel
    obtain ⟨fuel, rfl⟩ : ∃ n, fuel = n + 2 := Nat.exists_eq_add_of_le' (by omega : 2 ≤ fuel)
    have hvalue := parseValue_print value (endsNumber_printMembers members rest)
      (by omega : (print value).length ≤ fuel)
    have hmemb := parseMember_print key hvalue
    have hmembers := parseMembers_print members rest
      (by omega : (printMembers members).length ≤ fuel + 1)
    rw [printMembers, cons_append, parseMembers, skipSpace_cons (by decide)]
    simp [hmemb, hmembers]

end

/-- Parsing inverts printing. -/
theorem parse_stringify (j : Json) : parse (stringify j) = some j := by
  have hends : EndsNumber [] := by simp [EndsNumber, EndsDigits]
  have hvalue := parseValue_print j hends (Nat.le_succ (print j).length)
  rw [append_nil] at hvalue
  simp [parse, stringify, hvalue, skipSpace]

/-! ## Limits of a parser -/

/-- The least number that a double rounds to infinity. -/
@[irreducible] def doubleBound : ℕ := 2 ^ 1024 - 2 ^ 970

/-- The nearest double of a decimal is finite. -/
def isFinite (mantissa exponent : ℤ) : Bool :=
  mantissa.natAbs * 10 ^ exponent.toNat < doubleBound * 10 ^ (-exponent).toNat

/-- No array or object is nested more deeply, and every number fits a double. -/
def withinLimits : ℕ → Json → Bool
  | _, .null | _, .bool _ | _, .string _ => true
  | _, .number n => isFinite n 0
  | _, .decimal m e => isFinite m e
  | 0, .array _ | 0, .object _ => false
  | depth + 1, .array items => items.all (withinLimits depth)
  | depth + 1, .object members => members.all fun member => withinLimits depth member.2

/-! ## Decoding -/

/-- The value under a name, if there is one. As in a derived decoder, a name that occurs twice is
an error. -/
def optionalField {α : Type} (members : List (String × α)) (name : String) : Option (Option α) :=
  match members.filter (·.1 == name) with
  | [] => some none
  | [member] => some (some member.2)
  | _ => none

/-- A member that has to be there. -/
def field {α : Type} (members : List (String × α)) (name : String) : Option α :=
  (optionalField members name).join

/-- The text of a string value. -/
def asString : Json → Option String
  | .string s => some s
  | _ => none

/-- A number with a fraction or an exponent. -/
def isDecimal : Json → Bool
  | .decimal _ _ => true
  | _ => false

/-- A number in the range of a byte. -/
def asByte : Json → Option UInt8
  | .number n => if 0 ≤ n ∧ n < 256 then some (UInt8.ofNat n.toNat) else none
  | _ => none

/-- An array, every item of which can be decoded. -/
def asList {α : Type} (decode : Json → Option α) : Json → Option (List α)
  | .array items => items.mapM decode
  | _ => none

/-- A byte as a number. -/
def ofByte (b : UInt8) : Json := .number b.toNat

@[simp] lemma asByte_ofByte (b : UInt8) : asByte (ofByte b) = some b := by
  have hlt : b.toNat < 256 := b.toNat_lt
  have hrange : (0 : ℤ) ≤ b.toNat ∧ (b.toNat : ℤ) < 256 := by omega
  simp [asByte, ofByte, hrange]

@[simp] lemma withinLimits_ofByte (depth : ℕ) (b : UInt8) : withinLimits depth (ofByte b) = true := by
  have hlt : b.toNat < 256 := b.toNat_lt
  have hbound : 256 ≤ doubleBound := by decide +kernel
  have hfinite : b.toNat * 10 ^ 0 < doubleBound * 10 ^ 0 := by
    rw [pow_zero, mul_one, mul_one]
    exact hlt.trans_le hbound
  cases depth <;> exact decide_eq_true hfinite

/-- A list is decoded if each of its items is. -/
lemma asList_map {α : Type} {encode : α → Json} {decode : Json → Option α}
    (hdec : ∀ a, decode (encode a) = some a) (items : List α) :
    asList decode (.array (items.map encode)) = some items := by
  rw [asList]
  induction items with
  | nil => rfl
  | cons a items ih => simp [hdec, ih]

/-! ## Members that may be absent -/

/-- The members of an object, without those that have no value. -/
def present (fields : List (String × Option Json)) : List (String × Json) :=
  fields.filterMap fun field => field.2.map fun value => (field.1, value)

/-- The value under a name; the last member of that name counts. -/
def lastMember (members : List (String × Json)) (name : String) : Option Json :=
  (members.reverse.find? (·.1 == name)).map Prod.snd

end Json

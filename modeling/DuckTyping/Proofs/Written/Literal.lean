import DuckTyping.Proofs.Conversion.Reading
import DuckTyping.Scan.Token
import DuckTyping.Text.Literal

/-!
# Written strings

A string is written between quotes, and each of its characters in one of several ways: as itself
where it needs no escape, by a short escape where it has one, by its number, or by the numbers of a
surrogate pair.  The scanner takes a string from every text in which it is written, and leaves what
follows.

Main definitions:

- `Written.Character`: the ways in which a character is written.
- `Written.Literal`: a string is written as a text.
- `Scan.Takes`: a scanner takes a text off the front of whatever follows it.

Main results:

- `Scan.stringCharacters_written`: the characters of a string are taken however they are written.
- `Scan.string_written`: a string is taken from what stands after its opening quote.
- `Written.literal_of_content`: string literals are a way to write strings.
-/

namespace DuckTyping

/-! ## Ways to write a string -/

namespace Written

/-- A hexadecimal digit of either case. -/
inductive HexDigit : Nat → Char → Prop where
  | lower {value : Nat} (hvalue : value < 16) : HexDigit value (Nat.digitChar value)
  | upper {value : Nat} (hvalue : value < 16) : HexDigit value (Nat.digitChar value).toUpper

/-- A number of 16 bits as four hexadecimal digits. -/
inductive HexUnit : Nat → List Char → Prop where
  | digits {a b c d : Nat} {first second third fourth : Char}
      (ha : HexDigit a first) (hb : HexDigit b second) (hc : HexDigit c third)
      (hd : HexDigit d fourth) :
      HexUnit (((a * 16 + b) * 16 + c) * 16 + d) [first, second, third, fourth]

/-- The marks of the short escapes, with the characters that they denote. -/
def shortEscapes : List (Char × Char) :=
  [('"', '"'), ('\\', '\\'), ('/', '/'), ('b', '\x08'), ('f', '\x0C'), ('n', '\n'), ('r', '\r'),
    ('t', '\t')]

/-- The ways in which a character is written. -/
inductive Character : Char → List Char → Prop where
  /-- Quotes, backslashes and control characters do not stand for themselves. -/
  | plain {c : Char} (hquote : c ≠ '"') (hbackslash : c ≠ '\\') (hcontrol : 0x20 ≤ c.toNat) :
      Character c [c]
  | short {mark c : Char} (hmark : (mark, c) ∈ shortEscapes) : Character c ['\\', mark]
  | numbered {c : Char} {unit : List Char} (hunit : HexUnit c.toNat unit) :
      Character c ('\\' :: 'u' :: unit)
  /-- A character beyond 16 bits, by the two halves of its surrogate pair. -/
  | paired {c : Char} {high low : Nat} {first second : List Char}
      (hhigh : high < 0x400) (hlow : low < 0x400)
      (hc : c.toNat = 0x10000 + high * 0x400 + low)
      (hfirst : HexUnit (0xD800 + high) first) (hsecond : HexUnit (0xDC00 + low) second) :
      Character c ('\\' :: 'u' :: first ++ '\\' :: 'u' :: second)

/-- Characters are written one after the other, each in a way of its own. -/
inductive Characters : List Char → List Char → Prop where
  | nil : Characters [] []
  | cons {c : Char} {characters piece text : List Char} (hfirst : Character c piece)
      (hrest : Characters characters text) : Characters (c :: characters) (piece ++ text)

/-- A string is written between quotes. -/
def Literal (content : String) (text : List Char) : Prop :=
  ∃ body, Characters content.toList body ∧ text = '"' :: (body ++ ['"'])

theorem length_le_of_characters {characters text : List Char} (h : Characters characters text) :
    characters.length ≤ text.length := by
  induction h with
  | nil => exact Nat.le_refl _
  | @cons c characters piece text hfirst _ ih =>
    have hpiece : 1 ≤ piece.length := by
      cases hfirst with
      | plain | short | numbered | paired => simp
    simp only [List.length_cons, List.length_append]
    omega

/-! ### String literals -/

theorem character_controlEscape {c : Char} (h : c.toNat < 0x20) :
    Character c (Text.controlEscape c) := by
  have hzero : HexDigit 0 '0' := .lower (by decide)
  have hhigh : HexDigit (c.toNat / 16) (Nat.digitChar (c.toNat / 16)) := .lower (by omega)
  have hlow : HexDigit (c.toNat % 16) (Nat.digitChar (c.toNat % 16)) := .lower (by omega)
  have hunit := HexUnit.digits hzero hzero hhigh hlow
  have hvalue : ((0 * 16 + 0) * 16 + c.toNat / 16) * 16 + c.toNat % 16 = c.toNat := by omega
  rw [hvalue] at hunit
  exact .numbered hunit

theorem character_literalEscape (c : Char) : Character c (Text.literalEscape c) := by
  unfold Text.literalEscape
  split_ifs with hquote hbackslash hbackspace htab hfeed hform hreturn hcontrol
  · subst hquote
    exact .short (by decide)
  · subst hbackslash
    exact .short (by decide)
  · subst hbackspace
    exact .short (by decide)
  · subst htab
    exact .short (by decide)
  · subst hfeed
    exact .short (by decide)
  · subst hform
    exact .short (by decide)
  · subst hreturn
    exact .short (by decide)
  · exact character_controlEscape hcontrol
  · exact .plain hquote hbackslash (Nat.le_of_not_lt hcontrol)

theorem characters_flatMap_literalEscape (characters : List Char) :
    Characters characters (characters.flatMap Text.literalEscape) := by
  induction characters with
  | nil => exact .nil
  | cons c characters ih => exact .cons (character_literalEscape c) ih

/-- The literal of a text is one of the ways to write it. -/
theorem literal_of_content (content : String) : Literal content (Text.literal content).toList := by
  refine ⟨_, characters_flatMap_literalEscape content.toList, ?_⟩
  simp [Text.literal]

end Written

/-! ## Taking a string -/

namespace Scan

/-- A scanner takes a text off the front of whatever follows it. -/
def Takes {α : Type} (scan : Scanner α) (content : α) (text : List Char) : Prop :=
  ∀ rest, scan (text ++ rest) = .ok (content, rest)

/-! ### Numbers of characters -/

section Units

variable {value unit : Nat} {c : Char} {text : List Char}

theorem hexValue?_of_hexDigit (h : Written.HexDigit value c) : hexValue? c = some value := by
  cases h with
  | lower hvalue =>
    revert value
    decide
  | upper hvalue =>
    revert value
    decide

theorem utf8Size_of_hexDigit (h : Written.HexDigit value c) : c.utf8Size = 1 := by
  cases h with
  | lower hvalue =>
    revert value
    decide
  | upper hvalue =>
    revert value
    decide

theorem takes_hexUnit (h : Written.HexUnit unit text) : Takes hexUnit unit text := by
  intro rest
  cases h with
  | digits ha hb hc hd =>
    simp [hexUnit, byteLength, hexNumber?, hexValue?_of_hexDigit ha, hexValue?_of_hexDigit hb,
      hexValue?_of_hexDigit hc, hexValue?_of_hexDigit hd, utf8Size_of_hexDigit ha,
      utf8Size_of_hexDigit hb, utf8Size_of_hexDigit hc, utf8Size_of_hexDigit hd]

/-- No character is a half of a surrogate pair. -/
theorem not_surrogate (c : Char) : ¬(0xD800 ≤ c.toNat ∧ c.toNat ≤ 0xDFFF) := by
  have hvalid : c.toNat < 0xD800 ∨ 0xDFFF < c.toNat ∧ c.toNat < 0x110000 := c.valid
  omega

theorem takes_numberedEscape (h : Written.HexUnit c.toNat text) :
    Takes numberedEscape c text := by
  intro rest
  have hvalid := not_surrogate c
  have hhigh : isHighSurrogate c.toNat = false := by
    simp only [isHighSurrogate, decide_eq_false_iff_not]
    omega
  have hlow : isLowSurrogate c.toNat = false := by
    simp only [isLowSurrogate, decide_eq_false_iff_not]
    omega
  simp [numberedEscape, takes_hexUnit h rest, hhigh, hlow, bind, Except.bind]

theorem takes_pairedEscape {high low : Nat} {first second : List Char} (hhigh : high < 0x400)
    (hlow : low < 0x400) (hc : c.toNat = 0x10000 + high * 0x400 + low)
    (hfirst : Written.HexUnit (0xD800 + high) first)
    (hsecond : Written.HexUnit (0xDC00 + low) second) :
    Takes numberedEscape c (first ++ '\\' :: 'u' :: second) := by
  intro rest
  have hfirstHigh : isHighSurrogate (0xD800 + high) = true := by
    simp only [isHighSurrogate, decide_eq_true_eq]
    omega
  have hfirstLow : isLowSurrogate (0xD800 + high) = false := by
    simp only [isLowSurrogate, decide_eq_false_iff_not]
    omega
  have hsecondLow : isLowSurrogate (0xDC00 + low) = true := by
    simp only [isLowSurrogate, decide_eq_true_eq]
    omega
  have hpaired : pairedCharacter (0xD800 + high) (0xDC00 + low) = c := by
    rw [pairedCharacter, Nat.add_sub_cancel_left, Nat.add_sub_cancel_left, ← hc, Char.ofNat_toNat]
  simp [numberedEscape, takes_hexUnit hfirst _, takes_hexUnit hsecond rest, surrogateMark,
    hfirstHigh, hfirstLow, hsecondLow, hpaired, bind, Except.bind]

end Units

/-! ### Characters -/

section Characters

variable {c : Char} {piece characters text : List Char}

theorem takes_escape_of_short {mark : Char} (h : (mark, c) ∈ Written.shortEscapes) :
    Takes escape c [mark] := by
  intro rest
  simp only [Written.shortEscapes, List.mem_cons, Prod.mk.injEq, List.not_mem_nil, or_false] at h
  rcases h with ⟨rfl, rfl⟩ | ⟨rfl, rfl⟩ | ⟨rfl, rfl⟩ | ⟨rfl, rfl⟩ | ⟨rfl, rfl⟩ | ⟨rfl, rfl⟩ |
    ⟨rfl, rfl⟩ | ⟨rfl, rfl⟩ <;> rfl

theorem takes_escape_of_numbered (h : Takes numberedEscape c text) :
    Takes escape c ('u' :: text) := by
  intro rest
  simp [escape, h rest]

/-- A character is written as itself or as a backslash and an escape that the scanner takes. -/
theorem plain_or_escaped (h : Written.Character c piece) :
    (piece = [c] ∧ c ≠ '"' ∧ c ≠ '\\' ∧ 0x20 ≤ c.toNat) ∨
      ∃ escaped, piece = '\\' :: escaped ∧ Takes escape c escaped := by
  cases h with
  | plain hquote hbackslash hcontrol => exact Or.inl ⟨rfl, hquote, hbackslash, hcontrol⟩
  | short hmark => exact Or.inr ⟨_, rfl, takes_escape_of_short hmark⟩
  | numbered hunit =>
    exact Or.inr ⟨_, rfl, takes_escape_of_numbered (takes_numberedEscape hunit)⟩
  | paired hhigh hlow hc hfirst hsecond =>
    have htakes := takes_pairedEscape hhigh hlow hc hfirst hsecond
    exact Or.inr ⟨_, rfl, takes_escape_of_numbered htakes⟩

/-- One written character is taken before the others. -/
theorem stringCharacters_cons (h : Written.Character c piece) (bound : Nat) (text : List Char) :
    stringCharacters (bound + 1) (piece ++ text) =
      (stringCharacters bound text).map fun taken => (c :: taken.1, taken.2) := by
  rcases plain_or_escaped h with ⟨rfl, hquote, hbackslash, hcontrol⟩ | ⟨escaped, rfl, htakes⟩
  · have hprints : ¬c.toNat < 0x20 := Nat.not_lt.mpr hcontrol
    rw [List.singleton_append, stringCharacters, if_neg hquote, if_neg hbackslash, if_neg hprints]
    cases stringCharacters bound text <;> rfl
  · rw [List.cons_append, stringCharacters, if_neg (by decide), if_pos rfl, htakes text]
    cases hrest : stringCharacters bound text <;> simp [hrest, bind, Except.bind, Except.map]

/-- The characters of a string are taken however they are written. -/
theorem stringCharacters_written (h : Written.Characters characters text) {bound : Nat}
    (hbound : characters.length < bound) (rest : List Char) :
    stringCharacters bound (text ++ '"' :: rest) = .ok (characters, rest) := by
  induction h generalizing bound with
  | nil =>
    cases bound with
    | zero => exact absurd hbound (Nat.not_lt_zero _)
    | succ bound => rfl
  | @cons c characters piece text hfirst _ ih =>
    cases bound with
    | zero => exact absurd hbound (Nat.not_lt_zero _)
    | succ bound =>
      have hrest : characters.length < bound := Nat.lt_of_succ_lt_succ hbound
      rw [List.append_assoc, stringCharacters_cons hfirst, ih hrest]
      rfl

end Characters

/-! ### Strings -/

/-- A string is taken from what stands after its opening quote. -/
theorem string_written {content : String} {body : List Char}
    (h : Written.Characters content.toList body) : Takes string content (body ++ ['"']) := by
  intro rest
  have hlength := Written.length_le_of_characters h
  have htaken : stringCharacters ((body ++ '"' :: rest).length + 1) (body ++ '"' :: rest) =
      .ok (content.toList, rest) := by
    apply stringCharacters_written h
    rw [List.length_append]
    omega
  rw [List.append_assoc, List.singleton_append, string, htaken]
  simp [bind, Except.bind]

end Scan
end DuckTyping

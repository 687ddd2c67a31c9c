import Mathlib.Data.String.Basic
import Mathlib.Tactic.SplitIfs

/-!
# The order of texts by their bytes

Texts are compared character by character.  In UTF-8 a greater character has a greater encoding,
whatever follows, because a longer encoding starts with a greater byte and encodings of one length
hold the digits of the character in base 64, the most significant first.  So comparing the bytes of
two texts gives the same order, and so does comparing their code points.

Main definitions:

- `Text.utf8`: the bytes of a text.
- `Text.codePoints`: the code points of a text.

Main results:

- `Text.utf8EncodeChar_append_lt`: a greater character has a greater encoding, whatever follows.
- `Text.utf8_lt_iff`: texts are ordered as their bytes are.
- `Text.compare_utf8`, `Text.compare_codePoints`: bytes and code points compare as the texts do.
-/

namespace DuckTyping

/-! ## Comparing by another order -/

/-- A map that keeps a total order forwards keeps every result of a comparison. -/
theorem compare_map_eq {κ ι : Type} [Ord κ] [Std.OrientedOrd κ] [Std.LawfulEqOrd κ] [Ord ι]
    [Std.OrientedOrd ι] {f : κ → ι}
    (h : ∀ {a b}, compare a b = .lt → compare (f a) (f b) = .lt) (a b : κ) :
    compare (f a) (f b) = compare a b := by
  cases hcompare : compare a b with
  | lt => exact h hcompare
  | eq =>
    obtain rfl := Std.LawfulEqOrd.eq_of_compare hcompare
    exact Std.ReflOrd.compare_self
  | gt => exact Std.OrientedCmp.gt_of_lt (h (Std.OrientedCmp.lt_of_gt hcompare))

/-- Lists are compared lexicographically. -/
theorem compare_list_eq_lt_iff {α : Type} [Ord α] [Std.LawfulEqOrd α] [LT α]
    (h : ∀ a b : α, compare a b = .lt ↔ a < b) {as bs : List α} :
    compare as bs = .lt ↔ as < bs := by
  induction as generalizing bs with
  | nil => cases bs <;> simp
  | cons a as ih =>
    cases bs with
    | nil => simp
    | cons b bs =>
      rw [List.compare_cons_cons, Ordering.then_eq_lt, h, Std.LawfulEqOrd.compare_eq_iff_eq, ih,
        List.cons_lt_cons_iff]

namespace Text

/-- The bytes of a text in UTF-8. -/
def utf8 (text : String) : List UInt8 :=
  text.toUTF8.data.toList

theorem utf8_eq_flatMap (text : String) :
    utf8 text = text.toList.flatMap String.utf8EncodeChar := by
  rw [utf8, String.toUTF8_eq_toByteArray, ← String.utf8Encode_toList, List.utf8Encode,
    List.data_toByteArray]

/-! ## Characters -/

/-- A list of bytes is smaller than another if its first byte is, or if the first bytes are equal and
what follows is smaller. -/
theorem cons_lt_cons_of_le {a b : Nat} {first second : List UInt8} (ha : a < 256) (hb : b < 256)
    (hle : a ≤ b) (hrest : a = b → first < second) :
    UInt8.ofNat a :: first < UInt8.ofNat b :: second := by
  rw [List.cons_lt_cons_iff]
  rcases Nat.lt_or_eq_of_le hle with hlt | heq
  · left
    rw [UInt8.lt_iff_toNat_lt, UInt8.toNat_ofNat', UInt8.toNat_ofNat', Nat.mod_eq_of_lt ha,
      Nat.mod_eq_of_lt hb]
    exact hlt
  · right
    exact ⟨congrArg UInt8.ofNat heq, hrest heq⟩

/-- A greater character has a greater encoding, whatever follows. -/
theorem utf8EncodeChar_append_lt {c d : Char} (h : c < d) (first second : List UInt8) :
    String.utf8EncodeChar c ++ first < String.utf8EncodeChar d ++ second := by
  have hlt : c.val.toNat < d.val.toNat := h
  have hbound : d.val.toNat < 0x110000 := by
    have hvalid := d.valid
    unfold UInt32.isValidChar Nat.isValidChar at hvalid
    omega
  unfold String.utf8EncodeChar
  generalize c.val.toNat = v at hlt
  generalize d.val.toNat = w at hlt hbound
  simp only
  split_ifs
  -- The greater character is not the one with fewer bytes.
  any_goals omega
  -- The first bytes differ where the lengths do, and otherwise some byte is the first to differ.
  all_goals
    simp only [List.cons_append, List.nil_append]
    repeat
      apply cons_lt_cons_of_le (by omega) (by omega) (by omega)
      intro hsame
    omega

/-! ## Texts -/

theorem flatMap_utf8EncodeChar_lt {cs ds : List Char} (h : cs < ds) :
    cs.flatMap String.utf8EncodeChar < ds.flatMap String.utf8EncodeChar := by
  induction cs generalizing ds with
  | nil =>
    cases ds with
    | nil => exact absurd h (List.lt_irrefl [])
    | cons d ds =>
      rw [List.flatMap_nil, List.flatMap_cons]
      rcases List.exists_cons_of_ne_nil (String.utf8EncodeChar_ne_nil (c := d)) with ⟨b, bs, hbytes⟩
      rw [hbytes, List.cons_append]
      exact List.nil_lt_cons b _
  | cons c cs ih =>
    cases ds with
    | nil => exact absurd h (List.not_lt_nil _)
    | cons d ds =>
      rw [List.flatMap_cons, List.flatMap_cons]
      rcases List.cons_lt_cons_iff.mp h with hlt | ⟨rfl, hrest⟩
      · exact utf8EncodeChar_append_lt hlt _ _
      · exact List.append_left_lt (ih hrest)

/-- Texts are ordered as their bytes are. -/
theorem utf8_lt_iff {s t : String} : utf8 s < utf8 t ↔ compare s t = .lt := by
  have hmono : ∀ {s t : String}, s < t → utf8 s < utf8 t := by
    intro s t h
    rw [utf8_eq_flatMap, utf8_eq_flatMap]
    exact flatMap_utf8EncodeChar_lt (String.lt_iff_toList_lt.mp h)
  have hcompare : compare s t = .lt ↔ s < t := compareOfLessAndEq_eq_lt
  rw [hcompare]
  constructor
  · intro h
    rcases lt_trichotomy s t with hlt | rfl | hgt
    · exact hlt
    · exact absurd h (List.lt_irrefl _)
    · exact absurd h (List.lt_asymm (hmono hgt))
  · exact hmono

/-! ## Comparison -/

/-- The bytes of texts compare as the texts do. -/
theorem compare_utf8 (s t : String) : compare (utf8 s) (utf8 t) = compare s t := by
  have hbyte : ∀ a b : UInt8, compare a b = .lt ↔ a < b :=
    fun _ _ => compareOfLessAndEq_eq_lt
  refine compare_map_eq ?_ s t
  intro s t hlt
  exact (compare_list_eq_lt_iff hbyte).mpr (utf8_lt_iff.mpr hlt)

/-- The code points of a text. -/
def codePoints (text : String) : List Nat :=
  text.toList.map Char.toNat

/-- The code points of texts compare as the texts do. -/
theorem compare_codePoints (s t : String) : compare (codePoints s) (codePoints t) = compare s t := by
  refine compare_map_eq ?_ s t
  intro s t hlt
  have hless : s < t := compareOfLessAndEq_eq_lt.mp hlt
  exact (compare_list_eq_lt_iff fun _ _ => Nat.compare_eq_lt).mpr
    (List.map_lt (fun _ _ hchar => hchar) (String.lt_iff_toList_lt.mp hless))

end Text
end DuckTyping

import DuckTyping.Expectations.Loading
import DuckTyping.Proofs.Bindings

/-!
# What readers accept

A reader is described by the documents that it accepts and by what it makes of them.  Lists are read
one by one, so that a list is accepted exactly when each of its documents is.

Main definitions:

- `Number.IsIntegerWithin`: a number is an integer within bounds.
- `WordRange`: the words of a type stand for the integers within bounds.

Main results:

- `Reader.string_eq_ok_iff`, `Reader.double_eq_ok_iff`, `Reader.integer_eq_ok_iff`,
  `Reader.integer_map_eq_ok_iff`: what plain data is read from.
- `Reader.each_eq_ok_iff`, `Reader.each_eq_error_iff`: reading a list of documents.
- `Reader.eachMember_eq_ok_iff`, `Reader.eachMember_eq_error_iff`: reading the members of an object.
- `Reader.mem_iff_of_eachMember`: what is read under each name.
- `Reader.kind_eq_ok_iff`: the two documents that are read as a given kind.
- `Reader.expectations_eq_ok_iff`: the documents that are read as a contract.
-/

namespace DuckTyping

variable {α : Type}

/-! ## Sequencing -/

/-- Two steps in sequence succeed exactly when the first succeeds and the second does on its
result. -/
theorem bind_eq_ok_iff {ε α β : Type} {first : Except ε α} {second : α → Except ε β} {b : β} :
    first >>= second = .ok b ↔ ∃ a, first = .ok a ∧ second a = .ok b := by
  cases first <;> simp [bind, Except.bind]

theorem map_eq_ok_iff {ε α β : Type} {result : Except ε α} {f : α → β} {b : β} :
    result.map f = .ok b ↔ ∃ a, result = .ok a ∧ f a = b := by
  cases result <;> simp [Except.map]

theorem map_eq_error_iff {ε α β : Type} {result : Except ε α} {f : α → β} {error : ε} :
    result.map f = .error error ↔ result = .error error := by
  cases result <;> simp [Except.map]

theorem mapError_eq_ok_iff {ε ε' α : Type} {result : Except ε α} {f : ε → ε'} {a : α} :
    result.mapError f = .ok a ↔ result = .ok a := by
  cases result <;> simp [Except.mapError]

/-- What may be missing is read exactly when it is missing or is read. -/
theorem mapM_eq_ok_some_iff {ε α β : Type} {f : α → Except ε β} {content : Option α} {b : β} :
    content.mapM f = .ok (some b) ↔ ∃ a, content = some a ∧ f a = .ok b := by
  cases content with
  | none => simp [pure, Except.pure]
  | some a => cases h : f a <;> simp [h, Functor.map, Except.map]

/-! ## Integers within bounds -/

/-- A number is an integer within bounds; a double never is. -/
def Number.IsIntegerWithin (number : Number) (least greatest : Int) : Prop :=
  ∃ value inRange, number = .integer value inRange ∧ least ≤ value ∧ value ≤ greatest

/-- The words of a type stand for the integers within bounds, each for one of them. -/
structure WordRange {ω : Type} (ofInt : Int → ω) (toInt : ω → Int) (least greatest : Int) :
    Prop where
  ofInt_toInt : ∀ word, ofInt (toInt word) = word
  toInt_bounds : ∀ word, least ≤ toInt word ∧ toInt word ≤ greatest
  toInt_ofInt : ∀ value, least ≤ value → value ≤ greatest → toInt (ofInt value) = value

namespace WordRange

theorem unsigned64 :
    WordRange (fun value => UInt64.ofNat value.toNat) (fun word => word.toNat)
      0 0xFFFFFFFFFFFFFFFF where
  ofInt_toInt word := by rw [Int.toNat_natCast, UInt64.ofNat_toNat]
  toInt_bounds word := by
    have hbound := word.toNat_lt
    omega
  toInt_ofInt value hleast hgreatest := by
    rw [UInt64.toNat_ofNat']
    omega

theorem unsigned32 :
    WordRange (fun value => UInt32.ofNat value.toNat) (fun word => word.toNat)
      0 0xFFFFFFFF where
  ofInt_toInt word := by rw [Int.toNat_natCast, UInt32.ofNat_toNat]
  toInt_bounds word := by
    have hbound := word.toNat_lt
    omega
  toInt_ofInt value hleast hgreatest := by
    rw [UInt32.toNat_ofNat']
    omega

/-- The integers within the bounds of words are those that the words stand for. -/
theorem isIntegerWithin_iff {ω : Type} {ofInt : Int → ω} {toInt : ω → Int} {least greatest : Int}
    (words : WordRange ofInt toInt least greatest) {number : Number} :
    number.IsIntegerWithin least greatest ↔
      ∃ word inRange, number = .integer (toInt word) inRange := by
  constructor
  · intro h
    rcases h with ⟨value, inRange, hnumber, hleast, hgreatest⟩
    have hvalue := words.toInt_ofInt value hleast hgreatest
    refine ⟨ofInt value, ?_⟩
    rw [hvalue]
    exact ⟨inRange, hnumber⟩
  · intro h
    rcases h with ⟨word, inRange, hnumber⟩
    exact ⟨toInt word, inRange, hnumber, words.toInt_bounds word⟩

end WordRange

namespace Reader

variable {read : Reader α}

/-! ## Plain data -/

theorem string_eq_ok_iff {document : Document} {text : String} :
    string document = .ok text ↔ document = .string text := by
  cases document <;> simp [string, refuse]

/-- A double is read from every number, as the double nearest to it, and from nothing else. -/
theorem double_eq_ok_iff {document : Document} {x : Double} :
    double document = .ok x ↔ ∃ number, document = .number number ∧ number.toDouble = x := by
  cases document <;> simp [double, refuse]

/-- An integer is read from itself if it is within the bounds, and from nothing else. -/
theorem integer_eq_ok_iff {least greatest value : Int} {typeName : String} {document : Document} :
    integer least greatest typeName document = .ok value ↔
      (∃ inRange, document = .number (.integer value inRange)) ∧
        least ≤ value ∧ value ≤ greatest := by
  unfold integer
  split
  · rename_i found inRange
    by_cases hbounds : least ≤ found ∧ found ≤ greatest
    · rw [if_pos hbounds]
      constructor
      · rintro ⟨rfl⟩
        exact ⟨⟨inRange, rfl⟩, hbounds⟩
      · rintro ⟨⟨_, heq⟩, -⟩
        cases heq
        rfl
    · rw [if_neg hbounds]
      simp only [reduceCtorEq, false_iff]
      rintro ⟨⟨_, heq⟩, hvalue⟩
      cases heq
      exact hbounds hvalue
  · rename_i hother
    simp only [refuse, reduceCtorEq, false_iff]
    rintro ⟨⟨inRange, rfl⟩, -⟩
    exact hother value inRange rfl

/-- A word is read from the integer that it stands for, and from nothing else. -/
theorem integer_map_eq_ok_iff {ω : Type} {ofInt : Int → ω} {toInt : ω → Int}
    {least greatest : Int} (words : WordRange ofInt toInt least greatest) {typeName : String}
    {document : Document} {word : ω} :
    (integer least greatest typeName document).map ofInt = .ok word ↔
      ∃ inRange, document = .number (.integer (toInt word) inRange) := by
  simp only [map_eq_ok_iff, integer_eq_ok_iff]
  constructor
  · intro h
    rcases h with ⟨value, ⟨⟨inRange, hdocument⟩, hleast, hgreatest⟩, hword⟩
    have hvalue := words.toInt_ofInt value hleast hgreatest
    subst hword
    rw [hvalue]
    exact ⟨inRange, hdocument⟩
  · intro hdocument
    exact ⟨toInt word, ⟨hdocument, words.toInt_bounds word⟩, words.ofInt_toInt word⟩

/-- A word of 64 bits is read from the integer that it stands for. -/
theorem unsigned64_eq_ok_iff {document : Document} {word : UInt64} :
    unsigned64 document = .ok word ↔
      ∃ inRange, document = .number (.integer word.toNat inRange) :=
  integer_map_eq_ok_iff WordRange.unsigned64

/-- A word of 32 bits is read from the integer that it stands for. -/
theorem unsigned32_eq_ok_iff {document : Document} {word : UInt32} :
    unsigned32 document = .ok word ↔
      ∃ inRange, document = .number (.integer word.toNat inRange) :=
  integer_map_eq_ok_iff WordRange.unsigned32

/-! ## Lists of documents -/

/-- Documents are read together exactly when each of them is read. -/
theorem each_eq_ok_iff {documents : List Document} {values : List α} :
    each read documents = .ok values ↔
      List.Forall₂ (fun document value => read document = .ok value) documents values := by
  induction documents generalizing values with
  | nil => cases values <;> simp [each]
  | cons document rest ih =>
    simp only [each, bind_eq_ok_iff, Except.ok.injEq, List.forall₂_cons_left_iff]
    constructor
    · rintro ⟨first, hfirst, others, hothers, rfl⟩
      exact ⟨first, others, hfirst, ih.mp hothers, rfl⟩
    · rintro ⟨first, others, hfirst, hothers, rfl⟩
      exact ⟨first, hfirst, others, ih.mpr hothers, rfl⟩

/-- The first error wins: it is that of a document all of whose predecessors are read. -/
theorem each_eq_error_iff {documents : List Document} {error : ConversionError} :
    each read documents = .error error ↔
      ∃ before document after, documents = before ++ document :: after ∧
        (∀ earlier ∈ before, ∃ value, read earlier = .ok value) ∧
        read document = .error error := by
  induction documents with
  | nil => simp [each]
  | cons document rest ih =>
    rw [exists_first_cons_iff (fun document => ∃ value, read document = .ok value)
      fun _ document => read document = .error error, ← ih, each]
    cases read document with
    | error found => simp [bind, Except.bind]
    | ok first => cases each read rest <;> simp [bind, Except.bind]

theorem array_eq_ok_iff {document : Document} {values : List α} :
    array read document = .ok values ↔
      ∃ elements, document = .array elements ∧ each read elements = .ok values := by
  cases document <;> simp [array, refuse]

/-- Members are read together exactly when what each of them holds is read; they keep their
names. -/
theorem eachMember_eq_ok_iff {members : List (String × Document)} {entries : List (String × α)} :
    eachMember read members = .ok entries ↔
      List.Forall₂ (Entries.Related fun document value => read document = .ok value)
        members entries := by
  induction members generalizing entries with
  | nil => cases entries <;> simp [eachMember]
  | cons member rest ih =>
    rcases member with ⟨name, document⟩
    simp only [eachMember, bind_eq_ok_iff, Except.ok.injEq, List.forall₂_cons_left_iff]
    constructor
    · rintro ⟨first, hfirst, others, hothers, rfl⟩
      exact ⟨(name, first), others, ⟨rfl, hfirst⟩, ih.mp hothers, rfl⟩
    · rintro ⟨⟨other, first⟩, others, ⟨hname, hfirst⟩, hothers, rfl⟩
      obtain rfl : name = other := hname
      exact ⟨first, hfirst, others, ih.mpr hothers, rfl⟩

/-- Something is read under a name exactly when it is read from a member of that name. -/
theorem mem_iff_of_eachMember {members : List (String × Document)} {entries : List (String × α)}
    (h : eachMember read members = .ok entries) {name : String} {value : α} :
    (name, value) ∈ entries ↔
      ∃ document, (name, document) ∈ members ∧ read document = .ok value := by
  have hrelated := eachMember_eq_ok_iff.mp h
  clear h
  induction hrelated with
  | nil => simp
  | @cons member entry rest others hentry _ ih =>
    rcases member with ⟨first, document⟩
    rcases entry with ⟨other, found⟩
    obtain rfl : first = other := hentry.1
    have hfound : read document = .ok found := hentry.2
    simp only [List.mem_cons, Prod.mk.injEq, ih]
    constructor
    · intro h
      rcases h with ⟨rfl, rfl⟩ | ⟨content, hmem, hread⟩
      · exact ⟨document, Or.inl ⟨rfl, rfl⟩, hfound⟩
      · exact ⟨content, Or.inr hmem, hread⟩
    · intro h
      rcases h with ⟨content, hmem, hread⟩
      rcases hmem with ⟨rfl, rfl⟩ | hmem
      · rw [hfound, Except.ok.injEq] at hread
        exact Or.inl ⟨rfl, hread.symm⟩
      · exact Or.inr ⟨content, hmem, hread⟩

theorem exists_eachMember_eq_ok_iff {members : List (String × Document)} :
    (∃ entries, eachMember read members = .ok entries) ↔
      ∀ member ∈ members, ∃ a, read member.2 = .ok a := by
  induction members with
  | nil => simp [eachMember]
  | cons member rest ih =>
    rw [List.forall_mem_cons, ← ih]
    constructor
    · rintro ⟨entries, h⟩
      cases eachMember_eq_ok_iff.mp h with
      | @cons _ entry _ others hentry hrest =>
        exact ⟨⟨entry.2, hentry.2⟩, others, eachMember_eq_ok_iff.mpr hrest⟩
    · rintro ⟨⟨first, hfirst⟩, others, hothers⟩
      refine ⟨(member.1, first) :: others, eachMember_eq_ok_iff.mpr (.cons ⟨rfl, hfirst⟩ ?_)⟩
      exact eachMember_eq_ok_iff.mp hothers

/-- Members are read together with the same error as what they hold. -/
theorem eachMember_eq_error_iff_each {members : List (String × Document)}
    {error : ConversionError} :
    eachMember read members = .error error ↔ each read (members.map Prod.snd) = .error error := by
  induction members with
  | nil => simp [eachMember, each]
  | cons member rest ih =>
    rcases member with ⟨name, document⟩
    rw [eachMember, List.map_cons, each]
    cases read document with
    | error found => simp [bind, Except.bind]
    | ok first =>
      cases hmembers : eachMember read rest <;> cases hdocuments : each read (rest.map Prod.snd) <;>
        simp_all [bind, Except.bind]

/-- The first error wins: it is that of a member before which all members are read. -/
theorem eachMember_eq_error_iff {members : List (String × Document)} {error : ConversionError} :
    eachMember read members = .error error ↔
      ∃ before member after, members = before ++ member :: after ∧
        (∀ earlier ∈ before, ∃ value, read earlier.2 = .ok value) ∧
        read member.2 = .error error := by
  simp only [eachMember_eq_error_iff_each, each_eq_error_iff, List.map_eq_append_iff,
    List.map_eq_cons_iff]
  constructor
  · rintro ⟨_, _, _, ⟨before, _, rfl, rfl, member, after, rfl, rfl, rfl⟩, hbefore, herror⟩
    refine ⟨before, member, after, rfl, ?_, herror⟩
    intro earlier hearlier
    exact hbefore earlier.2 (List.mem_map_of_mem hearlier)
  · rintro ⟨before, member, after, rfl, hbefore, herror⟩
    refine ⟨_, _, _, ⟨before, _, rfl, rfl, member, after, rfl, rfl, rfl⟩, ?_, herror⟩
    intro document hdocument
    rcases List.mem_map.mp hdocument with ⟨earlier, hearlier, rfl⟩
    exact hbefore earlier hearlier

/-! ## Kinds and contracts -/

theorem unit_eq_ok_iff {document : Document} {result : Unit} :
    unit document = .ok result ↔ document = .null := by
  cases document <;> simp [unit, refuse]

/-- A name is read as a kind exactly when it is the name of that kind. -/
theorem kindNamed_eq_ok_iff {name : String} {kind : Kind} :
    kindNamed name = .ok kind ↔ name = kind.name := by
  unfold kindNamed
  constructor
  · intro h
    split at h
    · rename_i found hfind
      cases h
      have hname := List.find?_some hfind
      exact (of_decide_eq_true hname).symm
    · cases h
  · rintro rfl
    split
    · rename_i found hfind
      have hname := List.find?_some hfind
      rw [Kind.name_injective (of_decide_eq_true hname)]
    · rename_i hfind
      have hnone := List.find?_eq_none.mp hfind kind kind.mem_all
      simp at hnone

/-- A kind is written as its name, or as an object whose only member has that name and holds
null. -/
theorem kind_eq_ok_iff {document : Document} {kind : Kind} :
    Reader.kind document = .ok kind ↔
      document = .string kind.name ∨ document = .object [(kind.name, .null)] := by
  unfold Reader.kind
  split
  · simp [kindNamed_eq_ok_iff]
  · simp only [bind_eq_ok_iff, kindNamed_eq_ok_iff, unit_eq_ok_iff]
    grind
  · rename_i hsingle
    simp only [reduceCtorEq, Document.object.injEq, false_or, false_iff]
    rintro rfl
    exact hsingle _ _ rfl
  · rename_i hstring _ hobject
    simp only [refuse, reduceCtorEq, false_iff, not_or]
    exact ⟨hstring _, hobject _⟩

/-- A contract is read from an object each of whose members holds a kind. -/
theorem expectations_eq_ok_iff {document : Document} {expected : Expectations} :
    Reader.expectations document = .ok expected ↔
      ∃ members entries, document = .object members ∧ eachMember Reader.kind members = .ok entries ∧
        Expectations.ofNamed entries = expected := by
  cases document <;> simp [Reader.expectations, refuse, map_eq_ok_iff]

end Reader
end DuckTyping

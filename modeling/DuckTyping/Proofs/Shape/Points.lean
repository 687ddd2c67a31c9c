import DuckTyping.Proofs.Conversion.Records
import DuckTyping.Proofs.Guard.Members
import DuckTyping.Proofs.Narrowing
import DuckTyping.Proofs.Value.Lookup

/-!
# Points and the numbers in their documents

A point is narrowed by a check of tags, against any contract, and by a conversion that reads two
coordinates: by name from an object, or by place from an array.  The same document can be converted
to a value without a type and then be asked for its two numbers.  Both ways come to the same doubles,
also where an integer has to be rounded, and a point is read exactly where the numbers are found.

Main definitions:

- `Point.HeldBy`: a document holds the coordinates of a point.

Main results:

- `Point.read_object_eq_ok_iff`, `Point.read_array_eq_ok_iff`: reading a point by names, by places.
- `Point.heldBy_object_iff_get?`, `Point.heldBy_array_iff_get?`: the coordinates in a document are
  the numbers that its value gives.
- `Point.typed_agrees_with_dynamic`: narrowing to points against the value of the document.
-/

namespace DuckTyping

/-! ## Numbers in values -/

/-- What may stand in a document converts to a number exactly when it is a number of the document
that converts to it. -/
theorem Value.map_ofDocument_eq_some_number_iff {content : Option Document} {x : Double} :
    content.map ofDocument = some (number x) ↔
      ∃ stored : Number, content = some (.number stored) ∧ stored.toDouble = x := by
  rcases content with _ | document
  · simp
  · cases document <;> simp [ofDocument]

namespace Point

/-! ## Documents that hold a point -/

/-- A document holds the coordinates of a point: an object as the members of their names, and an array
as its only two elements. -/
inductive HeldBy : Point → Document → Prop where
  | object {members : List (String × Document)} {x y : Number}
      (x_stored : ("x", .number x) ∈ members) (y_stored : ("y", .number y) ∈ members) :
      HeldBy ⟨x.toDouble, y.toDouble⟩ (.object members)
  | array (x y : Number) : HeldBy ⟨x.toDouble, y.toDouble⟩ (.array [.number x, .number y])

variable {point : Point} {document : Document} {members : List (String × Document)}
  {elements : List Document}

theorem heldBy_object_iff (hsorted : Entries.Sorted members) :
    point.HeldBy (.object members) ↔
      (∃ x : Number, Entries.find? "x" members = some (.number x) ∧ x.toDouble = point.x) ∧
        ∃ y : Number, Entries.find? "y" members = some (.number y) ∧ y.toDouble = point.y := by
  simp only [hsorted.find?_eq_some_iff]
  constructor
  · intro h
    cases h with
    | object x_stored y_stored => exact ⟨⟨_, x_stored, rfl⟩, _, y_stored, rfl⟩
  · rintro ⟨⟨x, x_stored, hx⟩, y, y_stored, hy⟩
    rcases point with ⟨px, py⟩
    subst hx hy
    exact .object x_stored y_stored

theorem heldBy_array_iff :
    point.HeldBy (.array elements) ↔
      ∃ x y : Number, elements = [.number x, .number y] ∧ x.toDouble = point.x ∧
        y.toDouble = point.y := by
  constructor
  · intro h
    cases h with
    | array x y => exact ⟨x, y, rfl, rfl, rfl⟩
  · rintro ⟨x, y, rfl, hx, hy⟩
    rcases point with ⟨px, py⟩
    subst hx hy
    exact .array x y

/-- Some point is held by the objects with two numbers of these names, and by the arrays of two
numbers. -/
theorem exists_heldBy_iff :
    (∃ point : Point, point.HeldBy document) ↔
      (∃ members x y, document = .object members ∧ ("x", .number x) ∈ members ∧
        ("y", .number y) ∈ members) ∨
        ∃ x y, document = .array [.number x, .number y] := by
  constructor
  · rintro ⟨point, h⟩
    cases h with
    | object x_stored y_stored => exact Or.inl ⟨_, _, _, rfl, x_stored, y_stored⟩
    | array x y => exact Or.inr ⟨x, y, rfl⟩
  · rintro (⟨members, x, y, rfl, x_stored, y_stored⟩ | ⟨x, y, rfl⟩)
    · exact ⟨_, .object x_stored y_stored⟩
    · exact ⟨_, .array x y⟩

/-! ## Reading -/

theorem complete_eq_ok_iff {draft : Draft} :
    record.complete draft = .ok point ↔ draft = ⟨some point.x, some point.y⟩ := by
  rcases draft with ⟨x, y⟩
  simp only [record, bind_eq_ok_iff, Record.require_eq_ok_iff, Draft.mk.injEq]
  constructor
  · rintro ⟨_, hx, _, hy, hpoint⟩
    cases hpoint
    exact ⟨hx, hy⟩
  · rintro ⟨hx, hy⟩
    exact ⟨_, hx, _, hy, rfl⟩

/-- In an object the coordinates are read in the order of their names. -/
theorem read_object_eq (hsorted : Entries.Sorted members) :
    record.read (.object members) = (do
      let x ← (Entries.find? "x" members).mapM Reader.double
      let y ← (Entries.find? "y" members).mapM Reader.double
      record.complete ⟨x, y⟩) := by
  have hnames : record.fieldNames = ["x", "y"] := by decide
  rw [Record.read_object_eq_select hsorted, hnames, Record.read]
  rw [Record.fillByName_select_cons _ rfl, bind_assoc]
  apply bind_congr
  intro x
  rw [Record.fillByName_select_cons _ rfl, bind_assoc]
  apply bind_congr
  intro y
  cases x <;> cases y <;> rfl

/-- A point is read from the objects that hold its coordinates. -/
theorem read_object_eq_ok_iff (hsorted : Entries.Sorted members) :
    record.read (.object members) = .ok point ↔ point.HeldBy (.object members) := by
  have hread (content : Option Document) (coordinate : Double) :
      content.mapM Reader.double = .ok (some coordinate) ↔
        ∃ number : Number, content = some (.number number) ∧ number.toDouble = coordinate := by
    simp only [mapM_eq_ok_some_iff, Reader.double_eq_ok_iff]
    constructor
    · rintro ⟨_, hcontent, number, rfl, hnumber⟩
      exact ⟨number, hcontent, hnumber⟩
    · rintro ⟨number, hcontent, hnumber⟩
      exact ⟨_, hcontent, number, rfl, hnumber⟩
  rw [read_object_eq hsorted, heldBy_object_iff hsorted, ← hread, ← hread]
  simp only [bind_eq_ok_iff, complete_eq_ok_iff]
  constructor
  · rintro ⟨x, hx, y, hy, hdraft⟩
    cases hdraft
    exact ⟨hx, hy⟩
  · rintro ⟨hx, hy⟩
    exact ⟨_, hx, _, hy, rfl⟩

/-- In an array the coordinates are read in the order of their places, and nothing may follow
them. -/
theorem read_array_eq (first second : Document) (rest : List Document) :
    record.read (.array (first :: second :: rest)) = (do
      let x ← Reader.double first
      let y ← Reader.double second
      if rest = [] then .ok ⟨x, y⟩
      else .error (.invalidLength (rest.length + 2) "fewer elements in array")) := by
  have hfields : record.fillInOrder 0 record.fields record.blank (first :: second :: rest) = (do
      let x ← Reader.double first
      let y ← Reader.double second
      .ok (⟨some x, some y⟩, rest)) := by
    rw [record, Record.fillInOrder_cons]
    apply bind_congr
    intro x
    rw [Record.fillInOrder_cons]
    rfl
  rw [Record.read, hfields, bind_assoc]
  apply bind_congr
  intro x
  rw [bind_assoc]
  apply bind_congr
  intro y
  rfl

theorem read_array_ne_ok_of_length_lt (h : elements.length < 2) :
    record.read (.array elements) ≠ .ok point := by
  intro hread
  match elements with
  | [] => contradiction
  | [first] =>
    rw [Record.read, record, Record.fillInOrder_cons] at hread
    simp only [bind_eq_ok_iff] at hread
    rcases hread with ⟨_, ⟨_, _, hmissing⟩, _⟩
    contradiction
  | _ :: _ :: _ =>
    simp only [List.length_cons] at h
    omega

/-- A point is read from the array of its two coordinates. -/
theorem read_array_eq_ok_iff :
    record.read (.array elements) = .ok point ↔ point.HeldBy (.array elements) := by
  rw [heldBy_array_iff]
  constructor
  · intro h
    rcases Nat.lt_or_ge elements.length 2 with hshort | hlong
    · exact absurd h (read_array_ne_ok_of_length_lt hshort)
    match elements with
    | first :: second :: rest =>
      rw [read_array_eq] at h
      simp only [bind_eq_ok_iff, Reader.double_eq_ok_iff] at h
      rcases h with ⟨_, ⟨x, rfl, rfl⟩, _, ⟨y, rfl, rfl⟩, hrest⟩
      split at hrest
      · rename_i hnil
        cases hrest
        exact ⟨x, y, by rw [hnil], rfl, rfl⟩
      · contradiction
  · rintro ⟨x, y, rfl, hx, hy⟩
    rcases point with ⟨px, py⟩
    subst hx hy
    rfl

/-- A point is read from the documents that hold it. -/
theorem read_eq_ok_iff (document : OrderedDocument) :
    record.read document.content = .ok point ↔ point.HeldBy document.content := by
  rcases document with ⟨document, hwf⟩
  cases document with
  | object members => exact read_object_eq_ok_iff hwf.1
  | array elements => exact read_array_eq_ok_iff
  | null | bool _ | number _ | string _ =>
    constructor
    · intro h
      contradiction
    · intro h
      cases h

/-! ## The value of the document -/

/-- An object holds the coordinates that its value gives under their names. -/
theorem heldBy_object_iff_get? (hsorted : Entries.Sorted members) :
    point.HeldBy (.object members) ↔
      (Value.ofDocument (.object members)).get? (.name "x") = some (.number point.x) ∧
        (Value.ofDocument (.object members)).get? (.name "y") = some (.number point.y) := by
  rw [heldBy_object_iff hsorted, Value.ofDocument, Value.get?, Value.get?,
    Value.find?_name_ofMembers, Value.find?_name_ofMembers,
    Value.map_ofDocument_eq_some_number_iff, Value.map_ofDocument_eq_some_number_iff]

/-- An array of two elements holds the coordinates that its value gives under their positions. -/
theorem heldBy_array_iff_get? :
    point.HeldBy (.array elements) ↔ elements.length = 2 ∧
      (Value.ofDocument (.array elements)).get? (.ofInt 0) = some (.number point.x) ∧
        (Value.ofDocument (.array elements)).get? (.ofInt 1) = some (.number point.y) := by
  have hget (position : Nat) (below : position < PropertyKey.indexLimit) (x : Double) :
      (Value.ofDocument (.array elements)).get? (.ofInt position) = some (.number x) ↔
        ∃ stored : Number, elements[position]? = some (.number stored) ∧ stored.toDouble = x := by
    rw [Value.ofDocument, Value.get?_array_ofInt below, Value.ofElements_eq_map,
      List.getElem?_map, Value.map_ofDocument_eq_some_number_iff]
  have hfirst := hget 0 (by decide) point.x
  have hsecond := hget 1 (by decide) point.y
  rw [Int.natCast_zero] at hfirst
  rw [Int.natCast_one] at hsecond
  rw [heldBy_array_iff, hfirst, hsecond]
  constructor
  · rintro ⟨x, y, rfl, hx, hy⟩
    exact ⟨rfl, ⟨x, rfl, hx⟩, y, rfl, hy⟩
  · rintro ⟨hlength, ⟨x, hx_stored, hx⟩, y, hy_stored, hy⟩
    rcases List.length_eq_two.mp hlength with ⟨first, second, rfl⟩
    cases hx_stored
    cases hy_stored
    exact ⟨x, y, rfl, hx, hy⟩

/-- The coordinates that a document holds are the numbers that its value gives. -/
theorem heldBy_iff_get? (document : OrderedDocument) :
    point.HeldBy document.content ↔
      (∃ members, document.content = .object members ∧
        (Value.ofDocument document.content).get? (.name "x") = some (.number point.x) ∧
        (Value.ofDocument document.content).get? (.name "y") = some (.number point.y)) ∨
      ∃ elements, document.content = .array elements ∧ elements.length = 2 ∧
        (Value.ofDocument document.content).get? (.ofInt 0) = some (.number point.x) ∧
        (Value.ofDocument document.content).get? (.ofInt 1) = some (.number point.y) := by
  rcases document with ⟨document, hwf⟩
  cases document with
  | object members => simp [heldBy_object_iff_get? hwf.1]
  | array elements => simp [heldBy_array_iff_get?]
  | null | bool _ | number _ | string _ =>
    simp only [reduceCtorEq, false_and, exists_false, or_self, iff_false]
    intro h
    cases h

/-! ## Agreement -/

/-- Narrowing a document to a point agrees with asking its value for two numbers, whatever contract it
is checked against.

- A document is narrowed to some point exactly when it passes the check and is an object whose `x` and
  `y` are numbers, or an array of exactly two numbers.
- It is narrowed to a given point exactly when it passes the check and its value gives the coordinates
  as its numbers: an object under their names, and an array of two elements under positions zero and
  one.  These are the same doubles, bit for bit. -/
theorem typed_agrees_with_dynamic (hwf : document.WellFormed) (expected : Expectations) :
    ((∃ point, (narrow record.read document expected).result = some point) ↔
      (Guard.check document expected).result = true ∧
        ((∃ members x y, document = .object members ∧ ("x", .number x) ∈ members ∧
          ("y", .number y) ∈ members) ∨
          ∃ x y, document = .array [.number x, .number y])) ∧
    ∀ point : Point, (narrow record.read document expected).result = some point ↔
      (Guard.check document expected).result = true ∧
        ((∃ members, document = .object members ∧
          (Value.ofDocument document).get? (.name "x") = some (.number point.x) ∧
          (Value.ofDocument document).get? (.name "y") = some (.number point.y)) ∨
        ∃ elements, document = .array elements ∧ elements.length = 2 ∧
          (Value.ofDocument document).get? (.ofInt 0) = some (.number point.x) ∧
          (Value.ofDocument document).get? (.ofInt 1) = some (.number point.y)) := by
  have hnarrow (point : Point) : (narrow record.read document expected).result = some point ↔
      (Guard.check document expected).result = true ∧ point.HeldBy document := by
    rw [narrow_result_eq_some_iff, read_eq_ok_iff ⟨document, hwf⟩]
  constructor
  · rw [← exists_heldBy_iff]
    simp only [hnarrow, exists_and_left]
  · intro point
    rw [hnarrow, heldBy_iff_get? ⟨document, hwf⟩]

/-- An integer beyond `2 ^ 53` is rounded to the same double on both ways, an array of the coordinates
is narrowed against a contract that asks for its length, and an array of three numbers is not. -/
theorem typed_agrees_with_dynamic_rounded :
    (narrow record.read
        (.object [("x", .number (.integer 9007199254740993 (by decide))), ("y",
          .number (.double ⟨0x8000000000000000⟩ (by decide))), ("z", .null)])
        (.ofList [(.name "x", .number)])).result =
        some ⟨⟨0x4340000000000000⟩, ⟨0x8000000000000000⟩⟩ ∧
      (narrow record.read
        (.array [.number (.double ⟨0x3FF8000000000000⟩ (by decide)),
          .number (.double ⟨0⟩ (by decide))])
        (.ofList [(.name "length", .number)])).result = some ⟨⟨0x3FF8000000000000⟩, ⟨0⟩⟩ ∧
      ¬∃ point, (narrow record.read
        (.array [.number (.double ⟨0⟩ (by decide)), .number (.double ⟨0⟩ (by decide)),
          .number (.double ⟨0⟩ (by decide))]) .empty).result = some point := by
  have hobject : (Document.object [("x", .number (.integer 9007199254740993 (by decide))), ("y",
      .number (.double ⟨0x8000000000000000⟩ (by decide))), ("z", .null)]).WellFormed := by
    refine ⟨?_, trivial, trivial, trivial, trivial⟩
    simp only [Entries.Sorted, List.pairwise_cons, List.forall_mem_cons, List.not_mem_nil,
      false_implies, implies_true, List.Pairwise.nil, and_true]
    decide
  have harray : (Document.array [.number (.double ⟨0x3FF8000000000000⟩ (by decide)),
      .number (.double ⟨0⟩ (by decide))]).WellFormed := ⟨trivial, trivial, trivial⟩
  have hthree : (Document.array [.number (.double ⟨0⟩ (by decide)),
      .number (.double ⟨0⟩ (by decide)), .number (.double ⟨0⟩ (by decide))]).WellFormed :=
    ⟨trivial, trivial, trivial, trivial⟩
  have hrounded : Double.ofInt 9007199254740993 = ⟨0x4340000000000000⟩ := by decide +kernel
  refine ⟨?_, ?_, ?_⟩
  · apply ((typed_agrees_with_dynamic hobject _).2 _).mpr
    rw [← hrounded]
    exact ⟨by decide, Or.inl ⟨_, rfl, rfl, rfl⟩⟩
  · apply ((typed_agrees_with_dynamic harray _).2 _).mpr
    exact ⟨by decide, Or.inr ⟨_, rfl, rfl, rfl, rfl⟩⟩
  · rw [(typed_agrees_with_dynamic hthree _).1]
    rintro ⟨-, ⟨_, _, _, hmembers, -⟩ | ⟨_, _, helements⟩⟩
    · cases hmembers
    · cases helements

end Point
end DuckTyping

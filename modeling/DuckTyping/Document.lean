import DuckTyping.Double
import DuckTyping.OrderedMap

/-!
# Documents

A document is a tree of nulls, booleans, numbers, strings, arrays and objects.  A number is an
integer of at most 64 bits or a finite double.  A well-formed document lists the members of each
object by increasing name, so that it has each name once; a document as it was read may list
members in any order and repeat names, and `Document.canonical` gives the well-formed document that
it stands for, in which the last member of a name wins.

Main definitions:

- `Number`, `Document`: the data.
- `Number.toDouble`: the double that a number converts to.
- `Document.WellFormed`: members are listed by increasing name at every depth.
- `Document.canonical`: the well-formed document that a document as read stands for.
- `OrderedDocument`: a well-formed document; `Document.ordered` bundles the canonical form.

Main results:

- `Document.canonical_wellFormed`: the canonical form is well-formed.
-/

namespace DuckTyping

/-! ## Data -/

/-- A number of a document. -/
inductive Number where
  /-- An integer between the least signed and the greatest unsigned word of 64 bits. -/
  | integer (value : Int)
    (inRange : -0x8000000000000000 ≤ value ∧ value < 0x10000000000000000)
  /-- A number with an exact value. -/
  | double (value : Double) (finite : value.isFinite = true)
deriving DecidableEq, Repr

/-- A document. -/
inductive Document where
  | null
  | bool (value : Bool)
  | number (value : Number)
  | string (text : String)
  | array (elements : List Document)
  | object (members : List (String × Document))
deriving Repr, Inhabited

namespace Number

/-- The double nearest to a number. -/
def toDouble : Number → Double
  | integer value _ => Double.ofInt value
  | double value _ => value

end Number

namespace Document

/-! ## Well-formed documents -/

mutual

/-- Every object lists its members by increasing name. -/
def WellFormed : Document → Prop
  | array elements => ElementsWellFormed elements
  | object members => Entries.Sorted members ∧ MembersWellFormed members
  | _ => True

/-- Every element is well-formed. -/
def ElementsWellFormed : List Document → Prop
  | [] => True
  | element :: rest => element.WellFormed ∧ ElementsWellFormed rest

/-- Every member holds a well-formed document. -/
def MembersWellFormed : List (String × Document) → Prop
  | [] => True
  | (_, document) :: rest => document.WellFormed ∧ MembersWellFormed rest

end

/-- Elements are well-formed together when each of them is. -/
theorem elementsWellFormed_iff {elements : List Document} :
    ElementsWellFormed elements ↔ ∀ element ∈ elements, element.WellFormed := by
  induction elements with
  | nil => simp [ElementsWellFormed]
  | cons element rest ih => simp [ElementsWellFormed, ih]

/-- Members are well-formed together when each of them holds a well-formed document. -/
theorem membersWellFormed_iff {members : List (String × Document)} :
    MembersWellFormed members ↔ ∀ entry ∈ members, entry.2.WellFormed := by
  induction members with
  | nil => simp [MembersWellFormed]
  | cons entry rest ih =>
    rcases entry with ⟨name, document⟩
    simp [MembersWellFormed, ih]

theorem wellFormed_array_iff {elements : List Document} :
    (array elements).WellFormed ↔ ∀ element ∈ elements, element.WellFormed := by
  rw [WellFormed, elementsWellFormed_iff]

theorem wellFormed_object_iff {members : List (String × Document)} :
    (object members).WellFormed ↔
      Entries.Sorted members ∧ ∀ entry ∈ members, entry.2.WellFormed := by
  rw [WellFormed, membersWellFormed_iff]

/-! ## Canonical form -/

mutual

/-- The well-formed document that a document as read stands for: members by increasing name, and
of several members of one name the last. -/
def canonical : Document → Document
  | array elements => array (canonicalElements elements)
  | object members => object (Entries.ofList (canonicalMembers members))
  | document => document

/-- The canonical forms of the elements of an array. -/
def canonicalElements : List Document → List Document
  | [] => []
  | element :: rest => element.canonical :: canonicalElements rest

/-- The members of an object with the canonical forms of what they hold. -/
def canonicalMembers : List (String × Document) → List (String × Document)
  | [] => []
  | (name, document) :: rest => (name, document.canonical) :: canonicalMembers rest

end

/-- The members are brought to canonical form one by one. -/
theorem canonicalMembers_eq_map (members : List (String × Document)) :
    canonicalMembers members = members.map fun entry => (entry.1, entry.2.canonical) := by
  induction members with
  | nil => rfl
  | cons entry rest ih =>
    rcases entry with ⟨name, document⟩
    simp [canonicalMembers, ih]

mutual

/-- The canonical form is well-formed. -/
theorem canonical_wellFormed : ∀ document : Document, document.canonical.WellFormed
  | null | bool _ | number _ | string _ => by simp [canonical, WellFormed]
  | array elements => by
    rw [canonical, WellFormed]
    exact canonicalElements_wellFormed elements
  | object members => by
    rw [canonical, WellFormed]
    refine ⟨Entries.sorted_ofList _, membersWellFormed_iff.mpr fun entry hentry => ?_⟩
    rcases Entries.mem_of_mem_extend hentry with hmem | hmem
    · simp at hmem
    · exact membersWellFormed_iff.mp (canonicalMembers_wellFormed members) entry hmem

/-- The canonical forms of elements are well-formed. -/
theorem canonicalElements_wellFormed :
    ∀ elements : List Document, ElementsWellFormed (canonicalElements elements)
  | [] => by simp [canonicalElements, ElementsWellFormed]
  | element :: rest => by
    rw [canonicalElements, ElementsWellFormed]
    exact ⟨canonical_wellFormed element, canonicalElements_wellFormed rest⟩

/-- The canonical forms of members are well-formed. -/
theorem canonicalMembers_wellFormed :
    ∀ members : List (String × Document), MembersWellFormed (canonicalMembers members)
  | [] => by simp [canonicalMembers, MembersWellFormed]
  | (_, document) :: rest => by
    rw [canonicalMembers, MembersWellFormed]
    exact ⟨canonical_wellFormed document, canonicalMembers_wellFormed rest⟩

end

end Document

/-! ## Bundled documents -/

/-- A document all of whose objects list their members by increasing name. -/
structure OrderedDocument where
  content : Document
  wellFormed : content.WellFormed

/-- The well-formed document that a document as read stands for. -/
def Document.ordered (document : Document) : OrderedDocument where
  content := document.canonical
  wellFormed := document.canonical_wellFormed

end DuckTyping

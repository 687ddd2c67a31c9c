import DuckTyping.Conversion.Record
import DuckTyping.Proofs.Conversion.Reading

/-!
# Reading records

A record visits the members of an object in their order and passes over those that are no field.
Where members are listed by increasing name, this comes to looking up the names of the fields in
turn, so that two objects in which these names find the same are read alike.

Main definitions:

- `Record.fieldNames`: the names of the fields by increasing name.

Main results:

- `Record.read_object_eq_select`: reading an object reads the members that are fields.
- `Record.read_eq_of_lookups`: members that are no field never matter.
- `Record.fillByName_select_cons`: each name is looked up and what it finds is read, if anything.
- `Record.fillInOrder_cons`: the elements of an array are read one by one.
-/

namespace DuckTyping
namespace Record

variable {δ α : Type} {record : Record δ α} {draft : δ} {members : List (String × Document)}

/-! ## Names of fields -/

/-- The names of the fields by increasing name. -/
def fieldNames (record : Record δ α) : List String :=
  (OrderedMap.ofList (record.fields.map fun field => (field.name, ()))).entries.map Prod.fst

theorem fieldNames_sorted (record : Record δ α) :
    record.fieldNames.Pairwise fun a b => compare a b = .lt :=
  List.pairwise_map.mpr (OrderedMap.sorted _)

theorem mem_fieldNames_iff {name : String} :
    name ∈ record.fieldNames ↔ ∃ field ∈ record.fields, field.name = name := by
  simp [fieldNames, OrderedMap.mem_keys_ofList]

theorem find?_eq_none_of_not_mem {name : String} (h : name ∉ record.fieldNames) :
    (record.fields.find? fun field => field.name == name) = none := by
  rw [List.find?_eq_none]
  intro field hfield hname
  exact h (mem_fieldNames_iff.mpr ⟨field, hfield, eq_of_beq hname⟩)

/-! ## Members that are no field -/

/-- Members that are no field are passed over. -/
theorem fillByName_filter (record : Record δ α) (draft : δ) (members : List (String × Document)) :
    record.fillByName draft
        (members.filter fun member => decide (member.1 ∈ record.fieldNames)) =
      record.fillByName draft members := by
  induction members generalizing draft with
  | nil => rfl
  | cons member rest ih =>
    rcases member with ⟨name, document⟩
    by_cases hname : name ∈ record.fieldNames
    · rw [List.filter_cons, if_pos (decide_eq_true hname), fillByName, fillByName]
      cases record.fields.find? fun field => field.name == name with
      | none => exact ih draft
      | some field => simp only [ih]
    · rw [List.filter_cons, if_neg (by simpa using hname), ih, fillByName,
        find?_eq_none_of_not_mem hname]

/-- An object is read by looking up the names of the fields in turn. -/
theorem read_object_eq_select (hsorted : Entries.Sorted members) :
    record.read (.object members) =
      record.read (.object (Entries.select record.fieldNames members)) := by
  rw [← hsorted.filter_eq_select record.fieldNames_sorted, read, read, fillByName_filter]

/-- Two objects in which the names of the fields find the same are read alike, whatever other
members they have. -/
theorem read_eq_of_lookups {others : List (String × Document)} (hsorted : Entries.Sorted members)
    (hothers : Entries.Sorted others)
    (h : ∀ field ∈ record.fields,
      Entries.find? field.name members = Entries.find? field.name others) :
    record.read (.object members) = record.read (.object others) := by
  have hselect : Entries.select record.fieldNames members =
      Entries.select record.fieldNames others := by
    apply List.filterMap_congr
    intro name hname
    rcases mem_fieldNames_iff.mp hname with ⟨field, hfield, rfl⟩
    rw [h field hfield]
  rw [read_object_eq_select hsorted, read_object_eq_select hothers, hselect]

/-! ## Fields that an object names -/

/-- Looking up the name of a field fills it in by what its reader makes of the document found. -/
theorem fillByName_select_cons {β : Type} {name : String} {read : Reader β} {set : δ → β → δ}
    (names : List String)
    (hfield : (record.fields.find? fun field => field.name == name) =
      some (.of name read set)) :
    record.fillByName draft (Entries.select (name :: names) members) =
      (Entries.find? name members).mapM read >>= fun found =>
        record.fillByName (found.elim draft (set draft)) (Entries.select names members) := by
  rw [Entries.select, List.filterMap_cons]
  cases Entries.find? name members with
  | none => rfl
  | some document =>
    simp only [Option.map_some, fillByName, hfield, Field.of, Option.mapM_some]
    cases read document <;> rfl

theorem mapM_string_eq_ok_iff {content : Option Document} {text : String} :
    content.mapM Reader.string = .ok (some text) ↔ content = some (.string text) := by
  simp [mapM_eq_ok_some_iff, Reader.string_eq_ok_iff]

theorem mapM_unsigned64_eq_ok_iff {content : Option Document} {word : UInt64} :
    content.mapM Reader.unsigned64 = .ok (some word) ↔
      ∃ inRange, content = some (.number (.integer word.toNat inRange)) := by
  simp [mapM_eq_ok_some_iff, Reader.unsigned64_eq_ok_iff]

theorem mapM_unsigned32_eq_ok_iff {content : Option Document} {word : UInt32} :
    content.mapM Reader.unsigned32 = .ok (some word) ↔
      ∃ inRange, content = some (.number (.integer word.toNat inRange)) := by
  simp [mapM_eq_ok_some_iff, Reader.unsigned32_eq_ok_iff]

theorem require_eq_ok_iff {β : Type} {name : String} {content : Option β} {b : β} :
    require name content = .ok b ↔ content = some b := by
  cases content <;> simp [require]

/-! ## Fields that an array holds -/

/-- The next element of an array fills in the next field by what its reader makes of it. -/
theorem fillInOrder_cons {β : Type} {place : Nat} {name : String} {read : Reader β}
    {set : δ → β → δ} (fields : List (Field δ)) (document : Document) (rest : List Document) :
    record.fillInOrder place (.of name read set :: fields) draft (document :: rest) =
      read document >>= fun content =>
        record.fillInOrder (place + 1) fields (set draft content) rest := by
  simp only [fillInOrder, Field.of]
  cases read document <;> rfl

end Record
end DuckTyping

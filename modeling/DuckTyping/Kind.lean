import DuckTyping.Text.Quoted

/-!
# Tags and kinds

A `TypeTag` says what a value is; every value has exactly one.  A `Kind` is what a contract may ask
of a property: six of the nine tags.  Null, undefined and booleans can be recognised but never asked
for.

Main definitions:

- `TypeTag`: the nine classes of values, with `TypeTag.typeof` and `TypeTag.display`.
- `Kind`: the six classes that a contract may ask for, in their declaration order.
- `Kind.ofName`, `Kind.ofTag`: reading a kind, with the causes of failure in `KindError`.

Main results:

- `Kind.ofName_name` and `Kind.name_of_ofName_eq_ok`: a kind is read back from its name and from no
  other text.
- `Kind.satisfiedBy_iff`: a tag satisfies a kind exactly when it is the tag of that kind.
-/

namespace DuckTyping

/-! ## Tags -/

/-- What a value is. -/
inductive TypeTag where
  /-- Nothing is bound. -/
  | undefined
  /-- The null sentinel. -/
  | null
  | boolean
  /-- An integer or floating-point number. -/
  | number
  /-- An integer of arbitrary size. -/
  | bigint
  | string
  /-- An opaque unique token. -/
  | symbol
  /-- A callable value. -/
  | function
  /-- A plain object or an array. -/
  | object
deriving DecidableEq, Repr, Inhabited

namespace TypeTag

/-- The nine tags in declaration order. -/
def all : List TypeTag :=
  [undefined, null, boolean, number, bigint, string, symbol, function, object]

/-- The name of a tag; null has a name of its own. -/
def display : TypeTag → String
  | undefined => "undefined"
  | null => "null"
  | boolean => "boolean"
  | number => "number"
  | bigint => "bigint"
  | string => "string"
  | symbol => "symbol"
  | function => "function"
  | object => "object"

/-- The class that a `typeof` test reports, which does not tell null from an object. -/
def typeof : TypeTag → String
  | null => "object"
  | tag => tag.display

/-- Null and undefined stand for the absence of a value. -/
def isNullish : TypeTag → Bool
  | undefined | null => true
  | _ => false

end TypeTag

/-! ## Kinds -/

/-- What a contract may ask of a property. -/
inductive Kind where
  | string
  | object
  | number
  | bigint
  | function
  | symbol
deriving DecidableEq, Repr, Inhabited

/-- Why a kind cannot be read. -/
inductive KindError where
  /-- The text names no tag that is close to a kind. -/
  | unknown (text : String)
  /-- The tag exists, but no contract can ask for it. -/
  | unsupported (tag : TypeTag)
deriving DecidableEq, Repr

namespace Kind

/-- The six kinds in declaration order. -/
def all : List Kind :=
  [string, object, number, bigint, function, symbol]

/-- The place of a kind in declaration order. -/
def rank : Kind → Nat
  | string => 0
  | object => 1
  | number => 2
  | bigint => 3
  | function => 4
  | symbol => 5

/-- Kinds are ordered as they are declared. -/
instance : Ord Kind where
  compare a b := compare a.rank b.rank

/-- The tag that satisfies a kind. -/
def tag : Kind → TypeTag
  | string => .string
  | object => .object
  | number => .number
  | bigint => .bigint
  | function => .function
  | symbol => .symbol

/-- The name of a kind. -/
def name (kind : Kind) : String :=
  kind.tag.display

/-- A tag satisfies a kind when it is the tag of that kind. -/
def satisfiedBy (kind : Kind) (found : TypeTag) : Bool :=
  kind.tag == found

/-- The tags that satisfy a kind. -/
def satisfyingTags (kind : Kind) : List TypeTag :=
  TypeTag.all.filter kind.satisfiedBy

/-- The kinds that a tag satisfies, in declaration order. -/
def satisfiedKinds (found : TypeTag) : List Kind :=
  all.filter fun kind => kind.satisfiedBy found

/-- Read a kind from its name. -/
def ofName (text : String) : Except KindError Kind :=
  if text = "string" then .ok string
  else if text = "object" then .ok object
  else if text = "number" then .ok number
  else if text = "bigint" then .ok bigint
  else if text = "function" then .ok function
  else if text = "symbol" then .ok symbol
  else if text = "boolean" then .error (.unsupported .boolean)
  else if text = "undefined" then .error (.unsupported .undefined)
  else .error (.unknown text)

/-- The kind that asks for a tag. -/
def ofTag : TypeTag → Except KindError Kind
  | .string => .ok string
  | .object => .ok object
  | .number => .ok number
  | .bigint => .ok bigint
  | .function => .ok function
  | .symbol => .ok symbol
  | .null => .error (.unknown "null")
  | other => .error (.unsupported other)

/-- A kind is read back from its name. -/
@[simp]
theorem ofName_name (kind : Kind) : ofName kind.name = .ok kind := by
  cases kind <;> simp [ofName, name, tag, TypeTag.display]

/-- Only the name of a kind is read as that kind. -/
theorem name_of_ofName_eq_ok {text : String} {kind : Kind} (h : ofName text = .ok kind) :
    text = kind.name := by
  grind [ofName, name, tag, TypeTag.display]

/-- Different kinds have different names. -/
theorem name_injective {first second : Kind} (h : first.name = second.name) : first = second := by
  have hread : ofName first.name = ofName second.name := by rw [h]
  rw [ofName_name, ofName_name] at hread
  exact Except.ok.inj hread

/-- Every kind is in the list of all kinds. -/
theorem mem_all (kind : Kind) : kind ∈ all := by
  cases kind <;> decide

/-- A tag satisfies a kind exactly when it is the tag of that kind. -/
@[simp]
theorem satisfiedBy_iff (kind : Kind) (found : TypeTag) :
    kind.satisfiedBy found = true ↔ found = kind.tag := by
  rw [satisfiedBy, beq_iff_eq]
  exact eq_comm

/-- A kind is satisfied by one tag alone. -/
@[simp]
theorem satisfyingTags_eq (kind : Kind) : kind.satisfyingTags = [kind.tag] := by
  cases kind <;> rfl

/-- A kind is asked for by its own tag. -/
@[simp]
theorem ofTag_tag (kind : Kind) : ofTag kind.tag = .ok kind := by
  cases kind <;> rfl

/-- Different kinds ask for different tags. -/
theorem tag_injective {first second : Kind} (h : first.tag = second.tag) : first = second := by
  have hread : ofTag first.tag = ofTag second.tag := by rw [h]
  rw [ofTag_tag, ofTag_tag] at hread
  exact Except.ok.inj hread

/-- No kind is nullish, so a property bound to null or to nothing satisfies no kind. -/
@[simp]
theorem isNullish_tag (kind : Kind) : kind.tag.isNullish = false := by
  cases kind <;> rfl

end Kind

/-! ## Errors -/

namespace KindError

/-- The message of an error. -/
def message : KindError → String
  | unknown text => "unknown kind tag: " ++ Text.quote text
  | unsupported tag =>
    "kind tag " ++ Text.quote tag.display ++ " cannot be used as a property expectation"

/-- The stable code of an error. -/
def code : KindError → String
  | unknown _ => "duckguard::kind::unknown"
  | unsupported _ => "duckguard::kind::unsupported"

/-- Advice on how to mend the input. -/
def help : KindError → String
  | unknown _ => "Expected one of: string, object, number, bigint, function, symbol."
  | unsupported _ => "Only string, object, number, bigint, function and symbol are checkable."

end KindError

end DuckTyping

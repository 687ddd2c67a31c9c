import DuckTyping.Proofs.Expectations.Text
import DuckTyping.Proofs.Written.Object

/-!
# Writing contracts

Names and kinds can be written as an object that gives the kind of each name.  Loading the text
gives back what the list of names and kinds amounts to: no entry is lost, no name is changed or
taken for a symbol, and of several kinds of one name the last one counts.  It does not matter how
the strings of the text are escaped and where blanks stand in it.

Main definitions:

- `Expectations.write`: the text of a list of names and kinds, without blanks.
- `Written.Kinds`: all texts in which such a list is written.

Main results:

- `Scan.namedKinds_written`: the scanner of contracts takes every text in which they are written.
- `Expectations.parse_write`: loading what was written is collecting what was to be written.
-/

namespace DuckTyping

/-! ## Ways to write a contract -/

/-- A list of names and kinds is written as an object that holds the name of each kind. -/
def Written.Kinds (entries : List (String × Kind)) (text : List Char) : Prop :=
  Written.Object (fun kind => Written.Literal kind.name) entries text

namespace Expectations

/-- The text of a name and its kind. -/
def writeMember (entry : String × Kind) : String :=
  Text.literal entry.1 ++ ":" ++ Text.literal entry.2.name

/-- The text of an object that gives kinds to names, in the order of a list. -/
def write (entries : List (String × Kind)) : String :=
  "\x7b" ++ ",".intercalate (entries.map writeMember) ++ "\x7d"

theorem member_writeMember (entry : String × Kind) :
    Written.Member (fun kind => Written.Literal kind.name) entry (writeMember entry).toList := by
  have hmember : Written.Member (fun kind : Kind => Written.Literal kind.name) entry
      ((Text.literal entry.1).toList ++
        ([] ++ ':' :: ([] ++ (Text.literal entry.2.name).toList))) :=
    .parts (Written.literal_of_content entry.1) Written.blank_nil Written.blank_nil
      (Written.literal_of_content entry.2.name)
  simpa [writeMember] using hmember

theorem intercalate_cons {α : Type} (separator first : List α) (rest : List (List α)) :
    separator.intercalate (first :: rest) = first ++ rest.flatMap (separator ++ ·) := by
  induction rest generalizing first with
  | nil => simp
  | cons second rest ih =>
    rw [List.intercalate_cons_cons, ih, List.flatMap_cons, List.append_assoc, List.append_assoc]

theorem members_later (entries : List (String × Kind)) :
    Written.Members (fun kind => Written.Literal kind.name) false entries
      (entries.flatMap fun entry => [','] ++ (writeMember entry).toList) := by
  induction entries with
  | nil => exact .nil Written.blank_nil
  | cons entry entries ih =>
    have hmembers := Written.Members.cons (.later Written.blank_nil Written.blank_nil)
      (member_writeMember entry) ih
    simpa using hmembers

/-- What is written without blanks is one of the texts in which a contract is written. -/
theorem kinds_write (entries : List (String × Kind)) :
    Written.Kinds entries (write entries).toList := by
  cases entries with
  | nil => exact ⟨[], [], [], Written.blank_nil, .nil Written.blank_nil, Written.blank_nil, rfl⟩
  | cons entry entries =>
    have hmembers := Written.Members.cons (.first Written.blank_nil) (member_writeMember entry)
      (members_later entries)
    refine ⟨[], _, [], Written.blank_nil, hmembers, Written.blank_nil, ?_⟩
    simp [write, String.toList_intercalate, intercalate_cons, List.flatMap_map]

/-- Quotes and line feeds are escaped; a name that looks like a number is a string as well. -/
example : write [("a\"\n", .number), ("0", .bigint)] =
    "\x7b\"a\\\"\\n\":\"number\",\"0\":\"bigint\"\x7d" := by
  cbv

end Expectations

/-! ## Loading what was written -/

namespace Scan

/-- A kind is taken from its name, however that is written. -/
theorem takesWritten_kind : TakesWritten Scan.kind fun kind => Written.Literal kind.name := by
  intro blank text kind hblank hliteral rest
  rcases hliteral with ⟨body, hbody, rfl⟩
  have hname : kindName (body ++ ['"'] ++ rest) = .ok (kind, rest) :=
    kindName_eq_ok_iff.mpr (string_written hbody rest)
  rw [List.append_assoc, Scan.kind, skipBlank_append hblank, List.cons_append,
    skipBlank_cons (by decide)]
  exact hname

/-- The kinds of a contract are taken from every text in which they are written, and nothing but
blanks is left. -/
theorem namedKinds_written {entries : List (String × Kind)} {text : List Char}
    (h : Written.Kinds entries text) :
    ∃ after, namedKinds text = .ok (entries, after) ∧ skipBlank after = [] := by
  rcases h with ⟨before, members, after, hbefore, hmembers, hafter, rfl⟩
  refine ⟨after, ?_, skipBlank_of_blank hafter⟩
  rw [namedKinds, skipBlank_append hbefore, skipBlank_cons (by decide)]
  exact members_written takesWritten_kind hmembers after

end Scan

namespace Expectations

theorem parse_written {entries : List (String × Kind)} {text : String}
    (h : Written.Kinds entries text.toList) : parse text = .ok (ofNamed entries) := by
  have htaken : Scan.whole Scan.namedKinds text = .ok entries :=
    Scan.whole_eq_ok_iff.mpr (Scan.namedKinds_written h)
  rw [parse, htaken, Except.map]

/-- Names and kinds that are written as an object are loaded as the contract that is collected from
them, in whatever way the object is written.  The contract holds under each name the last kind that
the list gives for it, and it lists no symbol; dropping overridden kinds beforehand changes
nothing. -/
theorem parse_write (entries : List (String × Kind)) :
    ∃ expected : Expectations,
      expected = .ofList (entries.map fun entry => (.name entry.1, entry.2)) ∧
      parse (write entries) = .ok expected ∧
      (∀ text : String, Written.Kinds entries text.toList → parse text = .ok expected) ∧
      (∀ name, expected.get? (.name name) = Entries.find? name entries.reverse) ∧
      (∀ id, expected.get? (.symbol id) = none) ∧
      expected = ofNamed (OrderedMap.ofList entries).entries := by
  refine ⟨ofNamed entries, rfl, parse_written (kinds_write entries), fun text => parse_written,
    get?_ofNamed_name entries, get?_ofNamed_symbol entries, ?_⟩
  rw [OrderedMap.entries_ofList, ofNamed_ofList]

/-- A line feed written once by its short escape and once by its number, with blanks around the
second colon: both are the same name, and its last kind counts. -/
theorem parse_write_line_feed :
    Written.Kinds [("\n", .string), ("\n", .symbol)]
        "\x7b\"\\n\":\"string\", \"\\u000A\" : \"symbol\"\x7d".toList ∧
      ∃ expected, parse "\x7b\"\\n\":\"string\", \"\\u000A\" : \"symbol\"\x7d" = .ok expected ∧
        expected.get? (.name "\n") = some .symbol := by
  have hshort : Written.Literal "\n" ['"', '\\', 'n', '"'] := Written.literal_of_content "\n"
  have hnumbered : Written.Literal "\n" ['"', '\\', 'u', '0', '0', '0', 'A', '"'] := by
    have hzero : Written.HexDigit 0 '0' := .lower (by decide)
    have hten : Written.HexDigit 10 'A' := .upper (by decide)
    have hunit : Written.HexUnit '\n'.toNat ['0', '0', '0', 'A'] := .digits hzero hzero hzero hten
    exact ⟨_, .cons (.numbered hunit) .nil, rfl⟩
  have hspace : Written.Blank [' '] := by simp [Written.Blank]
  have hkinds : Written.Kinds [("\n", .string), ("\n", .symbol)]
      "\x7b\"\\n\":\"string\", \"\\u000A\" : \"symbol\"\x7d".toList :=
    ⟨[], _, [], Written.blank_nil,
      .cons (.first Written.blank_nil)
        (.parts hshort Written.blank_nil Written.blank_nil (Written.literal_of_content "string"))
        (.cons (.later Written.blank_nil hspace)
          (.parts hnumbered hspace hspace (Written.literal_of_content "symbol"))
          (.nil Written.blank_nil)),
      Written.blank_nil, rfl⟩
  rcases parse_write [("\n", .string), ("\n", .symbol)] with
    ⟨expected, -, -, hwritten, hname, -⟩
  exact ⟨hkinds, expected, hwritten _ hkinds, hname "\n"⟩

end Expectations
end DuckTyping

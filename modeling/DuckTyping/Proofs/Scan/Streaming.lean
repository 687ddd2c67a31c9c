import DuckTyping.Proofs.Conversion.Reading
import DuckTyping.Scan.Members

/-!
# Scanning typed items

A scanner that takes typed items straight from a text agrees with one that takes documents if it
accepts what a reader makes of those documents and leaves the same text.  Agreement on the items of
an object is agreement on its members.

Main definitions:

- `Scan.Streams`: a scanner takes what a reader makes of the documents that another one takes.

Main results:

- `Scan.membersFrom_eq_nil_iff`, `Scan.membersFrom_eq_cons_iff`: one step through an object.
- `Scan.Streams.members_eq_ok_iff`: streaming the items of an object is streaming its members.
- `Scan.whole_eq_ok_iff`: a whole text is taken with nothing but blanks left.
-/

namespace DuckTyping
namespace Scan

variable {α : Type} {text rest : List Char}

/-! ## Members one by one -/

theorem closingBrace_eq_ok_iff :
    closingBrace text = .ok ((), rest) ↔ skipBlank text = '}' :: rest := by
  unfold closingBrace
  cases skipBlank text with
  | nil => simp [failHere]
  | cons c after => by_cases hc : c = '}' <;> simp [hc, failHere]

/-- A member is a name, a colon and an item. -/
theorem member_eq_ok_iff {item : Scanner α} {entry : String × α} :
    member item text = .ok (entry, rest) ↔
      ∃ afterName afterColon, memberName text = .ok (entry.1, afterName) ∧
        colon afterName = .ok ((), afterColon) ∧ item afterColon = .ok (entry.2, rest) := by
  simp only [member, bind_eq_ok_iff, Except.ok.injEq, Prod.mk.injEq]
  constructor
  · rintro ⟨⟨name, afterName⟩, hname, ⟨_, afterColon⟩, hcolon, ⟨content, left⟩, hitem, rfl, rfl⟩
    exact ⟨afterName, afterColon, hname, hcolon, hitem⟩
  · rintro ⟨afterName, afterColon, hname, hcolon, hitem⟩
    exact ⟨_, hname, _, hcolon, _, hitem, rfl, rfl⟩

section Steps

variable {item : Scanner α} {bound : Nat} {first : Bool}

/-- No more members are taken exactly where the closing brace comes next. -/
theorem membersFrom_eq_nil_iff :
    membersFrom item (bound + 1) first text = .ok ([], rest) ↔ skipBlank text = '}' :: rest := by
  unfold membersFrom
  cases skipBlank text with
  | nil => simp [failNext]
  | cons c after =>
    by_cases hc : c = '}'
    · simp [hc]
    · simp [hc, bind_eq_ok_iff]

/-- One more member is taken where its comma, if it needs one, and the member come next. -/
theorem membersFrom_eq_cons_iff {entry : String × α} {entries : List (String × α)} :
    membersFrom item (bound + 1) first text = .ok (entry :: entries, rest) ↔
      ∃ c after start afterEntry, skipBlank text = c :: after ∧ c ≠ '}' ∧
        nextItem first '}' .expectedCommaOrBrace (c :: after) = .ok start ∧
        member item start = .ok (entry, afterEntry) ∧
        membersFrom item bound false afterEntry = .ok (entries, rest) := by
  rcases entry with ⟨name, content⟩
  rw [membersFrom]
  cases skipBlank text with
  | nil => simp [failNext]
  | cons c after =>
    by_cases hc : c = '}'
    · simp [hc]
    · simp [hc, bind_eq_ok_iff]

end Steps

/-! ## Streams -/

/-- A scanner takes what a reader makes of the documents that another scanner takes. -/
def Streams (typed : Scanner α) (item : Scanner Document) (read : Reader α) : Prop :=
  ∀ text a rest, typed text = .ok (a, rest) ↔
    ∃ document, item text = .ok (document, rest) ∧ read document = .ok a

namespace Streams

variable {typed : Scanner α} {item : Scanner Document} {read : Reader α}

theorem member_eq_ok_iff (h : Streams typed item read) {entry : String × α} :
    member typed text = .ok (entry, rest) ↔
      ∃ document, member item text = .ok ((entry.1, document), rest) ∧
        read document = .ok entry.2 := by
  simp only [Scan.member_eq_ok_iff, h _ _ _]
  constructor
  · rintro ⟨afterName, afterColon, hname, hcolon, document, hitem, hread⟩
    exact ⟨document, ⟨afterName, afterColon, hname, hcolon, hitem⟩, hread⟩
  · rintro ⟨document, ⟨afterName, afterColon, hname, hcolon, hitem⟩, hread⟩
    exact ⟨afterName, afterColon, hname, hcolon, document, hitem, hread⟩

theorem membersFrom_eq_ok_iff (h : Streams typed item read) {bound : Nat} {first : Bool}
    {entries : List (String × α)} :
    membersFrom typed bound first text = .ok (entries, rest) ↔
      ∃ members, membersFrom item bound first text = .ok (members, rest) ∧
        Reader.eachMember read members = .ok entries := by
  -- Both scanners leave the same text after each member, so they stay at the same place.
  induction bound generalizing first text entries with
  | zero => simp [membersFrom, failNext]
  | succ bound ih =>
    simp only [Reader.eachMember_eq_ok_iff] at ih ⊢
    cases entries with
    | nil => simp [membersFrom_eq_nil_iff]
    | cons entry entries =>
      rw [membersFrom_eq_cons_iff]
      constructor
      · rintro ⟨c, after, start, afterEntry, hblank, hc, hstart, hentry, hentries⟩
        rcases h.member_eq_ok_iff.mp hentry with ⟨document, hmember, hread⟩
        rcases ih.mp hentries with ⟨members, hmembers, hrelated⟩
        refine ⟨(entry.1, document) :: members, ?_, .cons ⟨rfl, hread⟩ hrelated⟩
        rw [membersFrom_eq_cons_iff]
        exact ⟨c, after, start, afterEntry, hblank, hc, hstart, hmember, hmembers⟩
      · rintro ⟨members, hmembers, hrelated⟩
        cases hrelated with
        | @cons member _ members _ hfirst hrest =>
          rcases member with ⟨name, document⟩
          rcases membersFrom_eq_cons_iff.mp hmembers with
            ⟨c, after, start, afterEntry, hblank, hc, hstart, hmember, hmembers⟩
          refine ⟨c, after, start, afterEntry, hblank, hc, hstart, ?_, ih.mpr ⟨_, hmembers, hrest⟩⟩
          rw [h.member_eq_ok_iff, ← hfirst.1]
          exact ⟨document, hmember, hfirst.2⟩

/-- The members of an object are streamed if its items are. -/
theorem members_eq_ok_iff (h : Streams typed item read) {entries : List (String × α)} :
    members typed text = .ok (entries, rest) ↔
      ∃ members, Scan.members item text = .ok (members, rest) ∧
        Reader.eachMember read members = .ok entries :=
  h.membersFrom_eq_ok_iff

end Streams

/-! ## Whole texts -/

theorem finish_eq_ok_iff {result : Unit} : finish text = .ok result ↔ skipBlank text = [] := by
  unfold finish
  cases skipBlank text <;> simp [failNext]

/-- A scanner takes a whole text if it leaves nothing but blanks. -/
theorem whole_eq_ok_iff {item : Scanner α} {text : String} {a : α} :
    whole item text = .ok a ↔ ∃ rest, item text.toList = .ok (a, rest) ∧ skipBlank rest = [] := by
  simp only [whole, mapError_eq_ok_iff, bind_eq_ok_iff, finish_eq_ok_iff, Except.ok.injEq]
  constructor
  · rintro ⟨⟨content, rest⟩, hitem, _, hfinish, rfl⟩
    exact ⟨rest, hitem, hfinish⟩
  · rintro ⟨rest, hitem, hfinish⟩
    exact ⟨(a, rest), hitem, (), hfinish, rfl⟩

end Scan
end DuckTyping

import DuckTyping.Proofs.Scan.Streaming
import DuckTyping.Proofs.Written.Literal

/-!
# Written objects

An object is written between braces, its members separated by commas, each as its name, a colon and
its item; blanks may stand between any two of these parts.  How an item is written is left open, so
that one grammar serves objects of every kind of item.  A scanner of members takes whatever is
written in this way if its scanner of items takes every written item.

Main definitions:

- `Written.Member`, `Written.Members`, `Written.Object`: named items are written as a text.
- `Scan.TakesWritten`: a scanner takes every written item, after any blanks.

Main results:

- `Scan.membersFrom_written`: written members are taken, in their order and with repeated names.
- `Scan.members_written`: the same for all members of an object.
-/

namespace DuckTyping

variable {α : Type}

/-! ## Ways to write an object -/

namespace Written

/-- Blanks are spaces, tabs and the two line ends. -/
def Blank (text : List Char) : Prop :=
  ∀ c ∈ text, c = ' ' ∨ c = '\t' ∨ c = '\n' ∨ c = '\r'

theorem blank_nil : Blank [] := by
  simp [Blank]

/-- A member is written as its name, a colon and its item. -/
inductive Member (writes : α → List Char → Prop) : String × α → List Char → Prop where
  | parts {entry : String × α} {name before after item : List Char}
      (hname : Literal entry.1 name) (hbefore : Blank before) (hafter : Blank after)
      (hitem : writes entry.2 item) :
      Member writes entry (name ++ (before ++ ':' :: (after ++ item)))

/-- What stands before a member: blanks, and a comma among them unless the member is the first. -/
inductive Separator : Bool → List Char → Prop where
  | first {before : List Char} (hbefore : Blank before) : Separator true before
  | later {before after : List Char} (hbefore : Blank before) (hafter : Blank after) :
      Separator false (before ++ ',' :: after)

/-- Members are written one after the other; blanks may stand behind the last. -/
inductive Members (writes : α → List Char → Prop) :
    Bool → List (String × α) → List Char → Prop where
  | nil {first : Bool} {blank : List Char} (hblank : Blank blank) : Members writes first [] blank
  | cons {first : Bool} {entry : String × α} {entries : List (String × α)}
      {separator text others : List Char} (hseparator : Separator first separator)
      (hentry : Member writes entry text) (hentries : Members writes false entries others) :
      Members writes first (entry :: entries) (separator ++ (text ++ others))

/-- An object is written between braces. -/
def Object (writes : α → List Char → Prop) (entries : List (String × α)) (text : List Char) :
    Prop :=
  ∃ before members after, Blank before ∧ Members writes true entries members ∧ Blank after ∧
    text = before ++ '{' :: (members ++ '}' :: after)

variable {writes : α → List Char → Prop} {entry : String × α} {text : List Char}

theorem exists_quote_of_member (h : Member writes entry text) : ∃ tail, text = '"' :: tail := by
  cases h with
  | parts hname =>
    rcases hname with ⟨body, -, rfl⟩
    exact ⟨_, rfl⟩

theorem length_le_of_members {first : Bool} {entries : List (String × α)}
    (h : Members writes first entries text) : entries.length ≤ text.length := by
  induction h with
  | nil => exact Nat.zero_le _
  | @cons first entry entries separator text others _ hentry _ ih =>
    rcases exists_quote_of_member hentry with ⟨tail, rfl⟩
    simp only [List.length_cons, List.length_append]
    omega

end Written

/-! ## Taking an object -/

namespace Scan

variable {writes : α → List Char → Prop} {item : Scanner α} {text rest : List Char}

/-! ### Blanks -/

theorem skipBlank_append {blank : List Char} (h : Written.Blank blank) (text : List Char) :
    skipBlank (blank ++ text) = skipBlank text := by
  apply List.dropWhile_append_of_pos
  intro c hc
  rcases h c hc with rfl | rfl | rfl | rfl <;> rfl

theorem skipBlank_cons {c : Char} (h : isBlank c = false) (text : List Char) :
    skipBlank (c :: text) = c :: text := by
  simp [skipBlank, h]

theorem skipBlank_of_blank (h : Written.Blank text) : skipBlank text = [] := by
  have hskip := skipBlank_append h []
  rwa [List.append_nil] at hskip

/-! ### Members -/

/-- A scanner takes every written item, after any blanks. -/
def TakesWritten (item : Scanner α) (writes : α → List Char → Prop) : Prop :=
  ∀ {blank text : List Char} {content : α}, Written.Blank blank → writes content text →
    Takes item content (blank ++ text)

theorem takes_memberName {name : String} (h : Written.Literal name text) :
    Takes memberName name text := by
  intro rest
  rcases h with ⟨body, hbody, rfl⟩
  exact string_written hbody rest

theorem takes_colon {before : List Char} (h : Written.Blank before) :
    Takes colon () (before ++ [':']) := by
  intro rest
  rw [List.append_assoc, colon, skipBlank_append h, List.singleton_append,
    skipBlank_cons (by decide)]
  simp

theorem takes_member (hitem : TakesWritten item writes) {entry : String × α}
    (h : Written.Member writes entry text) : Takes (member item) entry text := by
  intro rest
  cases h with
  | @parts name before after content hname hbefore hafter hcontent =>
    rw [member_eq_ok_iff]
    refine ⟨(before ++ [':']) ++ ((after ++ content) ++ rest), (after ++ content) ++ rest, ?_, ?_,
      hitem hafter hcontent rest⟩
    · have htaken := takes_memberName hname ((before ++ [':']) ++ ((after ++ content) ++ rest))
      simpa using htaken
    · exact takes_colon hbefore _

/-- The scanner comes to a member across what stands before it. -/
theorem nextItem_written {first : Bool} {separator tail : List Char} {noComma : Cause}
    (h : Written.Separator first separator) :
    ∃ c after, skipBlank (separator ++ '"' :: tail) = c :: after ∧ c ≠ '}' ∧
      nextItem first '}' noComma (c :: after) = .ok ('"' :: tail) := by
  cases h with
  | first hbefore =>
    refine ⟨'"', tail, ?_, by decide, rfl⟩
    rw [skipBlank_append hbefore, skipBlank_cons (by decide)]
  | @later before after hbefore hafter =>
    refine ⟨',', after ++ '"' :: tail, ?_, by decide, ?_⟩
    · rw [List.append_assoc, skipBlank_append hbefore, List.cons_append,
        skipBlank_cons (by decide)]
    · have hquote : skipBlank ('"' :: tail) = '"' :: tail := skipBlank_cons (by decide) tail
      simp [nextItem, skipBlank_append hafter, hquote]

/-- Written members are taken, in their order and with repeated names. -/
theorem membersFrom_written (hitem : TakesWritten item writes) {first : Bool}
    {entries : List (String × α)} (h : Written.Members writes first entries text) {bound : Nat}
    (hbound : entries.length < bound) (rest : List Char) :
    membersFrom item bound first (text ++ '}' :: rest) = .ok (entries, rest) := by
  induction h generalizing bound with
  | nil hblank =>
    cases bound with
    | zero => exact absurd hbound (Nat.not_lt_zero _)
    | succ bound =>
      rw [membersFrom_eq_nil_iff, skipBlank_append hblank, skipBlank_cons (by decide)]
  | @cons first entry entries separator text others hseparator hentry _ ih =>
    cases bound with
    | zero => exact absurd hbound (Nat.not_lt_zero _)
    | succ bound =>
      have hothers := ih (Nat.lt_of_succ_lt_succ hbound)
      have htaken := takes_member hitem hentry (others ++ '}' :: rest)
      rcases Written.exists_quote_of_member hentry with ⟨tail, rfl⟩
      rcases nextItem_written hseparator with ⟨c, after, hblank, hc, hstart⟩
      rw [membersFrom_eq_cons_iff]
      refine ⟨c, after, _, _, ?_, hc, hstart, htaken, hothers⟩
      rw [← hblank]
      simp

/-- All written members of an object are taken. -/
theorem members_written (hitem : TakesWritten item writes) {entries : List (String × α)}
    (h : Written.Members writes true entries text) (rest : List Char) :
    members item (text ++ '}' :: rest) = .ok (entries, rest) := by
  have hlength := Written.length_le_of_members h
  apply membersFrom_written hitem h
  rw [List.length_append]
  omega

end Scan
end DuckTyping

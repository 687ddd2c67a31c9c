import DuckTyping.OrderedMap
import Mathlib.Data.List.Basic
import Mathlib.Data.List.Dedup
import Mathlib.Data.List.Forall2
import Mathlib.Data.List.Nodup
import Mathlib.Data.List.Perm.Subperm

/-!
# Lists of bindings

A map that is built by binding keys one after the other holds under each key what the key was bound
to last.  Where no key is repeated, nothing is lost.

Main results:

- `exists_first_cons_iff`: where the first hit of a list is, one element after the other.
- `Entries.find?_ofList`: look-up after a list of bindings finds the last binding of the key.
- `Entries.mem_ofList_iff`: without repeated keys the map has the entries of the list.
- `Entries.ofList_of_sorted`: a sorted list is its own map.
- `Entries.Sorted.filter_eq_select`: the entries under some keys, found by looking up these keys.
- `Entries.ofList_eq_of_perm`: without repeated keys the order of the bindings does not matter.
- `Entries.forall₂_ofList`: lists with the same keys and related items become such maps.
- `Entries.Sorted.forall₂_related_iff`: sorted lists have the same keys and related items when they
  are of one length and the keys of one of them are found in the other.
- `Entries.Sorted.forall₂_related_iff_rel`: the same by comparing the look-ups of each key.
- `OrderedMap.entries_ofList`: the same as an ordered map.
- `OrderedMap.eq_or_get?_of_get?_insert`: what keys are bound to after an insertion.
- `OrderedMap.put_eq`: putting a key looks it up and binds it.
- `OrderedMap.get?_ofList`, `OrderedMap.mem_keys_ofList`, `OrderedMap.size_ofList`: what a list of
  bindings leaves under each key, and under how many keys.
-/

namespace DuckTyping

/-! ## The first hit of a list -/

/-- The first hit in a list is its head, or the head is passed over and the first hit in the rest is
one position earlier there. -/
theorem exists_first_cons_iff {α : Type} (passed : α → Prop) (hit : Nat → α → Prop) {head : α}
    {rest : List α} :
    (∃ before element after, head :: rest = before ++ element :: after ∧
      (∀ earlier ∈ before, passed earlier) ∧ hit before.length element) ↔
    hit 0 head ∨ passed head ∧ ∃ before element after, rest = before ++ element :: after ∧
      (∀ earlier ∈ before, passed earlier) ∧ hit (before.length + 1) element := by
  constructor
  · intro h
    rcases h with ⟨before, element, after, hsplit, hbefore, hhit⟩
    cases before with
    | nil =>
      rcases List.cons.inj hsplit with ⟨rfl, -⟩
      exact Or.inl hhit
    | cons first others =>
      rcases List.cons.inj hsplit with ⟨rfl, hrest⟩
      rcases List.forall_mem_cons.mp hbefore with ⟨hfirst, hothers⟩
      exact Or.inr ⟨hfirst, others, element, after, hrest, hothers, hhit⟩
  · intro h
    rcases h with hhit | ⟨hhead, before, element, after, rfl, hbefore, hhit⟩
    · exact ⟨[], head, rest, rfl, by simp, hhit⟩
    · exact ⟨head :: before, element, after, rfl, List.forall_mem_cons.mpr ⟨hhead, hbefore⟩, hhit⟩

/-! ## The order of keys -/

/-- A key that is not greater than another is that key or is smaller. -/
theorem eq_or_compare_lt {κ : Type} [Ord κ] [Std.LawfulEqOrd κ] [Std.OrientedOrd κ] {a b : κ}
    (h : compare b a ≠ .lt) : a = b ∨ compare a b = .lt := by
  cases hcompare : compare a b with
  | lt => exact Or.inr rfl
  | eq => exact Or.inl (Std.LawfulEqOrd.eq_of_compare hcompare)
  | gt => exact absurd (Std.OrientedCmp.lt_of_gt hcompare) h

namespace Entries

variable {κ α β : Type}

/-! ## Looking up -/

section Lookup

variable [DecidableEq κ]

theorem find?_append (key : κ) (xs ys : List (κ × α)) :
    find? key (xs ++ ys) = (find? key xs).or (find? key ys) := by
  induction xs with
  | nil => rfl
  | cons entry rest ih =>
    rw [List.cons_append, find?_cons, find?_cons, ih]
    by_cases h : entry.1 = key
    · rw [if_pos h, if_pos h, Option.some_or]
    · rw [if_neg h, if_neg h]

/-- Look-up finds the first entry under the key. -/
theorem find?_eq_map_find? (key : κ) (entries : List (κ × α)) :
    find? key entries = (entries.find? fun entry => entry.1 = key).map Prod.snd := by
  induction entries with
  | nil => rfl
  | cons entry rest ih =>
    rw [find?_cons, List.find?_cons]
    by_cases h : entry.1 = key
    · simp [h]
    · simp [h, ih]

/-- A key is bound exactly when some entry is under it. -/
theorem find?_ne_none_iff {key : κ} {entries : List (κ × α)} :
    find? key entries ≠ none ↔ key ∈ entries.map Prod.fst := by
  rw [Ne, find?_eq_none_iff, List.mem_map]
  simp only [not_forall, not_not, exists_prop]

/-- Without repeated keys every entry is the one that its key finds. -/
theorem find?_eq_some_iff_of_nodup {entries : List (κ × α)}
    (h : (entries.map Prod.fst).Nodup) {key : κ} {a : α} :
    find? key entries = some a ↔ (key, a) ∈ entries := by
  refine ⟨mem_of_find?_eq_some, ?_⟩
  intro hmem
  induction entries with
  | nil => simp at hmem
  | cons entry rest ih =>
    rcases List.nodup_cons.mp h with ⟨hfirst, hrest⟩
    rw [find?_cons]
    rcases List.mem_cons.mp hmem with rfl | hmem
    · exact if_pos rfl
    · have hne : entry.1 ≠ key := by
        intro heq
        exact hfirst (heq ▸ List.mem_map_of_mem hmem)
      rw [if_neg hne]
      exact ih hrest hmem

/-- What is left after taking a key was there before. -/
theorem take_subset (key : κ) (entries : List (κ × α)) : (take key entries).2 ⊆ entries := by
  induction entries with
  | nil => exact List.Subset.refl _
  | cons entry rest ih =>
    rcases entry with ⟨k, a⟩
    by_cases h : k = key
    · simp [take, h]
    · simpa [take, h] using List.cons_subset_cons (k, a) ih

theorem find?_reverse_of_nodup {entries : List (κ × α)} (h : (entries.map Prod.fst).Nodup)
    (key : κ) : find? key entries.reverse = find? key entries := by
  have hreverse : (entries.reverse.map Prod.fst).Nodup := by
    rwa [List.map_reverse, List.nodup_reverse]
  apply Option.ext
  intro a
  rw [find?_eq_some_iff_of_nodup hreverse, find?_eq_some_iff_of_nodup h, List.mem_reverse]

end Lookup

/-! ## Order -/

/-- In a sorted list the entries before an entry are those with smaller keys. -/
theorem Sorted.mem_before_iff [Ord κ] [Std.LawfulEqOrd κ] [Std.TransOrd κ]
    {before after : List (κ × α)} {entry other : κ × α}
    (h : Sorted (before ++ entry :: after)) :
    other ∈ before ↔ other ∈ before ++ entry :: after ∧ compare other.1 entry.1 = .lt := by
  rw [Sorted, List.pairwise_append, List.pairwise_cons] at h
  rcases h with ⟨-, ⟨hafter, -⟩, hbefore⟩
  constructor
  · intro hother
    exact ⟨List.mem_append_left _ hother, hbefore other hother entry List.mem_cons_self⟩
  · rintro ⟨hmem, hlt⟩
    rcases List.mem_append.mp hmem with hother | hmem
    · exact hother
    · rcases List.mem_cons.mp hmem with rfl | hother
      · simp at hlt
      · have hself : compare other.1 other.1 = .lt := Std.TransCmp.lt_trans hlt (hafter other hother)
        simp at hself

/-! ## Histories -/

section History

variable [Ord κ] [Std.LawfulEqOrd κ]

theorem Sorted.nodup_keys {entries : List (κ × α)} (h : Sorted entries) :
    (entries.map Prod.fst).Nodup := by
  apply List.pairwise_map.mpr
  apply h.imp
  intro x y hlt heq
  simp [heq] at hlt

variable [DecidableEq κ]

/-- After more bindings a key holds what it was bound to last, or what it held before. -/
theorem find?_extend (key : κ) (entries bindings : List (κ × α)) :
    find? key (extend entries bindings) =
      (find? key bindings.reverse).or (find? key entries) := by
  induction bindings generalizing entries with
  | nil => rfl
  | cons entry rest ih =>
    have hstep :
        extend entries (entry :: rest) = extend (insert entry.1 entry.2 entries) rest := rfl
    rw [hstep, ih, List.reverse_cons, find?_append, Option.or_assoc, find?_insert, find?_cons]
    congr 1
    by_cases h : entry.1 = key
    · rw [if_pos h, if_pos h.symm, Option.some_or]
    · rw [if_neg h, if_neg (Ne.symm h)]
      rfl

/-- Look-up after a list of bindings finds the last binding of the key. -/
theorem find?_ofList (key : κ) (bindings : List (κ × α)) :
    find? key (ofList bindings) = find? key bindings.reverse := by
  rw [ofList, find?_extend, find?_nil, Option.or_none]

variable [Std.TransOrd κ]

/-- Without repeated keys a list of bindings becomes a map with the same entries. -/
theorem mem_ofList_iff {bindings : List (κ × α)} (h : (bindings.map Prod.fst).Nodup)
    {entry : κ × α} : entry ∈ ofList bindings ↔ entry ∈ bindings := by
  rcases entry with ⟨key, a⟩
  rw [← (sorted_ofList bindings).find?_eq_some_iff, find?_ofList, find?_reverse_of_nodup h,
    find?_eq_some_iff_of_nodup h]

/-- A sorted list is its own map. -/
theorem ofList_of_sorted {entries : List (κ × α)} (h : Sorted entries) :
    ofList entries = entries := by
  apply (sorted_ofList entries).ext h
  intro key
  rw [find?_ofList, find?_reverse_of_nodup h.nodup_keys]

/-- Without repeated keys the order of the bindings does not matter. -/
theorem ofList_eq_of_perm {xs ys : List (κ × α)} (h : xs.Perm ys)
    (hnodup : (xs.map Prod.fst).Nodup) : ofList xs = ofList ys := by
  have hnodup' : (ys.map Prod.fst).Nodup := (h.map Prod.fst).nodup_iff.mp hnodup
  apply (sorted_ofList xs).ext (sorted_ofList ys)
  intro key
  apply Option.ext
  intro a
  rw [(sorted_ofList xs).find?_eq_some_iff, (sorted_ofList ys).find?_eq_some_iff,
    mem_ofList_iff hnodup, mem_ofList_iff hnodup', h.mem_iff]

end History

/-! ## Selection -/

section Selection

variable [DecidableEq κ]

/-- The entries under the keys of a list, in the order of that list. -/
def select (keys : List κ) (entries : List (κ × α)) : List (κ × α) :=
  keys.filterMap fun key => (find? key entries).map (key, ·)

theorem find?_select (keys : List κ) (entries : List (κ × α)) (key : κ) :
    find? key (select keys entries) = if key ∈ keys then find? key entries else none := by
  induction keys with
  | nil => rfl
  | cons first rest ih =>
    rw [select, List.filterMap_cons]
    cases hfirst : find? first entries with
    | none =>
      by_cases h : key = first
      · subst h
        simpa [select, hfirst] using ih
      · simpa [select, h] using ih
    | some a =>
      simp only [Option.map_some, find?_cons]
      by_cases h : key = first
      · subst h
        simp [hfirst]
      · rw [if_neg (Ne.symm h)]
        simpa [select, h] using ih

/-- Filtering by keys unbinds the other keys. -/
theorem find?_filter (keep : κ → Bool) (entries : List (κ × α)) (key : κ) :
    find? key (entries.filter fun entry => keep entry.1) =
      if keep key then find? key entries else none := by
  induction entries with
  | nil => simp
  | cons entry rest ih =>
    by_cases hkeep : keep entry.1 = true
    · rw [List.filter_cons, if_pos hkeep, find?_cons, find?_cons, ih]
      by_cases h : entry.1 = key
      · subst h
        simp [hkeep]
      · simp [h]
    · rw [List.filter_cons, if_neg hkeep, find?_cons, ih]
      by_cases h : entry.1 = key
      · subst h
        simp [hkeep]
      · simp [h]

variable [Ord κ]

theorem sorted_select {keys : List κ} (h : keys.Pairwise fun a b => compare a b = .lt)
    (entries : List (κ × α)) : Sorted (select keys entries) := by
  apply List.Pairwise.filterMap _ _ h
  intro key other hlt x hx y hy
  rw [Option.map_eq_some_iff] at hx hy
  rcases hx with ⟨_, _, rfl⟩
  rcases hy with ⟨_, _, rfl⟩
  exact hlt

/-- The entries of a sorted list under some keys are found by looking up these keys in turn. -/
theorem Sorted.filter_eq_select [Std.LawfulEqOrd κ] [Std.TransOrd κ] {keys : List κ}
    {entries : List (κ × α)} (h : Sorted entries)
    (hkeys : keys.Pairwise fun a b => compare a b = .lt) :
    (entries.filter fun entry => decide (entry.1 ∈ keys)) = select keys entries := by
  have hfilter : Sorted (entries.filter fun entry => decide (entry.1 ∈ keys)) :=
    List.Pairwise.filter _ h
  apply hfilter.ext (sorted_select hkeys entries)
  intro key
  rw [find?_filter (fun key => decide (key ∈ keys)), find?_select]
  simp only [decide_eq_true_eq]

end Selection

/-! ## Related items -/

section Related

/-- Two entries have the same key and related items. -/
def Related (r : α → β → Prop) (x : κ × α) (y : κ × β) : Prop :=
  x.1 = y.1 ∧ r x.2 y.2

variable {r : α → β → Prop}

theorem map_fst_eq_of_forall₂ {xs : List (κ × α)} {ys : List (κ × β)}
    (h : List.Forall₂ (Related r) xs ys) : xs.map Prod.fst = ys.map Prod.fst := by
  induction h with
  | nil => rfl
  | cons hentry _ ih => rw [List.map_cons, List.map_cons, hentry.1, ih]

/-- A key of one of two lists with the same keys and related items is bound in both, to related
items. -/
theorem exists_find?_of_forall₂ [DecidableEq κ] {xs : List (κ × α)} {ys : List (κ × β)}
    (h : List.Forall₂ (Related r) xs ys) {key : κ} {a : α} (hfind : find? key xs = some a) :
    ∃ b, find? key ys = some b ∧ r a b := by
  induction h with
  | nil => contradiction
  | @cons x y xs ys hentry _ ih =>
    rw [find?_cons] at hfind
    rw [find?_cons, ← hentry.1]
    by_cases hkey : x.1 = key
    · rw [if_pos hkey] at hfind ⊢
      cases hfind
      exact ⟨y.2, rfl, hentry.2⟩
    · rw [if_neg hkey] at hfind ⊢
      exact ih hfind

variable [Ord κ]

theorem forall₂_insert {xs : List (κ × α)} {ys : List (κ × β)}
    (h : List.Forall₂ (Related r) xs ys) (key : κ) {a : α} {b : β} (hab : r a b) :
    List.Forall₂ (Related r) (insert key a xs) (insert key b ys) := by
  induction h with
  | nil => exact .cons ⟨rfl, hab⟩ .nil
  | @cons x y xs ys hentry hrest ih =>
    rcases x with ⟨k, c⟩
    rcases y with ⟨l, d⟩
    have hkey : k = l := hentry.1
    subst hkey
    rw [insert, insert]
    cases compare key k with
    | lt => exact .cons ⟨rfl, hab⟩ (.cons hentry hrest)
    | eq => exact .cons ⟨rfl, hab⟩ hrest
    | gt => exact .cons hentry ih

/-- Lists with the same keys and related items become maps with the same keys and related
items. -/
theorem forall₂_ofList {xs : List (κ × α)} {ys : List (κ × β)}
    (h : List.Forall₂ (Related r) xs ys) : List.Forall₂ (Related r) (ofList xs) (ofList ys) := by
  have hextend : ∀ {xs₀ : List (κ × α)} {ys₀ : List (κ × β)},
      List.Forall₂ (Related r) xs₀ ys₀ →
        List.Forall₂ (Related r) (extend xs₀ xs) (extend ys₀ ys) := by
    induction h with
    | nil => exact id
    | @cons x y xs ys hentry _ ih =>
      intro xs₀ ys₀ h₀
      rcases x with ⟨k, c⟩
      rcases y with ⟨l, d⟩
      have hkey : k = l := hentry.1
      subst hkey
      exact ih (forall₂_insert h₀ k hentry.2)
  exact hextend .nil

/-- Sorted lists of one length have the same keys if one of them has those of the other. -/
theorem Sorted.keys_eq_of_subset [Std.LawfulEqOrd κ] [Std.TransOrd κ] {xs : List (κ × α)}
    {ys : List (κ × β)} (hx : Sorted xs) (hy : Sorted ys) (hlength : xs.length = ys.length)
    (hsubset : xs.map Prod.fst ⊆ ys.map Prod.fst) : xs.map Prod.fst = ys.map Prod.fst := by
  have hperm : (xs.map Prod.fst).Perm (ys.map Prod.fst) := by
    apply (List.subperm_of_subset hx.nodup_keys hsubset).perm_of_length_le
    rw [List.length_map, List.length_map]
    exact Nat.le_of_eq hlength.symm
  have hincreasing : (xs.map Prod.fst).Pairwise fun key other => compare key other = .lt :=
    List.pairwise_map.mpr hx
  have hincreasing' : (ys.map Prod.fst).Pairwise fun key other => compare key other = .lt :=
    List.pairwise_map.mpr hy
  apply hperm.eq_of_pairwise _ hincreasing hincreasing'
  intro key other _ _ hlt hgt
  have hself : compare key key = .lt := Std.TransCmp.lt_trans hlt hgt
  rw [Std.ReflOrd.compare_self] at hself
  contradiction

/-- Sorted lists have the same keys and related items exactly when they are of one length and each
key of the first is bound in the second, to a related item. -/
theorem Sorted.forall₂_related_iff [Std.LawfulEqOrd κ] [Std.TransOrd κ] [DecidableEq κ]
    {xs : List (κ × α)} {ys : List (κ × β)} (hx : Sorted xs) (hy : Sorted ys) :
    List.Forall₂ (Related r) xs ys ↔
      xs.length = ys.length ∧
        ∀ key a, find? key xs = some a → ∃ b, find? key ys = some b ∧ r a b := by
  constructor
  · intro h
    exact ⟨h.length_eq, fun _ _ => exists_find?_of_forall₂ h⟩
  · rintro ⟨hlength, hfind⟩
    have hsubset : xs.map Prod.fst ⊆ ys.map Prod.fst := by
      intro key hkey
      rw [← find?_ne_none_iff, Option.ne_none_iff_exists'] at hkey ⊢
      rcases hkey with ⟨a, ha⟩
      rcases hfind key a ha with ⟨b, hb, -⟩
      exact ⟨b, hb⟩
    have hkeys := hx.keys_eq_of_subset hy hlength hsubset
    apply List.forall₂_of_length_eq_of_get hlength
    intro i hi hi'
    have hkey : (xs.get ⟨i, hi⟩).1 = (ys.get ⟨i, hi'⟩).1 := by
      simpa [hi, hi'] using congrArg (·[i]?) hkeys
    refine ⟨hkey, ?_⟩
    rcases hfind _ _ (hx.find?_eq_some_iff.mpr (xs.get_mem ⟨i, hi⟩)) with ⟨b, hb, hab⟩
    rw [hkey, hy.find?_eq_some_iff.mpr (ys.get_mem ⟨i, hi'⟩)] at hb
    cases hb
    exact hab

/-- Sorted lists have the same keys and related items exactly when they bind the same keys, and
every key to related items. -/
theorem Sorted.forall₂_related_iff_keys [Std.LawfulEqOrd κ] [Std.TransOrd κ] [DecidableEq κ]
    {xs : List (κ × α)} {ys : List (κ × β)} (hx : Sorted xs) (hy : Sorted ys) :
    List.Forall₂ (Related r) xs ys ↔
      (∀ key, key ∈ xs.map Prod.fst ↔ key ∈ ys.map Prod.fst) ∧
        ∀ key a b, find? key xs = some a → find? key ys = some b → r a b := by
  rw [hx.forall₂_related_iff hy]
  constructor
  · rintro ⟨hlength, hfind⟩
    have hrelated := (hx.forall₂_related_iff hy).mpr ⟨hlength, hfind⟩
    refine ⟨fun key => by rw [map_fst_eq_of_forall₂ hrelated], ?_⟩
    intro key a b ha hb
    rcases hfind key a ha with ⟨b', hb', hab⟩
    rw [hb] at hb'
    cases hb'
    exact hab
  · rintro ⟨hkeys, hitems⟩
    constructor
    · have hperm : (xs.map Prod.fst).Perm (ys.map Prod.fst) :=
        (List.perm_ext_iff_of_nodup hx.nodup_keys hy.nodup_keys).mpr hkeys
      simpa using hperm.length_eq
    · intro key a ha
      have hbound : find? key ys ≠ none := by
        rw [find?_ne_none_iff, ← hkeys, ← find?_ne_none_iff, ha]
        exact Option.some_ne_none a
      rcases Option.ne_none_iff_exists'.mp hbound with ⟨b, hb⟩
      exact ⟨b, hb, hitems key a b ha hb⟩

/-- Sorted lists have the same keys and related items exactly when each key finds related items in
both, or nothing in either. -/
theorem Sorted.forall₂_related_iff_rel [Std.LawfulEqOrd κ] [Std.TransOrd κ] [DecidableEq κ]
    {xs : List (κ × α)} {ys : List (κ × β)} (hx : Sorted xs) (hy : Sorted ys) :
    List.Forall₂ (Related r) xs ys ↔ ∀ key, Option.Rel r (find? key xs) (find? key ys) := by
  rw [hx.forall₂_related_iff_keys hy]
  constructor
  · rintro ⟨hkeys, hitems⟩ key
    have hbound := hkeys key
    rw [← find?_ne_none_iff, ← find?_ne_none_iff] at hbound
    cases hfind : find? key xs <;> cases hfind' : find? key ys
    case none.none => exact .none
    case none.some b => simp [hfind, hfind'] at hbound
    case some.none a => simp [hfind, hfind'] at hbound
    case some.some a b => exact .some (hitems key a b hfind hfind')
  · intro hrel
    constructor
    · intro key
      have hkey := hrel key
      rw [← find?_ne_none_iff, ← find?_ne_none_iff]
      cases hfind : find? key xs <;> cases hfind' : find? key ys <;> simp_all
    · intro key a b ha hb
      have hkey := hrel key
      rw [ha, hb] at hkey
      cases hkey with
      | some hab => exact hab

end Related

end Entries

namespace OrderedMap

variable {κ α : Type} [Ord κ] [Std.TransOrd κ]

/-! ## Ordered maps -/

theorem entries_extend (map : OrderedMap κ α) (bindings : List (κ × α)) :
    (map.extend bindings).entries = Entries.extend map.entries bindings := by
  induction bindings generalizing map with
  | nil => rfl
  | cons entry rest ih => exact ih (map.insert entry.1 entry.2)

/-- A map that is built by bindings lists what is left of them. -/
theorem entries_ofList (bindings : List (κ × α)) :
    (ofList bindings).entries = Entries.ofList bindings :=
  entries_extend empty bindings

/-- Later bindings extend the map that earlier ones leave. -/
theorem ofList_append (earlier later : List (κ × α)) :
    ofList (earlier ++ later) = (ofList earlier).extend later :=
  List.foldl_append

variable [Std.LawfulEqOrd κ] [DecidableEq κ]

/-- Putting a key looks it up and binds it. -/
theorem put_eq (map : OrderedMap κ α) (key : κ) (item : α) :
    map.put key item = (map.get? key, map.insert key item) := by
  have hput := map.sorted.put_eq key item
  apply Prod.ext
  · change (Entries.put key item map.entries).1 = Entries.find? key map.entries
    rw [hput]
  · apply ext
    intro other
    change Entries.find? other (Entries.put key item map.entries).2 =
      Entries.find? other (Entries.insert key item map.entries)
    rw [hput]

/-- What a key is bound to after an insertion is the new item or was bound to the key before. -/
theorem eq_or_get?_of_get?_insert {map : OrderedMap κ α} {key other : κ} {item a : α}
    (h : (map.insert key item).get? other = some a) : a = item ∨ map.get? other = some a := by
  rw [get?_insert] at h
  split at h
  · exact Or.inl (Option.some.inj h).symm
  · exact Or.inr h

/-- After more bindings a key holds what it was bound to last, or what it held before. -/
theorem get?_extend (map : OrderedMap κ α) (bindings : List (κ × α)) (key : κ) :
    (map.extend bindings).get? key = (Entries.find? key bindings.reverse).or (map.get? key) := by
  rw [get?, entries_extend, Entries.find?_extend, get?]

/-- After the entries of another map a key holds what it holds there, or what it held before. -/
theorem get?_extend_entries (map other : OrderedMap κ α) (key : κ) :
    (map.extend other.entries).get? key = (other.get? key).or (map.get? key) := by
  rw [get?_extend, Entries.find?_reverse_of_nodup other.sorted.nodup_keys, get?, get?]

/-- A list of bindings leaves under each key what the key was bound to last. -/
theorem get?_ofList (bindings : List (κ × α)) (key : κ) :
    (ofList bindings).get? key = Entries.find? key bindings.reverse := by
  rw [ofList, get?_extend, get?_empty, Option.or_none]

/-- A list of bindings leaves exactly the keys that it binds. -/
theorem mem_keys_ofList {bindings : List (κ × α)} {key : κ} :
    key ∈ (ofList bindings).entries.map Prod.fst ↔ key ∈ bindings.map Prod.fst := by
  have hreverse : key ∈ bindings.reverse.map Prod.fst ↔ key ∈ bindings.map Prod.fst := by
    rw [List.map_reverse, List.mem_reverse]
  rw [← hreverse, ← Entries.find?_ne_none_iff, ← Entries.find?_ne_none_iff, ← get?_ofList, get?]

/-- A list of bindings leaves as many entries as it binds different keys. -/
theorem size_ofList (bindings : List (κ × α)) :
    (ofList bindings).size = (bindings.map Prod.fst).dedup.length := by
  have hkeys : ((ofList bindings).entries.map Prod.fst).Perm (bindings.map Prod.fst).dedup := by
    apply (List.perm_ext_iff_of_nodup (ofList bindings).sorted.nodup_keys
      (List.nodup_dedup _)).mpr
    intro key
    rw [mem_keys_ofList, List.mem_dedup]
  rw [size, ← hkeys.length_eq, List.length_map]

end OrderedMap
end DuckTyping

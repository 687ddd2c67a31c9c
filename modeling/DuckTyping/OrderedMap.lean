/-!
# Maps listed by increasing key

A finite map is kept as the list of its entries in strictly increasing order of their keys.  The
operations on lists stand alone, so that they also serve tree-shaped data whose nodes hold such
lists; `OrderedMap` bundles a list with the proof that it is sorted.

Main definitions:

- `Entries.find?`, `Entries.insert`, `Entries.erase`: look up, bind and unbind a key.
- `Entries.put`, `Entries.take`: bind and unbind a key and give what it was bound to.
- `Entries.ofList`: the map that a list of bindings leaves, the last binding of a key winning.
- `Entries.Sorted`: keys increase strictly along the list.
- `OrderedMap`: a sorted list of entries.

Main results:

- `Entries.find?_insert`, `Entries.find?_erase`: what each operation does to every key.
- `Entries.Sorted.insert`, `Entries.Sorted.erase`: both operations keep the order.
- `Entries.Sorted.put_eq`, `Entries.Sorted.take_eq`: in a sorted list `put` and `take` look up, and
  then bind or unbind.
- `Entries.Sorted.ext`: a sorted list is determined by its look-ups.
-/

namespace DuckTyping

variable {κ α : Type}

/-! ## Lists of entries -/

namespace Entries

/-- What a key is bound to: the first entry under the key counts. -/
def find? [DecidableEq κ] (key : κ) : List (κ × α) → Option α
  | [] => none
  | (k, a) :: rest => if k = key then some a else find? key rest

/-- Bind a key at its place in the order, replacing an entry under the same key. -/
def insert [Ord κ] (key : κ) (item : α) : List (κ × α) → List (κ × α)
  | [] => [(key, item)]
  | (k, a) :: rest =>
    match compare key k with
    | .lt => (key, item) :: (k, a) :: rest
    | .eq => (key, item) :: rest
    | .gt => (k, a) :: insert key item rest

/-- Bind a key at its place in the order and give what the key was bound to. -/
def put [Ord κ] (key : κ) (item : α) : List (κ × α) → Option α × List (κ × α)
  | [] => (none, [(key, item)])
  | (k, a) :: rest =>
    match compare key k with
    | .lt => (none, (key, item) :: (k, a) :: rest)
    | .eq => (some a, (key, item) :: rest)
    | .gt =>
      let (previous, rest) := put key item rest
      (previous, (k, a) :: rest)

/-- Drop every entry under a key. -/
def erase [DecidableEq κ] (key : κ) (entries : List (κ × α)) : List (κ × α) :=
  entries.filter fun entry => decide (entry.1 ≠ key)

/-- Drop the first entry under a key and give what the key was bound to. -/
def take [DecidableEq κ] (key : κ) : List (κ × α) → Option α × List (κ × α)
  | [] => (none, [])
  | (k, a) :: rest =>
    if k = key then (some a, rest)
    else
      let (previous, rest) := take key rest
      (previous, (k, a) :: rest)

/-- Bind the entries of a list one after the other. -/
def extend [Ord κ] (entries bindings : List (κ × α)) : List (κ × α) :=
  bindings.foldl (fun result entry => insert entry.1 entry.2 result) entries

/-- The entries that a list of bindings leaves; the last binding of a key wins. -/
def ofList [Ord κ] (bindings : List (κ × α)) : List (κ × α) :=
  extend [] bindings

/-- Keys increase strictly along the list. -/
def Sorted [Ord κ] (entries : List (κ × α)) : Prop :=
  entries.Pairwise fun a b => compare a.1 b.1 = .lt

/-! ### Looking up -/

section Lookup

variable [DecidableEq κ]

@[simp]
theorem find?_nil (key : κ) : find? key ([] : List (κ × α)) = none :=
  rfl

theorem find?_cons (key : κ) (entry : κ × α) (rest : List (κ × α)) :
    find? key (entry :: rest) = if entry.1 = key then some entry.2 else find? key rest :=
  rfl

/-- A key is unbound exactly when no entry is under it. -/
theorem find?_eq_none_iff {key : κ} {entries : List (κ × α)} :
    find? key entries = none ↔ ∀ entry ∈ entries, entry.1 ≠ key := by
  induction entries with
  | nil => simp
  | cons entry rest ih =>
    rcases entry with ⟨k, a⟩
    by_cases h : k = key <;> simp [find?_cons, h, ih]

/-- Taking a key gives what it was bound to. -/
theorem take_fst (key : κ) (entries : List (κ × α)) :
    (take key entries).1 = find? key entries := by
  induction entries with
  | nil => rfl
  | cons entry rest ih =>
    rcases entry with ⟨k, a⟩
    by_cases h : k = key <;> simp [take, find?_cons, h, ih]

/-- What a key is bound to stands in an entry under the key. -/
theorem mem_of_find?_eq_some {key : κ} {a : α} {entries : List (κ × α)}
    (h : find? key entries = some a) : (key, a) ∈ entries := by
  induction entries with
  | nil => simp at h
  | cons entry rest ih =>
    rcases entry with ⟨k, b⟩
    by_cases hk : k = key
    · simp_all [find?_cons]
    · rw [find?_cons, if_neg hk] at h
      exact List.mem_cons_of_mem _ (ih h)

/-- Mapping the items of the entries maps what each key is bound to. -/
theorem find?_map {β : Type} (f : α → β) (key : κ) (entries : List (κ × α)) :
    find? key (entries.map fun entry => (entry.1, f entry.2)) = (find? key entries).map f := by
  induction entries with
  | nil => rfl
  | cons entry rest ih =>
    rcases entry with ⟨k, a⟩
    by_cases h : k = key <;> simp [find?_cons, h, ih]

/-- Erasing a key unbinds it and leaves every other key alone. -/
theorem find?_erase (key other : κ) (entries : List (κ × α)) :
    find? other (erase key entries) = if other = key then none else find? other entries := by
  induction entries with
  | nil => simp [erase]
  | cons entry rest ih =>
    rcases entry with ⟨k, a⟩
    unfold erase at ih ⊢
    by_cases hk : k = key
    · subst hk
      rw [List.filter_cons_of_neg (by simp), ih, find?_cons]
      by_cases ho : other = k
      · simp [ho]
      · simp [ho, Ne.symm ho]
    · rw [List.filter_cons_of_pos (by simp [hk]), find?_cons, find?_cons, ih]
      by_cases ho : other = key
      · simp [ho, hk]
      · simp [ho]

end Lookup

/-! ### Order -/

section Order

variable [Ord κ]

@[simp]
theorem sorted_nil : Sorted ([] : List (κ × α)) :=
  List.Pairwise.nil

theorem sorted_cons {entry : κ × α} {rest : List (κ × α)} :
    Sorted (entry :: rest) ↔ (∀ other ∈ rest, compare entry.1 other.1 = .lt) ∧ Sorted rest :=
  List.pairwise_cons

/-- Every entry of an insertion is the new one or an old one. -/
theorem mem_of_mem_insert {key : κ} {item : α} {entry : κ × α} {entries : List (κ × α)}
    (h : entry ∈ insert key item entries) : entry = (key, item) ∨ entry ∈ entries := by
  induction entries with
  | nil => simpa [insert] using h
  | cons first rest ih =>
    rcases first with ⟨k, a⟩
    rw [insert] at h
    split at h
    · exact List.mem_cons.mp h
    · exact (List.mem_cons.mp h).imp_right (List.mem_cons_of_mem _)
    · rcases List.mem_cons.mp h with rfl | h
      · exact Or.inr List.mem_cons_self
      · exact (ih h).imp_right (List.mem_cons_of_mem _)

/-- Every entry after binding those of a list is one of the list or was there before. -/
theorem mem_of_mem_extend {entry : κ × α} {entries bindings : List (κ × α)}
    (h : entry ∈ extend entries bindings) : entry ∈ entries ∨ entry ∈ bindings := by
  induction bindings generalizing entries with
  | nil => exact Or.inl h
  | cons first rest ih =>
    rcases ih h with hmem | hmem
    · rcases mem_of_mem_insert hmem with rfl | hmem
      · exact Or.inr List.mem_cons_self
      · exact Or.inl hmem
    · exact Or.inr (List.mem_cons_of_mem _ hmem)

/-- Erasing keeps the order. -/
theorem Sorted.erase [DecidableEq κ] {entries : List (κ × α)} (h : Sorted entries) (key : κ) :
    Sorted (Entries.erase key entries) :=
  List.Pairwise.filter _ h

/-- Putting a key leaves the entries that inserting it leaves. -/
theorem put_snd (key : κ) (item : α) (entries : List (κ × α)) :
    (put key item entries).2 = insert key item entries := by
  induction entries with
  | nil => rfl
  | cons first rest ih =>
    rcases first with ⟨k, a⟩
    rw [put, insert]
    split <;> simp [ih]

/-- Inserting a key binds it and leaves every other key alone. -/
theorem find?_insert [Std.LawfulEqOrd κ] [DecidableEq κ] (key other : κ) (item : α)
    (entries : List (κ × α)) :
    find? other (insert key item entries) =
      if other = key then some item else find? other entries := by
  induction entries with
  | nil => simp [insert, find?_cons, eq_comm]
  | cons first rest ih =>
    rcases first with ⟨k, a⟩
    rw [insert]
    split
    next hlt => by_cases h : other = key <;> simp_all [find?_cons, eq_comm]
    next heq =>
      obtain rfl : key = k := Std.LawfulEqOrd.compare_eq_iff_eq.mp heq
      by_cases h : other = key
      · simp [find?_cons, h]
      · simp [find?_cons, h, Ne.symm h]
    next hgt =>
      have hne : key ≠ k := fun h => by simp [h] at hgt
      rw [find?_cons, ih, find?_cons]
      by_cases h : other = key
      · simp [h, Ne.symm hne]
      · simp [h]

/-- In a sorted list every entry is the one that its key finds. -/
theorem Sorted.find?_eq_some_iff [Std.LawfulEqOrd κ] [DecidableEq κ] {entries : List (κ × α)}
    (h : Sorted entries) {key : κ} {a : α} :
    find? key entries = some a ↔ (key, a) ∈ entries := by
  refine ⟨mem_of_find?_eq_some, fun hmem => ?_⟩
  induction entries with
  | nil => simp at hmem
  | cons first rest ih =>
    rcases first with ⟨k, b⟩
    rcases sorted_cons.mp h with ⟨hfirst, hrest⟩
    rw [find?_cons]
    rcases List.mem_cons.mp hmem with heq | hmem
    · simp_all
    · have hne : k ≠ key := fun h => by simpa [h] using hfirst _ hmem
      rw [if_neg hne]
      exact ih hrest hmem

/-- In a sorted list at most one entry is under a key, so taking a key erases it. -/
theorem Sorted.take_eq [Std.LawfulEqOrd κ] [DecidableEq κ] {entries : List (κ × α)}
    (h : Sorted entries) (key : κ) :
    take key entries = (find? key entries, Entries.erase key entries) := by
  refine Prod.ext (take_fst key entries) ?_
  induction entries with
  | nil => rfl
  | cons first rest ih =>
    rcases first with ⟨k, a⟩
    rcases sorted_cons.mp h with ⟨hfirst, hrest⟩
    by_cases hk : k = key
    · subst hk
      have hne : ∀ entry ∈ rest, decide (entry.1 ≠ k) = true := fun entry hentry =>
        decide_eq_true fun heq => by simpa [heq] using hfirst entry hentry
      rw [take, if_pos rfl, Entries.erase, List.filter_cons_of_neg (by simp),
        List.filter_eq_self.mpr hne]
    · have hrec := ih hrest
      simp only [Entries.erase] at hrec
      simp [take, Entries.erase, hk, hrec]

variable [Std.TransOrd κ]

/-- In a sorted list putting a key looks it up and binds it. -/
theorem Sorted.put_eq [Std.LawfulEqOrd κ] [DecidableEq κ] {entries : List (κ × α)}
    (h : Sorted entries) (key : κ) (item : α) :
    put key item entries = (find? key entries, Entries.insert key item entries) := by
  refine Prod.ext ?_ (put_snd key item entries)
  induction entries with
  | nil => rfl
  | cons first rest ih =>
    rcases first with ⟨k, a⟩
    rcases sorted_cons.mp h with ⟨hfirst, hrest⟩
    rw [put]
    split
    next hlt =>
      refine (find?_eq_none_iff.mpr fun other hother heq => ?_).symm
      rcases List.mem_cons.mp hother with rfl | hother
      · simp [← heq] at hlt
      · have hcontra := Std.TransCmp.lt_trans hlt (hfirst other hother)
        simp [heq] at hcontra
    next heq =>
      obtain rfl : key = k := Std.LawfulEqOrd.compare_eq_iff_eq.mp heq
      simp [find?_cons]
    next hgt =>
      have hne : k ≠ key := fun heq => by simp [heq] at hgt
      simp [find?_cons, hne, ih hrest]

/-- Insertion keeps the order. -/
theorem Sorted.insert {entries : List (κ × α)} (h : Sorted entries) (key : κ) (item : α) :
    Sorted (Entries.insert key item entries) := by
  induction entries with
  | nil => exact List.pairwise_singleton ..
  | cons first rest ih =>
    rcases first with ⟨k, a⟩
    rcases sorted_cons.mp h with ⟨hfirst, hrest⟩
    rw [Entries.insert]
    split
    next hlt =>
      refine sorted_cons.mpr ⟨fun other hother => ?_, h⟩
      rcases List.mem_cons.mp hother with rfl | hother
      · exact hlt
      · exact Std.TransCmp.lt_trans hlt (hfirst other hother)
    next heq =>
      exact sorted_cons.mpr ⟨fun other hother =>
        Std.TransCmp.lt_of_eq_of_lt heq (hfirst other hother), hrest⟩
    next hgt =>
      refine sorted_cons.mpr ⟨fun other hother => ?_, ih hrest⟩
      rcases mem_of_mem_insert hother with rfl | hother
      · exact Std.OrientedCmp.lt_of_gt hgt
      · exact hfirst other hother

/-- Binding the entries of a list keeps the order. -/
theorem Sorted.extend {entries : List (κ × α)} (h : Sorted entries) (bindings : List (κ × α)) :
    Sorted (Entries.extend entries bindings) := by
  induction bindings generalizing entries with
  | nil => exact h
  | cons entry rest ih => exact ih (h.insert entry.1 entry.2)

/-- The entries that a list of bindings leaves are sorted. -/
theorem sorted_ofList (bindings : List (κ × α)) : Sorted (ofList bindings) :=
  sorted_nil.extend bindings

variable [Std.LawfulEqOrd κ] [DecidableEq κ]

/-- A sorted list is determined by what each key is bound to. -/
theorem Sorted.ext {xs ys : List (κ × α)} (hx : Sorted xs) (hy : Sorted ys)
    (h : ∀ key, find? key xs = find? key ys) : xs = ys := by
  induction xs generalizing ys with
  | nil =>
    cases ys with
    | nil => rfl
    | cons y ys => simpa [find?_cons] using h y.1
  | cons x xs ih =>
    cases ys with
    | nil => simpa [find?_cons] using h x.1
    | cons y ys =>
      rcases sorted_cons.mp hx with ⟨hxs, hx'⟩
      rcases sorted_cons.mp hy with ⟨hys, hy'⟩
      have hmem : x ∈ y :: ys := by
        rw [show x = (x.1, x.2) from rfl, ← hy.find?_eq_some_iff, ← h, hx.find?_eq_some_iff]
        exact List.mem_cons_self
      have hmem' : y ∈ x :: xs := by
        rw [show y = (y.1, y.2) from rfl, ← hx.find?_eq_some_iff, h, hy.find?_eq_some_iff]
        exact List.mem_cons_self
      have hxy : x = y := by
        rcases List.mem_cons.mp hmem with hxy | hlt
        · exact hxy
        · rcases List.mem_cons.mp hmem' with hyx | hlt'
          · exact hyx.symm
          · exact absurd (Std.TransCmp.lt_trans (hys x hlt) (hxs y hlt')) (by simp)
      subst hxy
      refine congrArg (x :: ·) (ih hx' hy' fun key => ?_)
      by_cases hk : x.1 = key
      · subst hk
        have hnone {zs : List (κ × α)} (hz : ∀ other ∈ zs, compare x.1 other.1 = .lt) :
            find? x.1 zs = none :=
          find?_eq_none_iff.mpr fun other hother heq => by
            simpa [heq] using hz other hother
        rw [hnone hxs, hnone hys]
      · simpa [find?_cons, hk] using h key

end Order

end Entries

/-! ## Bundled maps -/

/-- A finite map from keys to items, listed by increasing key. -/
structure OrderedMap (κ α : Type) [Ord κ] where
  /-- The entries in increasing order of their keys. -/
  entries : List (κ × α)
  /-- Keys increase strictly along the entries. -/
  sorted : Entries.Sorted entries

namespace OrderedMap

variable [Ord κ]

instance [DecidableEq κ] [DecidableEq α] : DecidableEq (OrderedMap κ α) := fun xs ys =>
  decidable_of_iff (xs.entries = ys.entries) (by cases xs; cases ys; simp)

/-- The map without entries. -/
def empty : OrderedMap κ α where
  entries := []
  sorted := List.Pairwise.nil

instance : Inhabited (OrderedMap κ α) := ⟨empty⟩

/-- The number of keys. -/
def size (map : OrderedMap κ α) : Nat :=
  map.entries.length

/-- Whether no key is bound. -/
def isEmpty (map : OrderedMap κ α) : Bool :=
  map.entries.isEmpty

/-- What a key is bound to. -/
def get? [DecidableEq κ] (map : OrderedMap κ α) (key : κ) : Option α :=
  Entries.find? key map.entries

@[simp]
theorem get?_empty [DecidableEq κ] (key : κ) : (empty : OrderedMap κ α).get? key = none :=
  rfl

/-- A key is bound to what stands in the entry under it. -/
theorem get?_eq_some_iff [Std.LawfulEqOrd κ] [DecidableEq κ] {map : OrderedMap κ α} {key : κ}
    {a : α} :
    map.get? key = some a ↔ (key, a) ∈ map.entries :=
  map.sorted.find?_eq_some_iff

variable [Std.TransOrd κ]

/-- Bind a key, replacing an earlier binding. -/
def insert (map : OrderedMap κ α) (key : κ) (item : α) : OrderedMap κ α where
  entries := Entries.insert key item map.entries
  sorted := map.sorted.insert key item

/-- Bind a key and give what it was bound to. -/
def put (map : OrderedMap κ α) (key : κ) (item : α) : Option α × OrderedMap κ α :=
  let result := Entries.put key item map.entries
  (result.1, ⟨result.2, by
    simpa only [result, Entries.put_snd] using map.sorted.insert key item⟩)

/-- Bind the entries of a list one after the other. -/
def extend (map : OrderedMap κ α) (bindings : List (κ × α)) : OrderedMap κ α :=
  bindings.foldl (fun result entry => result.insert entry.1 entry.2) map

/-- The map that a list of bindings leaves; the last binding of a key wins. -/
def ofList (bindings : List (κ × α)) : OrderedMap κ α :=
  empty.extend bindings

variable [Std.LawfulEqOrd κ] [DecidableEq κ]

/-- Inserting a key binds it and leaves every other key alone. -/
theorem get?_insert (map : OrderedMap κ α) (key other : κ) (item : α) :
    (map.insert key item).get? other = if other = key then some item else map.get? other :=
  Entries.find?_insert key other item map.entries

/-- A map is determined by what each key is bound to. -/
@[ext]
theorem ext {xs ys : OrderedMap κ α} (h : ∀ key, xs.get? key = ys.get? key) : xs = ys := by
  rcases xs with ⟨xs, hx⟩
  rcases ys with ⟨ys, hy⟩
  obtain rfl : xs = ys := hx.ext hy h
  rfl

end OrderedMap

end DuckTyping

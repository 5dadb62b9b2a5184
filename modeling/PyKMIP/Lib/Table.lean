import Mathlib.Data.List.Pairwise
import Mathlib.Data.List.Perm.Basic
import Mathlib.Tactic.Common

/-!
# Tables with generated keys

A table keeps its rows in the order of their keys, and hands out keys that it
has never used before, as a database does for an autoincremented primary key.
-/

/-- Rows in the order of their keys, and the key of the next inserted row. -/
structure Table (α : Type u) where
  rows : List (Nat × α)
  next : Nat
  bounded : ∀ row ∈ rows, row.1 < next
  sorted : rows.Pairwise fun first second => first.1 < second.1
deriving DecidableEq

namespace Table

/-- The table in which no key has been used; the first key is one. -/
def empty : Table α where
  rows := []
  next := 1
  bounded := by simp
  sorted := .nil

def lookup (table : Table α) (key : Nat) : Option α :=
  (table.rows.find? fun row => row.1 == key).map Prod.snd

def insert (table : Table α) (value : α) : Table α where
  rows := table.rows ++ [(table.next, value)]
  next := table.next + 1
  bounded := by
    intro row member
    rcases List.mem_append.mp member with old | new
    · exact Nat.lt_succ_of_lt (table.bounded row old)
    · cases List.mem_singleton.mp new
      exact Nat.lt_succ_self _
  sorted := by
    refine List.pairwise_append.mpr ⟨table.sorted, by simp, ?_⟩
    intro row member new newMember
    cases List.mem_singleton.mp newMember
    exact table.bounded row member

def update (table : Table α) (key : Nat) (change : α → α) : Table α where
  rows := table.rows.map fun row =>
    if row.1 = key then (row.1, change row.2) else row
  next := table.next
  bounded := by
    intro row member
    obtain ⟨old, oldMember, rfl⟩ := List.mem_map.mp member
    have below := table.bounded old oldMember
    split <;> exact below
  sorted := by
    refine List.pairwise_map.mpr (table.sorted.imp ?_)
    intro first second ordered
    split <;> split <;> exact ordered

def remove (table : Table α) (key : Nat) : Table α where
  rows := table.rows.filter fun row => row.1 ≠ key
  next := table.next
  bounded := by
    intro row member
    exact table.bounded row (List.mem_filter.mp member).1
  sorted := table.sorted.filter _

/-- Every value in the table has the property. -/
def Forall (table : Table α) (property : α → Prop) : Prop :=
  ∀ row ∈ table.rows, property row.2

instance (table : Table α) (property : α → Prop) [DecidablePred property] :
    Decidable (table.Forall property) :=
  inferInstanceAs (Decidable (∀ row ∈ table.rows, property row.2))

@[ext] theorem ext
    {left right : Table α}
    (rowsEq : left.rows = right.rows) (nextEq : left.next = right.next) :
    left = right := by
  cases left
  cases right
  cases rowsEq
  cases nextEq
  rfl

@[simp] theorem next_insert (table : Table α) (value : α) :
    (table.insert value).next = table.next + 1 := rfl

theorem eq_of_mem_of_mem
    {table : Table α} {key : Nat} {left right : α}
    (leftMember : (key, left) ∈ table.rows)
    (rightMember : (key, right) ∈ table.rows) :
    left = right := by
  let determines : Nat × α → Nat × α → Prop := fun first second =>
    first.1 = second.1 → first = second
  have symmetric : Std.Symm determines :=
    ⟨fun _ _ forward same => (forward same.symm).symm⟩
  have determined : table.rows.Pairwise determines :=
    table.sorted.imp fun ordered same => absurd same (Nat.ne_of_lt ordered)
  have same := determined.forall_of_forall (fun _ _ _ => rfl)
    leftMember rightMember rfl
  exact (Prod.mk.inj same).2

theorem lookup_eq_some_iff
    {table : Table α} {key : Nat} {value : α} :
    table.lookup key = some value ↔ (key, value) ∈ table.rows := by
  unfold lookup
  constructor
  · intro found
    obtain ⟨row, located, rfl⟩ := Option.map_eq_some_iff.mp found
    have keyEq : row.1 = key := by
      simpa using List.find?_some located
    have member := List.mem_of_find?_eq_some located
    rwa [← keyEq]
  · intro member
    cases located : table.rows.find? fun row => row.1 == key with
    | none =>
        have missing := List.find?_eq_none.mp located (key, value) member
        simp at missing
    | some row =>
        have keyEq : row.1 = key := by
          simpa using List.find?_some located
        have rowMember := List.mem_of_find?_eq_some located
        have rowFound : (key, row.2) ∈ table.rows := by
          rwa [← keyEq]
        have same : row.2 = value := eq_of_mem_of_mem rowFound member
        simp [same]

theorem lookup_lt_next
    {table : Table α} {key : Nat} {value : α}
    (found : table.lookup key = some value) :
    key < table.next :=
  table.bounded (key, value) (lookup_eq_some_iff.mp found)

theorem lookup_eq_none_of_le
    {table : Table α} {key : Nat} (unused : table.next ≤ key) :
    table.lookup key = none := by
  cases found : table.lookup key with
  | none => rfl
  | some value => exact absurd (lookup_lt_next found) (Nat.not_lt.mpr unused)

theorem lookup_insert (table : Table α) (value : α) (key : Nat) :
    (table.insert value).lookup key =
      if key = table.next then some value else table.lookup key := by
  apply Option.ext
  intro result
  rw [lookup_eq_some_iff]
  split
  · rename_i same
    have fresh : (table.next, result) ∉ table.rows := fun member =>
      absurd (table.bounded _ member) (Nat.lt_irrefl _)
    subst same
    simp [insert, fresh, eq_comm]
  · rename_i different
    rw [lookup_eq_some_iff]
    simp [insert, different]

@[simp] theorem lookup_insert_next (table : Table α) (value : α) :
    (table.insert value).lookup table.next = some value := by
  rw [lookup_insert, if_pos rfl]

theorem lookup_update
    (table : Table α) (key : Nat) (change : α → α) (other : Nat) :
    (table.update key change).lookup other =
      if other = key then (table.lookup other).map change
      else table.lookup other := by
  apply Option.ext
  intro result
  rw [lookup_eq_some_iff]
  split
  · rename_i same
    subst same
    rw [Option.map_eq_some_iff]
    simp only [update, List.mem_map, lookup_eq_some_iff]
    constructor
    · rintro ⟨⟨rowKey, value⟩, member, rowEq⟩
      by_cases hit : rowKey = other
      · subst hit
        simp only [if_true, Prod.mk.injEq, true_and] at rowEq
        exact ⟨value, member, rowEq⟩
      · simp [hit] at rowEq
    · rintro ⟨value, member, rfl⟩
      exact ⟨(other, value), member, by simp⟩
  · rename_i different
    rw [lookup_eq_some_iff]
    simp only [update, List.mem_map]
    constructor
    · rintro ⟨⟨rowKey, value⟩, member, rowEq⟩
      by_cases hit : rowKey = key
      · simp only [hit, if_true, Prod.mk.injEq] at rowEq
        exact absurd rowEq.1.symm different
      · simp only [hit, if_false] at rowEq
        rwa [← rowEq]
    · intro member
      exact ⟨(other, result), member, by simp [different]⟩

theorem lookup_remove (table : Table α) (key other : Nat) :
    (table.remove key).lookup other =
      if other = key then none else table.lookup other := by
  apply Option.ext
  intro result
  rw [lookup_eq_some_iff]
  split
  · rename_i same
    simp [remove, same]
  · rename_i different
    rw [lookup_eq_some_iff]
    simp [remove, different]

theorem lookup_update_of_ne
    {key other : Nat} (table : Table α) (change : α → α)
    (different : other ≠ key) :
    (table.update key change).lookup other = table.lookup other := by
  rw [lookup_update, if_neg different]

theorem lookup_update_self
    {key : Nat} {value : α} (table : Table α) (change : α → α)
    (found : table.lookup key = some value) :
    (table.update key change).lookup key = some (change value) := by
  rw [lookup_update, if_pos rfl, found, Option.map_some]

theorem update_eq_self
    {table : Table α} {key : Nat} {value : α} {change : α → α}
    (found : table.lookup key = some value) (unchanged : change value = value) :
    table.update key change = table := by
  refine Table.ext ?_ rfl
  refine (List.map_congr_left ?_).trans (List.map_id _)
  rintro ⟨rowKey, rowValue⟩ member
  by_cases hit : rowKey = key
  · subst hit
    have same : rowValue = value :=
      eq_of_mem_of_mem member (lookup_eq_some_iff.mp found)
    subst same
    simp [unchanged]
  · simp [hit]

theorem remove_update
    (table : Table α) (key : Nat) (change : α → α) :
    (table.update key change).remove key = table.remove key := by
  refine Table.ext ?_ rfl
  simp only [remove, update]
  induction table.rows with
  | nil => rfl
  | cons row rest ih =>
      by_cases hit : row.1 = key
      · simpa [hit] using ih
      · simpa [hit] using ih

/-- Rows are ordered, so the same members make the same list. -/
theorem filter_rows_eq
    {kept : Nat × α → Bool} {first second : Table α}
    (agree : ∀ row, kept row = true → (row ∈ first.rows ↔ row ∈ second.rows)) :
    first.rows.filter kept = second.rows.filter kept := by
  have ordered : ∀ table : Table α, (table.rows.filter kept).Pairwise
      fun row other => row.1 < other.1 := fun table => table.sorted.filter _
  have distinct : ∀ table : Table α, (table.rows.filter kept).Nodup :=
    fun table => (ordered table).imp fun less same =>
      absurd (congrArg Prod.fst same) (Nat.ne_of_lt less)
  refine List.Perm.eq_of_pairwise ?_ (ordered first) (ordered second)
    ((List.perm_ext_iff_of_nodup (distinct first) (distinct second)).mpr ?_)
  · intro row other _ _ less greater
    exact absurd less (Nat.lt_asymm greater)
  · intro row
    simp only [List.mem_filter]
    constructor
    · rintro ⟨member, keeps⟩
      exact ⟨(agree row keeps).mp member, keeps⟩
    · rintro ⟨member, keeps⟩
      exact ⟨(agree row keeps).mpr member, keeps⟩

section Forall

variable {property : α → Prop} {table : Table α}

theorem forall_iff_lookup :
    table.Forall property ↔
      ∀ key value, table.lookup key = some value → property value := by
  constructor
  · intro all key value found
    exact all (key, value) (lookup_eq_some_iff.mp found)
  · rintro all ⟨key, value⟩ member
    exact all key value (lookup_eq_some_iff.mpr member)

theorem Forall.insert
    (all : table.Forall property) {value : α} (new : property value) :
    (table.insert value).Forall property := by
  intro row member
  rcases List.mem_append.mp member with old | added
  · exact all row old
  · rw [List.mem_singleton.mp added]
    exact new

theorem Forall.update
    (all : table.Forall property) {key : Nat} {change : α → α}
    (changed : ∀ value, table.lookup key = some value →
      property (change value)) :
    (table.update key change).Forall property := by
  rintro row member
  obtain ⟨⟨rowKey, value⟩, oldMember, rfl⟩ := List.mem_map.mp member
  by_cases hit : rowKey = key
  · subst hit
    simpa using changed value (lookup_eq_some_iff.mpr oldMember)
  · simpa [hit] using all (rowKey, value) oldMember

theorem Forall.remove (all : table.Forall property) (key : Nat) :
    (table.remove key).Forall property :=
  fun row member => all row (List.mem_filter.mp member).1

end Forall

end Table

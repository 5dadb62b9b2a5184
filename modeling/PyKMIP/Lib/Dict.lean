import Mathlib.Data.List.Basic
import Mathlib.Tactic.Common

/-!
# Dictionaries in the order of insertion

A dictionary keeps its keys in the order in which they were first set.  Setting
a key again replaces its value in place.
-/

/-- Items with distinct keys. -/
structure Dict (κ : Type u) (α : Type v) where
  items : List (κ × α)
  distinct : items.Pairwise fun first second => first.1 ≠ second.1

namespace Dict

variable {κ : Type u} {α : Type v}

def empty : Dict κ α where
  items := []
  distinct := .nil

def keys (dict : Dict κ α) : List κ := dict.items.map Prod.fst

theorem keys_nodup (dict : Dict κ α) : dict.keys.Nodup :=
  List.pairwise_map.mpr dict.distinct

variable [DecidableEq κ]

instance [DecidableEq α] : DecidableEq (Dict κ α) := fun first second =>
  if same : first.items = second.items then
    .isTrue (by cases first; cases second; cases same; rfl)
  else .isFalse fun equal => same (congrArg items equal)

def get (dict : Dict κ α) (key : κ) : Option α :=
  (dict.items.find? fun item => item.1 = key).map Prod.snd

/-- Items are compared by what is under each key, in whichever order. -/
def sameItems (same : α → α → Bool) (first second : List (κ × α)) : Bool :=
  first.length == second.length &&
    first.all fun item => (second.lookup item.1).any (same item.2)

/-- The items with a value under a key. -/
def setItem (key : κ) (value : α) : List (κ × α) → List (κ × α)
  | [] => [(key, value)]
  | (other, previous) :: rest =>
      if other = key then (key, value) :: rest
      else (other, previous) :: setItem key value rest

theorem mem_setItem
    {key : κ} {value : α} {items : List (κ × α)} {item : κ × α}
    (member : item ∈ setItem key value items) :
    item = (key, value) ∨ item ∈ items := by
  induction items with
  | nil =>
      left
      exact List.mem_singleton.mp member
  | cons first rest ih =>
      simp only [setItem] at member
      split at member
      · rcases List.mem_cons.mp member with same | later
        · exact .inl same
        · exact .inr (.tail _ later)
      · rcases List.mem_cons.mp member with same | later
        · exact .inr (List.mem_cons.mpr (.inl same))
        · rcases ih later with same | old
          · exact .inl same
          · exact .inr (.tail _ old)

theorem setItem_distinct
    (key : κ) (value : α) {items : List (κ × α)}
    (distinct : items.Pairwise fun first second => first.1 ≠ second.1) :
    (setItem key value items).Pairwise
      fun first second => first.1 ≠ second.1 := by
  induction items with
  | nil => exact List.pairwise_singleton ..
  | cons first rest ih =>
      obtain ⟨fromFirst, restDistinct⟩ := List.pairwise_cons.mp distinct
      simp only [setItem]
      split
      · rename_i same
        apply List.pairwise_cons.mpr
        constructor
        · intro item member
          exact same ▸ fromFirst item member
        · exact restDistinct
      · rename_i different
        apply List.pairwise_cons.mpr
        constructor
        · intro item member
          rcases mem_setItem member with rfl | old
          · exact different
          · exact fromFirst item old
        · exact ih restDistinct

def set (dict : Dict κ α) (key : κ) (value : α) : Dict κ α where
  items := setItem key value dict.items
  distinct := setItem_distinct key value dict.distinct

def erase (dict : Dict κ α) (key : κ) : Dict κ α where
  items := dict.items.filter fun item => item.1 ≠ key
  distinct := dict.distinct.filter _

/-- The dictionary of a list of pairs; later pairs replace earlier ones. -/
def ofPairs (pairs : List (κ × α)) : Dict κ α :=
  pairs.foldl (fun dict pair => dict.set pair.1 pair.2) empty

theorem get_eq_some_iff {dict : Dict κ α} {key : κ} {value : α} :
    dict.get key = some value ↔ (key, value) ∈ dict.items := by
  unfold get
  obtain ⟨items, distinct⟩ := dict
  induction items with
  | nil => simp
  | cons first rest ih =>
      obtain ⟨fromFirst, restDistinct⟩ := List.pairwise_cons.mp distinct
      obtain ⟨other, previous⟩ := first
      by_cases same : other = key
      · subst same
        have fresh : (other, value) ∉ rest := by
          intro member
          exact fromFirst _ member rfl
        simp [fresh, eq_comm]
      · have missing : (key, value) ≠ (other, previous) := by
          intro equal
          exact same (congrArg Prod.fst equal).symm
        simp only [List.find?_cons, same, decide_false, List.mem_cons, missing,
          false_or]
        exact ih restDistinct

theorem get_eq_none_iff {dict : Dict κ α} {key : κ} :
    dict.get key = none ↔ key ∉ dict.keys := by
  unfold get keys
  simp only [Option.map_eq_none_iff, List.find?_eq_none, decide_eq_true_eq,
    List.mem_map, not_exists, not_and]

theorem mem_keys_iff {dict : Dict κ α} {key : κ} :
    key ∈ dict.keys ↔ (dict.get key).isSome = true := by
  have missing : ¬dict.get key = none ↔ ¬key ∉ dict.keys := get_eq_none_iff.not
  rw [not_not] at missing
  rw [← missing, Option.isSome_iff_ne_none]

theorem get_set (dict : Dict κ α) (key other : κ) (value : α) :
    (dict.set key value).get other =
      if other = key then some value else dict.get other := by
  unfold get set
  simp only
  generalize dict.items = items
  induction items with
  | nil =>
      by_cases same : other = key
      · simp [setItem, same]
      · simp [setItem, same, Ne.symm same]
  | cons first rest ih =>
      obtain ⟨head, previous⟩ := first
      simp only [setItem]
      by_cases isHead : head = key
      · subst isHead
        by_cases same : other = head
        · simp [same]
        · simp [same, Ne.symm same]
      · rw [if_neg isHead]
        by_cases found : head = other
        · subst found
          simp [isHead]
        · simp only [List.find?_cons, found, decide_false]
          exact ih

@[simp] theorem get_set_self (dict : Dict κ α) (key : κ) (value : α) :
    (dict.set key value).get key = some value := by
  rw [get_set, if_pos rfl]

theorem get_set_of_ne
    (dict : Dict κ α) {key other : κ} (value : α) (different : other ≠ key) :
    (dict.set key value).get other = dict.get other := by
  rw [get_set, if_neg different]

theorem get_erase (dict : Dict κ α) (key other : κ) :
    (dict.erase key).get other =
      if other = key then none else dict.get other := by
  apply Option.ext
  intro value
  rw [get_eq_some_iff]
  simp only [erase, List.mem_filter, decide_eq_true_eq]
  by_cases same : other = key
  · simp [same]
  · simp [same, get_eq_some_iff]

@[simp] theorem get_erase_self (dict : Dict κ α) (key : κ) :
    (dict.erase key).get key = none := by
  rw [get_erase, if_pos rfl]

theorem get_erase_of_ne
    (dict : Dict κ α) {key other : κ} (different : other ≠ key) :
    (dict.erase key).get other = dict.get other := by
  rw [get_erase, if_neg different]

end Dict

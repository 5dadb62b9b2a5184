import Mathlib.Data.List.Perm.Basic

/-!
# Screening

Items are screened by a list of tests.  The tests of an item stop at the first
one that it does not pass, which either rejects the item or raises.  Some items
make every order of the tests raise: this happens just when a set of items is
stuck, in that every test that raises for none of them lets all of them pass.
-/

namespace Screening

variable {α β : Type}

inductive Verdict where
  | passes
  | rejects
  | raises
deriving DecidableEq, Repr

/-- The first test that the item does not pass raises. -/
def Raises (verdict : β → Verdict) : List β → Prop
  | [] => False
  | test :: rest =>
      match verdict test with
      | .passes => Raises verdict rest
      | .rejects => False
      | .raises => True

section Raises

variable {verdict : β → Verdict} {test : β} {tests : List β}

theorem raises_cons_of_passes (passes : verdict test = .passes) :
    Raises verdict (test :: tests) ↔ Raises verdict tests := by
  rw [Raises, passes]

theorem not_raises_cons_of_rejects (rejects : verdict test = .rejects) :
    ¬Raises verdict (test :: tests) := by
  rw [Raises, rejects]
  exact not_false

theorem raises_cons_of_raises (raises : verdict test = .raises) :
    Raises verdict (test :: tests) := by
  rw [Raises, raises]
  trivial

theorem exists_raises_of_raises (raises : Raises verdict tests) :
    ∃ test ∈ tests, verdict test = .raises := by
  induction tests with
  | nil => exact raises.elim
  | cons test tests ih =>
      cases outcome : verdict test with
      | passes =>
          rw [raises_cons_of_passes outcome] at raises
          obtain ⟨later, member, found⟩ := ih raises
          exact ⟨later, .tail _ member, found⟩
      | rejects => exact absurd raises (not_raises_cons_of_rejects outcome)
      | raises => exact ⟨test, .head _, outcome⟩

theorem raises_append_of_passes
    {before : List β} (passes : ∀ test ∈ before, verdict test = .passes) :
    Raises verdict (before ++ tests) ↔ Raises verdict tests := by
  induction before with
  | nil => rfl
  | cons first before ih =>
      rw [List.cons_append, raises_cons_of_passes (passes first (.head _))]
      exact ih fun test member => passes test (.tail _ member)

/-- An item passes all tests, or there is a first one that stops it. -/
theorem all_pass_or_exists_stop (verdict : β → Verdict) (tests : List β) :
    (∀ test ∈ tests, verdict test = .passes) ∨
      ∃ before stop after, tests = before ++ stop :: after ∧
        (∀ test ∈ before, verdict test = .passes) ∧
        verdict stop ≠ .passes := by
  induction tests with
  | nil => exact .inl (by simp)
  | cons first tests ih =>
      by_cases passes : verdict first = .passes
      · rcases ih with all | ⟨before, stop, after, split, earlier, stops⟩
        · exact .inl (List.forall_mem_cons.mpr ⟨passes, all⟩)
        · refine .inr ⟨first :: before, stop, after, ?_, ?_, stops⟩
          · rw [split, List.cons_append]
          · exact List.forall_mem_cons.mpr ⟨passes, earlier⟩
      · exact .inr ⟨[], first, tests, rfl, by simp, passes⟩

/-- Tests that an item passes can be left out. -/
theorem raises_filter_of_passes
    {keep : β → Bool}
    (passes : ∀ test ∈ tests, keep test = false → verdict test = .passes) :
    Raises verdict (tests.filter keep) ↔ Raises verdict tests := by
  induction tests with
  | nil => rfl
  | cons first tests ih =>
      have later := ih fun test member => passes test (.tail _ member)
      cases kept : keep first with
      | true => rw [List.filter_cons_of_pos kept, Raises, Raises, later]
      | false =>
          rw [List.filter_cons_of_neg (by simp [kept]), later,
            raises_cons_of_passes (passes first (.head _) kept)]

/-- A test that an item passes has no say in whether the tests raise. -/
theorem raises_erase_of_passes
    [DecidableEq β] (passes : verdict test = .passes) :
    Raises verdict (tests.erase test) ↔ Raises verdict tests := by
  induction tests with
  | nil => rfl
  | cons first tests ih =>
      by_cases same : first = test
      · subst same
        rw [List.erase_cons_head, raises_cons_of_passes passes]
      · rw [List.erase_cons_tail (by simpa using same)]
        rw [Raises, Raises, ih]

end Raises

section Stuck

variable (verdict : α → β → Verdict)

/-- Every test that raises for none of the items lets all of them pass, and some
test raises for one. -/
structure Stuck (items : List α) (tests : List β) : Prop where
  passed : ∀ test ∈ tests, (∀ item ∈ items, verdict item test ≠ .raises) →
    ∀ item ∈ items, verdict item test = .passes
  raised : ∃ test ∈ tests, ∃ item ∈ items, verdict item test = .raises

variable {verdict} {items : List α} {tests : List β}

/-- However the tests are ordered, one of the stuck items makes them raise. -/
theorem Stuck.exists_raises (stuck : Stuck verdict items tests) :
    ∃ item ∈ items, Raises (verdict item) tests := by
  induction tests with
  | nil =>
      obtain ⟨test, member, _⟩ := stuck.raised
      cases member
  | cons test tests ih =>
      by_cases raised : ∃ item ∈ items, verdict item test = .raises
      · obtain ⟨item, member, raises⟩ := raised
        exact ⟨item, member, raises_cons_of_raises raises⟩
      · have passes : ∀ item ∈ items, verdict item test = .passes :=
          stuck.passed test (.head _) fun item member raises =>
            raised ⟨item, member, raises⟩
        have later : Stuck verdict items tests := by
          constructor
          · exact fun other member => stuck.passed other (.tail _ member)
          · obtain ⟨other, member, item, held, raises⟩ := stuck.raised
            rcases List.mem_cons.mp member with rfl | isLater
            · exact absurd ⟨item, held, raises⟩ raised
            · exact ⟨other, isLater, item, held, raises⟩
        obtain ⟨item, member, raises⟩ := ih later
        exact ⟨item, member, (raises_cons_of_passes (passes item member)).mpr
          raises⟩

theorem Stuck.perm
    {others : List β} (stuck : Stuck verdict items tests)
    (permuted : others.Perm tests) : Stuck verdict items others := by
  constructor
  · exact fun test member => stuck.passed test (permuted.mem_iff.mp member)
  · obtain ⟨test, member, raised⟩ := stuck.raised
    exact ⟨test, permuted.mem_iff.mpr member, raised⟩

/-- If no items are stuck, some order of the tests raises for none of them: a
test that raises for no item and rejects one comes first. -/
theorem exists_order
    [DecidableEq β]
    (free : ∀ stuck, stuck ⊆ items → ¬Stuck verdict stuck tests) :
    ∃ order, order.Perm tests ∧
      ∀ item ∈ items, ¬Raises (verdict item) order := by
  induction size : items.length using Nat.strongRecOn
    generalizing items with
  | ind count ih =>
      by_cases raised : ∃ test ∈ tests, ∃ item ∈ items,
          verdict item test = .raises
      · have some_ : ∃ test ∈ tests, (∀ item ∈ items,
            verdict item test ≠ .raises) ∧
            ∃ item ∈ items, verdict item test ≠ .passes := by
          by_contra none_
          refine free items (List.Subset.refl _) ⟨?_, raised⟩
          intro test member silent item held
          by_contra fails
          exact none_ ⟨test, member, silent, item, held, fails⟩
        obtain ⟨test, member, silent, rejected, held, fails⟩ := some_
        have fewer : (items.filter fun item =>
            verdict item test = .passes).length < count := by
          rw [← size]
          exact List.length_filter_lt_length_iff_exists.mpr
            ⟨rejected, held, by simpa using fails⟩
        obtain ⟨order, permuted, silentOrder⟩ := ih _ fewer
          (fun stuck inside => free stuck fun item isStuck =>
            List.filter_subset_self _ (inside isStuck)) rfl
        refine ⟨test :: order.erase test,
          (List.perm_cons_erase (permuted.mem_iff.mpr member)).symm.trans
            permuted, ?_⟩
        intro item isItem
        cases outcome : verdict item test with
        | passes =>
            rw [raises_cons_of_passes outcome, raises_erase_of_passes outcome]
            exact silentOrder item (List.mem_filter.mpr
              ⟨isItem, by simpa using outcome⟩)
        | rejects => exact not_raises_cons_of_rejects outcome
        | raises => exact absurd outcome (silent item isItem)
      · refine ⟨tests, .refl _, ?_⟩
        intro item held raises
        obtain ⟨test, member, found⟩ := exists_raises_of_raises raises
        exact raised ⟨test, member, item, held, found⟩

end Stuck

end Screening

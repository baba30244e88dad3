import Mathlib.Data.List.Sort
import Mathlib.Tactic

/-!
# Sorted sets

A sorted set holds distinct members, each with an integer score, and answers
range queries on scores in the order (score, member).  This is the data
structure behind the `ZADD`, `ZREM`, `ZCARD`, `ZRANGEBYSCORE` and
`ZREMRANGEBYSCORE` commands.

The entries are kept as a list whose members are distinct by a field of the
structure, so an operation cannot store one member twice.  Every lemma below
speaks about the score of a member (`score?`) and about the members a range
query returns; none depends on the order in which the entries are kept.
-/

/-- Distinct members with integer scores. -/
structure SortedSet (α : Type) where
  entries : List (α × Int)
  nodup : (entries.map Prod.fst).Nodup

namespace SortedSet

variable {α : Type}

/-- The set without members. -/
def empty : SortedSet α := ⟨[], List.nodup_nil⟩

section Operations

variable [DecidableEq α]

/-- The score of a member, if it is one. -/
def score? (z : SortedSet α) (a : α) : Option Int :=
  (z.entries.find? fun entry => entry.1 = a).map Prod.snd

/-- Keep the entries a test accepts. -/
def filter (z : SortedSet α) (keep : α × Int → Bool) : SortedSet α :=
  ⟨z.entries.filter keep, z.nodup.sublist (List.filter_sublist.map _)⟩

/-- `ZREM`. -/
def remove (z : SortedSet α) (a : α) : SortedSet α :=
  z.filter fun entry => entry.1 ≠ a

/-- `ZADD`: a new member is inserted, an old one gets the new score. -/
def add (z : SortedSet α) (a : α) (score : Int) : SortedSet α where
  entries := (a, score) :: (z.remove a).entries
  nodup := by
    rw [List.map_cons, List.nodup_cons]
    refine ⟨?_, (z.remove a).nodup⟩
    simp [remove, filter]

/-- `ZCARD`. -/
def card (z : SortedSet α) : Nat := z.entries.length

/-- `ZREMRANGEBYSCORE`; both bounds are inclusive. -/
def removeRangeByScore (z : SortedSet α) (lo hi : Int) : SortedSet α :=
  z.filter fun entry => ¬ (lo ≤ entry.2 ∧ entry.2 ≤ hi)

/-- A member has at most one score, so looking it up finds that score. -/
theorem score?_eq_some_iff (z : SortedSet α) (a : α) (score : Int) :
    z.score? a = some score ↔ (a, score) ∈ z.entries := by
  have hnodup := z.nodup
  unfold score?
  constructor
  · intro h
    obtain ⟨⟨b, found⟩, hfind, hscore⟩ := Option.map_eq_some_iff.mp h
    have hkey : b = a := by simpa using List.find?_some hfind
    subst hkey hscore
    exact List.mem_of_find?_eq_some hfind
  · -- members are distinct, so the search does not stop before the entry of `a`
    generalize z.entries = entries at hnodup
    intro h
    induction entries with
    | nil => cases h
    | cons entry rest ih =>
        rw [List.map_cons, List.nodup_cons] at hnodup
        rcases List.mem_cons.mp h with hhead | htail
        · simp [← hhead]
        · have hne : entry.1 ≠ a := by
            rintro rfl
            exact hnodup.1 (List.mem_map.mpr ⟨_, htail, rfl⟩)
          rw [List.find?_cons_of_neg (by simpa using hne)]
          exact ih hnodup.2 htail

@[simp] theorem score?_empty (a : α) : (empty : SortedSet α).score? a = none := rfl

theorem score?_filter (z : SortedSet α) (keep : α × Int → Bool) (a : α) :
    (z.filter keep).score? a = (z.score? a).filter fun score => keep (a, score) := by
  apply Option.ext
  intro score
  rw [score?_eq_some_iff, Option.filter_eq_some_iff, score?_eq_some_iff]
  exact List.mem_filter

theorem score?_remove (z : SortedSet α) (a b : α) :
    (z.remove a).score? b = if b = a then none else z.score? b := by
  rw [remove, score?_filter]
  by_cases h : b = a <;> cases z.score? b <;> simp [h, Option.filter]

theorem score?_add (z : SortedSet α) (a b : α) (score : Int) :
    (z.add a score).score? b = if b = a then some score else z.score? b := by
  by_cases h : b = a
  · subst h
    simp [score?, add]
  · have hrest : (z.add a score).score? b = (z.remove a).score? b := by
      simp [score?, add, Ne.symm h]
    rw [hrest, score?_remove, if_neg h, if_neg h]

theorem score?_removeRangeByScore (z : SortedSet α) (lo hi : Int) (a : α) :
    (z.removeRangeByScore lo hi).score? a =
      (z.score? a).filter fun score => ¬ (lo ≤ score ∧ score ≤ hi) := by
  rw [removeRangeByScore, score?_filter]

end Operations

section Range

variable [LinearOrder α]

/-- The order of a range query: by score, equal scores by member. -/
def Precedes (a b : α × Int) : Prop :=
  a.2 < b.2 ∨ (a.2 = b.2 ∧ a.1 ≤ b.1)

instance : DecidableRel (Precedes (α := α)) := fun a b =>
  inferInstanceAs (Decidable (a.2 < b.2 ∨ (a.2 = b.2 ∧ a.1 ≤ b.1)))

/-- `ZRANGEBYSCORE`; both bounds are inclusive. -/
def rangeByScore (z : SortedSet α) (lo hi : Int) : List α :=
  ((z.entries.filter fun entry => lo ≤ entry.2 ∧ entry.2 ≤ hi).insertionSort
    Precedes).map Prod.fst

theorem mem_rangeByScore (z : SortedSet α) (lo hi : Int) (a : α) :
    a ∈ z.rangeByScore lo hi ↔ ∃ score, z.score? a = some score ∧ lo ≤ score ∧ score ≤ hi := by
  simp only [rangeByScore, List.mem_map, (List.perm_insertionSort _ _).mem_iff,
    List.mem_filter, decide_eq_true_eq, score?_eq_some_iff]
  constructor
  · rintro ⟨⟨b, score⟩, ⟨hmem, hrange⟩, rfl⟩
    exact ⟨score, hmem, hrange⟩
  · rintro ⟨score, hmem, hrange⟩
    exact ⟨(a, score), ⟨hmem, hrange⟩, rfl⟩

/-- A range query lists no member twice. -/
theorem nodup_rangeByScore (z : SortedSet α) (lo hi : Int) :
    (z.rangeByScore lo hi).Nodup := by
  have hperm := List.perm_insertionSort Precedes
    (z.entries.filter fun entry => lo ≤ entry.2 ∧ entry.2 ≤ hi)
  have hfilter : ((z.entries.filter fun entry =>
      lo ≤ entry.2 ∧ entry.2 ≤ hi).map Prod.fst).Nodup :=
    z.nodup.sublist (List.filter_sublist.map _)
  exact (hperm.map Prod.fst).nodup_iff.mpr hfilter

end Range

end SortedSet

import Mathlib.Algebra.Order.Group.Defs
import Mathlib.Algebra.Order.Sub.Basic
import Mathlib.Data.List.Induction

/-!
# Suppressing what was let through a short time ago

A table remembers which keys were let through and when, the oldest first.  A
key that arrives while it has an entry is suppressed; any other is let through
and entered at the end.  Before the table is consulted, entries older than
`ttl` are removed, but only from the front and up to the first one that is
still live.

As long as arrivals come in the order of time, the entries are ordered too, and
removing from the front is removing by age (`purge_eq_filter`).  A key is then
suppressed exactly if it was let through at most `ttl` ago (`suppressed_iff`).
-/

namespace Expiry

variable {Key Time : Type*}

/-- A key and an instant: that of its arrival, or the one entered for it. -/
abbrev Entry (Key Time : Type*) := Key × Time

/-- Entries in the order of time. -/
def Ordered [LE Time] (entries : List (Entry Key Time)) : Prop :=
  entries.Pairwise fun earlier later => earlier.2 ≤ later.2

variable [AddCommGroup Time] [LinearOrder Time]

/-- Remove the entries older than `ttl` from the front. -/
def purge (ttl now : Time) (table : List (Entry Key Time)) : List (Entry Key Time) :=
  table.dropWhile fun entry => decide (now - entry.2 > ttl)

/-- Whether a key that arrives is suppressed, and the table after its arrival. -/
def arrive [DecidableEq Key] (ttl now : Time) (key : Key) (table : List (Entry Key Time)) :
    Bool × List (Entry Key Time) :=
  let table := purge ttl now table
  if key ∈ table.map Prod.fst then (true, table) else (false, table ++ [(key, now)])

variable {ttl now : Time} {key : Key} {table arrivals : List (Entry Key Time)}
  {entry arrival : Entry Key Time}

/-! ## Purging -/

theorem Ordered.purge (h : Ordered table) : Ordered (purge ttl now table) :=
  List.Pairwise.sublist (List.dropWhile_sublist _) h

section

variable [IsOrderedAddMonoid Time]

/-- In an ordered table the live entries form its end. -/
theorem purge_eq_filter (h : Ordered table) :
    purge ttl now table = table.filter fun entry => decide (now - entry.2 ≤ ttl) := by
  induction table with
  | nil => rfl
  | cons oldest rest ih =>
      obtain ⟨holdest, hrest⟩ := List.pairwise_cons.mp h
      by_cases hexpired : now - oldest.2 > ttl
      · have hdead : ¬ now - oldest.2 ≤ ttl := not_le.mpr hexpired
        rw [List.filter_cons_of_neg (by simpa using hdead), ← ih hrest]
        exact List.dropWhile_cons_of_pos (by simpa using hexpired)
      · -- the oldest entry is live, and so are all the others
        have hlive : ∀ entry ∈ oldest :: rest, now - entry.2 ≤ ttl := by
          intro entry hentry
          rcases List.mem_cons.mp hentry with rfl | hentry
          · exact not_lt.mp hexpired
          · exact (sub_le_sub_left (holdest entry hentry) now).trans (not_lt.mp hexpired)
        rw [List.filter_eq_self.mpr (by simpa using hlive)]
        exact List.dropWhile_cons_of_neg (by simpa using hexpired)

theorem mem_purge (h : Ordered table) :
    entry ∈ purge ttl now table ↔ entry ∈ table ∧ now - entry.2 ≤ ttl := by
  rw [purge_eq_filter h, List.mem_filter, decide_eq_true_eq]

/-- What has been removed at one instant would have been removed later as well. -/
theorem purge_purge {later : Time} (h : Ordered table) (hlater : now ≤ later) :
    purge ttl later (purge ttl now table) = purge ttl later table := by
  rw [purge_eq_filter h.purge, purge_eq_filter h, purge_eq_filter h, List.filter_filter]
  apply List.filter_congr
  intro entry _
  have hlive : later - entry.2 ≤ ttl → now - entry.2 ≤ ttl :=
    (sub_le_sub_right hlater entry.2).trans
  simpa using hlive

end

/-! ## One arrival -/

variable [DecidableEq Key]

theorem arrive_fst :
    (arrive ttl now key table).1 = true ↔ key ∈ (purge ttl now table).map Prod.fst := by
  rw [arrive]
  split_ifs with hkey <;> simp [hkey]

/-- A suppressed arrival enters nothing and renews nothing. -/
theorem arrive_of_suppressed (h : (arrive ttl now key table).1 = true) :
    (arrive ttl now key table).2 = purge ttl now table := by
  rw [arrive, if_pos (arrive_fst.mp h)]

theorem arrive_of_accepted (h : (arrive ttl now key table).1 = false) :
    (arrive ttl now key table).2 = purge ttl now table ++ [(key, now)] := by
  have hkey : key ∉ (purge ttl now table).map Prod.fst := by
    intro hkey
    rw [arrive_fst.mpr hkey] at h
    cases h
  rw [arrive, if_neg hkey]

/-! ## Runs -/

/-- The table after some arrivals, from the empty one. -/
def tableAfter (ttl : Time) (arrivals : List (Entry Key Time)) : List (Entry Key Time) :=
  arrivals.foldl (fun table arrival => (arrive ttl arrival.2 arrival.1 table).2) []

theorem tableAfter_concat :
    tableAfter ttl (arrivals ++ [arrival]) =
      (arrive ttl arrival.2 arrival.1 (tableAfter ttl arrivals)).2 := by
  rw [tableAfter, List.foldl_append]
  rfl

/-- An arrival that was let through when it came. -/
def Accepted (ttl : Time) (arrivals : List (Entry Key Time)) (arrival : Entry Key Time) : Prop :=
  ∃ before after, arrivals = before ++ arrival :: after ∧
    (arrive ttl arrival.2 arrival.1 (tableAfter ttl before)).1 = false

theorem Accepted.mem (h : Accepted ttl arrivals entry) : entry ∈ arrivals := by
  obtain ⟨before, after, rfl, -⟩ := h
  exact List.mem_append_cons_self

theorem Accepted.concat (h : Accepted ttl arrivals entry) :
    Accepted ttl (arrivals ++ [arrival]) entry := by
  obtain ⟨before, after, rfl, haccepted⟩ := h
  exact ⟨before, after ++ [arrival], by simp, haccepted⟩

theorem accepted_concat_iff :
    Accepted ttl (arrivals ++ [arrival]) entry ↔
      Accepted ttl arrivals entry ∨
        entry = arrival ∧ (arrive ttl entry.2 entry.1 (tableAfter ttl arrivals)).1 = false := by
  constructor
  · rintro ⟨before, after, hcut, haccepted⟩
    rcases List.eq_nil_or_concat after with rfl | ⟨after, last, rfl⟩
    · obtain ⟨rfl, harrival⟩ := List.append_inj' hcut rfl
      obtain rfl : arrival = entry := by simpa using harrival
      exact Or.inr ⟨rfl, haccepted⟩
    · rw [List.concat_eq_append, ← List.cons_append, ← List.append_assoc] at hcut
      obtain ⟨rfl, -⟩ := List.append_inj' hcut rfl
      exact Or.inl ⟨before, after, rfl, haccepted⟩
  · rintro (haccepted | ⟨rfl, haccepted⟩)
    · exact haccepted.concat
    · exact ⟨arrivals, [], rfl, haccepted⟩

/-- What the table holds after some arrivals. -/
structure Remembers (ttl : Time) (arrivals : List (Entry Key Time)) : Prop where
  ordered : Ordered (tableAfter ttl arrivals)
  /-- Every entry is an arrival that was let through. -/
  accepted : ∀ entry ∈ tableAfter ttl arrivals, Accepted ttl arrivals entry
  /-- One that is missing has expired. -/
  complete : ∀ entry, Accepted ttl arrivals entry → entry ∉ tableAfter ttl arrivals →
    ∃ arrival ∈ arrivals, arrival.2 - entry.2 > ttl

variable [IsOrderedAddMonoid Time]

/-- An arrival that was let through is still there after a purge, or has expired. -/
theorem Remembers.mem_purge_or_expired (h : Remembers ttl arrivals)
    (haccepted : Accepted ttl arrivals entry) :
    entry ∈ purge ttl arrival.2 (tableAfter ttl arrivals) ∨
      ∃ other ∈ arrivals ++ [arrival], other.2 - entry.2 > ttl := by
  by_cases hentry : entry ∈ tableAfter ttl arrivals
  · by_cases hlive : arrival.2 - entry.2 ≤ ttl
    · exact Or.inl ((mem_purge h.ordered).mpr ⟨hentry, hlive⟩)
    · exact Or.inr ⟨arrival, by simp, not_le.mp hlive⟩
  · obtain ⟨other, hother, hexpired⟩ := h.complete entry haccepted hentry
    exact Or.inr ⟨other, by simp [hother], hexpired⟩

/-- A suppressed arrival keeps what the table holds. -/
theorem Remembers.concat_suppressed (h : Remembers ttl arrivals)
    (hanswer : (arrive ttl arrival.2 arrival.1 (tableAfter ttl arrivals)).1 = true) :
    Remembers ttl (arrivals ++ [arrival]) := by
  have htable : tableAfter ttl (arrivals ++ [arrival]) =
      purge ttl arrival.2 (tableAfter ttl arrivals) :=
    tableAfter_concat.trans (arrive_of_suppressed hanswer)
  constructor
  · rw [htable]
    exact h.ordered.purge
  · intro entry hentry
    rw [htable, mem_purge h.ordered] at hentry
    exact (h.accepted entry hentry.1).concat
  · intro entry haccepted hmissing
    rw [htable] at hmissing
    rcases accepted_concat_iff.mp haccepted with haccepted | ⟨rfl, hfalse⟩
    · exact (h.mem_purge_or_expired haccepted).resolve_left hmissing
    · rw [hanswer] at hfalse
      cases hfalse

/-- So does one that is let through. -/
theorem Remembers.concat_accepted (h : Remembers ttl arrivals)
    (hordered : Ordered (arrivals ++ [arrival]))
    (hanswer : (arrive ttl arrival.2 arrival.1 (tableAfter ttl arrivals)).1 = false) :
    Remembers ttl (arrivals ++ [arrival]) := by
  have htable : tableAfter ttl (arrivals ++ [arrival]) =
      purge ttl arrival.2 (tableAfter ttl arrivals) ++ [arrival] :=
    tableAfter_concat.trans (arrive_of_accepted hanswer)
  constructor
  · rw [htable]
    refine List.pairwise_append.mpr ⟨h.ordered.purge, List.pairwise_singleton _ _, ?_⟩
    intro entry hentry last hlast
    rw [List.mem_singleton.mp hlast]
    have hmem := (h.accepted entry ((mem_purge h.ordered).mp hentry).1).mem
    exact (List.pairwise_append.mp hordered).2.2 entry hmem arrival (List.mem_singleton_self _)
  · intro entry hentry
    rw [htable, List.mem_append, List.mem_singleton, mem_purge h.ordered] at hentry
    rcases hentry with hentry | rfl
    · exact (h.accepted entry hentry.1).concat
    · exact accepted_concat_iff.mpr (Or.inr ⟨rfl, hanswer⟩)
  · intro entry haccepted hmissing
    rw [htable, List.mem_append, List.mem_singleton, not_or] at hmissing
    rcases accepted_concat_iff.mp haccepted with haccepted | ⟨rfl, -⟩
    · exact (h.mem_purge_or_expired haccepted).resolve_left hmissing.1
    · exact absurd rfl hmissing.2

theorem remembers (h : Ordered arrivals) : Remembers ttl arrivals := by
  induction arrivals using List.reverseRecOn with
  | nil =>
      refine ⟨List.Pairwise.nil, by simp [tableAfter], ?_⟩
      intro entry haccepted
      exact absurd haccepted.mem List.not_mem_nil
  | append_singleton arrivals arrival ih =>
      have hrest := ih (List.pairwise_append.mp h).1
      cases hanswer : (arrive ttl arrival.2 arrival.1 (tableAfter ttl arrivals)).1 with
      | true => exact hrest.concat_suppressed hanswer
      | false => exact hrest.concat_accepted h hanswer

/-! ## What an arrival is answered -/

/-- A key is suppressed exactly if it was let through at most `ttl` ago. -/
theorem suppressed_iff (h : Ordered (arrivals ++ [(key, now)])) :
    (arrive ttl now key (tableAfter ttl arrivals)).1 = true ↔
      ∃ time, Accepted ttl arrivals (key, time) ∧ now - time ≤ ttl := by
  obtain ⟨harrivals, -, hlast⟩ := List.pairwise_append.mp h
  have hremembers : Remembers ttl arrivals := remembers harrivals
  rw [arrive_fst]
  constructor
  · intro hkey
    obtain ⟨⟨_, time⟩, hentry, rfl⟩ := List.mem_map.mp hkey
    obtain ⟨hentry, hlive⟩ := (mem_purge hremembers.ordered).mp hentry
    exact ⟨time, hremembers.accepted _ hentry, hlive⟩
  · rintro ⟨time, haccepted, hlive⟩
    refine List.mem_map.mpr ⟨(key, time), ?_, rfl⟩
    refine (mem_purge hremembers.ordered).mpr ⟨?_, hlive⟩
    by_contra hmissing
    obtain ⟨arrival, harrival, hexpired⟩ := hremembers.complete _ haccepted hmissing
    have hbefore := hlast arrival harrival (key, now) (List.mem_singleton_self _)
    exact absurd (hexpired.trans_le (sub_le_sub_right hbefore time)) (not_lt.mpr hlive)

/-- After a suppressed arrival every later one is answered, and leaves the table, as if the
suppressed one had not come. -/
theorem arrive_after_suppressed {later : Time} {other : Key}
    (h : Ordered arrivals) (hlater : now ≤ later)
    (hanswer : (arrive ttl now key (tableAfter ttl arrivals)).1 = true) :
    arrive ttl later other (tableAfter ttl (arrivals ++ [(key, now)])) =
      arrive ttl later other (tableAfter ttl arrivals) := by
  rw [tableAfter_concat, arrive_of_suppressed hanswer, arrive, arrive,
    purge_purge (remembers h).ordered hlater]

end Expiry

import JobQueue.Lib.Text

/-!
# Backtracking regular expressions

Words, repeated character classes, groups, sequences and alternatives, matched as
ECMAScript defines it: a matcher goes on with a continuation and falls back to its next
choice when the continuation fails.
-/

/-- `many1 p` is a character class with a greedy `+`. -/
inductive Regex where
  | word (text : Text)
  | many1 (p : Char → Bool)
  | group (index : Nat) (body : Regex)
  | seq (first second : Regex)
  | alt (first second : Regex)

/-- The groups that have matched, the latest match first. -/
abbrev Captures := List (Nat × Text)

namespace Regex

section Run

variable {α : Type}

/-- As many characters of the class as the continuation accepts. -/
def runMany (p : Char → Bool) : Text → (Text → Option α) → Option α
  | [], next => next []
  | c :: rest, next =>
      if p c then (runMany p rest next).or (next (c :: rest)) else next (c :: rest)

def runMany1 (p : Char → Bool) : Text → (Text → Option α) → Option α
  | [], _ => none
  | c :: rest, next => if p c then runMany p rest next else none

def run : Regex → Text → Captures → (Text → Captures → Option α) → Option α
  | word w, text, captures, next =>
      if w.isPrefixOf text then next (text.drop w.length) captures else none
  | many1 p, text, captures, next => runMany1 p text fun rest => next rest captures
  | group index body, text, captures, next =>
      body.run text captures fun rest captures =>
        next rest ((index, text.take (text.length - rest.length)) :: captures)
  | seq first second, text, captures, next =>
      first.run text captures fun rest captures => second.run rest captures next
  | alt first second, text, captures, next =>
      (first.run text captures next).or (second.run text captures next)

end Run

/-- `std::regex_search`: the captures of the leftmost match. -/
def search (r : Regex) : Text → Option Captures
  | [] => r.run [] [] fun _ captures => some captures
  | c :: rest => (r.run (c :: rest) [] fun _ captures => some captures).or (search r rest)

/-- The groups of an expression with what they enclose. -/
def groups : Regex → List (Nat × Regex)
  | word _ => []
  | many1 _ => []
  | group index body => (index, body) :: body.groups
  | seq first second => first.groups ++ second.groups
  | alt first second => first.groups ++ second.groups

/-- The language of an expression. -/
inductive Matches : Regex → Text → Prop where
  | word (w : Text) : Matches (word w) w
  | many1 {p : Char → Bool} {w : Text} (hne : w ≠ []) (h : ∀ c ∈ w, p c = true) :
      Matches (many1 p) w
  | group {index : Nat} {body : Regex} {w : Text} (h : Matches body w) :
      Matches (group index body) w
  | seq {first second : Regex} {u v : Text} (hfirst : Matches first u)
      (hsecond : Matches second v) : Matches (seq first second) (u ++ v)
  | altLeft {first second : Regex} {w : Text} (h : Matches first w) :
      Matches (alt first second) w
  | altRight {first second : Regex} {w : Text} (h : Matches second w) :
      Matches (alt first second) w

/-- Every capture has matched the body of its group. -/
def Sound (r : Regex) (captures : Captures) : Prop :=
  ∀ capture ∈ captures, ∃ body, (capture.1, body) ∈ r.groups ∧ body.Matches capture.2

section Soundness

variable {α : Type} {x : α}

theorem runMany_sound {p : Char → Bool} {text : Text} {next : Text → Option α}
    (h : runMany p text next = some x) :
    ∃ w rest, text = w ++ rest ∧ (∀ c ∈ w, p c = true) ∧ next rest = some x := by
  induction text with
  | nil => exact ⟨[], [], rfl, by simp, h⟩
  | cons c text ih =>
      rw [runMany] at h
      split at h
      · rename_i hc
        rcases Option.or_eq_some_iff.mp h with hmore | ⟨-, hstop⟩
        · obtain ⟨w, rest, htext, hw, hnext⟩ := ih hmore
          refine ⟨c :: w, rest, by rw [htext, List.cons_append], ?_, hnext⟩
          exact List.forall_mem_cons.mpr ⟨hc, hw⟩
        · exact ⟨[], c :: text, rfl, by simp, hstop⟩
      · exact ⟨[], c :: text, rfl, by simp, h⟩

theorem runMany1_sound {p : Char → Bool} {text : Text} {next : Text → Option α}
    (h : runMany1 p text next = some x) :
    ∃ w rest, text = w ++ rest ∧ (many1 p).Matches w ∧ next rest = some x := by
  cases text with
  | nil => contradiction
  | cons c text =>
      rw [runMany1] at h
      split at h
      · rename_i hc
        obtain ⟨w, rest, htext, hw, hnext⟩ := runMany_sound h
        refine ⟨c :: w, rest, by rw [htext, List.cons_append], ?_, hnext⟩
        exact .many1 (List.cons_ne_nil c w) (List.forall_mem_cons.mpr ⟨hc, hw⟩)
      · contradiction

/-- A successful run takes a word of the language and goes on after it, with captures
that each matched their group. -/
theorem run_sound {r : Regex} {text : Text} {captures : Captures}
    {next : Text → Captures → Option α} (h : r.run text captures next = some x) :
    ∃ w rest captures', text = w ++ rest ∧ r.Matches w ∧ next rest captures' = some x ∧
      ∀ capture ∈ captures', capture ∈ captures ∨
        ∃ body, (capture.1, body) ∈ r.groups ∧ body.Matches capture.2 := by
  induction r generalizing text captures next with
  | word w =>
      rw [run] at h
      split at h
      · rename_i hstart
        obtain ⟨rest, rfl⟩ := List.isPrefixOf_iff_prefix.mp hstart
        rw [List.drop_left] at h
        exact ⟨w, rest, captures, rfl, .word w, h, fun _ hmem => .inl hmem⟩
      · contradiction
  | many1 p =>
      obtain ⟨w, rest, htext, hw, hnext⟩ := runMany1_sound h
      exact ⟨w, rest, captures, htext, hw, hnext, fun _ hmem => .inl hmem⟩
  | group index body ih =>
      obtain ⟨w, rest, captures', rfl, hw, hnext, hcaptures⟩ := ih h
      -- what the group has taken is what its body has matched
      have htaken : (w ++ rest).take ((w ++ rest).length - rest.length) = w := by
        rw [List.length_append, Nat.add_sub_cancel, List.take_left]
      rw [htaken] at hnext
      refine ⟨w, rest, (index, w) :: captures', rfl, .group hw, hnext, ?_⟩
      intro capture hmem
      rcases List.mem_cons.mp hmem with rfl | hmem
      · exact .inr ⟨body, List.mem_cons_self, hw⟩
      · refine (hcaptures capture hmem).imp_right fun ⟨inner, hinner, hmatch⟩ => ?_
        exact ⟨inner, List.mem_cons_of_mem _ hinner, hmatch⟩
  | seq first second ihfirst ihsecond =>
      obtain ⟨u, rest, captures₁, rfl, hu, hsecond, hcaptures₁⟩ := ihfirst h
      obtain ⟨v, rest', captures₂, rfl, hv, hnext, hcaptures₂⟩ := ihsecond hsecond
      refine ⟨u ++ v, rest', captures₂, by rw [List.append_assoc], .seq hu hv, hnext, ?_⟩
      -- a capture comes from the second part, or was there when it began
      intro capture hmem
      rcases hcaptures₂ capture hmem with hmem₁ | ⟨body, hbody, hmatch⟩
      · refine (hcaptures₁ capture hmem₁).imp_right fun ⟨body, hbody, hmatch⟩ => ?_
        exact ⟨body, List.mem_append_left _ hbody, hmatch⟩
      · exact .inr ⟨body, List.mem_append_right _ hbody, hmatch⟩
  | alt first second ihfirst ihsecond =>
      rcases Option.or_eq_some_iff.mp h with hfirst | ⟨-, hsecond⟩
      · obtain ⟨w, rest, captures', htext, hw, hnext, hcaptures⟩ := ihfirst hfirst
        refine ⟨w, rest, captures', htext, .altLeft hw, hnext, fun capture hmem => ?_⟩
        refine (hcaptures capture hmem).imp_right fun ⟨body, hbody, hmatch⟩ => ?_
        exact ⟨body, List.mem_append_left _ hbody, hmatch⟩
      · obtain ⟨w, rest, captures', htext, hw, hnext, hcaptures⟩ := ihsecond hsecond
        refine ⟨w, rest, captures', htext, .altRight hw, hnext, fun capture hmem => ?_⟩
        refine (hcaptures capture hmem).imp_right fun ⟨body, hbody, hmatch⟩ => ?_
        exact ⟨body, List.mem_append_right _ hbody, hmatch⟩

/-- What a search captures for a group is a word of the group. -/
theorem search_sound {r : Regex} {text : Text} {captures : Captures}
    (h : r.search text = some captures) : r.Sound captures := by
  have hrun : ∀ {text : Text}, (r.run text [] fun _ found => some found) = some captures →
      r.Sound captures := by
    intro text hfound
    obtain ⟨w, rest, captures', -, -, hnext, hcaptures⟩ := run_sound hfound
    obtain rfl := Option.some.inj hnext
    intro capture hmem
    exact (hcaptures capture hmem).resolve_left List.not_mem_nil
  induction text with
  | nil => exact hrun h
  | cons c text ih =>
      rcases Option.or_eq_some_iff.mp h with hfound | ⟨-, hlater⟩
      · exact hrun hfound
      · exact ih hlater

end Soundness

/-! ## The leftmost match -/

section Completeness

variable {α : Type} {x : α} {p : Char → Bool} {w rest : Text}

/-- A repeated class takes all characters of the class if the continuation accepts what
comes after them. -/
theorem runMany_greedy {next : Text → Option α} (hw : ∀ c ∈ w, p c = true)
    (hrest : ∀ c ∈ rest.head?, p c = false) (hnext : next rest = some x) :
    runMany p (w ++ rest) next = some x := by
  induction w with
  | nil =>
      cases rest with
      | nil => exact hnext
      | cons c rest =>
          have hc : p c = false := hrest c rfl
          simpa [runMany, hc] using hnext
  | cons c w ih =>
      have hc : p c = true := hw c List.mem_cons_self
      rw [List.cons_append, runMany, if_pos hc,
        ih fun d hd => hw d (List.mem_cons_of_mem c hd), Option.some_or]

theorem run_many1_greedy {captures : Captures} {next : Text → Captures → Option α} (hne : w ≠ [])
    (hw : ∀ c ∈ w, p c = true) (hrest : ∀ c ∈ rest.head?, p c = false)
    (hnext : next rest captures = some x) :
    (many1 p).run (w ++ rest) captures next = some x := by
  obtain ⟨c, w, rfl⟩ := List.exists_cons_of_ne_nil hne
  have hc : p c = true := hw c List.mem_cons_self
  rw [run, List.cons_append, runMany1, if_pos hc]
  exact runMany_greedy (fun d hd => hw d (List.mem_cons_of_mem c hd)) hrest hnext

theorem run_word (w : Text) {text : Text} {captures : Captures}
    {next : Text → Captures → Option α} :
    (word w).run (w ++ text) captures next = next text captures := by
  have hstart : w.isPrefixOf (w ++ text) = true :=
    List.isPrefixOf_iff_prefix.mpr (List.prefix_append w text)
  rw [run, if_pos hstart, List.drop_left]

/-- A group of a repeated class captures what the class takes. -/
theorem run_group_many1 {index : Nat} {captures : Captures} {next : Text → Captures → Option α}
    (hne : w ≠ []) (hw : ∀ c ∈ w, p c = true) (hrest : ∀ c ∈ rest.head?, p c = false)
    (hnext : next rest ((index, w) :: captures) = some x) :
    (group index (many1 p)).run (w ++ rest) captures next = some x := by
  have htaken : (w ++ rest).take ((w ++ rest).length - rest.length) = w := by
    rw [List.length_append, Nat.add_sub_cancel, List.take_left]
  rw [run]
  refine run_many1_greedy hne hw hrest ?_
  rwa [htaken]

/-- The words a match can begin with. -/
def leads : Regex → List Text
  | word w => [w]
  | many1 _ => [[]]
  | group _ body => body.leads
  | seq first _ => first.leads
  | alt first second => first.leads ++ second.leads

theorem run_eq_none {r : Regex} {text : Text} {captures : Captures}
    {next : Text → Captures → Option α} (h : ∀ w ∈ r.leads, ¬ w <+: text) :
    r.run text captures next = none := by
  induction r generalizing captures next with
  | word w =>
      have hw : ¬ w.isPrefixOf text = true :=
        fun hstart => h w List.mem_cons_self (List.isPrefixOf_iff_prefix.mp hstart)
      rw [run, if_neg hw]
  | many1 p => exact absurd List.nil_prefix (h [] List.mem_cons_self)
  | group index body ih => exact ih h
  | seq first second ihfirst _ => exact ihfirst h
  | alt first second ihfirst ihsecond =>
      rw [run, ihfirst fun w hw => h w (List.mem_append_left _ hw),
        ihsecond fun w hw => h w (List.mem_append_right _ hw), Option.none_or]

/-- A search finds the match at the first place where a match can begin. -/
theorem search_append {r : Regex} {before text : Text} {captures : Captures}
    (hbefore : ∀ w ∈ r.leads, ¬ w <:+: before ++ text.take (w.length - 1))
    (hrun : (r.run text [] fun _ found => some found) = some captures) :
    r.search (before ++ text) = some captures := by
  induction before with
  | nil =>
      cases text with
      | nil => exact hrun
      | cons c text => rw [List.nil_append, search, hrun, Option.some_or]
  | cons c before ih =>
      have hnone : ∀ w ∈ r.leads, ¬ w <+: c :: (before ++ text) := by
        intro w hw hstart
        refine hbefore w hw (List.IsPrefix.isInfix ?_)
        -- a word that begins this early ends before the match
        have hlength : w.length ≤
            (c :: before ++ text.take (w.length - 1)).length ∨ text.length ≤ w.length - 1 := by
          simp only [List.length_append, List.length_cons, List.length_take]
          omega
        have hshort : c :: before ++ text.take (w.length - 1) <+: c :: (before ++ text) := by
          rw [List.cons_append]
          exact (List.prefix_cons_inj c).mpr
            ((List.prefix_append_right_inj before).mpr (List.take_prefix _ _))
        rcases hlength with hlength | hlength
        · exact List.prefix_of_prefix_length_le hstart hshort hlength
        · rwa [List.take_of_length_le hlength]
      have hrest := ih fun w hw h => hbefore w hw (h.trans (List.suffix_cons c _).isInfix)
      rw [List.cons_append, search, run_eq_none hnone, Option.none_or, hrest]

end Completeness

end Regex

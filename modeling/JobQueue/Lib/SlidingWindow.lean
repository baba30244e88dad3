import Mathlib.Data.List.Dedup
import Mathlib.Tactic

/-!
# Sliding-window admission

Requests arrive at non-decreasing instants, and an admission rule decides each
of them from the log of the requests admitted so far.  The requests admitted
within the last `window` time units are the *recent* ones, and a log is
*bounded* if no window holds more than `limit` of them.

The ideal rule counts the recent requests.  The distinct rule counts the
instants at which they came, which is what a limiter does that stores admitted
requests in a set keyed by time.  The distinct rule keeps the bound exactly if,
whenever the ideal rule has to refuse, the recent requests came at pairwise
distinct instants (`bounded_distinct_iff`).
-/

namespace SlidingWindow

/-- The admitted requests in the half-open window `(t - window, t]`. -/
def recent (window t : Int) (log : List Int) : List Int :=
  log.filter fun a => t - window < a ∧ a ≤ t

/-- No window holds more than `limit` admitted requests. -/
def Bounded (window : Int) (limit : Nat) (log : List Int) : Prop :=
  ∀ t, (recent window t log).length ≤ limit

/-- Decide the requests one after the other; the log lists the newest request
first. -/
def run (admits : Int → List Int → Bool) : List Int → List Int → List Int
  | [], log => log
  | now :: rest, log => run admits rest (if admits now log then now :: log else log)

/-- Admit while fewer than `limit` requests are recent. -/
def ideal (window : Int) (limit : Nat) (now : Int) (log : List Int) : Bool :=
  (recent window now log).length < limit

/-- Admit while the recent requests came at fewer than `limit` instants. -/
def distinct (window : Int) (limit : Nat) (now : Int) (log : List Int) : Bool :=
  (recent window now log).dedup.length < limit

/-- Whenever a request arrives while the ideal rule has admitted `limit` recent
ones, these came at pairwise distinct instants. -/
def DistinctWhenFull (window : Int) (limit : Nat) : List Int → List Int → Prop
  | [], _ => True
  | now :: rest, log =>
      (limit ≤ (recent window now log).length → (recent window now log).Nodup) ∧
        DistinctWhenFull window limit rest
          (if ideal window limit now log then now :: log else log)

variable {window : Int} {limit : Nat} {log : List Int}

theorem mem_recent {t a : Int} : a ∈ recent window t log ↔ a ∈ log ∧ t - window < a ∧ a ≤ t := by
  simp [recent, List.mem_filter]

theorem bounded_nil : Bounded window limit [] := fun _ => Nat.zero_le limit

/-- A bounded log stays bounded when a request is admitted that finds fewer than
`limit` recent ones. -/
theorem Bounded.cons {now : Int} (h : Bounded window limit log) (hlog : ∀ a ∈ log, a ≤ now)
    (hroom : (recent window now log).length < limit) : Bounded window limit (now :: log) := by
  intro t
  by_cases hin : t - window < now ∧ now ≤ t
  · -- the rest of the window lies within the window that ends at `now`
    have hsub : (recent window t log).length ≤ (recent window now log).length := by
      rw [recent, recent, ← List.countP_eq_length_filter, ← List.countP_eq_length_filter]
      apply List.countP_mono_left
      intro a ha hwithin
      have hle := hlog a ha
      simp only [decide_eq_true_eq] at hwithin ⊢
      omega
    have hcons : recent window t (now :: log) = now :: recent window t log := by
      simp [recent, hin]
    rw [hcons, List.length_cons]
    omega
  · have hcons : recent window t (now :: log) = recent window t log := by
      simp [recent, hin]
    rw [hcons]
    exact h t

/-- Requests are only added to the log. -/
theorem suffix_run (admits : Int → List Int → Bool) (times log : List Int) :
    log <:+ run admits times log := by
  induction times generalizing log with
  | nil => exact List.suffix_rfl
  | cons now rest ih =>
      rw [run]
      split_ifs
      · exact (List.suffix_cons now log).trans (ih _)
      · exact ih _

/-- A log that a run has extended beyond the bound stays beyond it. -/
theorem not_bounded_run {admits : Int → List Int → Bool} {times : List Int} {t : Int}
    (h : limit < (recent window t log).length) :
    ¬ Bounded window limit (run admits times log) := by
  intro hbounded
  have hle : (recent window t log).length ≤ (recent window t (run admits times log)).length :=
    ((suffix_run admits times log).sublist.filter _).length_le
  have hbound := hbounded t
  omega

/-- Earlier requests stay earlier, whether the next one is admitted or not. -/
theorem earlier_step {decision : Prop} [Decidable decision] {now : Int} {rest : List Int}
    (hlog : ∀ a ∈ log, ∀ t ∈ now :: rest, a ≤ t) (hnow : ∀ t ∈ rest, now ≤ t) :
    ∀ a ∈ (if decision then now :: log else log), ∀ t ∈ rest, a ≤ t := by
  have hrest : ∀ a ∈ log, ∀ t ∈ rest, a ≤ t :=
    fun a ha t ht => hlog a ha t (List.mem_cons_of_mem now ht)
  intro a ha t ht
  split_ifs at ha
  · rcases List.mem_cons.mp ha with rfl | ha
    · exact hnow t ht
    · exact hrest a ha t ht
  · exact hrest a ha t ht

/-- One decision of the ideal rule keeps the bound. -/
theorem Bounded.ideal_step {now : Int} (h : Bounded window limit log)
    (hlog : ∀ a ∈ log, a ≤ now) :
    Bounded window limit (if ideal window limit now log then now :: log else log) := by
  split_ifs with hroom
  · exact h.cons hlog (by simpa [ideal] using hroom)
  · exact h

/-- The ideal rule never admits more than `limit` requests per window. -/
theorem bounded_ideal {times : List Int} (h : Bounded window limit log)
    (hlog : ∀ a ∈ log, ∀ t ∈ times, a ≤ t) (hsorted : times.Pairwise (· ≤ ·)) :
    Bounded window limit (run (ideal window limit) times log) := by
  induction times generalizing log with
  | nil => exact h
  | cons now rest ih =>
      obtain ⟨hnow, hrest⟩ := List.pairwise_cons.mp hsorted
      have hold : ∀ a ∈ log, a ≤ now := fun a ha => hlog a ha now List.mem_cons_self
      exact ih (h.ideal_step hold) (earlier_step hlog hnow) hrest

/-- The two rules differ on a request only if it finds the window full of
requests of which two share an instant. -/
theorem distinct_eq_ideal {now : Int}
    (h : limit ≤ (recent window now log).length → (recent window now log).Nodup) :
    distinct window limit now log = ideal window limit now log := by
  unfold distinct ideal
  by_cases hfull : limit ≤ (recent window now log).length
  · rw [(h hfull).dedup]
  · -- there is room for the ideal rule, and the distinct rule counts no more
    have hdedup : (recent window now log).dedup.length ≤ (recent window now log).length :=
      (List.dedup_sublist _).length_le
    rw [decide_eq_true (by omega), decide_eq_true (by omega)]

theorem run_distinct_eq_run_ideal {times : List Int}
    (h : DistinctWhenFull window limit times log) :
    run (distinct window limit) times log = run (ideal window limit) times log := by
  induction times generalizing log with
  | nil => rfl
  | cons now rest ih =>
      obtain ⟨hnow, hrest⟩ := h
      rw [run, run, distinct_eq_ideal hnow]
      exact ih hrest

/-- A request that finds the window full of requests of which two share an
instant is admitted by the distinct rule, beyond the bound. -/
theorem not_bounded_of_not_nodup {now : Int} {rest : List Int} (h : Bounded window limit log)
    (hwindow : 0 < window) (hfull : limit ≤ (recent window now log).length)
    (hnodup : ¬ (recent window now log).Nodup) :
    ¬ Bounded window limit (run (distinct window limit) (now :: rest) log) := by
  have hdedup : (recent window now log).dedup.length ≤ (recent window now log).length :=
    (List.dedup_sublist _).length_le
  have hlt : (recent window now log).dedup.length < (recent window now log).length := by
    refine lt_of_le_of_ne hdedup fun heq => hnodup ?_
    exact List.dedup_eq_self.mp ((List.dedup_sublist _).eq_of_length heq)
  have hbound := h now
  have hadmits : distinct window limit now log = true := by
    simp only [distinct, decide_eq_true_eq]
    omega
  have hcons : recent window now (now :: log) = now :: recent window now log := by
    simp [recent, hwindow]
  have hover : limit < (recent window now (now :: log)).length := by
    rw [hcons, List.length_cons]
    omega
  rw [run, if_pos hadmits]
  exact not_bounded_run hover

/-- The distinct rule keeps the bound exactly if the recent requests are at
distinct instants whenever the ideal rule refuses. -/
theorem bounded_distinct_iff {times : List Int} (h : Bounded window limit log)
    (hlog : ∀ a ∈ log, ∀ t ∈ times, a ≤ t) (hsorted : times.Pairwise (· ≤ ·))
    (hwindow : 0 < window) :
    Bounded window limit (run (distinct window limit) times log) ↔
      DistinctWhenFull window limit times log := by
  constructor
  · -- while the bound holds, the two rules have decided alike
    intro hbounded
    induction times generalizing log with
    | nil => trivial
    | cons now rest ih =>
        obtain ⟨hnow, hrest⟩ := List.pairwise_cons.mp hsorted
        have hold : ∀ a ∈ log, a ≤ now := fun a ha => hlog a ha now List.mem_cons_self
        have hagree : limit ≤ (recent window now log).length →
            (recent window now log).Nodup := by
          intro hfull
          by_contra hnodup
          exact not_bounded_of_not_nodup h hwindow hfull hnodup hbounded
        rw [run, distinct_eq_ideal hagree] at hbounded
        exact ⟨hagree, ih (h.ideal_step hold) (earlier_step hlog hnow) hrest hbounded⟩
  · intro hdistinct
    rw [run_distinct_eq_run_ideal hdistinct]
    exact bounded_ideal h hlog hsorted

end SlidingWindow

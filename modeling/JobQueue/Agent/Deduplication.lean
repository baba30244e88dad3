import JobQueue.Lib.Expiry
import JobQueue.Model.ObserverAgent

/-!
# Suppressed incidents

The observer keeps the keys of the incidents it handed on in the order in which they came,
and purges from the front.  While the clock does not go back, the keys it consults are those
handed on at most `dedup_ttl_seconds` ago.
-/

namespace JobQueue

namespace AiAgent

namespace ObserverAgent

variable (settings : Settings)

/-- An incident and the time at which it arrives. -/
structure Arrival where
  incident : IncidentPayload
  now : ℚ

/-- `_seen` after some arrivals. -/
def seenAfter (arrivals : List Arrival) : Seen :=
  arrivals.foldl
    (fun seen arrival => (isDuplicate settings arrival.now arrival.incident seen).2) []

/-- An arrival for which `_is_duplicate` returned false when it came. -/
def HandedOn (arrivals : List Arrival) (arrival : Arrival) : Prop :=
  ∃ before after, arrivals = before ++ arrival :: after ∧
    (isDuplicate settings arrival.now arrival.incident (seenAfter settings before)).1 = false

/-! ## The table of keys -/

/-- What `_seen` would hold of an arrival. -/
def Arrival.entry (arrival : Arrival) : Expiry.Entry CodePoints ℚ :=
  (keyOf arrival.incident, arrival.now)

theorem purge_eq (now : ℚ) (seen : Seen) :
    purge settings now seen = Expiry.purge (settings.dedup_ttl_seconds : ℚ) now seen := rfl

theorem isDuplicate_eq (now : ℚ) (incident : IncidentPayload) (seen : Seen) :
    isDuplicate settings now incident seen =
      Expiry.arrive (settings.dedup_ttl_seconds : ℚ) now (keyOf incident) seen := by
  rw [isDuplicate, Expiry.arrive, purge_eq]
  split_ifs <;> rfl

theorem seenAfter_eq (arrivals : List Arrival) :
    seenAfter settings arrivals =
      Expiry.tableAfter (settings.dedup_ttl_seconds : ℚ) (arrivals.map Arrival.entry) := by
  rw [seenAfter, Expiry.tableAfter, List.foldl_map]
  simp only [isDuplicate_eq, Arrival.entry]

variable {settings} {arrivals : List Arrival}

/-- The entries let through are those of the arrivals handed on. -/
theorem accepted_iff {entry : Expiry.Entry CodePoints ℚ} :
    Expiry.Accepted (settings.dedup_ttl_seconds : ℚ) (arrivals.map Arrival.entry) entry ↔
      ∃ earlier, HandedOn settings arrivals earlier ∧ earlier.entry = entry := by
  constructor
  · rintro ⟨before, after, hcut, hanswer⟩
    obtain ⟨before, rest, rfl, rfl, hrest⟩ := List.map_eq_append_iff.mp hcut
    obtain ⟨earlier, after, rfl, rfl, rfl⟩ := List.map_eq_cons_iff.mp hrest
    refine ⟨earlier, ⟨before, after, rfl, ?_⟩, rfl⟩
    rw [isDuplicate_eq, seenAfter_eq]
    exact hanswer
  · rintro ⟨earlier, ⟨before, after, rfl, hanswer⟩, rfl⟩
    refine ⟨before.map Arrival.entry, after.map Arrival.entry, by simp, ?_⟩
    rw [isDuplicate_eq, seenAfter_eq] at hanswer
    exact hanswer

theorem ordered_entries (h : arrivals.Pairwise fun a b => a.now ≤ b.now) :
    Expiry.Ordered (arrivals.map Arrival.entry) :=
  List.pairwise_map.mpr h

/-! ## What is suppressed -/

/-- A duplicate has one to blame among those handed on. -/
theorem duplicate_iff_handedOn {arrival : Arrival}
    (h : (arrivals ++ [arrival]).Pairwise fun a b => a.now ≤ b.now) :
    (isDuplicate settings arrival.now arrival.incident (seenAfter settings arrivals)).1 = true ↔
      ∃ earlier, HandedOn settings arrivals earlier ∧
        keyOf earlier.incident = keyOf arrival.incident ∧
        arrival.now - earlier.now ≤ settings.dedup_ttl_seconds := by
  have hentries := ordered_entries h
  rw [List.map_append] at hentries
  rw [isDuplicate_eq, seenAfter_eq, Expiry.suppressed_iff hentries]
  constructor
  · rintro ⟨time, haccepted, hlive⟩
    obtain ⟨earlier, hearlier, hentry⟩ := accepted_iff.mp haccepted
    obtain ⟨hkey, rfl⟩ := Prod.mk.inj hentry
    exact ⟨earlier, hearlier, hkey, hlive⟩
  · rintro ⟨earlier, hearlier, hkey, hlive⟩
    refine ⟨earlier.now, accepted_iff.mpr ⟨earlier, hearlier, ?_⟩, hlive⟩
    rw [← hkey, Arrival.entry]

/-- An incident is a duplicate exactly if one with its key was handed on at most the ttl ago.
A duplicate changes nothing for what arrives later, and the keys consulted are the live
ones. -/
theorem isDuplicate_exact (settings : Settings) (arrivals : List Arrival) (arrival : Arrival)
    (h : (arrivals ++ [arrival]).Pairwise fun a b => a.now ≤ b.now) :
    ((isDuplicate settings arrival.now arrival.incident (seenAfter settings arrivals)).1 = true ↔
      ∃ earlier, HandedOn settings arrivals earlier ∧
        keyOf earlier.incident = keyOf arrival.incident ∧
        arrival.now - earlier.now ≤ settings.dedup_ttl_seconds) ∧
    ((isDuplicate settings arrival.now arrival.incident (seenAfter settings arrivals)).1 = true →
      ∀ later incident, arrival.now ≤ later →
        isDuplicate settings later incident (seenAfter settings (arrivals ++ [arrival])) =
          isDuplicate settings later incident (seenAfter settings arrivals)) ∧
    purge settings arrival.now (seenAfter settings arrivals) =
      (seenAfter settings arrivals).filter fun entry =>
        arrival.now - entry.2 ≤ settings.dedup_ttl_seconds := by
  have hbefore := ordered_entries (List.pairwise_append.mp h).1
  refine ⟨duplicate_iff_handedOn h, ?_, ?_⟩
  · intro hduplicate later incident hlater
    rw [isDuplicate_eq, seenAfter_eq] at hduplicate
    rw [isDuplicate_eq, isDuplicate_eq, seenAfter_eq, seenAfter_eq, List.map_append]
    exact Expiry.arrive_after_suppressed hbefore hlater hduplicate
  · rw [purge_eq, seenAfter_eq]
    exact Expiry.purge_eq_filter (Expiry.remembers hbefore).ordered

/-- A report that has come back after 200 seconds and comes back after 300: one that was handed
on is still at most 300 seconds old. -/
theorem repeated_report_suppressed :
    ∃ earlier, HandedOn {} [⟨{ type := str "JOB_FAILED" }, 0⟩, ⟨{ type := str "JOB_FAILED" }, 200⟩]
        earlier ∧
      keyOf earlier.incident = keyOf { type := str "JOB_FAILED" } ∧
      300 - earlier.now ≤ (300 : ℚ) :=
  (isDuplicate_exact {} [⟨{ type := str "JOB_FAILED" }, 0⟩, ⟨{ type := str "JOB_FAILED" }, 200⟩]
    ⟨{ type := str "JOB_FAILED" }, 300⟩ (by norm_num)).1.mp (by decide +kernel)

end ObserverAgent

end AiAgent

end JobQueue

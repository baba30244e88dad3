import JobQueue.Agent.Deduplication
import JobQueue.Model.AgentService

/-!
# The loop of the observer

Whatever a poll returns and whatever a pipeline raises, the loop goes on.  The pipelines it
starts are spaced: an incident with a key is handed on only after more than the ttl since the
last one with this key, whether the pipeline of that one has returned or raised, and every
incident that is not handed on has one to blame.
-/

namespace JobQueue

namespace AiAgent

open Json

namespace ObserverAgent

/-! ## The incidents handed on -/

section HandedOn

variable (settings : Settings)

/-- The arrivals handed on, of those that find the keys `seen`. -/
def handed : List Arrival → Seen → List Arrival
  | [], _ => []
  | arrival :: arrivals, seen =>
      (if (isDuplicate settings arrival.now arrival.incident seen).1 then [] else [arrival]) ++
        handed arrivals (isDuplicate settings arrival.now arrival.incident seen).2

theorem handed_append (arrivals later : List Arrival) (seen : Seen) :
    handed settings (arrivals ++ later) seen =
      handed settings arrivals seen ++ handed settings later (arrivals.foldl
        (fun seen arrival => (isDuplicate settings arrival.now arrival.incident seen).2) seen) := by
  induction arrivals generalizing seen with
  | nil => rfl
  | cons arrival arrivals ih =>
      rw [List.cons_append, handed, handed, ih, List.append_assoc, List.foldl_cons]

theorem handed_concat (arrivals : List Arrival) (arrival : Arrival) :
    handed settings (arrivals ++ [arrival]) [] =
      handed settings arrivals [] ++
        if (isDuplicate settings arrival.now arrival.incident (seenAfter settings arrivals)).1
        then [] else [arrival] := by
  rw [handed_append, handed, handed, List.append_nil]
  rfl

theorem handed_sublist (arrivals : List Arrival) (seen : Seen) :
    (handed settings arrivals seen).Sublist arrivals := by
  induction arrivals generalizing seen with
  | nil => exact .slnil
  | cons arrival arrivals ih =>
      rw [handed]
      split_ifs
      · exact (ih _).cons arrival
      · exact (ih _).cons_cons arrival

variable {settings} {arrivals : List Arrival} {arrival : Arrival}

theorem mem_handed_iff :
    arrival ∈ handed settings arrivals [] ↔ HandedOn settings arrivals arrival := by
  constructor
  · induction arrivals using List.reverseRecOn with
    | nil => exact fun h => absurd h List.not_mem_nil
    | append_singleton arrivals last ih =>
        intro h
        rw [handed_concat, List.mem_append] at h
        rcases h with h | h
        · obtain ⟨before, after, rfl, hanswer⟩ := ih h
          exact ⟨before, after ++ [last], by simp, hanswer⟩
        · split_ifs at h with hanswer
          · exact absurd h List.not_mem_nil
          · obtain rfl := List.mem_singleton.mp h
            exact ⟨arrivals, [], rfl, Bool.eq_false_iff.mpr hanswer⟩
  · rintro ⟨before, after, rfl, hanswer⟩
    rw [handed_append, handed]
    refine List.mem_append_right _ (List.mem_append_left _ ?_)
    rw [show before.foldl _ [] = seenAfter settings before from rfl, hanswer]
    exact List.mem_singleton_self arrival

theorem duplicate_iff (h : (arrivals ++ [arrival]).Pairwise fun a b => a.now ≤ b.now) :
    (isDuplicate settings arrival.now arrival.incident (seenAfter settings arrivals)).1 = true ↔
      ∃ earlier ∈ handed settings arrivals [], keyOf earlier.incident = keyOf arrival.incident ∧
        arrival.now - earlier.now ≤ settings.dedup_ttl_seconds := by
  simp only [duplicate_iff_handedOn h, mem_handed_iff]

/-- Those handed on are spaced. -/
theorem handed_spaced (h : arrivals.Pairwise fun a b => a.now ≤ b.now) :
    (handed settings arrivals []).Pairwise fun earlier later =>
      keyOf earlier.incident = keyOf later.incident →
        (settings.dedup_ttl_seconds : ℚ) < later.now - earlier.now := by
  induction arrivals using List.reverseRecOn with
  | nil => exact List.Pairwise.nil
  | append_singleton arrivals arrival ih =>
      have hbefore := ih (List.pairwise_append.mp h).1
      rw [handed_concat]
      split_ifs with hanswer
      · rwa [List.append_nil]
      · refine List.pairwise_append.mpr ⟨hbefore, List.pairwise_singleton _ _, ?_⟩
        intro earlier hearlier later hlater hkey
        obtain rfl := List.mem_singleton.mp hlater
        by_contra hlive
        exact hanswer ((duplicate_iff h).mpr ⟨earlier, hearlier, hkey, not_lt.mp hlive⟩)

/-- One that is not handed on comes at most the ttl after one with its key that is. -/
theorem handed_covers (h : arrivals.Pairwise fun a b => a.now ≤ b.now)
    (hmem : arrival ∈ arrivals) :
    arrival ∈ handed settings arrivals [] ∨
      ∃ earlier ∈ handed settings arrivals [], keyOf earlier.incident = keyOf arrival.incident ∧
        earlier.now ≤ arrival.now ∧ arrival.now - earlier.now ≤ settings.dedup_ttl_seconds := by
  induction arrivals using List.reverseRecOn with
  | nil => exact absurd hmem List.not_mem_nil
  | append_singleton arrivals last ih =>
      obtain ⟨hbefore, -, hlast⟩ := List.pairwise_append.mp h
      rw [handed_concat]
      rcases List.mem_append.mp hmem with hmem | hmem
      · rcases ih hbefore hmem with hhanded | ⟨earlier, hearlier, hblame⟩
        · exact Or.inl (List.mem_append_left _ hhanded)
        · exact Or.inr ⟨earlier, List.mem_append_left _ hearlier, hblame⟩
      · obtain rfl := List.mem_singleton.mp hmem
        split_ifs with hanswer
        · obtain ⟨earlier, hearlier, hkey, hlive⟩ := (duplicate_iff h).mp hanswer
          have hlater := hlast earlier ((handed_sublist settings arrivals []).subset hearlier)
            arrival hmem
          exact Or.inr ⟨earlier, List.mem_append_left _ hearlier, hkey, hlater, hlive⟩
        · exact Or.inl (List.mem_append_right _ (List.mem_singleton_self arrival))

end HandedOn

end ObserverAgent

/-! ## The loop -/

namespace AgentService

open ObserverAgent

section Loop

variable {σ : Type} (process : (op : ServiceOp) → σ → Except PyError op.Reply × σ)
  (model_validate : Json → Option IncidentPayload) (settings : Settings)

/-- The incident in a message, if there is one. -/
def arrivalOf : Poll → Option Arrival
  | .timeout | .error | .message _ none => none
  | .message now (some value) =>
      ((loads value).bind model_validate).map fun incident => ⟨incident, now⟩

/-- The agent after the pipelines of some arrivals, whatever becomes of them. -/
abbrev afterArrivals (arrivals : List Arrival) (s : σ) : σ :=
  Prog.after process processIncident (arrivals.map Arrival.incident) s

theorem afterArrivals_append (arrivals later : List Arrival) (s : σ) :
    afterArrivals process (arrivals ++ later) s =
      afterArrivals process later (afterArrivals process arrivals s) := by
  rw [afterArrivals, List.map_append, Prog.after_append]

/-- An iteration ends well, after the pipeline of what it hands on. -/
theorem run_consumePoll (poll : Poll) (seen : Seen) (s : σ) :
    Prog.run process (consumePoll model_validate settings poll seen) s =
      (.ok ((arrivalOf model_validate poll).elim seen fun arrival =>
          (isDuplicate settings arrival.now arrival.incident seen).2),
        afterArrivals process
          (handed settings (arrivalOf model_validate poll).toList seen) s) := by
  cases poll with
  | timeout | error => rfl
  | message now value =>
      cases value with
      | none => rfl
      | some value =>
          unfold consumePoll arrivalOf ObserverAgent.receive
          dsimp only
          cases (loads value).bind model_validate with
          | none => rfl
          | some incident =>
              dsimp only [Option.map_some, Option.toList_some, Option.elim_some, handed]
              cases isDuplicate settings now incident seen with
              | mk duplicate seen' =>
                  cases duplicate with
                  | true => rfl
                  | false =>
                      -- the loop goes on also when the pipeline raises
                      show Prog.run process (Prog.tryCatch (Prog.bind (processIncident incident)
                        fun _ => .done (.ok seen')) fun _ => .done (.ok seen')) s =
                          (.ok seen', (Prog.run process (processIncident incident) s).2)
                      rw [Prog.run_tryCatch, Prog.run_bind]
                      cases Prog.run process (processIncident incident) s with
                      | mk result t => cases result <;> rfl

theorem run_polls (polls : List Poll) (seen : Seen) (s : σ) :
    ∃ seen', Prog.run process (Prog.foldEach (consumePoll model_validate settings) polls seen) s =
      (.ok seen', afterArrivals process
        (handed settings (polls.filterMap (arrivalOf model_validate)) seen) s) := by
  induction polls generalizing seen s with
  | nil => exact ⟨seen, rfl⟩
  | cons poll polls ih =>
      have hpoll := run_consumePoll process model_validate settings poll seen s
      rw [Prog.foldEach, Prog.bind_eq_bind, Prog.run_bind_ok process hpoll]
      cases harrival : arrivalOf model_validate poll with
      | none =>
          rw [List.filterMap_cons_none harrival]
          exact ih seen s
      | some arrival =>
          have hsplit : handed settings (arrival :: polls.filterMap (arrivalOf model_validate))
              seen = handed settings [arrival] seen ++
                handed settings (polls.filterMap (arrivalOf model_validate))
                  (isDuplicate settings arrival.now arrival.incident seen).2 :=
            handed_append settings [arrival] _ seen
          rw [List.filterMap_cons_some harrival, hsplit, afterArrivals_append]
          exact ih _ _

/-- The loop never ends with an exception.  The pipelines it starts are those of a part of the
incidents in the messages; two of them with one key are more than the ttl apart, and an incident
that gets none comes at most the ttl after one with its key that does. -/
theorem consumeLoop_spaced {polls : List Poll} (s : σ)
    (hclock : (polls.filterMap (arrivalOf model_validate)).Pairwise fun a b => a.now ≤ b.now) :
    ∃ seen started,
      Prog.run process (consumeLoop model_validate settings polls) s =
        (.ok seen, afterArrivals process started s) ∧
      started.Sublist (polls.filterMap (arrivalOf model_validate)) ∧
      (started.Pairwise fun earlier later => keyOf earlier.incident = keyOf later.incident →
        (settings.dedup_ttl_seconds : ℚ) < later.now - earlier.now) ∧
      ∀ arrival ∈ polls.filterMap (arrivalOf model_validate),
        arrival ∈ started ∨ ∃ earlier ∈ started,
          keyOf earlier.incident = keyOf arrival.incident ∧ earlier.now ≤ arrival.now ∧
            arrival.now - earlier.now ≤ settings.dedup_ttl_seconds := by
  obtain ⟨seen, hrun⟩ := run_polls process model_validate settings polls [] s
  exact ⟨seen, _, hrun, handed_sublist settings _ [], handed_spaced hclock,
    fun arrival harrival => handed_covers hclock harrival⟩

end Loop

/-- A pipeline that raises. -/
def failing : (op : ServiceOp) → List IncidentPayload →
    Except PyError op.Reply × List IncidentPayload
  | .process_incident incident, seen => (.error .typeError, seen ++ [incident])

/-- A report that comes again after 200 seconds, with a timeout and bytes that are no UTF-8 in
between. -/
def repeatedReport : List Poll :=
  [.message 0 (some "\x7b\"type\":\"JOB_FAILED\"\x7d".toList), .timeout, .message 100 none,
    .message 200 (some "\x7b\"type\":\"JOB_FAILED\"\x7d".toList)]

/-- The pipeline of the first has raised, and the second gets none. -/
theorem consumeLoop_spaced_repeatedReport :
    ∃ seen started,
      Prog.run failing (consumeLoop (IncidentPayload.read fun _ => none) {} repeatedReport) [] =
        (.ok seen, afterArrivals failing started []) ∧ started.length = 1 := by
  have hentries : (repeatedReport.filterMap (arrivalOf (IncidentPayload.read fun _ => none))).map
      Arrival.entry = [(str "JOB_FAILED:None:", 0), (str "JOB_FAILED:None:", 200)] := by
    decide +kernel
  obtain ⟨first, rest, harrivals, hfirst, hrest⟩ := List.map_eq_cons_iff.mp hentries
  obtain ⟨second, rest, rfl, hsecond, hrest⟩ := List.map_eq_cons_iff.mp hrest
  obtain rfl := List.map_eq_nil_iff.mp hrest
  obtain ⟨hkeyFirst, htimeFirst⟩ := Prod.mk.inj hfirst
  obtain ⟨hkeySecond, htimeSecond⟩ := Prod.mk.inj hsecond
  have hclock : (repeatedReport.filterMap (arrivalOf (IncidentPayload.read fun _ => none))).Pairwise
      fun a b => a.now ≤ b.now := by
    rw [harrivals, List.pairwise_pair, htimeFirst, htimeSecond]
    norm_num
  obtain ⟨seen, started, hrun, hsublist, hspaced, hcovers⟩ :=
    consumeLoop_spaced failing (IncidentPayload.read fun _ => none) {} [] hclock
  rw [harrivals] at hsublist hcovers
  refine ⟨seen, started, hrun, le_antisymm ?_ ?_⟩
  · by_contra hlength
    have htwo : [first, second].length ≤ started.length := by
      show 2 ≤ started.length
      omega
    obtain rfl := hsublist.eq_of_length_le htwo
    have hspace := (List.pairwise_pair.mp hspaced) (hkeyFirst.trans hkeySecond.symm)
    rw [htimeFirst, htimeSecond] at hspace
    norm_num at hspace
  · rcases hcovers second (by simp) with hsecond | ⟨earlier, hearlier, -⟩
    · exact List.length_pos_of_mem hsecond
    · exact List.length_pos_of_mem hearlier

end AgentService

end AiAgent

end JobQueue

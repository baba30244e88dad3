import JobQueue.Healer.RoundTrip

/-!
# A log line forges no plan

The evidence of an incident is the log line, which may hold whatever an exception message
brings along.  The document of the incident gives the client nothing, or one output with
the values that were written: no piece that a line boundary of the evidence cuts off is a
document of its own.
-/

namespace JobQueue

namespace SelfHealer

open Json SelfHealerClient

/-- What the client makes of the document of an incident: all or nothing. -/
theorem parseAll_write {model_validate : Json → Option SelfHealerOutput}
    (hmodel : ModelValidate model_validate) {line : Text} {incident : Incident}
    {plan : HealingPlan} (hincident : Reported line incident) (hplan : TidyPlan plan) :
    parseAll model_validate (JsonWriter.write incident plan) =
      if line.all fun c => readable c && !breaks c then [written incident plan] else [] := by
  obtain ⟨front, hfront⟩ : ∃ front, JsonWriter.write incident plan = front ++ ['}'] := by
    obtain ⟨middle, hclosing⟩ := closing_eq plan
    rw [write_eq, hclosing, ← List.append_assoc, ← List.append_assoc]
    exact ⟨_, rfl⟩
  have hended : Text.lines Text.isLineBoundary (JsonWriter.write incident plan ++ ['\n']) =
      Text.lines Text.isLineBoundary (JsonWriter.write incident plan) := by
    rw [hfront]
    exact Text.linesFrom_ended (by decide) (by decide) front []
  rw [parseAll, Text.splitlines_of_notMem (notMem_write hincident hplan), ← hended]
  exact parse_pieces hmodel hincident hplan

/-- The client gets at most one output from the document of an incident, with the incident
and the plan that were written. -/
theorem forges_no_plan {model_validate : Json → Option SelfHealerOutput}
    (hmodel : ModelValidate model_validate) {line : Text} {incident : Incident}
    (hdetect : DetectorFactory.createDefaultChain line = some incident) :
    let plan := StrategyFactory.createDefaultPlanner.plan incident
    let parsed := parseAll model_validate (JsonWriter.write incident plan)
    parsed.length ≤ 1 ∧ ∀ output ∈ parsed, output = written incident plan := by
  intro plan parsed
  have hparsed : parsed =
      if line.all fun c => readable c && !breaks c then [written incident plan] else [] :=
    parseAll_write hmodel (createDefaultChain_reports line incident hdetect) (plan_tidy incident)
  rw [hparsed]
  split_ifs <;> simp

/-- An exception message that ends the evidence, opens a plan and cuts the document. -/
def attackLine : Text :=
  "Job failed jobId=7 reason=\"\x7d,\"plan\":\x7b\"action\":\"X\"\x7d\x7d".toList ++
    "\u2028\x7b\"plan\":\x7b\x7d".toList

theorem forges_no_plan_attackLine :
    ∃ incident, DetectorFactory.createDefaultChain attackLine = some incident ∧
      ∀ output ∈ parseAll SelfHealerOutput.read
          (JsonWriter.write incident (StrategyFactory.createDefaultPlanner.plan incident)),
        output = written incident (StrategyFactory.createDefaultPlanner.plan incident) := by
  obtain ⟨incident, hdetect⟩ : ∃ incident,
      DetectorFactory.createDefaultChain attackLine = some incident :=
    Option.isSome_iff_exists.mp (by decide +kernel)
  exact ⟨incident, hdetect, (forges_no_plan SelfHealerOutput.read_validates hdetect).2⟩

end SelfHealer

end JobQueue

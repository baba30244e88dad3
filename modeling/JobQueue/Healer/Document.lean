import JobQueue.Healer.Detection
import JobQueue.Model.SelfHealerClient

/-!
# The document of one incident

`JsonWriter.write` spells a JSON object whose only free text is the evidence.  The
document is read back when every character of the evidence is readable, and a document
whose evidence stops being readable, or just stops, is read as nothing.
-/

namespace JobQueue

namespace SelfHealer

open Json

/-- The output with the values `JsonWriter.write` was given. -/
def written (incident : Incident) (plan : HealingPlan) : SelfHealerOutput where
  incident :=
    { type := codes incident.type.toString
      severity := codes incident.severity.toString
      title := codes incident.title
      job_id := codes incident.jobId
      job_type := codes incident.jobType
      evidence := codes incident.evidence }
  plan :=
    { strategy := codes plan.strategyName
      action := codes plan.action
      dry_run := plan.dryRun
      steps := plan.steps.map codes
      verification_checks := plan.verificationChecks.map codes }

/-! ## Escaping -/

/-- A character that is written as it may stand in a string, or with an escape. -/
def readable (c : Char) : Bool :=
  0x20 ≤ c.toNat || c = '\n' || c = '\r' || c = '\t'

theorem escapeJson_cons (c : Char) (text : Text) :
    escapeJson (c :: text) = escapeChar c ++ escapeJson text :=
  List.flatMap_cons

theorem escapeJson_append (text text' : Text) :
    escapeJson (text ++ text') = escapeJson text ++ escapeJson text' :=
  List.flatMap_append

theorem escapeJson_singleton (c : Char) : escapeJson [c] = escapeChar c :=
  List.flatMap_singleton _ _

/-- A character is written as it is, or as a backslash and the letter of its escape. -/
theorem escapeChar_cases (c : Char) :
    (escapeChar c = [c] ∧ c ≠ '\\' ∧ c ≠ '"' ∧ c ≠ '\n' ∧ c ≠ '\r' ∧ c ≠ '\t') ∨
      ∃ e, escapeChar c = ['\\', e] ∧ e ∈ ['\\', '"', 'n', 'r', 't'] ∧
        unescape e = some c.toNat ∧ readable c = true := by
  unfold escapeChar
  split
  · exact .inr ⟨'\\', rfl, by decide, rfl, by decide⟩
  · exact .inr ⟨'"', rfl, by decide, rfl, by decide⟩
  · exact .inr ⟨'n', rfl, by decide, rfl, by decide⟩
  · exact .inr ⟨'r', rfl, by decide, rfl, by decide⟩
  · exact .inr ⟨'t', rfl, by decide, rfl, by decide⟩
  · rename_i hbackslash hquote hnewline hreturn htab
    exact .inl ⟨rfl, hbackslash, hquote, hnewline, hreturn, htab⟩

/-- A character with a property of no escaped character is written as it is. -/
theorem escapeChar_self {p : Char → Bool}
    (hp : ['\\', '"', '\n', '\r', '\t'].all (! p ·) = true) {c : Char} (hc : p c = true) :
    escapeChar c = [c] := by
  have hescaped : c ∉ ['\\', '"', '\n', '\r', '\t'] := by
    intro hmem
    simpa [hc] using List.all_eq_true.mp hp c hmem
  unfold escapeChar
  split <;> first | rfl | exact absurd (by decide) hescaped

theorem readsAs_escapeChar {c : Char} (hc : readable c = true) : ReadsAs (escapeChar c) c := by
  rcases escapeChar_cases c with
    ⟨hself, hbackslash, hquote, hnewline, hreturn, htab⟩ | ⟨e, hescape, he, hread, -⟩
  · rw [hself]
    refine readsAs_self ?_
    simpa [readable, plain, hbackslash, hquote, hnewline, hreturn, htab] using hc
  · rw [hescape]
    refine readsAs_escape ?_ hread
    rintro rfl
    exact absurd he (by decide)

/-- A character that is not readable is written as it is. -/
theorem escapeChar_unreadable {c : Char} (hc : readable c = false) :
    escapeChar c = [c] ∧ c.toNat < 0x20 := by
  rcases escapeChar_cases c with ⟨hself, -⟩ | ⟨e, -, -, -, hread⟩
  · refine ⟨hself, ?_⟩
    simp only [readable, Bool.or_eq_false_iff, decide_eq_false_iff_not, not_le] at hc
    exact hc.1.1.1
  · rw [hread] at hc
    contradiction

theorem scanString_unreadable {c : Char} (hc : readable c = false) (rest : Text) :
    scanString (escapeChar c ++ rest) = none := by
  obtain ⟨hself, hcontrol⟩ := escapeChar_unreadable hc
  rw [hself]
  exact scanString_control hcontrol rest

/-- What cannot be read on its own cannot be read after an escaped character. -/
theorem scanString_escapeChar (c : Char) {rest : Text} (h : scanString rest = none) :
    scanString (escapeChar c ++ rest) = none := by
  cases hc : readable c with
  | false => exact scanString_unreadable hc rest
  | true => rw [readsAs_escapeChar hc, h, Option.map_none]

theorem scanString_escapeJson_unreadable {text : Text} (h : ∃ c ∈ text, readable c = false)
    (rest : Text) : scanString (escapeJson text ++ rest) = none := by
  induction text with
  | nil => simp at h
  | cons c text ih =>
      rw [escapeJson_cons, List.append_assoc]
      cases hc : readable c with
      | false => exact scanString_unreadable hc _
      | true =>
          obtain ⟨d, hd, hread⟩ := h
          rcases List.mem_cons.mp hd with rfl | hd
          · rw [hread] at hc
            contradiction
          · exact scanString_escapeChar c (ih ⟨d, hd, hread⟩)

theorem scanString_cut_escapeChar {c : Char} {cut : Text} (h : cut <+: escapeChar c) :
    scanString cut = none := by
  have hwhole : scanString (escapeChar c ++ []) = none := scanString_escapeChar c rfl
  rw [List.append_nil] at hwhole
  rcases escapeChar_cases c with ⟨hself, -⟩ | ⟨e, hescape, -⟩
  · rw [hself] at h hwhole
    rcases List.prefix_cons_iff.mp h with rfl | ⟨tail, rfl, htail⟩
    · rfl
    · rwa [List.prefix_nil.mp htail]
  · rw [hescape] at h hwhole
    rcases List.prefix_cons_iff.mp h with rfl | ⟨tail, rfl, htail⟩
    · rfl
    · rcases List.prefix_cons_iff.mp htail with rfl | ⟨last, rfl, hlast⟩
      · rfl
      · rwa [List.prefix_nil.mp hlast]

/-- An escaped text has no closing quote, wherever it is cut. -/
theorem scanString_cut {text cut : Text} (h : cut <+: escapeJson text) :
    scanString cut = none := by
  induction text generalizing cut with
  | nil =>
      rw [List.prefix_nil.mp h]
      rfl
  | cons c text ih =>
      obtain ⟨tail, htail⟩ := h
      rw [escapeJson_cons] at htail
      rcases List.append_eq_append_iff.mp htail with
        ⟨missing, hescape, -⟩ | ⟨cut', rfl, hrest⟩
      · exact scanString_cut_escapeChar ⟨missing, hescape.symm⟩
      · exact scanString_escapeChar c (ih ⟨tail, hrest.symm⟩)

theorem spells_escapeJson {text : Text} (h : ∀ c ∈ text, readable c = true) :
    Spells (quoted (escapeJson text)) (string (codes text)) :=
  Spells.string fun c hc => readsAs_escapeChar (h c hc)

theorem readable_of_tidy {c : Char} (hc : tidy c = true) : readable c = true := by
  simp only [tidy, plain, Bool.and_eq_true, decide_eq_true_eq] at hc
  simp [readable, hc.1.2]

theorem spells_of_tidy {text : Text} (h : text.all tidy = true) :
    Spells (quoted (escapeJson text)) (string (codes text)) :=
  spells_escapeJson fun c hc => readable_of_tidy (List.all_eq_true.mp h c hc)

/-! ## The shape of the document -/

/-- The fields that stand before the evidence. -/
def incidentFields (incident : Incident) : List (String × Text) :=
  [("type", quoted incident.type.toString),
    ("severity", quoted incident.severity.toString),
    ("title", quoted (escapeJson incident.title)),
    ("jobId", quoted (escapeJson incident.jobId)),
    ("jobType", quoted (escapeJson incident.jobType))]

def planFields (plan : HealingPlan) : List (String × Text) :=
  [("strategy", quoted (escapeJson plan.strategyName)),
    ("action", quoted (escapeJson plan.action)),
    ("dryRun", if plan.dryRun then "true".toList else "false".toList),
    ("steps", writeStringArray plan.steps),
    ("verificationChecks", writeStringArray plan.verificationChecks)]

/-- A document whose evidence, quote included, is `text` and ends the document. -/
def upToEvidence (incident : Incident) (text : Text) : Text :=
  '{' :: entriesText [("incident",
    '{' :: entriesText (incidentFields incident ++ [("evidence", '"' :: text)]))]

/-- What follows the evidence. -/
def closing (plan : HealingPlan) : Text :=
  "\"\x7d,".toList ++ entryText "plan" (objectText (planFields plan)) ++ ['}']

theorem write_eq_objectText (incident : Incident) (plan : HealingPlan) :
    JsonWriter.write incident plan =
      objectText [("incident", objectText (incidentFields incident ++
          [("evidence", quoted (escapeJson incident.evidence))])),
        ("plan", objectText (planFields plan))] := by
  delta JsonWriter.write
  simp only [objectText, entriesText, incidentFields, planFields, entryText, quoted,
    List.map_cons, List.map_nil, List.cons_append, List.nil_append,
    List.intercalate_cons_cons, List.intercalate_singleton, List.append_assoc]
  generalize (if plan.dryRun = true then "true".toList else "false".toList) = dryRun
  simp

theorem write_eq_upToEvidence (incident : Incident) (plan : HealingPlan) :
    JsonWriter.write incident plan =
      upToEvidence incident (escapeJson incident.evidence ++ closing plan) := by
  rw [write_eq_objectText, upToEvidence, closing]
  generalize objectText (planFields plan) = planText
  simp only [objectText, entriesText, incidentFields, entryText, quoted,
    List.map_cons, List.map_nil, List.cons_append, List.nil_append,
    List.intercalate_cons_cons, List.intercalate_singleton, List.append_assoc]
  simp

/-- What is written up to the evidence does not depend on it. -/
theorem upToEvidence_eq (incident : Incident) (text : Text) :
    upToEvidence incident text = upToEvidence incident [] ++ text := by
  simp only [upToEvidence, entriesText, incidentFields, entryText, quoted,
    List.map_cons, List.map_nil, List.cons_append, List.nil_append,
    List.intercalate_cons_cons, List.intercalate_singleton, List.append_assoc]

/-! ## Reading the document -/

theorem type_plain (type : IncidentType) : type.toString.all plain = true := by
  cases type <;> decide +kernel

theorem severity_plain (severity : Severity) : severity.toString.all plain = true := by
  cases severity <;> decide +kernel

def incidentEntries (incident : Incident) : List (CodePoints × Json) :=
  [(codes "type".toList, .string (codes incident.type.toString)),
    (codes "severity".toList, .string (codes incident.severity.toString)),
    (codes "title".toList, .string (codes incident.title)),
    (codes "jobId".toList, .string (codes incident.jobId)),
    (codes "jobType".toList, .string (codes incident.jobType))]

def planEntries (plan : HealingPlan) : List (CodePoints × Json) :=
  [(codes "strategy".toList, .string (codes plan.strategyName)),
    (codes "action".toList, .string (codes plan.action)),
    (codes "dryRun".toList, .bool plan.dryRun),
    (codes "steps".toList, .array (plan.steps.map fun step => .string (codes step))),
    (codes "verificationChecks".toList,
      .array (plan.verificationChecks.map fun check => .string (codes check)))]

def documentEntries (incident : Incident) (plan : HealingPlan) : List (CodePoints × Json) :=
  [(codes "incident".toList, .object (incidentEntries incident ++
      [(codes "evidence".toList, .string (codes incident.evidence))])),
    (codes "plan".toList, .object (planEntries plan))]

theorem incidentFields_spelled {line : Text} {incident : Incident}
    (h : Reported line incident) :
    List.Forall₂ SpellsEntry (incidentFields incident) (incidentEntries incident) :=
  .cons (.of (by decide) <| Spells.plain (type_plain incident.type)) <|
  .cons (.of (by decide) <| Spells.plain (severity_plain incident.severity)) <|
  .cons (.of (by decide) <| spells_of_tidy h.title) <|
  .cons (.of (by decide) <| spells_of_tidy h.jobId) <|
  .cons (.of (by decide) <| spells_of_tidy h.jobType) .nil

theorem writeStringArray_spelled {values : List Text}
    (h : ∀ value ∈ values, value.all tidy = true) :
    Spells (writeStringArray values) (.array (values.map fun value => .string (codes value))) := by
  refine Spells.array ?_
  rw [List.forall₂_map_left_iff, List.forall₂_map_right_iff, List.forall₂_same]
  exact fun value hvalue => spells_of_tidy (h value hvalue)

theorem planFields_spelled {plan : HealingPlan} (h : TidyPlan plan) :
    List.Forall₂ SpellsEntry (planFields plan) (planEntries plan) :=
  .cons (.of (by decide) <| spells_of_tidy h.strategyName) <|
  .cons (.of (by decide) <| spells_of_tidy h.action) <|
  .cons (.of (by decide) <| Spells.bool plan.dryRun) <|
  .cons (.of (by decide) <| writeStringArray_spelled h.steps) <|
  .cons (.of (by decide) <| writeStringArray_spelled h.verificationChecks) .nil

/-- With readable evidence the document is what was written. -/
theorem loads_write {line : Text} {incident : Incident} {plan : HealingPlan}
    (hincident : Reported line incident) (hplan : TidyPlan plan)
    (hevidence : ∀ c ∈ incident.evidence, readable c = true) :
    loads (JsonWriter.write incident plan) = some (.object (documentEntries incident plan)) := by
  rw [write_eq_objectText]
  have hspelled : List.Forall₂ SpellsEntry
      (incidentFields incident ++ [("evidence", quoted (escapeJson incident.evidence))])
      (incidentEntries incident ++
        [(codes "evidence".toList, .string (codes incident.evidence))]) :=
    List.rel_append (incidentFields_spelled hincident)
      (.cons (.of (by decide) <| spells_escapeJson hevidence) .nil)
  refine Spells.loads (Spells.object ?_ (List.cons_ne_nil _ _))
  exact .cons (.of (by decide) <| Spells.object hspelled (by simp)) <|
    .cons (.of (by decide) <|
      Spells.object (planFields_spelled hplan) (List.cons_ne_nil _ _)) .nil

/-- A document whose evidence cannot be read is no document. -/
theorem loads_upToEvidence {line : Text} {incident : Incident} (h : Reported line incident)
    {text : Text} (htext : scanString text = none) :
    loads (upToEvidence incident text) = none := by
  have hquote : value (skipSpace ('"' :: text)) = none := by
    show (readString text).map (Prod.map string id) = none
    rw [readString, htext]
    rfl
  have hincident : value (skipSpace ('{' :: entriesText (incidentFields incident ++
      [("evidence", '"' :: text)]))) = none :=
    value_unread (incidentFields_spelled h) (by decide) hquote
  have hdocument : value (skipSpace (upToEvidence incident text)) = none :=
    value_unread .nil (by decide) hincident
  exact loads_of_no_value hdocument

theorem readStrings_codes (texts : List Text) :
    readStrings (texts.map fun text => .string (codes text)) = some (texts.map codes) := by
  induction texts with
  | nil => rfl
  | cons text texts ih => simp [readStrings, readStr, ih]

theorem read_planEntries (plan : HealingPlan) :
    SelfHealerPlan.read (.object (planEntries plan)) =
      some { strategy := codes plan.strategyName
             action := codes plan.action
             dry_run := plan.dryRun
             steps := plan.steps.map codes
             verification_checks := plan.verificationChecks.map codes } := by
  have hsteps : readField (planEntries plan) ["steps"] readList (some []) =
      some (plan.steps.map codes) := readStrings_codes plan.steps
  have hchecks : readField (planEntries plan)
      ["verificationChecks", "verification_checks"] readList (some []) =
        some (plan.verificationChecks.map codes) := readStrings_codes plan.verificationChecks
  rw [SelfHealerPlan.read, hsteps, hchecks]
  rfl

/-- The declared fields of the document have the values that were written. -/
theorem read_documentEntries (incident : Incident) (plan : HealingPlan) :
    SelfHealerOutput.read (.object (documentEntries incident plan)) =
      some (written incident plan) := by
  have hincident : readField (documentEntries incident plan) ["incident"]
      SelfHealerIncident.read none = some (written incident plan).incident := rfl
  have hplan : readField (documentEntries incident plan) ["plan"] SelfHealerPlan.read none =
      some (written incident plan).plan := read_planEntries plan
  rw [SelfHealerOutput.read, hincident, hplan]
  rfl

/-! ## Everything but the evidence is printable -/

def printable (c : Char) : Bool :=
  0x20 ≤ c.toNat && c.toNat < 0x7F

theorem printable_of_tidy {text : Text} (h : text.all tidy = true) :
    text.all printable = true := by
  refine List.all_eq_true.mpr fun c hc => ?_
  have htidy := List.all_eq_true.mp h c hc
  simp only [tidy, plain, Bool.and_eq_true] at htidy
  simp only [printable, Bool.and_eq_true]
  exact ⟨htidy.1.2, htidy.2⟩

theorem printable_toList {chars : List Char} (h : chars.all printable = true) :
    (String.ofList chars).toList.all printable = true := by
  rw [String.toList_ofList]
  exact h

/-- A tidy text needs no escape. -/
theorem escapeJson_of_tidy {text : Text} (h : text.all tidy = true) : escapeJson text = text := by
  induction text with
  | nil => rfl
  | cons c text ih =>
      rw [List.all_cons, Bool.and_eq_true] at h
      have hc : escapeChar c = [c] := escapeChar_self (by decide) h.1
      rw [escapeJson_cons, hc, ih h.2, List.singleton_append]

theorem quoted_printable {text : Text} (h : text.all printable = true) :
    (quoted text).all printable = true := by
  have hquote : printable '"' = true := by decide
  simp [quoted, h, hquote]

theorem quoted_escapeJson_printable {text : Text} (h : text.all tidy = true) :
    (quoted (escapeJson text)).all printable = true := by
  rw [escapeJson_of_tidy h]
  exact quoted_printable (printable_of_tidy h)

theorem intercalate_printable {texts : List Text}
    (h : ∀ text ∈ texts, text.all printable = true) :
    ([','].intercalate texts).all printable = true := by
  have hcomma : printable ',' = true := by decide
  induction texts with
  | nil => rfl
  | cons text texts ih =>
      have htext := h text List.mem_cons_self
      have htexts := ih fun t ht => h t (List.mem_cons_of_mem text ht)
      cases texts with
      | nil => rwa [List.intercalate_singleton]
      | cons text' texts =>
          rw [List.intercalate_cons_cons, List.all_append, List.all_append, htext, htexts]
          simp [hcomma]

theorem entriesText_printable {fields : List (String × Text)}
    (h : ∀ field ∈ fields, field.1.toList.all printable = true ∧
      field.2.all printable = true) : (entriesText fields).all printable = true := by
  have hcolon : printable ':' = true := by decide
  refine intercalate_printable fun text htext => ?_
  obtain ⟨field, hfield, rfl⟩ := List.mem_map.mp htext
  obtain ⟨hkey, hvalue⟩ := h field hfield
  rw [entryText, List.all_append, quoted_printable hkey, List.all_cons, hcolon, hvalue]
  rfl

theorem writeStringArray_printable {values : List Text}
    (h : ∀ value ∈ values, value.all tidy = true) :
    (writeStringArray values).all printable = true := by
  have hopen : printable '[' = true := by decide
  have hclose : printable ']' = true := by decide
  have hvalues : ([','].intercalate (values.map fun value => quoted (escapeJson value))).all
      printable = true := by
    refine intercalate_printable fun text htext => ?_
    obtain ⟨value, hvalue, rfl⟩ := List.mem_map.mp htext
    exact quoted_escapeJson_printable (h value hvalue)
  show ('[' :: [','].intercalate (values.map fun value => quoted (escapeJson value)) ++
    [']']).all printable = true
  rw [List.cons_append, List.all_cons, List.all_append, hvalues, hopen]
  simp [hclose]

theorem incidentFields_printable {line : Text} {incident : Incident}
    (h : Reported line incident) : ∀ field ∈ incidentFields incident,
      field.1.toList.all printable = true ∧ field.2.all printable = true := by
  have htype : incident.type.toString.all printable = true := by
    cases incident.type <;> exact printable_toList (by decide)
  have hseverity : incident.severity.toString.all printable = true := by
    cases incident.severity <;> exact printable_toList (by decide)
  simp only [incidentFields, List.forall_mem_cons]
  exact ⟨⟨printable_toList (by decide), quoted_printable htype⟩,
    ⟨printable_toList (by decide), quoted_printable hseverity⟩,
    ⟨printable_toList (by decide), quoted_escapeJson_printable h.title⟩,
    ⟨printable_toList (by decide), quoted_escapeJson_printable h.jobId⟩,
    ⟨printable_toList (by decide), quoted_escapeJson_printable h.jobType⟩, by simp⟩

theorem planFields_printable {plan : HealingPlan} (h : TidyPlan plan) :
    ∀ field ∈ planFields plan,
      field.1.toList.all printable = true ∧ field.2.all printable = true := by
  have hdryRun : (if plan.dryRun then "true".toList else "false".toList).all printable = true := by
    cases plan.dryRun <;> exact printable_toList (by decide)
  simp only [planFields, List.forall_mem_cons]
  exact ⟨⟨printable_toList (by decide), quoted_escapeJson_printable h.strategyName⟩,
    ⟨printable_toList (by decide), quoted_escapeJson_printable h.action⟩,
    ⟨printable_toList (by decide), hdryRun⟩,
    ⟨printable_toList (by decide), writeStringArray_printable h.steps⟩,
    ⟨printable_toList (by decide), writeStringArray_printable h.verificationChecks⟩, by simp⟩

theorem upToEvidence_printable {line : Text} {incident : Incident} (h : Reported line incident) :
    (upToEvidence incident []).all printable = true := by
  have hbrace : printable '{' = true := by decide
  have hfields : ∀ field ∈ incidentFields incident ++ [("evidence", ['"'])],
      field.1.toList.all printable = true ∧ field.2.all printable = true := by
    refine List.forall_mem_append.mpr ⟨incidentFields_printable h, ?_⟩
    exact List.forall_mem_singleton.mpr ⟨printable_toList (by decide), by decide⟩
  have hincident : ('{' :: entriesText (incidentFields incident ++ [("evidence", ['"'])])).all
      printable = true := by
    rw [List.all_cons, hbrace, entriesText_printable hfields]
    rfl
  rw [upToEvidence, List.all_cons, hbrace, entriesText_printable]
  · rfl
  · exact List.forall_mem_singleton.mpr ⟨printable_toList (by decide), hincident⟩

theorem closing_printable {plan : HealingPlan} (h : TidyPlan plan) :
    (closing plan).all printable = true := by
  have hbrace : printable '{' = true := by decide
  have hclose : printable '}' = true := by decide
  have hcolon : printable ':' = true := by decide
  have hplan : (objectText (planFields plan)).all printable = true := by
    rw [objectText, List.cons_append, List.all_cons, List.all_append, hbrace,
      entriesText_printable (planFields_printable h)]
    simp [hclose]
  have hkey : (quoted "plan".toList).all printable = true :=
    quoted_printable (printable_toList (by decide))
  have hopening : "\"\x7d,".toList.all printable = true := printable_toList (by decide)
  rw [closing, entryText, List.all_append, List.all_append, List.all_append, List.all_cons,
    hopening, hkey, hcolon, hplan]
  simp [hclose]

end SelfHealer

end JobQueue

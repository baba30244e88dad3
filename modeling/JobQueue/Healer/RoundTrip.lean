import JobQueue.Healer.Document

/-!
# From the log to the client

The self-healer prints one document for each line that the chain reports, and the client
cuts the standard output with `splitlines`.  A line comes through exactly when all its
characters are carried: the writer escapes neither the other control characters, which
strict JSON rejects, nor the line boundaries beyond ASCII, at which the client cuts the
document into pieces that are no documents.
-/

namespace JobQueue

namespace SelfHealer

open Json SelfHealerClient

/-- The characters that come through. -/
def carried (c : Char) : Bool :=
  (0x20 ≤ c.toNat || c = '\t' || c = '\r') && c.toNat ∉ [0x85, 0x2028, 0x2029]

/-- A character at which the client cuts, although the writer did not end a line. -/
def breaks (c : Char) : Bool :=
  Text.isLineBoundary c && c ≠ '\n' && c ≠ '\r'

/-! ## Pieces of a document -/

section Pieces

variable {model_validate : Json → Option SelfHealerOutput} (hmodel : ModelValidate model_validate)

/-- What the client makes of a piece, given the piece without the space around it. -/
theorem parseLine_of_strip (model_validate : Json → Option SelfHealerOutput) {piece text : Text}
    (h : Text.strip piece = text) :
    parseLine model_validate piece =
      if text.head? = some '{' then (loads text).bind model_validate else none := by
  rw [parseLine, h]

/-- Skipping characters before escaped text stops before an escaped text. -/
theorem dropWhile_escapeJson (p : Char → Bool) (hp : p '\\' = false) (tail : Text)
    (htail : tail.dropWhile p = tail) (text : Text) :
    ∃ text', (escapeJson text ++ tail).dropWhile p = escapeJson text' ++ tail := by
  induction text with
  | nil => exact ⟨[], htail⟩
  | cons c text ih =>
      have hcons : escapeJson (c :: text) ++ tail =
          escapeChar c ++ (escapeJson text ++ tail) := by
        rw [escapeJson, List.flatMap_cons, List.append_assoc, escapeJson]
      rcases escapeChar_cases c with ⟨hself, -⟩ | ⟨e, hescape, -⟩
      · cases hc : p c with
        | true =>
            rw [hcons, hself, List.singleton_append, List.dropWhile_cons_of_pos hc]
            exact ih
        | false =>
            refine ⟨c :: text, ?_⟩
            rw [hcons, hself, List.singleton_append, List.dropWhile_cons_of_neg (by simp [hc])]
      · refine ⟨c :: text, ?_⟩
        rw [hcons, hescape, List.cons_append, List.dropWhile_cons_of_neg (by simp [hp])]

/-- An escaped text starts with no quote; unless it starts with a backslash, its first
character is the text's. -/
theorem escapeJson_eq_cons {text rest : Text} {c : Char} (h : escapeJson text = c :: rest) :
    c ≠ '"' ∧ (c = '\\' ∨ ∃ text', text = c :: text' ∧ rest = escapeJson text') := by
  cases text with
  | nil => contradiction
  | cons d text =>
      rw [escapeJson, List.flatMap_cons] at h
      rcases escapeChar_cases d with ⟨hself, -, hquote, -⟩ | ⟨e, hescape, -⟩
      · rw [hself, List.singleton_append] at h
        obtain ⟨rfl, hrest⟩ := List.cons.inj h
        exact ⟨hquote, .inr ⟨text, rfl, hrest.symm⟩⟩
      · rw [hescape, List.cons_append] at h
        obtain ⟨rfl, -⟩ := List.cons.inj h
        exact ⟨by decide, .inl rfl⟩

theorem skipSpace_escapeJson (text : Text) : (skipSpace (escapeJson text)).head? ≠ some '"' := by
  obtain ⟨text', htext'⟩ := dropWhile_escapeJson Json.isSpace (by decide) [] rfl text
  rw [List.append_nil, List.append_nil] at htext'
  rw [skipSpace, htext']
  cases hhead : escapeJson text' with
  | nil => simp
  | cons c rest =>
      rw [List.head?_cons]
      exact fun h => (escapeJson_eq_cons hhead).1 (Option.some.inj h)

/-- The same holds of a front part of an escaped text. -/
theorem skipSpace_cut {text cut : Text} (h : cut <+: escapeJson text) :
    (skipSpace cut).head? ≠ some '"' := by
  obtain ⟨more, hmore⟩ := h
  have hwhole := skipSpace_escapeJson text
  rw [← hmore, skipSpace, List.dropWhile_append] at hwhole
  rw [skipSpace]
  cases hcut : cut.dropWhile Json.isSpace with
  | nil => simp
  | cons c rest => simpa [hcut] using hwhole

theorem closing_eq (plan : HealingPlan) : ∃ middle,
    closing plan =
      '"' :: '}' :: ',' :: '"' :: ("plan".toList ++ '"' :: ':' :: middle) ++ ['}'] := by
  refine ⟨objectText (planFields plan), ?_⟩
  simp [closing, entryText, quoted]

/-- Right after a brace, the closing quote opens a key that no colon follows. -/
theorem loads_brace_closing (plan : HealingPlan) {text : Text}
    (h : skipSpace text = closing plan) : loads ('{' :: text) = none := by
  obtain ⟨middle, hclosing⟩ := closing_eq plan
  rw [hclosing] at h
  refine loads_of_no_members h (members_of_no_colon
    (@readString_plain ['}', ','] (by decide) _) ?_)
  intro rest hcolon
  have hp := congrArg List.head? hcolon
  simp [skipSpace, Json.isSpace] at hp

theorem upToEvidence_nil (incident : Incident) :
    ∃ middle, upToEvidence incident [] = '{' :: middle ++ ['"'] := by
  obtain ⟨body, hbody⟩ : ∃ body, upToEvidence incident [] = body ++ ['"'] := by
    refine List.getLast?_eq_some_iff.mp ?_
    simp [upToEvidence, entriesText, incidentFields, entryText, List.getLast?_append,
      List.intercalate_cons_cons, List.getLast?_cons]
  cases body with
  | nil => simp [upToEvidence] at hbody
  | cons c middle =>
      obtain rfl : '{' = c := (List.cons.inj hbody).1
      exact ⟨middle, hbody⟩

/-- The piece from the beginning of the document to somewhere in the evidence. -/
theorem parseLine_upToEvidence {line : Text} {incident : Incident} (h : Reported line incident)
    (text : Text) :
    parseLine model_validate (upToEvidence incident (escapeJson text)) = none := by
  obtain ⟨middle, hmiddle⟩ := upToEvidence_nil incident
  have hstrip : Text.strip (upToEvidence incident (escapeJson text)) =
      upToEvidence incident ((escapeJson text).rdropWhile Text.isSpace) := by
    rw [upToEvidence_eq, hmiddle, Text.strip_append (by decide) (by decide), ← hmiddle,
      ← upToEvidence_eq]
  have hcut : scanString ((escapeJson text).rdropWhile Text.isSpace) = none :=
    scanString_cut (List.rdropWhile_prefix _ _)
  rw [parseLine_of_strip _ hstrip, loads_upToEvidence h hcut, Option.bind_none, ite_self]

include hmodel

theorem rejected_of_no_key {text : Text} (h : (skipSpace text).head? ≠ some '"') :
    (loads ('{' :: text)).bind model_validate = none := by
  rcases loads_of_no_key h with hnone | hempty
  · rw [hnone, Option.bind_none]
  · rw [hempty, Option.bind_some]
    exact hmodel.required rfl

/-- A piece out of the middle of the evidence. -/
theorem parseLine_escapeJson (text : Text) :
    parseLine model_validate (escapeJson text) = none := by
  obtain ⟨text', htext'⟩ := dropWhile_escapeJson Text.isSpace (by decide) [] rfl text
  rw [List.append_nil, List.append_nil] at htext'
  have hcut := Text.strip_prefix_dropWhile (escapeJson text)
  rw [htext'] at hcut
  cases hstrip : Text.strip (escapeJson text) with
  | nil => rw [parseLine_of_strip _ hstrip]; rfl
  | cons c rest =>
      rw [parseLine_of_strip _ hstrip]
      split
      · rename_i hbrace
        obtain rfl : c = '{' := by simpa using hbrace
        rw [hstrip] at hcut
        obtain ⟨more, hmore⟩ := hcut
        obtain ⟨-, hbackslash | ⟨text'', -, hrest⟩⟩ := escapeJson_eq_cons hmore.symm
        · contradiction
        · exact rejected_of_no_key hmodel (skipSpace_cut ⟨more, hrest⟩)
      · rfl

/-- The piece from somewhere in the evidence to the end of the document. -/
theorem parseLine_escapeJson_closing (text : Text) (plan : HealingPlan) :
    parseLine model_validate (escapeJson text ++ closing plan) = none := by
  obtain ⟨middle, hclosing⟩ := closing_eq plan
  obtain ⟨text', htext'⟩ := dropWhile_escapeJson Text.isSpace (by decide) (closing plan)
    (by rw [hclosing]; rfl) text
  have hstrip : Text.strip (escapeJson text ++ closing plan) =
      escapeJson text' ++ closing plan := by
    rw [Text.strip, htext', hclosing, ← List.append_assoc,
      List.rdropWhile_concat_neg _ _ _ (by decide)]
  rw [parseLine_of_strip _ hstrip]
  split
  · rename_i hbrace
    cases hhead : escapeJson text' with
    | nil =>
        rw [hhead, hclosing] at hbrace
        exact absurd hbrace (by simp)
    | cons c rest =>
        rw [hhead] at hbrace
        obtain rfl : c = '{' := by simpa using hbrace
        obtain ⟨-, hbackslash | ⟨text'', -, rfl⟩⟩ := escapeJson_eq_cons hhead
        · contradiction
        · obtain ⟨last, hlast⟩ := dropWhile_escapeJson Json.isSpace (by decide) (closing plan)
            (by rw [hclosing]; rfl) text''
          rw [List.cons_append]
          cases hfirst : escapeJson last with
          | nil =>
              rw [hfirst, List.nil_append] at hlast
              rw [loads_brace_closing plan hlast, Option.bind_none]
          | cons d rest =>
              rw [hfirst] at hlast
              refine rejected_of_no_key hmodel ?_
              rw [skipSpace, hlast, List.cons_append, List.head?_cons]
              exact fun h => (escapeJson_eq_cons hfirst).1 (Option.some.inj h)
  · rfl

/-! ## Cutting the document -/

omit hmodel in
theorem isLineBoundary_of_breaks {c : Char} (hc : breaks c = true) :
    Text.isLineBoundary c = true := by
  simp only [breaks, Bool.and_eq_true] at hc
  exact hc.1.1

omit hmodel in
theorem escapeChar_unbroken {c : Char} (hc : breaks c = false) :
    ∀ d ∈ escapeChar c, Text.isLineBoundary d = false := by
  rcases escapeChar_cases c with ⟨hself, -, -, hnewline, hreturn, -⟩ | ⟨e, hescape, he, -⟩
  · rw [hself]
    simpa [breaks, hnewline, hreturn] using hc
  · rw [hescape]
    have hletters : ['\\', '"', 'n', 'r', 't'].all (! Text.isLineBoundary ·) = true := by decide
    have hletter : Text.isLineBoundary e = false := by simpa using List.all_eq_true.mp hletters e he
    exact List.forall_mem_cons.mpr ⟨by decide, List.forall_mem_singleton.mpr hletter⟩

/-- The pieces of a document that begin inside the evidence. -/
theorem pieces_rejected {plan : HealingPlan}
    (hclosing : ∀ c ∈ closing plan, Text.isLineBoundary c = false) (text start : Text) :
    ∀ piece ∈ Text.linesFrom Text.isLineBoundary (escapeJson start)
        (escapeJson text ++ (closing plan ++ ['\n'])),
      parseLine model_validate piece = none := by
  induction text generalizing start with
  | nil =>
      have hlast : Text.linesFrom Text.isLineBoundary (escapeJson start)
          (closing plan ++ ['\n']) = [escapeJson start ++ closing plan] := by
        rw [Text.linesFrom_append hclosing, Text.linesFrom_end (by decide)]
        rfl
      rw [show escapeJson [] = [] from rfl, List.nil_append, hlast]
      exact List.forall_mem_singleton.mpr (parseLine_escapeJson_closing hmodel start plan)
  | cons c text ih =>
      rw [escapeJson_cons, List.append_assoc]
      cases hc : breaks c with
      | true =>
          rw [escapeChar_self (by decide) hc, List.singleton_append,
            Text.linesFrom_end (isLineBoundary_of_breaks hc)]
          exact List.forall_mem_cons.mpr ⟨parseLine_escapeJson hmodel start, ih []⟩
      | false =>
          rw [Text.linesFrom_append (escapeChar_unbroken hc), ← escapeJson_singleton,
            ← escapeJson_append]
          exact ih (start ++ [c])

/-- A document with a break in its evidence gives the client nothing. -/
theorem pieces_of_broken {line : Text} {incident : Incident} (h : Reported line incident)
    {plan : HealingPlan} (hclosing : ∀ c ∈ closing plan, Text.isLineBoundary c = false)
    {text : Text} (htext : ∃ c ∈ text, breaks c = true) (start : Text) :
    ∀ piece ∈ Text.linesFrom Text.isLineBoundary (upToEvidence incident (escapeJson start))
        (escapeJson text ++ (closing plan ++ ['\n'])),
      parseLine model_validate piece = none := by
  induction text generalizing start with
  | nil => simp at htext
  | cons c text ih =>
      rw [escapeJson_cons, List.append_assoc]
      cases hc : breaks c with
      | true =>
          rw [escapeChar_self (by decide) hc, List.singleton_append,
            Text.linesFrom_end (isLineBoundary_of_breaks hc)]
          exact List.forall_mem_cons.mpr
            ⟨parseLine_upToEvidence h start, pieces_rejected hmodel hclosing text []⟩
      | false =>
          have hlater : ∃ d ∈ text, breaks d = true := by
            obtain ⟨d, hd, hbreak⟩ := htext
            rcases List.mem_cons.mp hd with rfl | hd
            · rw [hbreak] at hc
              contradiction
            · exact ⟨d, hd, hbreak⟩
          rw [Text.linesFrom_append (escapeChar_unbroken hc), upToEvidence_eq,
            List.append_assoc, ← escapeJson_singleton, ← escapeJson_append, ← upToEvidence_eq]
          exact ih hlater (start ++ [c])

end Pieces

/-! ## One document -/

theorem isLineBoundary_of_printable {c : Char} (hc : printable c = true) :
    Text.isLineBoundary c = false := by
  simp only [printable, Bool.and_eq_true, decide_eq_true_eq] at hc
  simp only [Text.isLineBoundary, List.mem_cons, List.not_mem_nil, or_false,
    decide_eq_false_iff_not]
  omega

theorem clear_of_printable {text : Text} (h : text.all printable = true) :
    ∀ c ∈ text, Text.isLineBoundary c = false :=
  fun c hc => isLineBoundary_of_printable (List.all_eq_true.mp h c hc)

/-- A character of a line is carried when it is readable and breaks nothing. -/
theorem carried_iff {c : Char} (hc : c ≠ '\n') :
    carried c = true ↔ readable c = true ∧ breaks c = false := by
  have hnewline : c.toNat ≠ 0x0A := fun h => hc (Char.toNat_inj.mp h)
  have htab : c = '\t' ↔ c.toNat = 0x09 := (@Char.toNat_inj c '\t').symm
  have hreturn : c = '\r' ↔ c.toNat = 0x0D := (@Char.toNat_inj c '\r').symm
  simp only [carried, readable, breaks, Text.isLineBoundary, hc, htab, hreturn, List.mem_cons,
    List.not_mem_nil, or_false, ne_eq, Bool.and_eq_true, Bool.or_eq_true, Bool.and_eq_false_iff,
    decide_eq_true_eq, decide_eq_false_iff_not, not_false_eq_true, not_true_eq_false, not_not]
  constructor
  · rintro ⟨hread, hboundary⟩
    refine ⟨?_, ?_⟩ <;> omega
  · rintro ⟨hread, hboundary⟩
    refine ⟨?_, ?_⟩ <;> omega

section Documents

variable {line : Text} {incident : Incident} {plan : HealingPlan}

theorem write_eq (incident : Incident) (plan : HealingPlan) :
    JsonWriter.write incident plan =
      upToEvidence incident [] ++ (escapeJson incident.evidence ++ closing plan) := by
  rw [write_eq_upToEvidence, upToEvidence_eq]

/-- Without a break in the evidence the document is one line. -/
theorem write_unbroken (hincident : Reported line incident) (hplan : TidyPlan plan)
    (hevidence : ∀ c ∈ incident.evidence, breaks c = false) :
    ∀ c ∈ JsonWriter.write incident plan, Text.isLineBoundary c = false := by
  rw [write_eq]
  refine List.forall_mem_append.mpr
    ⟨clear_of_printable (upToEvidence_printable hincident), List.forall_mem_append.mpr
      ⟨?_, clear_of_printable (closing_printable hplan)⟩⟩
  intro c hc
  obtain ⟨d, hd, hcd⟩ := List.mem_flatMap.mp hc
  exact escapeChar_unbroken (hevidence d hd) c hcd

theorem strip_write (incident : Incident) (plan : HealingPlan) :
    Text.strip (JsonWriter.write incident plan) = JsonWriter.write incident plan := by
  obtain ⟨middle, hmiddle⟩ := upToEvidence_nil incident
  obtain ⟨middle', hclosing⟩ : ∃ middle', closing plan = middle' ++ ['}'] := ⟨_, rfl⟩
  have hshape : JsonWriter.write incident plan =
      '{' :: (middle ++ '"' :: (escapeJson incident.evidence ++ middle')) ++ ['}'] := by
    rw [write_eq, hmiddle, hclosing]
    simp
  rw [hshape]
  exact Text.strip_eq_self (by decide) (by decide)

theorem head?_write (incident : Incident) (plan : HealingPlan) :
    (JsonWriter.write incident plan).head? = some '{' := by
  obtain ⟨middle, hmiddle⟩ := upToEvidence_nil incident
  rw [write_eq, hmiddle]
  rfl

theorem parseLine_write_readable {model_validate : Json → Option SelfHealerOutput}
    (hmodel : ModelValidate model_validate) (hincident : Reported line incident)
    (hplan : TidyPlan plan) (hevidence : ∀ c ∈ incident.evidence, readable c = true) :
    parseLine model_validate (JsonWriter.write incident plan) = some (written incident plan) := by
  rw [parseLine_of_strip _ (strip_write incident plan), if_pos (head?_write incident plan),
    loads_write hincident hplan hevidence, Option.bind_some]
  exact hmodel.declared (read_documentEntries incident plan)

theorem parseLine_write_unreadable (model_validate : Json → Option SelfHealerOutput)
    (hincident : Reported line incident)
    (hevidence : ∃ c ∈ incident.evidence, readable c = false) :
    parseLine model_validate (JsonWriter.write incident plan) = none := by
  have hscan := scanString_escapeJson_unreadable hevidence (closing plan)
  rw [parseLine_of_strip _ (strip_write incident plan), write_eq_upToEvidence,
    loads_upToEvidence hincident hscan, Option.bind_none, ite_self]

/-- What the client makes of the pieces of one document. -/
theorem parse_pieces {model_validate : Json → Option SelfHealerOutput}
    (hmodel : ModelValidate model_validate) (hincident : Reported line incident)
    (hplan : TidyPlan plan) :
    (Text.lines Text.isLineBoundary (JsonWriter.write incident plan ++ ['\n'])).filterMap
        (parseLine model_validate) =
      if line.all fun c => readable c && !breaks c then [written incident plan] else [] := by
  rw [← hincident.evidence]
  by_cases hbroken : ∃ c ∈ incident.evidence, breaks c = true
  · have hpieces := pieces_of_broken hmodel hincident
      (clear_of_printable (closing_printable hplan)) hbroken []
    have hstopped : (incident.evidence.all fun c => readable c && !breaks c) = false := by
      obtain ⟨c, hc, hbreak⟩ := hbroken
      exact List.all_eq_false.mpr ⟨c, hc, by simp [hbreak]⟩
    rw [hstopped, if_neg Bool.false_ne_true, write_eq, List.append_assoc, List.append_assoc,
      Text.lines, Text.linesFrom_append
        (clear_of_printable (upToEvidence_printable hincident)), List.nil_append]
    exact List.filterMap_eq_nil_iff.mpr hpieces
  · have hwhole : ∀ c ∈ incident.evidence, breaks c = false := fun c hc =>
      Bool.eq_false_iff.mpr fun hbreak => hbroken ⟨c, hc, hbreak⟩
    rw [Text.lines_single (write_unbroken hincident hplan hwhole) (by decide)]
    by_cases hread : ∀ c ∈ incident.evidence, readable c = true
    · have hpasses : (incident.evidence.all fun c => readable c && !breaks c) = true :=
        List.all_eq_true.mpr fun c hc => by simp [hread c hc, hwhole c hc]
      rw [hpasses, if_pos rfl, List.filterMap_cons_some
        (parseLine_write_readable hmodel hincident hplan hread), List.filterMap_nil]
    · obtain ⟨c, hc, hunread⟩ : ∃ c ∈ incident.evidence, readable c = false := by
        simpa using hread
      have hstopped : (incident.evidence.all fun c => readable c && !breaks c) = false :=
        List.all_eq_false.mpr ⟨c, hc, by simp [hunread]⟩
      rw [hstopped, if_neg Bool.false_ne_true, List.filterMap_cons_none
        (parseLine_write_unreadable model_validate hincident ⟨c, hc, hunread⟩),
        List.filterMap_nil]

/-- What the client makes of the document of one line. -/
theorem parse_document {model_validate : Json → Option SelfHealerOutput}
    (hmodel : ModelValidate model_validate) (hincident : Reported line incident)
    (hplan : TidyPlan plan) (hline : '\n' ∉ line) :
    (Text.lines Text.isLineBoundary (JsonWriter.write incident plan ++ ['\n'])).filterMap
        (parseLine model_validate) =
      if line.all carried then [written incident plan] else [] := by
  have hall : line.all carried = line.all fun c => readable c && !breaks c := by
    rw [Bool.eq_iff_iff, List.all_eq_true, List.all_eq_true]
    refine forall₂_congr fun c hc => ?_
    rw [carried_iff fun hnewline => hline (hnewline ▸ hc), Bool.and_eq_true, Bool.not_eq_true']
  rw [hall, parse_pieces hmodel hincident hplan]

end Documents

/-! ## The whole log -/

/-- The standard input with these lines. -/
def feed (lines : List Text) : Text :=
  lines.flatMap fun line => line ++ ['\n']

/-- One output for each line that the chain reports, with the values of the incident and
of its plan. -/
def outputs (lines : List Text) : List SelfHealerOutput :=
  lines.filterMap fun line => (DetectorFactory.createDefaultChain line).map fun incident =>
    written incident (StrategyFactory.createDefaultPlanner.plan incident)

/-- A guard only takes choices away. -/
theorem filterMap_guard_length_le {α β : Type} (guard : α → Bool) (choose : α → Option β)
    (list : List α) :
    (list.filterMap fun a => if guard a then choose a else none).length ≤
      (list.filterMap choose).length := by
  induction list with
  | nil => exact le_rfl
  | cons a list ih =>
      rw [List.filterMap_cons, List.filterMap_cons]
      cases guard a <;> cases choose a <;> simp <;> omega

/-- A choice with a guard changes nothing exactly when the guard admits all it chose. -/
theorem filterMap_guard_eq_iff {α β : Type} (guard : α → Bool) (choose : α → Option β)
    (list : List α) :
    (list.filterMap fun a => if guard a then choose a else none) = list.filterMap choose ↔
      ∀ a ∈ list, (choose a).isSome → guard a = true := by
  induction list with
  | nil => simp
  | cons a list ih =>
      have hlength := filterMap_guard_length_le guard choose list
      rw [List.filterMap_cons, List.filterMap_cons, List.forall_mem_cons, ← ih]
      cases hguard : guard a with
      | true => cases choose a <;> simp
      | false =>
          cases choose a with
          | none => simp
          | some b =>
              refine ⟨fun h => ?_, fun h => absurd (h.1 rfl) (by simp)⟩
              have hcount := congrArg List.length h
              simp only [Bool.false_eq_true, if_false, List.length_cons] at hcount
              omega

theorem notMem_escapeJson (text : Text) : '\r' ∉ escapeJson text := by
  intro hmem
  obtain ⟨c, -, hc⟩ := List.mem_flatMap.mp hmem
  rcases escapeChar_cases c with ⟨hself, -, -, -, hreturn, -⟩ | ⟨e, hescape, he, -⟩
  · rw [hself, List.mem_singleton] at hc
    exact hreturn hc.symm
  · rw [hescape] at hc
    rcases List.mem_cons.mp hc with hbackslash | hletter
    · exact absurd hbackslash (by decide)
    · rw [← List.mem_singleton.mp hletter] at he
      exact absurd he (by decide)

theorem notMem_of_printable {text : Text} (h : text.all printable = true) : '\r' ∉ text :=
  fun hmem => absurd (List.all_eq_true.mp h _ hmem) (by decide)

theorem notMem_write {line : Text} {incident : Incident} {plan : HealingPlan}
    (hincident : Reported line incident) (hplan : TidyPlan plan) :
    '\r' ∉ JsonWriter.write incident plan := by
  rw [write_eq, List.mem_append, List.mem_append, not_or, not_or]
  exact ⟨notMem_of_printable (upToEvidence_printable hincident),
    notMem_escapeJson incident.evidence, notMem_of_printable (closing_printable hplan)⟩

section Log

variable {lines : List Text} (hlines : ∀ line ∈ lines, '\n' ∉ line)

include hlines

theorem main_feed : main (feed lines) = lines.flatMap fun line =>
    processLine line DetectorFactory.createDefaultChain
      StrategyFactory.createDefaultPlanner := by
  have hread : Text.lines (· = '\n') (feed lines) = lines := by
    refine Text.lines_flatMap (by decide) lines fun line hline c hc => ?_
    exact decide_eq_false fun h => hlines line hline (h ▸ hc)
  rw [main, runStream, hread]

theorem notMem_main : '\r' ∉ main (feed lines) := by
  rw [main_feed hlines]
  intro hmem
  obtain ⟨line, -, hline⟩ := List.mem_flatMap.mp hmem
  unfold processLine at hline
  split at hline
  · exact absurd hline List.not_mem_nil
  · rename_i incident hdetect
    have hincident := createDefaultChain_reports line incident hdetect
    rcases List.mem_append.mp hline with hwrite | hend
    · exact notMem_write hincident (plan_tidy incident) hwrite
    · exact absurd hend (by decide)

/-- The client gets an output for each reported line whose characters are all carried. -/
theorem parseAll_main {model_validate : Json → Option SelfHealerOutput}
    (hmodel : ModelValidate model_validate) :
    parseAll model_validate (main (feed lines)) =
      lines.filterMap fun line => if line.all carried then
        (DetectorFactory.createDefaultChain line).map fun incident =>
          written incident (StrategyFactory.createDefaultPlanner.plan incident)
      else none := by
  rw [parseAll, Text.splitlines_of_notMem (notMem_main hlines), main_feed hlines]
  induction lines with
  | nil => rfl
  | cons line lines ih =>
      obtain ⟨hline, htail⟩ := List.forall_mem_cons.mp hlines
      rw [List.flatMap_cons, List.filterMap_cons, ← ih htail, processLine]
      cases hdetect : DetectorFactory.createDefaultChain line with
      | none => simp
      | some incident =>
          have hincident := createDefaultChain_reports line incident hdetect
          have hdocument := parse_document hmodel hincident (plan_tidy incident) hline
          dsimp only
          rw [List.append_assoc, List.singleton_append, Text.lines_append_end (by decide),
            List.filterMap_append, hdocument]
          cases line.all carried <;> simp

end Log

/-- The client gets back what the self-healer wrote exactly when every reported line has
only characters that are carried. -/
theorem round_trip_iff {model_validate : Json → Option SelfHealerOutput}
    (hmodel : ModelValidate model_validate) {lines : List Text}
    (hlines : ∀ line ∈ lines, '\n' ∉ line) :
    parseAll model_validate (main (feed lines)) = outputs lines ↔
      ∀ line ∈ lines, (DetectorFactory.createDefaultChain line).isSome →
        ∀ c ∈ line, carried c = true := by
  rw [parseAll_main hlines hmodel, outputs, filterMap_guard_eq_iff]
  simp only [Option.isSome_map, List.all_eq_true]

/-- Two lines of the sample log. -/
def sampleLines : List Text :=
  ["2026-06-27T23:41:02 WARN Rate limit hit for type=LOG, scheduling retry jobId=42".toList,
    "2026-06-27T23:41:09 ERROR Job failed jobId=21 reason=Connection refused".toList]

theorem round_trip_iff_sampleLines :
    parseAll SelfHealerOutput.read (main (feed sampleLines)) = outputs sampleLines ∧
      (outputs sampleLines).length = 2 := by
  have hcarried : sampleLines.all (·.all carried) = true := by decide +kernel
  refine ⟨(round_trip_iff SelfHealerOutput.read_validates (by decide +kernel)).mpr ?_,
    by decide +kernel⟩
  intro line hline _
  exact List.all_eq_true.mp (List.all_eq_true.mp hcarried line hline)

/-- A warning of a console that colours the level. -/
def colouredLine : Text :=
  "\x1b[33mWARN\x1b[0m Watcher gap detected, triggering recovery".toList

/-- The escape character is written as it is, and strict JSON does not read it. -/
theorem coloured_line_lost :
    parseAll SelfHealerOutput.read (main (feed [colouredLine])) = [] ∧
      outputs [colouredLine] ≠ [] := by
  constructor
  · rw [parseAll_main (by decide +kernel) SelfHealerOutput.read_validates]
    rfl
  · decide +kernel

end SelfHealer

end JobQueue

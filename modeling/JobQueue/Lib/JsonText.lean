import JobQueue.Lib.Json

/-!
# Compact JSON texts

How a text that is written without white space between its tokens is read.  A writer
brings its own spelling of the characters inside a string; the rules only ask that each
spelling it uses is read back.
-/

namespace Json

/-- Inside a string the spelling stands for the character. -/
def ReadsAs (spelling : Text) (c : Char) : Prop :=
  ∀ rest, scanString (spelling ++ rest) = (scanString rest).map (Prod.map (c.toNat :: ·) id)

/-- A character that a string may hold as it is. -/
def plain (c : Char) : Bool :=
  c ≠ '"' && c ≠ '\\' && 0x20 ≤ c.toNat

theorem readsAs_self {c : Char} (hc : plain c = true) : ReadsAs [c] c := by
  intro rest
  simp only [plain, Bool.and_eq_true, decide_eq_true_eq, ne_eq] at hc
  obtain ⟨⟨hquote, hbackslash⟩, hcontrol⟩ := hc
  rw [List.singleton_append, scanString.eq_def]
  simp [hquote, hbackslash, hcontrol]

theorem readsAs_escape {e c : Char} (he : e ≠ 'u') (hc : unescape e = some c.toNat) :
    ReadsAs ['\\', e] c := by
  intro rest
  rw [List.cons_append, List.singleton_append, scanString.eq_def]
  simp [he, hc]

theorem readsAs_unicode {d₁ d₂ d₃ d₄ c : Char} (hc : hexCode [d₁, d₂, d₃, d₄] = some c.toNat) :
    ReadsAs ['\\', 'u', d₁, d₂, d₃, d₄] c := by
  intro rest
  show scanString ('\\' :: 'u' :: d₁ :: d₂ :: d₃ :: d₄ :: rest) = _
  rw [scanString.eq_def]
  simp [hc]

/-- A control character as it is cannot be read. -/
theorem scanString_control {c : Char} (hc : c.toNat < 0x20) (rest : Text) :
    scanString (c :: rest) = none := by
  have hquote : c ≠ '"' := by rintro rfl; exact absurd hc (by decide)
  have hbackslash : c ≠ '\\' := by rintro rfl; exact absurd hc (by decide)
  rw [scanString.eq_def]
  simp [hquote, hbackslash, hc]

section Strings

variable {spell : Char → Text} {text : Text}

theorem scanString_spelled (h : ∀ c ∈ text, ReadsAs (spell c) c) (rest : Text) :
    scanString (text.flatMap spell ++ rest) =
      (scanString rest).map (Prod.map (codes text ++ ·) id) := by
  induction text with
  | nil =>
      rw [List.flatMap_nil, List.nil_append]
      rcases scanString rest with _ | ⟨points, rest'⟩ <;> rfl
  | cons c text ih =>
      have hc := h c List.mem_cons_self (text.flatMap spell ++ rest)
      have htail := ih fun d hd => h d (List.mem_cons_of_mem c hd)
      rw [List.flatMap_cons, List.append_assoc, hc, htail]
      rcases scanString rest with _ | ⟨points, rest'⟩ <;> rfl

theorem readString_spelled (h : ∀ c ∈ text, ReadsAs (spell c) c) (rest : Text) :
    readString (text.flatMap spell ++ '"' :: rest) = some (codes text, rest) := by
  have hclose : scanString ('"' :: rest) = some ([], rest) := by
    rw [scanString.eq_def]
    simp
  rw [readString, scanString_spelled h, hclose]
  simp [joinSurrogates_codes]

end Strings

theorem readString_plain {text : Text} (h : text.all plain = true) (rest : Text) :
    readString (text ++ '"' :: rest) = some (codes text, rest) := by
  have hself : ∀ c ∈ text, ReadsAs [c] c := fun c hc =>
    readsAs_self (List.all_eq_true.mp h c hc)
  simpa using readString_spelled hself rest

/-! ## Values -/

/-- Whatever follows the text, the value is read and the rest is left. -/
def Spells (text : Text) (json : Json) : Prop :=
  ∀ rest, value (skipSpace (text ++ rest)) = some (json, rest)

def quoted (body : Text) : Text :=
  '"' :: body ++ ['"']

theorem Spells.string {spell : Char → Text} {text : Text}
    (h : ∀ c ∈ text, ReadsAs (spell c) c) :
    Spells (quoted (text.flatMap spell)) (string (codes text)) := by
  intro rest
  have hskip : skipSpace (quoted (text.flatMap spell) ++ rest) =
      '"' :: (text.flatMap spell ++ '"' :: rest) := by
    simp [quoted, skipSpace, isSpace]
  rw [hskip, value_string, readString_spelled h]
  rfl

theorem Spells.plain {text : Text} (h : text.all plain = true) :
    Spells (quoted text) (Json.string (codes text)) := by
  have hself : ∀ c ∈ text, ReadsAs [c] c := fun c hc =>
    readsAs_self (List.all_eq_true.mp h c hc)
  simpa using Spells.string hself

theorem Spells.null : Spells "null".toList Json.null :=
  fun _ => rfl

theorem Spells.bool (b : Bool) :
    Spells (if b then "true".toList else "false".toList) (Json.bool b) := by
  intro rest
  cases b <;> rfl

/-- The elements of an array, up to the closing bracket. -/
theorem items_spelled {texts : List Text} {elements : List Json}
    (h : List.Forall₂ Spells texts elements) (hne : texts ≠ []) (rest : Text) :
    items (skipSpace ([','].intercalate texts ++ ']' :: rest)) = some (elements, rest) := by
  induction h with
  | nil => exact absurd rfl hne
  | @cons text json texts elements htext htexts ih =>
      cases htexts with
      | nil =>
          rw [List.intercalate_singleton]
          exact items_last (htext _) rfl
      | @cons text' json' texts' elements' htext' htexts' =>
          rw [List.intercalate_cons_cons, List.append_assoc, List.append_assoc]
          have htail := ih (List.cons_ne_nil _ _)
          generalize [','].intercalate (text' :: texts') ++ ']' :: rest = more at htail
          have hcomma : skipSpace ([','] ++ more) = ',' :: more := rfl
          rw [items_next (htext _) hcomma, htail]
          rfl

theorem Spells.array {texts : List Text} {elements : List Json}
    (h : List.Forall₂ Spells texts elements) :
    Spells ('[' :: [','].intercalate texts ++ [']']) (Json.array elements) := by
  intro rest
  have hskip : skipSpace (('[' :: [','].intercalate texts ++ [']']) ++ rest) =
      '[' :: ([','].intercalate texts ++ ']' :: rest) := by
    simp [skipSpace, isSpace]
  rw [hskip, value_array]
  cases h with
  | nil => rfl
  | @cons text json texts elements htext htexts =>
      have hitems := items_spelled (.cons htext htexts) (List.cons_ne_nil _ _) rest
      have hopen : ∀ tail, skipSpace ([','].intercalate (text :: texts) ++ ']' :: rest) ≠
          ']' :: tail := by
        intro tail hclose
        rw [hclose, items_of_no_value (value_close tail)] at hitems
        contradiction
      simp [scanArray, hitems]

/-! ## Objects -/

/-- One entry of an object. -/
def entryText (key : String) (text : Text) : Text :=
  quoted key.toList ++ ':' :: text

/-- The key needs no escape, and the text spells the entry's value. -/
structure SpellsEntry (field : String × Text) (entry : CodePoints × Json) : Prop where
  plain : field.1.toList.all Json.plain = true
  key : entry.1 = codes field.1.toList
  spells : Spells field.2 entry.2

theorem SpellsEntry.of {chars : List Char} {text : Text} {json : Json}
    (hplain : chars.all Json.plain = true) (h : Spells text json) :
    SpellsEntry (String.ofList chars, text) (codes (String.ofList chars).toList, json) :=
  ⟨by rw [String.toList_ofList]; exact hplain, rfl, h⟩

theorem entryText_append (key : String) (text rest : Text) :
    entryText key text ++ rest = '"' :: (key.toList ++ '"' :: ':' :: (text ++ rest)) := by
  simp [entryText, quoted]

def entriesText (fields : List (String × Text)) : Text :=
  [','].intercalate (fields.map fun field => entryText field.1 field.2)

theorem entriesText_cons_cons (field field' : String × Text) (fields : List (String × Text)) :
    entriesText (field :: field' :: fields) =
      entryText field.1 field.2 ++ ',' :: entriesText (field' :: fields) := by
  simp [entriesText, List.intercalate_cons_cons]

theorem skipSpace_entriesText (field : String × Text) (fields : List (String × Text))
    (rest : Text) :
    skipSpace (entriesText (field :: fields) ++ rest) = entriesText (field :: fields) ++ rest := by
  cases fields with
  | nil => simp [entriesText, entryText, quoted, skipSpace, isSpace]
  | cons field' fields =>
      rw [entriesText_cons_cons, List.append_assoc, entryText_append]
      simp [skipSpace, isSpace]

/-- An entry that a comma follows. -/
theorem members_entry {field : String × Text} {entry : CodePoints × Json}
    (h : SpellsEntry field entry) (rest : Text) :
    members (entryText field.1 field.2 ++ ',' :: rest) =
      (members (skipSpace rest)).map (Prod.map (entry :: ·) id) := by
  obtain ⟨hplain, hkey, hspells⟩ := h
  rw [entryText_append, members_next (readString_plain hplain _) rfl (hspells _) rfl, ← hkey]

theorem members_spelled {fields : List (String × Text)} {entries : List (CodePoints × Json)}
    (h : List.Forall₂ SpellsEntry fields entries) (hne : fields ≠ []) (rest : Text) :
    members (entriesText fields ++ '}' :: rest) = some (entries, rest) := by
  induction h with
  | nil => exact absurd rfl hne
  | @cons field entry fields entries hentry hentries ih =>
      cases fields with
      | nil =>
          obtain rfl := List.forall₂_nil_left_iff.mp hentries
          obtain ⟨hplain, hkey, hspells⟩ := hentry
          rw [entriesText, List.map_singleton, List.intercalate_singleton, entryText_append,
            members_last (readString_plain hplain _) rfl (hspells _) rfl, ← hkey]
      | cons field' fields =>
          have htail := ih (List.cons_ne_nil _ _)
          rw [entriesText_cons_cons, List.append_assoc, List.cons_append, members_entry hentry,
            skipSpace_entriesText, htail]
          rfl

/-- An object whose last value cannot be read is not read, whatever follows. -/
theorem members_unread {fields : List (String × Text)} {entries : List (CodePoints × Json)}
    (h : List.Forall₂ SpellsEntry fields entries) {chars : List Char}
    (hplain : chars.all plain = true) {text : Text} (htext : value (skipSpace text) = none) :
    members (entriesText (fields ++ [(String.ofList chars, text)])) = none := by
  induction h with
  | nil =>
      rw [List.nil_append, entriesText, List.map_singleton, List.intercalate_singleton,
        ← List.append_nil (entryText _ _), entryText_append, List.append_nil,
        String.toList_ofList]
      exact members_of_no_value (readString_plain hplain _) rfl htext
  | @cons field entry fields entries hentry hentries ih =>
      obtain ⟨field', fields', hfields⟩ :=
        List.exists_cons_of_ne_nil (List.append_ne_nil_of_right_ne_nil fields
          (List.cons_ne_nil (String.ofList chars, text) []))
      have hskip := skipSpace_entriesText field' fields' []
      rw [List.append_nil] at hskip
      rw [hfields] at ih
      rw [List.cons_append, hfields, entriesText_cons_cons, members_entry hentry, hskip, ih]
      rfl

/-- A brace and entries: the object of what is read of the entries. -/
theorem value_entriesText (field : String × Text) (fields : List (String × Text))
    (rest : Text) :
    value ('{' :: (entriesText (field :: fields) ++ rest)) =
      (members (entriesText (field :: fields) ++ rest)).map (Prod.map object id) := by
  have hskip := skipSpace_entriesText field fields rest
  have hopen : ∀ tail, entriesText (field :: fields) ++ rest ≠ '}' :: tail := by
    intro tail hclose
    cases fields with
    | nil => simp [entriesText, entryText, quoted] at hclose
    | cons field' fields => simp [entriesText_cons_cons, entryText, quoted] at hclose
  rw [value_object, scanObject, hskip]
  split
  · rename_i tail hclose
    exact absurd hclose (hopen tail)
  · rfl

/-- An object whose last value cannot be read. -/
theorem value_unread {fields : List (String × Text)} {entries : List (CodePoints × Json)}
    (h : List.Forall₂ SpellsEntry fields entries) {chars : List Char}
    (hplain : chars.all plain = true) {text : Text} (htext : value (skipSpace text) = none) :
    value ('{' :: entriesText (fields ++ [(String.ofList chars, text)])) = none := by
  obtain ⟨field', fields', hfields⟩ :=
    List.exists_cons_of_ne_nil (List.append_ne_nil_of_right_ne_nil fields
      (List.cons_ne_nil (String.ofList chars, text) []))
  have hmembers := members_unread h hplain htext
  rw [hfields] at hmembers ⊢
  have hobject := value_entriesText field' fields' []
  rw [List.append_nil, hmembers] at hobject
  exact hobject

def objectText (fields : List (String × Text)) : Text :=
  '{' :: entriesText fields ++ ['}']

theorem Spells.object {fields : List (String × Text)} {entries : List (CodePoints × Json)}
    (h : List.Forall₂ SpellsEntry fields entries) (hne : fields ≠ []) :
    Spells (objectText fields) (Json.object entries) := by
  intro rest
  obtain ⟨field, fields, rfl⟩ := List.exists_cons_of_ne_nil hne
  have hskip : skipSpace (objectText (field :: fields) ++ rest) =
      '{' :: (entriesText (field :: fields) ++ '}' :: rest) := by
    simp [objectText, skipSpace, isSpace]
  rw [hskip, value_entriesText, members_spelled h (List.cons_ne_nil _ _)]
  rfl

/-- A text that spells a value, alone, is the document. -/
theorem Spells.loads {text : Text} {json : Json} (h : Spells text json) :
    Json.loads text = some json := by
  have hvalue := h []
  rw [List.append_nil] at hvalue
  have hend : skipSpace [] = [] := rfl
  simp [Json.loads, hvalue, hend]

end Json

import JobQueue.Lib.Text

/-!
# JSON text as Python's `json` module reads it

`loads` is `json.loads` in its default strict mode: the recursive scanner of
`json.scanner` and `json.decoder` over the code points of a text.  The scanner takes
fuel; the length of the text is always enough, so `value`, `members` and `items` satisfy
the equations of the scanner without any.
-/

/-- The code points of a Python `str`; a lone surrogate is one. -/
abbrev CodePoints := List Nat

/-- Strings are compared code point by code point. -/
instance : LawfulBEq CodePoints := inferInstance

namespace Json

/-- The code points of a text, none of them a surrogate. -/
def codes (text : Text) : CodePoints :=
  text.map Char.toNat

end Json

/-- A parsed document.  The entries of an object stand in the order of the text, and a
number keeps its literal. -/
inductive Json where
  | null
  | bool (value : Bool)
  | number (literal : Text)
  | string (value : CodePoints)
  | array (elements : List Json)
  | object (entries : List (CodePoints × Json))

namespace Json

/-- `data[key]` of the parsed `dict`: of two entries with one key the later counts. -/
def get (entries : List (CodePoints × Json)) (key : String) : Option Json :=
  (entries.reverse.find? fun entry => entry.1 = codes key.toList).map (·.2)

/-- The white space between the tokens of a document. -/
def isSpace (c : Char) : Bool :=
  c = ' ' || c = '\t' || c = '\n' || c = '\r'

def skipSpace (text : Text) : Text :=
  text.dropWhile isSpace

/-! ## Strings -/

def hexDigit (c : Char) : Option Nat :=
  if '0' ≤ c ∧ c ≤ '9' then some (c.toNat - '0'.toNat)
  else if 'a' ≤ c ∧ c ≤ 'f' then some (c.toNat - 'a'.toNat + 10)
  else if 'A' ≤ c ∧ c ≤ 'F' then some (c.toNat - 'A'.toNat + 10)
  else none

def hexCode (digits : Text) : Option Nat :=
  digits.foldlM (fun code c => (hexDigit c).map (16 * code + ·)) 0

/-- What a character after a backslash stands for. -/
def unescape (c : Char) : Option Nat :=
  match c with
  | '"' => some 0x22
  | '\\' => some 0x5C
  | '/' => some 0x2F
  | 'b' => some 0x08
  | 'f' => some 0x0C
  | 'n' => some 0x0A
  | 'r' => some 0x0D
  | 't' => some 0x09
  | _ => none

/-- The code points up to the closing quote, and what follows it.  In strict mode a
control character below U+0020 is an error. -/
def scanString : Text → Option (CodePoints × Text)
  | [] => none
  | c :: rest =>
      if c = '"' then some ([], rest)
      else if c = '\\' then
        match rest with
        | [] => none
        | e :: rest =>
            if e = 'u' then
              match rest with
              | a :: b :: c :: d :: rest => do
                  let code ← hexCode [a, b, c, d]
                  (scanString rest).map (Prod.map (code :: ·) id)
              | _ => none
            else do
              let code ← unescape e
              (scanString rest).map (Prod.map (code :: ·) id)
      else if c.toNat < 0x20 then none
      else (scanString rest).map (Prod.map (c.toNat :: ·) id)

/-- A high and a low surrogate, both from `\u` escapes, are one code point. -/
def joinSurrogates : CodePoints → CodePoints
  | [] => []
  | [n] => [n]
  | high :: low :: rest =>
      if 0xD800 ≤ high ∧ high ≤ 0xDBFF ∧ 0xDC00 ≤ low ∧ low ≤ 0xDFFF then
        (0x10000 + (high - 0xD800) * 0x400 + (low - 0xDC00)) :: joinSurrogates rest
      else high :: joinSurrogates (low :: rest)

/-- A string whose opening quote has been read. -/
def readString (text : Text) : Option (CodePoints × Text) :=
  (scanString text).map (Prod.map joinSurrogates id)

/-! ## Numbers and names -/

def isDigit (c : Char) : Bool :=
  '0' ≤ c && c ≤ '9'

def scanDigits (text : Text) : Option (Text × Text) :=
  if text.takeWhile isDigit = [] then none
  else some (text.takeWhile isDigit, text.dropWhile isDigit)

def scanInt : Text → Option (Text × Text)
  | '0' :: rest => some (['0'], rest)
  | text => scanDigits text

/-- `.\d+`, or nothing. -/
def scanFraction : Text → Text × Text
  | '.' :: rest =>
      match scanDigits rest with
      | some (digits, rest) => ('.' :: digits, rest)
      | none => ([], '.' :: rest)
  | text => ([], text)

/-- The sign of an exponent, or nothing. -/
def scanSign : Text → Text × Text
  | '+' :: rest => (['+'], rest)
  | '-' :: rest => (['-'], rest)
  | text => ([], text)

/-- `[eE][-+]?\d+`, or nothing. -/
def scanExponent : Text → Text × Text
  | [] => ([], [])
  | c :: rest =>
      if c = 'e' ∨ c = 'E' then
        match scanDigits (scanSign rest).2 with
        | some (digits, rest') => (c :: (scanSign rest).1 ++ digits, rest')
        | none => ([], c :: rest)
      else ([], c :: rest)

def scanUnsigned (text : Text) : Option (Text × Text) := do
  let (int, rest) ← scanInt text
  let (fraction, rest) := scanFraction rest
  let (exponent, rest) := scanExponent rest
  return (int ++ fraction ++ exponent, rest)

def scanNumber : Text → Option (Text × Text)
  | '-' :: rest => (scanUnsigned rest).map (Prod.map ('-' :: ·) id)
  | text => scanUnsigned text

/-- `text.startswith(word)`, and what follows the word. -/
def scanWord (word : String) (text : Text) : Option Text :=
  if word.toList.isPrefixOf text then some (text.drop word.length) else none

/-- A value that starts with no quote, brace or bracket. -/
def scanAtom (text : Text) : Option (Json × Text) :=
  ((scanWord "null" text).map (null, ·)).or <|
  ((scanWord "true" text).map (bool true, ·)).or <|
  ((scanWord "false" text).map (bool false, ·)).or <|
  ((scanNumber text).map (Prod.map number id)).or <|
  ((scanWord "NaN" text).map (number "NaN".toList, ·)).or <|
  ((scanWord "Infinity" text).map (number "Infinity".toList, ·)).or <|
  (scanWord "-Infinity" text).map (number "-Infinity".toList, ·)

/-! ## The scanner -/

/-- Reads one value at the start of a text and gives what follows it. -/
abbrev Reader := Text → Option (Json × Text)

/-- The elements of an array up to the closing bracket. -/
def scanItems (value : Reader) : Nat → Text → Option (List Json × Text)
  | 0, _ => none
  | fuel + 1, text => do
      let (item, rest) ← value text
      match skipSpace rest with
      | ',' :: rest =>
          (scanItems value fuel (skipSpace rest)).map (Prod.map (item :: ·) id)
      | ']' :: rest => return ([item], rest)
      | _ => none

/-- The entries of an object up to the closing brace. -/
def scanMembers (value : Reader) : Nat → Text → Option (List (CodePoints × Json) × Text)
  | 0, _ => none
  | _ + 1, [] => none
  | fuel + 1, c :: text =>
      if c = '"' then do
        let (key, rest) ← readString text
        match skipSpace rest with
        | ':' :: rest =>
            let (item, rest) ← value (skipSpace rest)
            match skipSpace rest with
            | ',' :: rest =>
                (scanMembers value fuel (skipSpace rest)).map
                  (Prod.map ((key, item) :: ·) id)
            | '}' :: rest => return ([(key, item)], rest)
            | _ => none
        | _ => none
      else none

def scanArray (items : Text → Option (List Json × Text)) (text : Text) :
    Option (Json × Text) :=
  match skipSpace text with
  | ']' :: rest => some (array [], rest)
  | text => (items text).map (Prod.map array id)

def scanObject (members : Text → Option (List (CodePoints × Json) × Text)) (text : Text) :
    Option (Json × Text) :=
  match skipSpace text with
  | '}' :: rest => some (object [], rest)
  | text => (members text).map (Prod.map object id)

/-- `scan_once`. -/
def scanOnce : Nat → Reader
  | 0, _ => none
  | _ + 1, [] => none
  | fuel + 1, c :: rest =>
      if c = '"' then (readString rest).map (Prod.map string id)
      else if c = '{' then scanObject (scanMembers (scanOnce fuel) fuel) rest
      else if c = '[' then scanArray (scanItems (scanOnce fuel) fuel) rest
      else scanAtom (c :: rest)

/-- One value, with fuel for every character of the text. -/
def value (text : Text) : Option (Json × Text) :=
  scanOnce (text.length + 1) text

def items (text : Text) : Option (List Json × Text) :=
  scanItems value (text.length + 1) text

def members (text : Text) : Option (List (CodePoints × Json) × Text) :=
  scanMembers value (text.length + 1) text

/-- `json.loads(text)`; `none` stands for the `JSONDecodeError`. -/
def loads (text : Text) : Option Json := do
  let (json, rest) ← value (skipSpace text)
  if skipSpace rest = [] then some json else none

/-! ## What is left is shorter -/

/-- A reader that changes what it gives leaves the same rest. -/
theorem map_fst_eq_some {α β : Type} {read : Option (α × Text)} {f : α → β} {b : β}
    {rest : Text} :
    read.map (Prod.map f id) = some (b, rest) ↔ ∃ a, read = some (a, rest) ∧ f a = b := by
  constructor
  · intro h
    obtain ⟨⟨a, rest'⟩, hread, hmap⟩ := Option.map_eq_some_iff.mp h
    obtain ⟨rfl, rfl⟩ := Prod.mk.inj hmap
    exact ⟨a, hread, rfl⟩
  · rintro ⟨a, rfl, rfl⟩
    rfl

theorem skipSpace_length (text : Text) : (skipSpace text).length ≤ text.length :=
  List.length_dropWhile_le _ _

theorem scanString_length {text rest : Text} {points : CodePoints}
    (h : scanString text = some (points, rest)) : rest.length < text.length := by
  fun_induction scanString text generalizing points rest with
  | case1 => contradiction
  | case2 tail =>
      simp only [Option.some.injEq, Prod.mk.injEq] at h
      simp [← h.2]
  | case3 => contradiction
  | case4 a b c d tail _ ih =>
      simp only [Option.bind_eq_bind, Option.bind_eq_some_iff, map_fst_eq_some] at h
      obtain ⟨code, -, points', hscan, -⟩ := h
      have hrest := ih hscan
      simp only [List.length_cons]
      omega
  | case5 => contradiction
  | case6 e tail _ _ ih =>
      simp only [Option.bind_eq_bind, Option.bind_eq_some_iff, map_fst_eq_some] at h
      obtain ⟨code, -, points', hscan, -⟩ := h
      have hrest := ih hscan
      simp only [List.length_cons]
      omega
  | case7 => contradiction
  | case8 c tail _ _ _ ih =>
      obtain ⟨points', hscan, -⟩ := map_fst_eq_some.mp h
      have hrest := ih hscan
      simp only [List.length_cons]
      omega

theorem readString_length {text rest : Text} {points : CodePoints}
    (h : readString text = some (points, rest)) : rest.length < text.length := by
  obtain ⟨points', hscan, -⟩ := map_fst_eq_some.mp h
  exact scanString_length hscan

theorem scanDigits_length {text digits rest : Text}
    (h : scanDigits text = some (digits, rest)) : rest.length < text.length := by
  unfold scanDigits at h
  split at h
  · contradiction
  · rename_i hdigits
    have hsplit := congrArg List.length (List.takeWhile_append_dropWhile (p := isDigit) (l := text))
    have hpos := List.length_pos_of_ne_nil hdigits
    simp only [Option.some.injEq, Prod.mk.injEq] at h
    rw [List.length_append] at hsplit
    rw [← h.2]
    omega

theorem scanInt_length {text int rest : Text} (h : scanInt text = some (int, rest)) :
    rest.length < text.length := by
  unfold scanInt at h
  split at h
  · simp only [Option.some.injEq, Prod.mk.injEq] at h
    simp [← h.2]
  · exact scanDigits_length h

theorem scanFraction_length (text : Text) : (scanFraction text).2.length ≤ text.length := by
  unfold scanFraction
  split
  · split
    · rename_i hdigits
      have hrest := scanDigits_length hdigits
      simp only [List.length_cons]
      omega
    · exact le_rfl
  · exact le_rfl

theorem scanSign_length (text : Text) : (scanSign text).2.length ≤ text.length := by
  unfold scanSign
  split <;> simp

theorem scanExponent_length (text : Text) : (scanExponent text).2.length ≤ text.length := by
  unfold scanExponent
  split
  · exact le_rfl
  · rename_i c rest
    split
    · split
      · rename_i hdigits
        have hrest := scanDigits_length hdigits
        have hsign := scanSign_length rest
        simp only [List.length_cons]
        omega
      · exact le_rfl
    · exact le_rfl

theorem scanUnsigned_length {text literal rest : Text}
    (h : scanUnsigned text = some (literal, rest)) : rest.length < text.length := by
  simp only [scanUnsigned, Option.bind_eq_bind, Option.bind_eq_some_iff, Option.pure_def,
    Option.some.injEq, Prod.mk.injEq] at h
  obtain ⟨⟨int, rest'⟩, hint, -, hrest⟩ := h
  have hshort := scanInt_length hint
  have hfraction := scanFraction_length rest'
  have hexponent := scanExponent_length (scanFraction rest').2
  rw [← hrest]
  exact lt_of_le_of_lt (hexponent.trans hfraction) hshort

theorem scanNumber_length {text literal rest : Text}
    (h : scanNumber text = some (literal, rest)) : rest.length < text.length := by
  unfold scanNumber at h
  split at h
  · obtain ⟨literal', hunsigned, -⟩ := map_fst_eq_some.mp h
    have hrest := scanUnsigned_length hunsigned
    simp only [List.length_cons]
    omega
  · exact scanUnsigned_length h

theorem scanWord_length {word : String} {text rest : Text} (hword : word.toList ≠ [])
    (h : scanWord word text = some rest) : rest.length < text.length := by
  unfold scanWord at h
  split at h
  · rename_i hstart
    have hlength := (List.isPrefixOf_iff_prefix.mp hstart).length_le
    have hpos := List.length_pos_of_ne_nil hword
    rw [String.length_toList] at hlength hpos
    simp only [Option.some.injEq] at h
    rw [← h, List.length_drop]
    omega
  · contradiction

/-- A reader that takes at least one character. -/
def Consumes (value : Reader) : Prop :=
  ∀ {text json rest}, value text = some (json, rest) → rest.length < text.length

theorem scanAtom_consumes : Consumes scanAtom := by
  intro text json rest h
  have hname : ∀ {word : String} {json' : Json}, word.toList ≠ [] →
      (scanWord word text).map (json', ·) = some (json, rest) → rest.length < text.length := by
    intro word json' hword hmap
    obtain ⟨rest', hscan, hread⟩ := Option.map_eq_some_iff.mp hmap
    rw [← (Prod.mk.inj hread).2]
    exact scanWord_length hword hscan
  simp only [scanAtom, Option.or_eq_some_iff] at h
  obtain h | ⟨-, h | ⟨-, h | ⟨-, h | ⟨-, h | ⟨-, h | ⟨-, h⟩⟩⟩⟩⟩⟩ := h
  · exact hname (by decide) h
  · exact hname (by decide) h
  · exact hname (by decide) h
  · obtain ⟨literal, hnumber, -⟩ := map_fst_eq_some.mp h
    exact scanNumber_length hnumber
  · exact hname (by decide) h
  · exact hname (by decide) h
  · exact hname (by decide) h

theorem scanItems_length {value : Reader} (hvalue : Consumes value) {fuel : Nat}
    {text rest : Text} {elements : List Json}
    (h : scanItems value fuel text = some (elements, rest)) : rest.length < text.length := by
  induction fuel generalizing text rest elements with
  | zero => contradiction
  | succ fuel ih =>
      simp only [scanItems, Option.bind_eq_bind, Option.bind_eq_some_iff] at h
      obtain ⟨⟨item, rest₁⟩, hitem, hnext⟩ := h
      have hvalue₁ := hvalue hitem
      have hspace := skipSpace_length rest₁
      split at hnext
      · rename_i rest₂ hcomma
        obtain ⟨elements', hscan, -⟩ := map_fst_eq_some.mp hnext
        have htail := ih hscan
        have hspace₂ := skipSpace_length rest₂
        rw [hcomma, List.length_cons] at hspace
        omega
      · rename_i rest₂ hclose
        simp only [Option.pure_def, Option.some.injEq, Prod.mk.injEq] at hnext
        rw [hclose, List.length_cons] at hspace
        rw [← hnext.2]
        omega
      · contradiction

theorem scanMembers_length {value : Reader} (hvalue : Consumes value) {fuel : Nat}
    {text rest : Text} {entries : List (CodePoints × Json)}
    (h : scanMembers value fuel text = some (entries, rest)) : rest.length < text.length := by
  induction fuel generalizing text rest entries with
  | zero => contradiction
  | succ fuel ih =>
      cases text with
      | nil => contradiction
      | cons c text =>
          unfold scanMembers at h
          split at h
          · simp only [Option.bind_eq_bind, Option.bind_eq_some_iff] at h
            obtain ⟨⟨key, rest₁⟩, hkey, hnext⟩ := h
            -- key, colon, value and comma each take something off the text
            have hkey₁ := readString_length hkey
            have hspace₁ := skipSpace_length rest₁
            split at hnext
            · rename_i rest₂ hcolon
              obtain ⟨⟨item, rest₃⟩, hitem, hnext⟩ := Option.bind_eq_some_iff.mp hnext
              have hitem₃ := hvalue hitem
              have hspace₂ := skipSpace_length rest₂
              have hspace₃ := skipSpace_length rest₃
              rw [hcolon, List.length_cons] at hspace₁
              rw [List.length_cons]
              split at hnext
              · rename_i rest₄ hcomma
                obtain ⟨entries', hscan, -⟩ := map_fst_eq_some.mp hnext
                have htail := ih hscan
                have hspace₄ := skipSpace_length rest₄
                rw [hcomma, List.length_cons] at hspace₃
                omega
              · rename_i rest₄ hclose
                simp only [Option.pure_def, Option.some.injEq, Prod.mk.injEq] at hnext
                rw [hclose, List.length_cons] at hspace₃
                rw [← hnext.2]
                omega
              · contradiction
            · contradiction
          · contradiction

theorem scanArray_length {items : Text → Option (List Json × Text)}
    (hitems : ∀ {text elements rest}, items text = some (elements, rest) →
      rest.length < text.length)
    {text rest : Text} {json : Json} (h : scanArray items text = some (json, rest)) :
    rest.length < text.length := by
  have hspace := skipSpace_length text
  unfold scanArray at h
  split at h
  · rename_i rest' hclose
    simp only [Option.some.injEq, Prod.mk.injEq] at h
    rw [hclose, List.length_cons] at hspace
    rw [← h.2]
    omega
  · obtain ⟨elements, hscan, -⟩ := map_fst_eq_some.mp h
    exact (hitems hscan).trans_le hspace

theorem scanObject_length {members : Text → Option (List (CodePoints × Json) × Text)}
    (hmembers : ∀ {text entries rest}, members text = some (entries, rest) →
      rest.length < text.length)
    {text rest : Text} {json : Json} (h : scanObject members text = some (json, rest)) :
    rest.length < text.length := by
  have hspace := skipSpace_length text
  unfold scanObject at h
  split at h
  · rename_i rest' hclose
    simp only [Option.some.injEq, Prod.mk.injEq] at h
    rw [hclose, List.length_cons] at hspace
    rw [← h.2]
    omega
  · obtain ⟨entries, hscan, -⟩ := map_fst_eq_some.mp h
    exact (hmembers hscan).trans_le hspace

theorem scanOnce_consumes (fuel : Nat) : Consumes (scanOnce fuel) := by
  induction fuel with
  | zero =>
      intro text json rest h
      simp [scanOnce] at h
  | succ fuel ih =>
      intro text json rest h
      cases text with
      | nil => contradiction
      | cons c text =>
          unfold scanOnce at h
          split at h
          · obtain ⟨points, hread, -⟩ := map_fst_eq_some.mp h
            exact (readString_length hread).trans (Nat.lt_succ_self _)
          · split at h
            · exact (scanObject_length (scanMembers_length ih) h).trans (Nat.lt_succ_self _)
            · split at h
              · exact (scanArray_length (scanItems_length ih) h).trans (Nat.lt_succ_self _)
              · exact scanAtom_consumes h

theorem value_consumes : Consumes value :=
  fun h => scanOnce_consumes _ h

/-! ## The length of the text is enough fuel -/

section Fuel

variable {value value' : Reader} {bound : Nat}

theorem scanItems_congr (hvalue : Consumes value)
    (hagree : ∀ text : Text, text.length ≤ bound → value text = value' text) {n m : Nat}
    {text : Text} (hbound : text.length ≤ bound) (hn : text.length < n)
    (hm : text.length < m) : scanItems value n text = scanItems value' m text := by
  induction n generalizing m text with
  | zero => omega
  | succ n ih =>
      obtain ⟨m, rfl⟩ := Nat.exists_eq_add_one_of_ne_zero (Nat.ne_zero_of_lt hm)
      simp only [scanItems, ← hagree text hbound]
      refine Option.bind_congr fun ⟨item, rest⟩ hitem => ?_
      have hrest := hvalue hitem
      have hspace := skipSpace_length rest
      dsimp only
      split
      · rename_i rest' hcomma
        have hspace' := skipSpace_length rest'
        rw [hcomma, List.length_cons] at hspace
        rw [ih (m := m) (by omega) (by omega) (by omega)]
      · rfl
      · rfl

theorem scanMembers_congr (hvalue : Consumes value)
    (hagree : ∀ text : Text, text.length ≤ bound → value text = value' text) {n m : Nat}
    {text : Text} (hbound : text.length ≤ bound) (hn : text.length < n)
    (hm : text.length < m) : scanMembers value n text = scanMembers value' m text := by
  induction n generalizing m text with
  | zero => omega
  | succ n ih =>
      obtain ⟨m, rfl⟩ := Nat.exists_eq_add_one_of_ne_zero (Nat.ne_zero_of_lt hm)
      cases text with
      | nil => rfl
      | cons c text =>
          rw [List.length_cons] at hbound hn hm
          simp only [scanMembers]
          split
          · refine Option.bind_congr fun ⟨key, rest₁⟩ hkey => ?_
            have hkey₁ := readString_length hkey
            have hspace₁ := skipSpace_length rest₁
            dsimp only
            split
            · rename_i rest₂ hcolon
              have hspace₂ := skipSpace_length rest₂
              rw [hcolon, List.length_cons] at hspace₁
              rw [← hagree (skipSpace rest₂) (by omega)]
              refine Option.bind_congr fun ⟨item, rest₃⟩ hitem => ?_
              have hitem₃ := hvalue hitem
              have hspace₃ := skipSpace_length rest₃
              dsimp only
              split
              · rename_i rest₄ hcomma
                have hspace₄ := skipSpace_length rest₄
                rw [hcomma, List.length_cons] at hspace₃
                rw [ih (m := m) (by omega) (by omega) (by omega)]
              · rfl
              · rfl
            · rfl
          · rfl

end Fuel

theorem scanArray_congr {items items' : Text → Option (List Json × Text)} {text : Text}
    (h : items (skipSpace text) = items' (skipSpace text)) :
    scanArray items text = scanArray items' text := by
  unfold scanArray
  split
  · rfl
  · rw [h]

theorem scanObject_congr {members members' : Text → Option (List (CodePoints × Json) × Text)}
    {text : Text} (h : members (skipSpace text) = members' (skipSpace text)) :
    scanObject members text = scanObject members' text := by
  unfold scanObject
  split
  · rfl
  · rw [h]

/-- Any two amounts of fuel above the length of the text read the same. -/
theorem scanOnce_fuel {n m : Nat} {text : Text} (hn : text.length < n) (hm : text.length < m) :
    scanOnce n text = scanOnce m text := by
  induction n generalizing m text with
  | zero => omega
  | succ n ih =>
      obtain ⟨m, rfl⟩ := Nat.exists_eq_add_one_of_ne_zero (Nat.ne_zero_of_lt hm)
      cases text with
      | nil => rfl
      | cons c text =>
          have hspace := skipSpace_length text
          rw [List.length_cons] at hn hm
          have hagree : ∀ t : Text, t.length ≤ text.length → scanOnce n t = scanOnce m t :=
            fun t ht => ih (by omega) (by omega)
          simp only [scanOnce]
          have hmembers : scanMembers (scanOnce n) n (skipSpace text) =
              scanMembers (scanOnce m) m (skipSpace text) :=
            scanMembers_congr (scanOnce_consumes n) hagree hspace (by omega) (by omega)
          have hitems : scanItems (scanOnce n) n (skipSpace text) =
              scanItems (scanOnce m) m (skipSpace text) :=
            scanItems_congr (scanOnce_consumes n) hagree hspace (by omega) (by omega)
          rw [scanObject_congr hmembers, scanArray_congr hitems]

theorem scanOnce_eq_value {n : Nat} {text : Text} (h : text.length < n) :
    scanOnce n text = value text :=
  scanOnce_fuel h (Nat.lt_succ_self _)

theorem scanItems_eq_items {n : Nat} {text : Text} (h : text.length < n) :
    scanItems value n text = items text :=
  scanItems_congr value_consumes (fun _ _ => rfl) le_rfl h (Nat.lt_succ_self _)

theorem scanMembers_eq_members {n : Nat} {text : Text} (h : text.length < n) :
    scanMembers value n text = members text :=
  scanMembers_congr value_consumes (fun _ _ => rfl) le_rfl h (Nat.lt_succ_self _)

/-! ## The equations of the scanner -/

@[simp] theorem value_nil : value [] = none := rfl

theorem value_string (rest : Text) :
    value ('"' :: rest) = (readString rest).map (Prod.map string id) := rfl

theorem value_object (rest : Text) : value ('{' :: rest) = scanObject members rest := by
  show scanObject (scanMembers (scanOnce (rest.length + 1)) (rest.length + 1)) rest = _
  refine scanObject_congr ?_
  have hspace := skipSpace_length rest
  exact scanMembers_congr (scanOnce_consumes _)
    (fun text htext => scanOnce_eq_value (Nat.lt_succ_of_le htext)) hspace
    (Nat.lt_succ_of_le hspace) (Nat.lt_succ_self _)

theorem value_array (rest : Text) : value ('[' :: rest) = scanArray items rest := by
  show scanArray (scanItems (scanOnce (rest.length + 1)) (rest.length + 1)) rest = _
  refine scanArray_congr ?_
  have hspace := skipSpace_length rest
  exact scanItems_congr (scanOnce_consumes _)
    (fun text htext => scanOnce_eq_value (Nat.lt_succ_of_le htext)) hspace
    (Nat.lt_succ_of_le hspace) (Nat.lt_succ_self _)

/-- No value starts with a closing bracket. -/
theorem value_close (rest : Text) : value (']' :: rest) = none := rfl

section Members

variable {key : CodePoints} {json : Json} {text rest rest₁ rest₂ rest₃ : Text}

theorem members_of_ne {c : Char} (hc : c ≠ '"') : members (c :: text) = none := by
  simp [members, scanMembers, hc]

theorem members_of_no_colon (hkey : readString text = some (key, rest))
    (hcolon : ∀ rest', skipSpace rest ≠ ':' :: rest') : members ('"' :: text) = none := by
  simp [members, scanMembers, hkey]

theorem members_of_no_value (hkey : readString text = some (key, rest))
    (hcolon : skipSpace rest = ':' :: rest₁) (hvalue : value (skipSpace rest₁) = none) :
    members ('"' :: text) = none := by
  simp [members, scanMembers, hkey, hcolon, hvalue]

/-- An entry and a comma: the entry stands before what is read after the comma. -/
theorem members_next (hkey : readString text = some (key, rest))
    (hcolon : skipSpace rest = ':' :: rest₁)
    (hvalue : value (skipSpace rest₁) = some (json, rest₂))
    (hcomma : skipSpace rest₂ = ',' :: rest₃) :
    members ('"' :: text) =
      (members (skipSpace rest₃)).map (Prod.map ((key, json) :: ·) id) := by
  have hkey' := readString_length hkey
  have hspace := skipSpace_length rest
  have hspace₁ := skipSpace_length rest₁
  have hvalue' := value_consumes hvalue
  have hspace₂ := skipSpace_length rest₂
  have hspace₃ := skipSpace_length rest₃
  rw [hcolon, List.length_cons] at hspace
  rw [hcomma, List.length_cons] at hspace₂
  have hfuel : (skipSpace rest₃).length < text.length + 1 := by omega
  have hread : members ('"' :: text) =
      (scanMembers value (text.length + 1) (skipSpace rest₃)).map
        (Prod.map ((key, json) :: ·) id) := by
    simp [members, scanMembers, hkey, hcolon, hvalue, hcomma]
  rw [hread, scanMembers_eq_members hfuel]

/-- An entry and the closing brace. -/
theorem members_last (hkey : readString text = some (key, rest))
    (hcolon : skipSpace rest = ':' :: rest₁)
    (hvalue : value (skipSpace rest₁) = some (json, rest₂))
    (hclose : skipSpace rest₂ = '}' :: rest₃) :
    members ('"' :: text) = some ([(key, json)], rest₃) := by
  simp [members, scanMembers, hkey, hcolon, hvalue, hclose]

end Members

section Items

variable {json : Json} {text rest rest₁ : Text}

theorem items_of_no_value (hvalue : value text = none) : items text = none := by
  simp [items, scanItems, hvalue]

theorem items_next (hvalue : value text = some (json, rest))
    (hcomma : skipSpace rest = ',' :: rest₁) :
    items text = (items (skipSpace rest₁)).map (Prod.map (json :: ·) id) := by
  have hvalue' := value_consumes hvalue
  have hspace := skipSpace_length rest
  have hspace₁ := skipSpace_length rest₁
  rw [hcomma, List.length_cons] at hspace
  have hfuel : (skipSpace rest₁).length < text.length := by omega
  have hread : items text =
      (scanItems value text.length (skipSpace rest₁)).map (Prod.map (json :: ·) id) := by
    simp [items, scanItems, hvalue, hcomma]
  rw [hread, scanItems_eq_items hfuel]

theorem items_last (hvalue : value text = some (json, rest))
    (hclose : skipSpace rest = ']' :: rest₁) : items text = some ([json], rest₁) := by
  simp [items, scanItems, hvalue, hclose]

end Items

/-! ## Code points -/

theorem toNat_not_surrogate (c : Char) : ¬(0xD800 ≤ c.toNat ∧ c.toNat ≤ 0xDFFF) := by
  rintro ⟨hlow, hhigh⟩
  have hvalid : c.toNat.isValidChar := c.valid
  rcases hvalid with h | h <;> omega

theorem joinSurrogates_codes (text : Text) : joinSurrogates (codes text) = codes text := by
  induction text with
  | nil => rfl
  | cons c text ih =>
      cases text with
      | nil => rfl
      | cons d text =>
          have hc := toNat_not_surrogate c
          have hjoin : ¬(0xD800 ≤ c.toNat ∧ c.toNat ≤ 0xDBFF ∧
              0xDC00 ≤ d.toNat ∧ d.toNat ≤ 0xDFFF) := by omega
          show (if 0xD800 ≤ c.toNat ∧ c.toNat ≤ 0xDBFF ∧ 0xDC00 ≤ d.toNat ∧ d.toNat ≤ 0xDFFF
            then _ else c.toNat :: joinSurrogates (codes (d :: text))) = _
          rw [if_neg hjoin, ih]
          rfl

/-! ## Whole documents -/

theorem loads_of_no_value {text : Text} (h : value (skipSpace text) = none) :
    loads text = none := by
  simp [loads, h]

/-- What opens with a brace and goes on with no key is an error or the empty object. -/
theorem loads_of_no_key {text : Text} (h : (skipSpace text).head? ≠ some '"') :
    loads ('{' :: text) = none ∨ loads ('{' :: text) = some (object []) := by
  have hvalue : value (skipSpace ('{' :: text)) = scanObject members text := value_object text
  unfold scanObject at hvalue
  split at hvalue
  · rename_i rest hclose
    by_cases hend : skipSpace rest = []
    · exact .inr (by simp [loads, hvalue, hend])
    · exact .inl (by simp [loads, hvalue, hend])
  · refine .inl (loads_of_no_value ?_)
    cases htext : skipSpace text with
    | nil => rw [hvalue, htext]; rfl
    | cons c rest =>
        rw [htext] at h
        have hc : c ≠ '"' := fun heq => h (by rw [heq, List.head?_cons])
        rw [hvalue, htext, members_of_ne hc]
        rfl

theorem loads_of_no_members {text rest : Text} (hspace : skipSpace text = '"' :: rest)
    (hmembers : members ('"' :: rest) = none) : loads ('{' :: text) = none := by
  refine loads_of_no_value ?_
  have hvalue : value (skipSpace ('{' :: text)) = scanObject members text := value_object text
  simp [hvalue, scanObject, hspace, hmembers]

end Json

import Mathlib.Data.List.DropRight
import Mathlib.Tactic

/-!
# Texts, lines and stripping

A text is the list of its code points.  `lines` cuts a text after every character that
ends a line; with the newline alone it is what `std::getline` reads, and with Python's
line boundaries it is `str.splitlines`.
-/

/-- A valid Unicode text, as the list of its code points. -/
abbrev Text := List Char

namespace Text

/-- `text.find(token) != npos`. -/
def contains (text token : Text) : Bool :=
  decide (token <:+: text)

theorem contains_iff {text token : Text} : contains text token = true ↔ token <:+: text :=
  decide_eq_true_iff

/-- A token does not reach over a character it does not have. -/
theorem contains_cut {token : Text} {c : Char} (hc : c ∉ token) (front rest : Text) :
    contains (front ++ c :: rest) token = (contains front token || contains rest token) := by
  rw [Bool.eq_iff_iff, Bool.or_eq_true, contains_iff, contains_iff, contains_iff]
  constructor
  · rintro ⟨before, after, h⟩
    rcases List.append_eq_append_iff.mp h with ⟨last, hfront, -⟩ | ⟨last, hfront, hrest⟩
    · exact .inl ⟨before, last, hfront.symm⟩
    · cases last with
      | nil => exact .inl ⟨before, [], (List.append_nil _).trans (hfront.trans (List.append_nil _))⟩
      | cons d last =>
          obtain ⟨rfl, rfl⟩ := List.cons.inj hrest
          -- the token ends behind the character, so it begins there as well
          rcases List.append_eq_append_iff.mp hfront with ⟨first, -, htoken⟩ | ⟨first, -, hlast⟩
          · exact absurd (htoken ▸ List.mem_append_right first List.mem_cons_self) hc
          · cases first with
            | nil => exact absurd (hlast ▸ List.mem_cons_self : c ∈ [] ++ token) hc
            | cons e first =>
                obtain ⟨-, rfl⟩ := List.cons.inj hlast
                exact .inr ⟨first, after, rfl⟩
  · rintro (h | h)
    · exact h.trans (List.prefix_append front _).isInfix
    · exact h.trans ((List.suffix_cons c rest).trans (List.suffix_append front _)).isInfix

/-- A word of other characters does not matter for a token. -/
theorem contains_skip {token word : Text} (hne : token ≠ []) (hword : ∀ c ∈ word, c ∉ token)
    (rest : Text) : contains (word ++ rest) token = contains rest token := by
  induction word with
  | nil => rfl
  | cons c word ih =>
      have hnone : contains [] token = false :=
        decide_eq_false fun h => hne (List.infix_nil.mp h)
      have hcut := contains_cut (hword c List.mem_cons_self) [] (word ++ rest)
      rw [List.cons_append, ← List.nil_append (c :: _), hcut, hnone, Bool.false_or,
        ih fun d hd => hword d (List.mem_cons_of_mem c hd)]

/-- The lines of a text whose first characters `line` have been read already.  A last
line that nothing ends counts when it is not empty. -/
def linesFrom (ends : Char → Bool) (line : Text) : Text → List Text
  | [] => if line = [] then [] else [line]
  | c :: rest =>
      if ends c then line :: linesFrom ends [] rest else linesFrom ends (line ++ [c]) rest

def lines (ends : Char → Bool) (text : Text) : List Text :=
  linesFrom ends [] text

/-- The line boundaries of Python's `str.splitlines`. -/
def isLineBoundary (c : Char) : Bool :=
  c.toNat ∈ [0x0A, 0x0B, 0x0C, 0x0D, 0x1C, 0x1D, 0x1E, 0x85, 0x2028, 0x2029]

/-- A carriage return and the newline after it end one line together. -/
def joinCrLf : Text → Text
  | [] => []
  | [c] => [c]
  | c :: d :: rest =>
      if c = '\r' ∧ d = '\n' then d :: joinCrLf rest else c :: joinCrLf (d :: rest)

/-- Python's `text.splitlines()`. -/
def splitlines (text : Text) : List Text :=
  lines isLineBoundary (joinCrLf text)

/-- Python's `c.isspace()`. -/
def isSpace (c : Char) : Bool :=
  c.toNat ∈ [0x09, 0x0A, 0x0B, 0x0C, 0x0D, 0x1C, 0x1D, 0x1E, 0x1F, 0x20, 0x85, 0xA0, 0x1680,
    0x2000, 0x2001, 0x2002, 0x2003, 0x2004, 0x2005, 0x2006, 0x2007, 0x2008, 0x2009, 0x200A,
    0x2028, 0x2029, 0x202F, 0x205F, 0x3000]

/-- Python's `text.strip()`. -/
def strip (text : Text) : Text :=
  (text.dropWhile isSpace).rdropWhile isSpace

section Lines

variable {ends : Char → Bool}

@[simp] theorem linesFrom_end {c : Char} (hc : ends c = true) (line rest : Text) :
    linesFrom ends line (c :: rest) = line :: linesFrom ends [] rest := by
  simp [linesFrom, hc]

theorem linesFrom_append {text : Text} (htext : ∀ c ∈ text, ends c = false)
    (line rest : Text) :
    linesFrom ends line (text ++ rest) = linesFrom ends (line ++ text) rest := by
  induction text generalizing line with
  | nil => simp
  | cons c text ih =>
      have hc : ends c = false := htext c List.mem_cons_self
      have htail : ∀ d ∈ text, ends d = false := fun d hd => htext d (List.mem_cons_of_mem c hd)
      rw [List.cons_append, linesFrom, if_neg (by simp [hc]), ih htail]
      simp

/-- What follows the end of a line is cut by itself. -/
theorem linesFrom_append_end {c : Char} (hc : ends c = true) (text line rest : Text) :
    linesFrom ends line (text ++ c :: rest) =
      linesFrom ends line (text ++ [c]) ++ lines ends rest := by
  induction text generalizing line with
  | nil => simp [hc, linesFrom, lines]
  | cons d text ih =>
      simp only [List.cons_append, linesFrom]
      split
      · rw [ih, List.cons_append]
      · rw [ih]

theorem lines_append_end {c : Char} (hc : ends c = true) (text rest : Text) :
    lines ends (text ++ c :: rest) = lines ends (text ++ [c]) ++ lines ends rest :=
  linesFrom_append_end hc text [] rest

/-- A text without an end of a line, ended once, is one line. -/
theorem lines_single {text : Text} {c : Char} (htext : ∀ d ∈ text, ends d = false)
    (hc : ends c = true) : lines ends (text ++ [c]) = [text] := by
  rw [lines, linesFrom_append htext, linesFrom_end hc]
  simp [linesFrom]

/-- It makes no difference whether the last line is ended. -/
theorem linesFrom_ended {c d : Char} (hc : ends c = false) (hd : ends d = true)
    (text line : Text) :
    linesFrom ends line (text ++ [c] ++ [d]) = linesFrom ends line (text ++ [c]) := by
  induction text generalizing line with
  | nil => simp [linesFrom, hc, hd]
  | cons e text ih =>
      simp only [List.cons_append, linesFrom]
      split
      · rw [ih]
      · rw [ih]

/-- Lines that are each ended once are read back one by one. -/
theorem lines_flatMap {c : Char} (hc : ends c = true) (texts : List Text)
    (htexts : ∀ text ∈ texts, ∀ d ∈ text, ends d = false) :
    lines ends (texts.flatMap fun text => text ++ [c]) = texts := by
  induction texts with
  | nil => rfl
  | cons text texts ih =>
      have htext := htexts text List.mem_cons_self
      have hrest := ih fun t ht => htexts t (List.mem_cons_of_mem text ht)
      calc lines ends ((text :: texts).flatMap fun text => text ++ [c])
          = lines ends (text ++ c :: texts.flatMap fun text => text ++ [c]) := by simp
        _ = lines ends (text ++ [c]) ++ texts := by rw [lines_append_end hc, hrest]
        _ = text :: texts := by rw [lines_single htext hc, List.singleton_append]

end Lines

/-! ## Python's lines -/

theorem joinCrLf_of_notMem {text : Text} (htext : '\r' ∉ text) : joinCrLf text = text := by
  fun_induction joinCrLf text with
  | case1 => rfl
  | case2 c => rfl
  | case3 c d rest hcrlf ih => exact absurd (hcrlf.1 ▸ List.mem_cons_self) htext
  | case4 c d rest hcrlf ih => rw [ih fun h => htext (List.mem_cons_of_mem c h)]

theorem splitlines_of_notMem {text : Text} (htext : '\r' ∉ text) :
    splitlines text = lines isLineBoundary text := by
  rw [splitlines, joinCrLf_of_notMem htext]

/-! ## Stripping -/

/-- A text whose first and last character are no spaces is left as it is. -/
theorem strip_eq_self {first last : Char} {middle : Text} (hfirst : isSpace first = false)
    (hlast : isSpace last = false) :
    strip (first :: middle ++ [last]) = first :: middle ++ [last] := by
  rw [strip, List.cons_append, List.dropWhile_cons_of_neg (by simp [hfirst]),
    ← List.cons_append, List.rdropWhile_concat_neg _ _ _ (by simp [hlast])]

/-- After a front part that starts and ends with no space, only the rest is stripped. -/
theorem strip_append {first last : Char} {middle : Text} (hfirst : isSpace first = false)
    (hlast : isSpace last = false) (text : Text) :
    strip (first :: middle ++ [last] ++ text) =
      first :: middle ++ [last] ++ text.rdropWhile isSpace := by
  rw [strip, List.cons_append, List.cons_append,
    List.dropWhile_cons_of_neg (by simp [hfirst]), ← List.cons_append, ← List.cons_append]
  induction text using List.reverseRecOn with
  | nil => rw [List.append_nil, List.rdropWhile_nil, List.append_nil,
      List.rdropWhile_concat_neg _ _ _ (by simp [hlast])]
  | append_singleton text c ih =>
      rw [← List.append_assoc]
      cases hc : isSpace c with
      | true => rw [List.rdropWhile_concat_pos _ _ _ hc, List.rdropWhile_concat_pos _ _ _ hc, ih]
      | false =>
          rw [List.rdropWhile_concat_neg _ _ _ (by simp [hc]),
            List.rdropWhile_concat_neg _ _ _ (by simp [hc]), List.append_assoc]

/-- Stripping on the right keeps a front part of the text. -/
theorem strip_prefix_dropWhile (text : Text) : strip text <+: text.dropWhile isSpace :=
  List.rdropWhile_prefix isSpace _

end Text

import Mathlib.Data.List.DropRight
import Mathlib.Tactic

/-!
# Lines of a text that arrives in pieces

A mark ends a line.  A reader that stops at the end of what there is takes an
unfinished last line for a line (`lines`); the lines that a mark ends are
`terminated`.  Reading the pieces of a text one after the other gives the
terminated lines of the text exactly if no piece stops inside a line
(`flatMap_lines_eq_iff`): every piece that does is one line too many.
-/

namespace Lines

variable {α : Type*} [DecidableEq α]

/-- The terminated lines of a text whose first line has begun with `line`. -/
def terminatedFrom (mark : α) (line : List α) : List α → List (List α)
  | [] => []
  | a :: text =>
      if a = mark then line :: terminatedFrom mark [] text
      else terminatedFrom mark (line ++ [a]) text

/-- The lines that a mark ends. -/
def terminated (mark : α) (text : List α) : List (List α) :=
  terminatedFrom mark [] text

/-- What follows the last mark. -/
def unfinished (mark : α) (text : List α) : List α :=
  text.rtakeWhile fun a => decide (a ≠ mark)

/-- The text up to the last mark. -/
def finished (mark : α) (text : List α) : List α :=
  text.rdropWhile fun a => decide (a ≠ mark)

/-- The lines of a text, with an unfinished last one unless it is empty. -/
def lines (mark : α) (text : List α) : List (List α) :=
  terminated mark text ++ if unfinished mark text = [] then [] else [unfinished mark text]

variable {mark : α} {line text more : List α}

/-! ## Line by line -/

/-- A text without a mark, or a first line in front of another text. -/
@[elab_as_elim]
theorem line_induction (mark : α) {motive : List α → Prop}
    (tail : ∀ text, mark ∉ text → motive text)
    (line : ∀ line rest, mark ∉ line → motive rest → motive (line ++ mark :: rest))
    (text : List α) : motive text := by
  induction hlength : text.length using Nat.strong_induction_on generalizing text with
  | h n ih =>
      by_cases hmark : mark ∈ text
      · obtain ⟨first, rest, rfl, hfirst⟩ := List.eq_append_cons_of_mem hmark
        refine line first rest hfirst (ih rest.length ?_ rest rfl)
        rw [List.length_append, List.length_cons] at hlength
        omega
      · exact tail text hmark

theorem terminatedFrom_append (htext : mark ∉ text) :
    terminatedFrom mark line (text ++ more) = terminatedFrom mark (line ++ text) more := by
  induction text generalizing line with
  | nil => rw [List.nil_append, List.append_nil]
  | cons a text ih =>
      obtain ⟨ha, htext⟩ := List.ne_and_not_mem_of_not_mem_cons htext
      rw [List.cons_append, terminatedFrom, if_neg ha.symm, ih htext, List.append_assoc]
      rfl

theorem terminated_of_notMem (htext : mark ∉ text) : terminated mark text = [] := by
  rw [terminated, ← List.append_nil text, terminatedFrom_append htext]
  rfl

@[simp] theorem terminated_line (hline : mark ∉ line) :
    terminated mark (line ++ mark :: text) = line :: terminated mark text := by
  rw [terminated, terminatedFrom_append hline, List.nil_append, terminatedFrom, if_pos rfl]
  rfl

theorem unfinished_of_notMem (htext : mark ∉ text) : unfinished mark text = text := by
  rw [unfinished, List.rtakeWhile_eq_self_iff]
  intro a ha
  exact decide_eq_true (ne_of_mem_of_not_mem ha htext)

@[simp] theorem unfinished_line :
    unfinished mark (line ++ mark :: text) = unfinished mark text := by
  induction text using List.reverseRecOn with
  | nil => rw [unfinished, List.rtakeWhile_concat_neg _ _ _ (by simp)]; rfl
  | append_singleton text a ih =>
      rw [unfinished, unfinished, ← List.cons_append, ← List.append_assoc]
      by_cases ha : a = mark
      · rw [List.rtakeWhile_concat_neg _ _ _ (by simpa using ha),
          List.rtakeWhile_concat_neg _ _ _ (by simpa using ha)]
      · rw [List.rtakeWhile_concat_pos _ _ _ (by simpa using ha),
          List.rtakeWhile_concat_pos _ _ _ (by simpa using ha)]
        exact congrArg (· ++ [a]) ih

theorem finished_of_notMem (htext : mark ∉ text) : finished mark text = [] := by
  rw [finished, List.rdropWhile_eq_nil_iff]
  intro a ha
  exact decide_eq_true (ne_of_mem_of_not_mem ha htext)

@[simp] theorem finished_line :
    finished mark (line ++ mark :: text) = line ++ mark :: finished mark text := by
  induction text using List.reverseRecOn with
  | nil => rw [finished, List.rdropWhile_concat_neg _ _ _ (by simp)]; rfl
  | append_singleton text a ih =>
      rw [finished, finished, ← List.cons_append, ← List.append_assoc]
      by_cases ha : a = mark
      · rw [List.rdropWhile_concat_neg _ _ _ (by simpa using ha),
          List.rdropWhile_concat_neg _ _ _ (by simpa using ha), List.append_assoc]
        rfl
      · rw [List.rdropWhile_concat_pos _ _ _ (by simpa using ha),
          List.rdropWhile_concat_pos _ _ _ (by simpa using ha)]
        exact ih

theorem lines_of_notMem (htext : mark ∉ text) (hne : text ≠ []) : lines mark text = [text] := by
  rw [lines, terminated_of_notMem htext, unfinished_of_notMem htext, if_neg hne]
  rfl

@[simp] theorem lines_line (hline : mark ∉ line) :
    lines mark (line ++ mark :: text) = line :: lines mark text := by
  rw [lines, terminated_line hline, unfinished_line]
  rfl

/-! ## Texts that stop at a mark -/

theorem unfinished_eq_nil_iff :
    unfinished mark text = [] ↔ ∀ last ∈ text.getLast?, last = mark := by
  rw [unfinished, List.rtakeWhile_eq_nil_iff]
  constructor
  · intro h last hlast
    obtain ⟨hne, rfl⟩ := List.mem_getLast?_eq_getLast hlast
    simpa using h hne
  · intro h hne
    simpa using h _ (List.getLast?_eq_getLast_of_ne_nil hne ▸ rfl)

theorem lines_eq_terminated (h : unfinished mark text = []) :
    lines mark text = terminated mark text := by
  rw [lines, if_pos h, List.append_nil]

/-- Whole lines can be read by themselves. -/
theorem terminated_append (h : unfinished mark text = []) :
    terminated mark (text ++ more) = terminated mark text ++ terminated mark more := by
  induction text using line_induction mark with
  | tail text htext =>
      rw [unfinished_of_notMem htext] at h
      subst h
      rfl
  | line line rest hline ih =>
      rw [unfinished_line] at h
      rw [List.append_assoc, List.cons_append, terminated_line hline, terminated_line hline,
        ih h]
      rfl

/-- All the lines of the text up to the last mark are terminated ones, and no other is. -/
theorem lines_finished (mark : α) (text : List α) :
    lines mark (finished mark text) = terminated mark text := by
  induction text using line_induction mark with
  | tail text htext =>
      rw [finished_of_notMem htext, terminated_of_notMem htext]
      rfl
  | line line rest hline ih =>
      rw [finished_line, lines_line hline, terminated_line hline, ih]

/-! ## Pieces -/

theorem length_terminated (mark : α) (text : List α) :
    (terminated mark text).length = text.count mark := by
  induction text using line_induction mark with
  | tail text htext => rw [terminated_of_notMem htext, List.count_eq_zero_of_not_mem htext]; rfl
  | line line rest hline ih =>
      rw [terminated_line hline, List.count_append, List.count_cons_self,
        List.count_eq_zero_of_not_mem hline, List.length_cons, ih]
      omega

/-- An unfinished line is one line more. -/
theorem count_le_length_lines (mark : α) (text : List α) :
    text.count mark ≤ (lines mark text).length ∧
      ((lines mark text).length = text.count mark → unfinished mark text = []) := by
  rw [lines, List.length_append, length_terminated]
  split_ifs with h
  · simp [h]
  · simp

theorem length_flatMap_lines (mark : α) (pieces : List (List α)) :
    pieces.flatten.count mark ≤ (pieces.flatMap (lines mark)).length ∧
      ((pieces.flatMap (lines mark)).length = pieces.flatten.count mark →
        ∀ piece ∈ pieces, unfinished mark piece = []) := by
  induction pieces with
  | nil => simp
  | cons piece pieces ih =>
      obtain ⟨hpiece, hunfinished⟩ := count_le_length_lines mark piece
      obtain ⟨hpieces, hrest⟩ := ih
      rw [List.flatten_cons, List.flatMap_cons, List.count_append, List.length_append]
      refine ⟨by omega, fun hlength => List.forall_mem_cons.mpr ⟨?_, ?_⟩⟩
      · exact hunfinished (by omega)
      · exact hrest (by omega)

/-- Read one after the other, the pieces of a text give its terminated lines exactly if none
of them stops inside a line. -/
theorem flatMap_lines_eq_iff (mark : α) (pieces : List (List α)) :
    pieces.flatMap (lines mark) = terminated mark pieces.flatten ↔
      ∀ piece ∈ pieces, unfinished mark piece = [] := by
  constructor
  · intro h
    apply (length_flatMap_lines mark pieces).2
    rw [h, length_terminated]
  · intro h
    induction pieces with
    | nil => rfl
    | cons piece pieces ih =>
        obtain ⟨hpiece, hpieces⟩ := List.forall_mem_cons.mp h
        rw [List.flatMap_cons, List.flatten_cons, ih hpieces, lines_eq_terminated hpiece,
          terminated_append hpiece]

end Lines

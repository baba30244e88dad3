import JobQueue.Lib.Lines
import JobQueue.Model.LogFile

/-!
# A log file that grows

The reader of the log file takes what the end of the file cuts off for a line.  Each poll of a
file that is followed ends there, so a poll that comes while a line is being written passes
this line on in two pieces.  Following the file is reading its terminated lines exactly if
every append ends a line.
-/

namespace JobQueue

namespace SelfHealer

/-! ## One poll -/

theorem getline_line {line : Bytes} (hline : newline ∉ line) (rest : Bytes) :
    getline { rest := line ++ newline :: rest } = (some line, { rest }) := by
  have hall : ∀ byte ∈ line, decide (byte ≠ newline) = true :=
    fun byte hbyte => decide_eq_true (ne_of_mem_of_not_mem hbyte hline)
  rw [getline, if_neg (by simp)]
  dsimp only
  rw [List.dropWhile_append_of_pos hall, List.takeWhile_append_of_pos hall]
  simp

theorem getline_unfinished {line : Bytes} (hline : newline ∉ line) (hne : line ≠ []) :
    getline { rest := line } = (some line, { eof := true }) := by
  have hall : ∀ byte ∈ line, decide (byte ≠ newline) = true :=
    fun byte hbyte => decide_eq_true (ne_of_mem_of_not_mem hbyte hline)
  rw [getline, if_neg (by simp)]
  dsimp only
  rw [List.dropWhile_eq_nil_iff.mpr hall, List.takeWhile_eq_self_iff.mpr hall]
  dsimp only
  rw [if_neg hne]

theorem readLines_of_none {file next : Ifstream} (h : getline file = (none, next)) :
    readLines file = ([], next) := by
  rw [readLines]
  split <;> simp_all

theorem readLines_of_some {file next : Ifstream} {line : Bytes}
    (h : getline file = (some line, next)) :
    readLines file = (line :: (readLines next).1, (readLines next).2) := by
  rw [readLines]
  split <;> simp_all

/-- A poll reads all there is, an unfinished last line included. -/
theorem readLines_good (rest : Bytes) :
    readLines { rest } = (Lines.lines newline rest, { eof := true, fail := true }) := by
  induction rest using Lines.line_induction newline with
  | tail line hline =>
      by_cases hne : line = []
      · subst hne
        exact readLines_of_none rfl
      · have hend : readLines { eof := true } = ([], { eof := true, fail := true }) :=
          readLines_of_none rfl
        rw [Lines.lines_of_notMem hline hne, readLines_of_some (getline_unfinished hline hne),
          hend]
  | line line rest hline ih =>
      rw [Lines.lines_line hline, readLines_of_some (getline_line hline rest), ih]

/-! ## The loop -/

/-- Between two polls the stream is good and has nothing left to read. -/
theorem pollLines_follow (appends : List Bytes) :
    pollLines true appends {} = appends.flatMap (Lines.lines newline) := by
  induction appends with
  | nil => rfl
  | cons appended appends ih =>
      have hfile : ({} : Ifstream).append appended = { rest := appended } := rfl
      rw [pollLines, hfile, readLines_good, List.flatMap_cons, ← ih]
      rfl

theorem pollLines_once (content : Bytes) :
    pollLines false [content] {} = Lines.lines newline content := by
  have hfile : ({} : Ifstream).append content = { rest := content } := rfl
  rw [pollLines, hfile, readLines_good]
  exact List.append_nil _

/-! ## What is passed on -/

section

variable (detector : LogDetector) (planner : HealingPlanner) (logFile : Text)

/-- The lines passed on are the terminated lines of the content, and what is printed is what a
run that does not follow prints for the terminated lines. -/
def FollowsExactly (appends : List Bytes) : Prop :=
  pollLines true appends {} = Lines.terminated newline appends.flatten ∧
    (runFile { logFile, follow := true } (some appends) detector planner).out =
      (runFile { logFile } (some [Lines.finished newline appends.flatten]) detector planner).out

/-- Following a log file is exact if and only if every append that a poll observes is empty or
ends with a newline. -/
theorem followsExactly_iff (appends : List Bytes) :
    FollowsExactly detector planner logFile appends ↔
      ∀ appended ∈ appends, ∀ last ∈ appended.getLast?, last = newline := by
  have hlines : pollLines true appends {} = Lines.terminated newline appends.flatten ↔
      ∀ appended ∈ appends, ∀ last ∈ appended.getLast?, last = newline := by
    rw [pollLines_follow, Lines.flatMap_lines_eq_iff]
    exact forall₂_congr fun appended _ => Lines.unfinished_eq_nil_iff
  rw [← hlines]
  constructor
  · exact And.left
  · intro h
    refine ⟨h, ?_⟩
    show (pollLines true appends {}).flatMap _ = (pollLines false [_] {}).flatMap _
    rw [h, pollLines_once, Lines.lines_finished]

end

/-! ## A number cut in two -/

def bytesOf (text : String) : Bytes :=
  text.toList.map fun c => c.toNat.toUInt8

/-- A failure of job 12 is written while a poll comes along. -/
def cutAppends : List Bytes :=
  [bytesOf "Job failed jobId=1", bytesOf "2 reason=timeout\n"]

/-- The two pieces are passed on as lines, and what is printed is not what the line gives. -/
theorem cutAppends_misread :
    ¬ FollowsExactly DetectorFactory.createDefaultChain StrategyFactory.createDefaultPlanner []
        cutAppends ∧
      pollLines true cutAppends {} = [bytesOf "Job failed jobId=1", bytesOf "2 reason=timeout"] ∧
      (runFile { follow := true } (some cutAppends) DetectorFactory.createDefaultChain
          StrategyFactory.createDefaultPlanner).out ≠
        (runFile {} (some [cutAppends.flatten]) DetectorFactory.createDefaultChain
          StrategyFactory.createDefaultPlanner).out := by
  refine ⟨fun h => ?_, ?_, ?_⟩
  · have hpassed := h.1
    rw [pollLines_follow] at hpassed
    exact absurd hpassed (by decide +kernel)
  · rw [pollLines_follow]
    decide +kernel
  · show (pollLines true cutAppends {}).flatMap _ ≠ (pollLines false [_] {}).flatMap _
    rw [pollLines_follow, pollLines_once]
    decide +kernel

end SelfHealer

end JobQueue

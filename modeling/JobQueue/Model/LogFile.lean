import JobQueue.Model.SelfHealer

/-!
# `main.cpp`: the log file

What `runFile` reads of a log file to which lines are appended while it runs.  A cut between
two appends may lie anywhere, so the content is bytes here.  The detectors and the writer look
at single bytes and compare them with ASCII characters only: for them a line is the text that
has a character for each of its bytes.
-/

namespace JobQueue

namespace SelfHealer

abbrev Bytes := List UInt8

/-- `'\n'`. -/
def newline : UInt8 := 10

structure AppConfig where
  logFile : Text := []
  follow : Bool := false

/-- An open `std::ifstream`: what has been appended to the file and not been read, `eofbit` and
`failbit`. -/
structure Ifstream where
  rest : Bytes := []
  eof : Bool := false
  fail : Bool := false

/-- `file.clear()`. -/
def Ifstream.clear (file : Ifstream) : Ifstream :=
  { file with eof := false, fail := false }

/-- More has been written to the file. -/
def Ifstream.append (file : Ifstream) (appended : Bytes) : Ifstream :=
  { file with rest := file.rest ++ appended }

/-- `std::getline(file, line)`: the line, if the stream has not failed.  The end of the file ends
a line as well, but there is no line where nothing is left. -/
def getline (file : Ifstream) : Option Bytes × Ifstream :=
  if file.eof || file.fail then (none, { file with fail := true })
  else
    let line := file.rest.takeWhile fun byte => byte ≠ newline
    match file.rest.dropWhile fun byte => byte ≠ newline with
    | _ :: rest => (some line, { file with rest := rest })
    | [] =>
        if line = [] then (none, { rest := [], eof := true, fail := true })
        else (some line, { rest := [], eof := true, fail := false })

/-- A line that was read is gone from the file. -/
theorem rest_getline_lt {file : Ifstream} {line : Bytes} {next : Ifstream}
    (h : getline file = (some line, next)) : next.rest.length < file.rest.length := by
  have hlength := congrArg List.length
    (List.takeWhile_append_dropWhile (p := fun byte => decide (byte ≠ newline)) (l := file.rest))
  rw [List.length_append] at hlength
  rw [getline] at h
  split_ifs at h with hstate
  · cases (Prod.mk.inj h).1
  · dsimp only at h
    split at h
    next hdrop =>
      obtain ⟨-, rfl⟩ := Prod.mk.inj h
      rw [hdrop, List.length_cons] at hlength
      dsimp only
      omega
    next =>
      split_ifs at h with hempty
      · cases (Prod.mk.inj h).1
      · obtain ⟨-, rfl⟩ := Prod.mk.inj h
        have hpositive := List.length_pos_of_ne_nil hempty
        show 0 < _
        omega

/-- `while (std::getline(file, line))`: the lines that are passed to `processLine`. -/
def readLines (file : Ifstream) : List Bytes × Ifstream :=
  match _hline : getline file with
  | (none, next) => ([], next)
  | (some line, next) =>
      let (lines, last) := readLines next
      (line :: lines, last)
termination_by file.rest.length
decreasing_by exact rest_getline_lt ‹_›

/-- The loop of `runFile`, as the lines that are passed to `processLine`.  Each poll reads what
has been appended since the one before; following goes on as long as the file is observed. -/
def pollLines (follow : Bool) : List Bytes → Ifstream → List Bytes
  | [], _ => []
  | appended :: appends, file =>
      let (lines, file) := readLines (file.append appended)
      lines ++ if follow then pollLines follow appends file.clear else []

/-- The `std::string` with these bytes. -/
def stringOf (bytes : Bytes) : Text :=
  bytes.map Char.ofUInt8

/-- What `runFile` has written, and the value it has returned. -/
structure Outcome where
  out : Text := []
  err : Text := []
  returned : Option Int := none

/-- `runFile`; there are no appends where the file cannot be opened. -/
def runFile (config : AppConfig) (appends : Option (List Bytes)) (detector : LogDetector)
    (planner : HealingPlanner) : Outcome :=
  match appends with
  | none =>
      { err := "Unable to open log file: ".toList ++ config.logFile ++ ['\n'], returned := some 1 }
  | some appends =>
      { out := (pollLines config.follow appends {}).flatMap fun line =>
          processLine (stringOf line) detector planner
        returned := if config.follow then none else some 0 }

end SelfHealer

end JobQueue

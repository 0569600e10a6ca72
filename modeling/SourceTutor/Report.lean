import SourceTutor.Lesson.Conversation
import SourceTutor.Probe
import SourceTutor.Queue.Schedule

/-!
# What the user reads

The lines that report on a file, on a run, on the models and on the connection.
-/

set_option autoImplicit false

namespace SourceTutor.Report

/-- The text of these lines. -/
def lines (ls : List String) : String := String.join (ls.map (· ++ "\n"))

/-- The mark of success. -/
def tick : String := "✓"

/-- The mark of failure. -/
def cross : String := "✗"

/-- A file cannot be read. -/
def unreadable (file reason : String) : String :=
  lines ["  " ++ cross ++ " " ++ file ++ ": " ++ reason]

/-- All answers about a file have been written. -/
def answered (file : String) (artifacts : Nat) : String :=
  lines ["  " ++ tick ++ " " ++ file ++ " (" ++ toString artifacts ++ " files written)"]

/-- A question about a file fails. Questions are counted from one. -/
def unanswered (file : String) (question : Nat) (reason : String) : String :=
  lines ["  " ++ cross ++ " " ++ file ++ ": question " ++ toString (question + 1) ++
    " failed: " ++ reason]

/-- How the conversation about a file ends. -/
def conclusion (file : String) : Lesson.Conclusion → String
  | .completed artifacts => answered file artifacts.length
  | .failed question reason _ => unanswered file question reason
  | .impossibleWait => ""

/-- What a run has done. -/
def summary (s : RunSummary) : String :=
  lines (["", "─── Run Summary ───", "  processed  " ++ toString s.processed,
      "  completed  " ++ toString s.completed, "  failed     " ++ toString s.failed,
      "  remaining  " ++ toString s.remaining] ++
    if s.interrupted then ["  Interrupted: progress saved, run again to resume."] else [])

/-- The text with spaces behind it up to a width. -/
def padded (width : Nat) (s : String) : String :=
  s ++ String.ofList (List.replicate (width - s.length) ' ')

/-- The recommended models. -/
def recommendedModels : String :=
  lines (["Recommended DeepSeek models for code analysis:"] ++
    (Probe.recommended.map fun m => "  " ++ padded 26 m.1 ++ " (" ++ m.2 ++ ")") ++
    ["", "Model availability may vary. Use `check-models` to probe them."])

/-- The line of a probe. -/
def probe (r : Probe.Result) : String :=
  match r.error with
  | none => "  " ++ tick ++ " " ++ r.model ++ ": available"
  | some reason => "  " ++ cross ++ " " ++ r.model ++ ": " ++ reason

/-- The advice at the end of the probes: the first model that answers. -/
def advice (rs : List Probe.Result) : List String :=
  match rs.find? (·.isAvailable) with
  | some first =>
    ["", "Recommended model: " ++ first.model, "Use with: --model " ++ first.model]
  | none => ["", "No models are available. Please check your API key."]

/-- What probes of several models have shown. -/
def probes (rs : List Probe.Result) : String :=
  lines (["", "Model Availability Summary:"] ++ rs.map probe ++ advice rs)

/-- Whether the service answers. -/
def connection (model : String) : Except String String → String
  | .ok reply =>
    lines [tick ++ " Connection to the DeepSeek API succeeded (" ++ model ++ ")",
      "API response: " ++ reply]
  | .error reason =>
    lines [cross ++ " Connection to the DeepSeek API failed (" ++ model ++ "): " ++ reason]

end SourceTutor.Report

import SourceTutor.Binary.Shortest
import SourceTutor.Chat.Message
import SourceTutor.Chat.RetryPolicy
import SourceTutor.Fault
import SourceTutor.Text.Blank
import SourceTutor.Text.Quoted

/-!
# Settings

Everything that can be set, with its standard value, and what makes a setting acceptable. Delays
are given in seconds as floating-point numbers; `Settings.validate` makes sure that they are lengths
of time of at most an hour.
-/

set_option autoImplicit false

namespace SourceTutor

/-- Everything that can be set. -/
structure Settings where
  apiKey : String
  apiBaseUrl : String
  model : String
  /-- For some models, another to ask when the service does not know them. -/
  fallbackModels : List (String × String)
  maxTokens : Nat
  temperature : Binary.Value
  /-- The seconds after which a request is given up. -/
  timeoutSecs : UInt64
  maxAttempts : Nat
  baseDelaySecs : Binary.Value
  maxDelaySecs : Binary.Value
  batchSize : Nat
  /-- The seconds between two files. -/
  throttleSecs : UInt64
  /-- The seconds between two questions about a file. -/
  pacingSecs : Binary.Value
  /-- The name of the directories with artifacts. -/
  outputDir : String
  stateFile : Path
  logFile : Option Path
  /-- The length up to which code is handed over as it is. -/
  maxCodeLength : Nat
  deriving DecidableEq

namespace Settings

/-- A whole number of seconds. -/
def wholeSeconds (n : Nat) : Binary.Value := .finite false n

/-- The settings where nothing is set. -/
def standard : Settings where
  apiKey := ""
  apiBaseUrl := "https://api.deepseek.com/v1"
  model := "deepseek-coder"
  fallbackModels := [("deepseek-coder-v2", "deepseek-coder")]
  maxTokens := Chat.Sampling.standard.maxTokens
  temperature := Chat.Sampling.standard.temperature
  timeoutSecs := 60
  maxAttempts := 5
  baseDelaySecs := wholeSeconds 2
  maxDelaySecs := wholeSeconds 60
  batchSize := 5
  throttleSecs := 5
  pacingSecs := wholeSeconds 1
  outputDir := "docs"
  stateFile := .ofString "code_analyzer_state.json"
  logFile := some (.ofString "code_analyzer.log")
  maxCodeLength := 6000

/-- The key, unless it is blank. -/
def requireKey (s : Settings) : Except Fault String :=
  if Text.isBlankText s.apiKey then .error .missingKey else .ok s.apiKey

/-- Whether the text is a plain name of a directory: not blank, and without slashes. -/
def isPlainName (name : String) : Bool :=
  !Text.isBlankText name && !name.toList.contains '/' && !name.toList.contains '\\'

/-- The greatest acceptable delay, in seconds. -/
def longestDelay : Binary.Value := wholeSeconds 3600

/-- Whether a delay is a number of seconds that is not negative. -/
def isDelay (v : Binary.Value) : Bool := v.isFinite && (Binary.Value.finite false 0).le v

/-- The greater of two values. -/
def greater (a b : Binary.Value) : Binary.Value := if a.le b then b else a

/-- The greatest of the delays. -/
def greatestDelay (s : Settings) : Binary.Value :=
  greater (greater s.baseDelaySecs s.maxDelaySecs) s.pacingSecs

/-- Whether the settings are acceptable; otherwise the first reason why not. -/
def validate (s : Settings) : Except Fault Unit :=
  if s.batchSize = 0 then .error (.settings "batch_size must be at least 1")
  else if s.maxAttempts = 0 then .error (.settings "max_attempts must be at least 1")
  else if Text.isBlankText s.model then .error (.settings "model must not be empty")
  else if !isPlainName s.outputDir then
    .error (.settings
      ("output_dir must be a plain directory name, got " ++ Text.quoted s.outputDir))
  else if !(isDelay s.baseDelaySecs && isDelay s.maxDelaySecs && isDelay s.pacingSecs) then
    .error (.settings "delays must be non-negative")
  else if !s.greatestDelay.le longestDelay then
    .error (.settings ("delays must not exceed " ++ Binary.double.positionalText longestDelay ++
      " seconds, got " ++ Binary.double.positionalText s.greatestDelay))
  else .ok ()

/-- How a failed request is repeated, if the delays are lengths of time. The jitter factor lies
between four and six fifths. -/
def retryPolicy? (s : Settings) : Option Chat.RetryPolicy := do
  some ⟨s.maxAttempts, ← Duration.ofSeconds? s.baseDelaySecs, ← Duration.ofSeconds? s.maxDelaySecs,
    Binary.double.ofDecimal false 8 (-1), Binary.double.ofDecimal false 12 (-1)⟩

/-- The pause between two questions, if it is a length of time. -/
def pacing? (s : Settings) : Option Duration := Duration.ofSeconds? s.pacingSecs

/-- The pause between two files. -/
def throttle (s : Settings) : Duration := Duration.ofSeconds s.throttleSecs

/-- The time after which a request is given up. -/
def timeout (s : Settings) : Duration := Duration.ofSeconds s.timeoutSecs

end Settings

end SourceTutor

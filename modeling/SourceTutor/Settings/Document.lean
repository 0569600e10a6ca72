import SourceTutor.Settings.Basic
import SourceTutor.Toml.Reader

/-!
# Settings as a document

Settings are read from a TOML document. What it does not name keeps its standard value, and names
that it does not know are passed over; a value of the wrong kind or out of range spoils the whole.
-/

set_option autoImplicit false

namespace SourceTutor.Settings

/-- The text of a value. -/
def asText? : Toml → Option String
  | .text s => some s
  | _ => none

/-- The natural number of a value, below a bound. -/
def asNat? (bound : Nat) : Toml → Option Nat
  | .integer i => if 0 ≤ i && i < bound then some i.toNat else none
  | _ => none

/-- The floating-point number of a value in a format; an integer counts as one. -/
def asFloat? (format : Binary.Format) : Toml → Option Binary.Value
  | .float v => some (format.convert v)
  | .integer i => some (format.round (decide (i < 0)) i.natAbs)
  | _ => none

/-- The name under which a moment stands when a table is asked for. -/
def momentName : String := "$__toml_private_datetime"

/-- The texts of a table. A moment counts as a table with its own text as the one entry. -/
def asTexts? : Toml → Option (List (String × String))
  | .table _ es => es.mapM fun e => (asText? e.2).map fun s => (e.1, s)
  | .moment m => some [(momentName, m.text)]
  | _ => none

/-- The path of a value. -/
def asPath? (v : Toml) : Option Path := (asText? v).map Path.ofString

/-- The setting of a name: its standard value if the name is missing. -/
def setting? {α : Type} (es : Toml.Entries) (name : String) (read : Toml → Option α)
    (missing : α) : Option α :=
  match es.lookup name with
  | none => some missing
  | some v => read v

/-- The settings of a table. -/
def ofEntries? (es : Toml.Entries) : Option Settings := do
  let d := standard
  some {
    apiKey := ← setting? es "api_key" asText? d.apiKey
    apiBaseUrl := ← setting? es "api_base_url" asText? d.apiBaseUrl
    model := ← setting? es "model" asText? d.model
    fallbackModels := ← setting? es "fallback_models" asTexts? d.fallbackModels
    maxTokens := ← setting? es "max_tokens" (asNat? UInt32.size) d.maxTokens
    temperature := ← setting? es "temperature" (asFloat? Binary.single) d.temperature
    timeoutSecs :=
      .ofNat (← setting? es "timeout_secs" (asNat? UInt64.size) d.timeoutSecs.toNat)
    maxAttempts := ← setting? es "max_attempts" (asNat? UInt32.size) d.maxAttempts
    baseDelaySecs := ← setting? es "base_delay_secs" (asFloat? Binary.double) d.baseDelaySecs
    maxDelaySecs := ← setting? es "max_delay_secs" (asFloat? Binary.double) d.maxDelaySecs
    batchSize := ← setting? es "batch_size" (asNat? UInt64.size) d.batchSize
    throttleSecs :=
      .ofNat (← setting? es "throttle_secs" (asNat? UInt64.size) d.throttleSecs.toNat)
    pacingSecs := ← setting? es "pacing_secs" (asFloat? Binary.double) d.pacingSecs
    outputDir := ← setting? es "output_dir" asText? d.outputDir
    stateFile := ← setting? es "state_file" asPath? d.stateFile
    logFile := ← setting? es "log_file" (fun v => (asPath? v).map some) d.logFile
    maxCodeLength := ← setting? es "max_code_length" (asNat? UInt64.size) d.maxCodeLength }

/-- The settings of a document. -/
def parse? (s : String) : Option Settings := (Toml.parse? s).bind ofEntries?

end SourceTutor.Settings

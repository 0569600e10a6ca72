import SourceTutor.Duration

/-!
# Waiting before asking again

After the failed attempt number `i`, counted from zero, the wait is the base delay times two to the
`i`, at most the longest delay, times a jitter factor. The power of two stays below two to the
thirty-second, and the product with it saturates.
-/

set_option autoImplicit false

namespace SourceTutor.Chat

/-- How often and after which waits a request is repeated. -/
structure RetryPolicy where
  /-- The number of attempts, the first included. -/
  maxAttempts : Nat
  baseDelay : Duration
  /-- The longest wait, before jitter. -/
  maxDelay : Duration
  jitterLow : Binary.Value
  jitterHigh : Binary.Value
  deriving DecidableEq

namespace RetryPolicy

/-- Two to the given power, or the greatest word of thirty-two bits if it is no such word. -/
def growth (attempt : Nat) : Nat :=
  if attempt < 32 then Nat.pow 2 attempt else UInt32.size - 1

/-- The wait after an attempt, before jitter. -/
def steadyDelay (policy : RetryPolicy) (attempt : Nat) : Duration :=
  (policy.baseDelay.saturatingMul (growth attempt)).min policy.maxDelay

/-- The wait after an attempt for a jitter factor, if it is a length of time. -/
def delay? (policy : RetryPolicy) (attempt : Nat) (jitter : Binary.Value) : Option Duration :=
  (policy.steadyDelay attempt).scale? jitter

/-- The jitter factor: what `draw` picks between the least and the greatest, or the least if there
is nothing to pick from. -/
def jitter (policy : RetryPolicy) (draw : Binary.Value → Binary.Value → Binary.Value) :
    Binary.Value :=
  if policy.jitterHigh.le policy.jitterLow then policy.jitterLow
  else draw policy.jitterLow policy.jitterHigh

end RetryPolicy

end SourceTutor.Chat

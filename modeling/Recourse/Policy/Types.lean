import Mathlib.Algebra.Order.Ring.Rat

namespace Recourse

/-!
# Policy data model

The `policy` package's value types, field for field.  Durations are Go
`time.Duration` values, kept as integers counting nanoseconds; `Normalize` only compares them
with constants and copies them, so unbounded integers compute exactly what the
64-bit ones do.  `BackoffMultiplier` is a `float64` in Go and an exact rational
here, which leaves out `NaN` and rounding.

String-typed Go enumerations (`JitterKind`, `PolicySource`) stay strings: the
code accepts any string into them and validates later.
-/

/-- `time.Millisecond`. -/
def millisecond : Int := 1000000

/-- `time.Second`. -/
def second : Int := 1000 * millisecond

/--
`PolicyKey`: the namespace and name a call site is identified by.  The Go field
`Namespace` is `namespace_` here, `namespace` being a Lean keyword.
-/
structure PolicyKey where
  namespace_ : String
  name : String
  deriving Repr, DecidableEq

/-- `JitterKind`, a string type; the constants below are the values `Normalize` accepts. -/
abbrev JitterKind := String

/-- `JitterNone`. -/
def jitterNone : JitterKind := "none"

/-- `JitterFull`. -/
def jitterFull : JitterKind := "full"

/-- `JitterEqual`. -/
def jitterEqual : JitterKind := "equal"

/-- `BudgetRef`: a budget registry name and the units an attempt costs. -/
structure BudgetRef where
  name : String
  cost : Int
  deriving Repr, DecidableEq

/-- `RetryPolicy`. -/
structure RetryPolicy where
  maxAttempts : Int
  initialBackoff : Int
  maxBackoff : Int
  backoffMultiplier : ℚ
  jitter : JitterKind
  timeoutPerAttempt : Int
  overallTimeout : Int
  classifierName : String
  budget : BudgetRef
  deriving DecidableEq

/-- `HedgePolicy`. -/
structure HedgePolicy where
  enabled : Bool
  maxHedges : Int
  hedgeDelay : Int
  triggerName : String
  cancelOnFirstTerminal : Bool
  budget : BudgetRef
  deriving Repr, DecidableEq

/-- `CircuitPolicy`. -/
structure CircuitPolicy where
  enabled : Bool
  threshold : Int
  cooldown : Int
  deriving Repr, DecidableEq

/-- `PolicySource`, a string type (`static`, `remote`, `lkg`, `default`, `unknown`). -/
abbrev PolicySource := String

/-- `NormalizationInfo`: whether `Normalize` changed anything, and the dotted paths it changed. -/
structure NormalizationInfo where
  changed : Bool
  changedFields : List String
  deriving Repr, DecidableEq

/-- `Metadata`: resolution source and normalization record. -/
structure Metadata where
  source : PolicySource
  normalization : NormalizationInfo
  deriving Repr, DecidableEq

/-- `EffectivePolicy`: the per-call snapshot the executor runs under. -/
structure EffectivePolicy where
  key : PolicyKey
  id : String
  retry : RetryPolicy
  hedge : HedgePolicy
  circuit : CircuitPolicy
  meta : Metadata
  deriving DecidableEq

/-- `DefaultPolicyFor`: three attempts, 10ms to 250ms backoff, no hedging, no circuit. -/
def defaultPolicyFor (key : PolicyKey) : EffectivePolicy where
  key := key
  id := ""
  retry :=
    { maxAttempts := 3
      initialBackoff := 10 * millisecond
      maxBackoff := 250 * millisecond
      backoffMultiplier := 2
      jitter := jitterNone
      timeoutPerAttempt := 0
      overallTimeout := 0
      classifierName := ""
      budget := ⟨"", 1⟩ }
  hedge :=
    { enabled := false
      maxHedges := 0
      hedgeDelay := 0
      triggerName := ""
      cancelOnFirstTerminal := false
      budget := ⟨"", 1⟩ }
  circuit := ⟨false, 0, 0⟩
  meta := ⟨"default", ⟨false, []⟩⟩

/-! ## Guardrail constants of `Normalize` -/

/-- `maxRetryAttempts`. -/
def maxRetryAttempts : Int := 10

/-- `maxHedges`. -/
def maxHedges : Int := 3

/-- `minBackoffFloor`. -/
def minBackoffFloor : Int := 1 * millisecond

/-- `minHedgeDelayFloor`. -/
def minHedgeDelayFloor : Int := 10 * millisecond

/-- `maxBackoffCeiling`. -/
def maxBackoffCeiling : Int := 30 * second

/-- `minTimeoutFloor`. -/
def minTimeoutFloor : Int := 1 * millisecond

/-- `maxBackoffMultiplier`. -/
def maxBackoffMultiplier : ℚ := 10

/-- `minCircuitThreshold`. -/
def minCircuitThreshold : Int := 1

/-- `minCircuitCooldown`. -/
def minCircuitCooldown : Int := 100 * millisecond

end Recourse

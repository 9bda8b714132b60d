import Recourse.Policy.Guardrails
import Recourse.Policy.Key

namespace Recourse.Policy

/-!
# `New` and the policy options

`policy.New` parses a key and hands it to `NewFromKey`.  That function starts
from `DefaultPolicyFor(key)`, applies the options in order and normalizes.
When `Normalize` fails, it normalizes `DefaultPolicyFor(key)` instead, which
drops every option.  The model lives in `Recourse.Policy`, after the Go
package, so that its `Option` does not hide Lean's outside it.

An option is any function on policies, as in Go, where callers may write their
own.  `Normalize` fails only on a jitter it does not accept
(`normalize_eq_error_iff`), so `NewFromKey` drops the options exactly then
(`newFromKey_of_jitter`).  Either way the result is what `Normalize` returned
for some policy (`newFromKey_normalized`), so it lies in the guardrails and is
never the zero policy (`newFromKey_guardrails`).  `BackoffMultiplier` is a
rational here, as everywhere in the model, so these results are about options
that leave it a number: a float64 NaN fails every comparison in `Normalize`
and is kept as it is.
-/

/-- `time.Minute`. -/
def minute : Int := 60 * second

/-- `Option`: configures an `EffectivePolicy` in place. -/
abbrev Option := EffectivePolicy → EffectivePolicy

/-- `for _, opt := range opts { opt(&p) }`: later options override earlier ones. -/
def applyAll (opts : List Option) (p : EffectivePolicy) : EffectivePolicy :=
  opts.foldl (fun p opt => opt p) p

/-- `EffectivePolicy{}`, which `Normalize` returns beside its error. -/
def zeroPolicy : EffectivePolicy where
  key := ⟨"", ""⟩
  id := ""
  retry := ⟨0, 0, 0, 0, "", 0, 0, "", ⟨"", 0⟩⟩
  hedge := ⟨false, 0, 0, "", false, ⟨"", 0⟩⟩
  circuit := ⟨false, 0, 0⟩
  meta := ⟨"", ⟨false, []⟩⟩

/-- `NewFromKey`. -/
def newFromKey (key : PolicyKey) (opts : List Option) : EffectivePolicy :=
  match (applyAll opts (defaultPolicyFor key)).normalize with
  | .ok normalized => normalized
  | .error _ =>
      match (defaultPolicyFor key).normalize with
      | .ok normalized => normalized
      | .error _ => zeroPolicy

/-- `New`. -/
def new (key : String) (opts : List Option) : EffectivePolicy :=
  newFromKey (parseKey key) opts

/-! ## Options -/

/-- `MaxAttempts`. -/
def maxAttempts (n : Int) : Option := fun p => { p with retry.maxAttempts := n }

/-- `InitialBackoff`. -/
def initialBackoff (d : Int) : Option := fun p => { p with retry.initialBackoff := d }

/-- `MaxBackoff`. -/
def maxBackoff (d : Int) : Option := fun p => { p with retry.maxBackoff := d }

/-- `BackoffMultiplier`. -/
def backoffMultiplier (m : ℚ) : Option := fun p => { p with retry.backoffMultiplier := m }

/-- `Backoff`: initial, maximum and multiplier together. -/
def backoff (initial max : Int) (multiplier : ℚ) : Option := fun p =>
  { p with
    retry.initialBackoff := initial
    retry.maxBackoff := max
    retry.backoffMultiplier := multiplier }

/-- `Jitter`. -/
def jitter (j : JitterKind) : Option := fun p => { p with retry.jitter := j }

/-- `PerAttemptTimeout`. -/
def perAttemptTimeout (d : Int) : Option := fun p => { p with retry.timeoutPerAttempt := d }

/-- `OverallTimeout`. -/
def overallTimeout (d : Int) : Option := fun p => { p with retry.overallTimeout := d }

/-- `Classifier`. -/
def classifier (name : String) : Option := fun p => { p with retry.classifierName := name }

/-- `Budget`: the retry budget, at cost 1. -/
def budget (name : String) : Option := fun p => { p with retry.budget := ⟨name, 1⟩ }

/-- `BudgetWithCost`. -/
def budgetWithCost (name : String) (cost : Int) : Option := fun p =>
  { p with retry.budget := ⟨name, cost⟩ }

/-- `PolicyID`. -/
def policyID (id : String) : Option := fun p => { p with id := id }

/-- `EnableHedging`: enable, defaulting a zero `MaxHedges` to 2 and a zero `HedgeDelay` to 200ms. -/
def enableHedging : Option := fun p =>
  { p with
    hedge.enabled := true
    hedge.maxHedges := if p.hedge.maxHedges = 0 then 2 else p.hedge.maxHedges
    hedge.hedgeDelay := if p.hedge.hedgeDelay = 0 then 200 * millisecond else p.hedge.hedgeDelay }

/-- `HedgeMaxAttempts`: enable hedging and set `MaxHedges`. -/
def hedgeMaxAttempts (n : Int) : Option := fun p =>
  { p with hedge.enabled := true, hedge.maxHedges := n }

/-- `HedgeDelay`: enable hedging and set `HedgeDelay`. -/
def hedgeDelay (d : Int) : Option := fun p =>
  { p with hedge.enabled := true, hedge.hedgeDelay := d }

/-- `HedgeTrigger`: enable hedging and name its trigger. -/
def hedgeTrigger (name : String) : Option := fun p =>
  { p with hedge.enabled := true, hedge.triggerName := name }

/-- `HedgeBudget`: the hedge budget, at cost 1. -/
def hedgeBudget (name : String) : Option := fun p => { p with hedge.budget := ⟨name, 1⟩ }

/-- `HedgeCancelOnTerminal`. -/
def hedgeCancelOnTerminal (cancel : Bool) : Option := fun p =>
  { p with hedge.cancelOnFirstTerminal := cancel }

/-! ## Presets -/

/-- `ExponentialBackoff`: doubling backoff with equal jitter. -/
def exponentialBackoff (initial max : Int) : Option := fun p =>
  { p with
    retry.initialBackoff := initial
    retry.maxBackoff := max
    retry.backoffMultiplier := 2
    retry.jitter := jitterEqual }

/-- `ConstantBackoff`: the same delay every time, no jitter. -/
def constantBackoff (delay : Int) : Option := fun p =>
  { p with
    retry.initialBackoff := delay
    retry.maxBackoff := delay
    retry.backoffMultiplier := 1
    retry.jitter := jitterNone }

/-- `HTTPDefaults`. -/
def httpDefaults : Option := fun p =>
  { p with
    retry.maxAttempts := 3
    retry.initialBackoff := 100 * millisecond
    retry.maxBackoff := 2 * second
    retry.backoffMultiplier := 2
    retry.jitter := jitterFull
    retry.timeoutPerAttempt := 10 * second
    retry.overallTimeout := 30 * second
    retry.classifierName := "http" }

/-- `DatabaseDefaults`. -/
def databaseDefaults : Option := fun p =>
  { p with
    retry.maxAttempts := 3
    retry.initialBackoff := 100 * millisecond
    retry.maxBackoff := 5 * second
    retry.backoffMultiplier := 2
    retry.jitter := jitterEqual
    retry.timeoutPerAttempt := 30 * second
    retry.overallTimeout := 60 * second }

/-- `BackgroundJobDefaults`: no per-attempt timeout is set. -/
def backgroundJobDefaults : Option := fun p =>
  { p with
    retry.maxAttempts := 5
    retry.initialBackoff := 1 * second
    retry.maxBackoff := 30 * second
    retry.backoffMultiplier := 2
    retry.jitter := jitterFull
    retry.overallTimeout := 5 * minute }

/-- `LowLatencyDefaults`: tight timeouts, and hedging with two hedges 100ms apart. -/
def lowLatencyDefaults : Option := fun p =>
  { p with
    retry.maxAttempts := 2
    retry.initialBackoff := 10 * millisecond
    retry.maxBackoff := 50 * millisecond
    retry.backoffMultiplier := 2
    retry.jitter := jitterEqual
    retry.timeoutPerAttempt := 500 * millisecond
    retry.overallTimeout := 1 * second
    hedge.enabled := true
    hedge.maxHedges := 2
    hedge.hedgeDelay := 100 * millisecond }

/-! ## What `NewFromKey` returns -/

open EffectivePolicy

/-- The zero-value branch is dead: `DefaultPolicyFor(key)` always normalizes, to itself. -/
theorem newFromKey_eq (key : PolicyKey) (opts : List Option) :
    newFromKey key opts =
      match (applyAll opts (defaultPolicyFor key)).normalize with
      | .ok normalized => normalized
      | .error _ => defaultPolicyFor key := by
  unfold newFromKey
  rw [defaultPolicyFor_normalize]

theorem ne_zeroPolicy_of_guardrails {p : EffectivePolicy} (inRange : Guardrails p) :
    p ≠ zeroPolicy := by
  rintro rfl
  have attempts := inRange.retry_mem.maxAttempts_mem.1
  simp [zeroPolicy] at attempts

/-- `NewFromKey` returns what `Normalize` returned: on the options applied, or on `DefaultPolicyFor(key)` alone. -/
theorem newFromKey_normalized (key : PolicyKey) (opts : List Option) :
    ∃ p : EffectivePolicy, p.normalize = .ok (newFromKey key opts) := by
  rw [newFromKey_eq]
  split
  · exact ⟨_, ‹_›⟩
  · exact ⟨_, defaultPolicyFor_normalize key⟩

/--
Whatever the options, `NewFromKey` returns a policy inside the guardrails, with
`MaxBackoff ≤ max 30s InitialBackoff`, and never the zero `EffectivePolicy{}`;
the multiplier is a rational, never a float64 NaN.
-/
theorem newFromKey_guardrails (key : PolicyKey) (opts : List Option) :
    Guardrails (newFromKey key opts) ∧
      (newFromKey key opts).retry.maxBackoff ≤
        max maxBackoffCeiling (newFromKey key opts).retry.initialBackoff ∧
      newFromKey key opts ≠ zeroPolicy := by
  obtain ⟨_, normalized⟩ := newFromKey_normalized key opts
  have inRange := normalize_guardrails normalized
  exact ⟨inRange.1, inRange.2, ne_zeroPolicy_of_guardrails inRange.1⟩

/--
`NewFromKey` normalizes the options applied to `DefaultPolicyFor(key)` when the
jitter they leave is empty or one of the three kinds; otherwise it returns
`DefaultPolicyFor(key)` itself, every option dropped.
-/
theorem newFromKey_of_jitter (key : PolicyKey) (opts : List Option) :
    (JitterAccepted (applyAll opts (defaultPolicyFor key)).retry.jitter →
      (applyAll opts (defaultPolicyFor key)).normalize = .ok (newFromKey key opts)) ∧
    (¬JitterAccepted (applyAll opts (defaultPolicyFor key)).retry.jitter →
      newFromKey key opts = defaultPolicyFor key) := by
  rw [newFromKey_eq]
  split
  · rename_i normalized accepted
    refine ⟨fun _ => accepted, fun rejected => ?_⟩
    rw [normalize_eq_error_iff.2 ⟨rejected, rfl⟩] at accepted
    cases accepted
  · rename_i err rejected
    exact ⟨fun accepted => absurd accepted (normalize_eq_error_iff.1 rejected).1, fun _ => rfl⟩

/--
`New("svc.Call", Jitter("full"), MaxAttempts(5))` keeps both options;
with `Jitter("fancy")` instead, `MaxAttempts(5)` is dropped with it.
-/
theorem newFromKey_of_jitter_full_fancy :
    JitterAccepted (applyAll [jitter "full", maxAttempts 5] (defaultPolicyFor ⟨"svc", "Call"⟩)).retry.jitter ∧
      (applyAll [jitter "full", maxAttempts 5] (defaultPolicyFor ⟨"svc", "Call"⟩)).normalize =
        .ok (newFromKey ⟨"svc", "Call"⟩ [jitter "full", maxAttempts 5]) ∧
      ¬JitterAccepted
        (applyAll [jitter "fancy", maxAttempts 5] (defaultPolicyFor ⟨"svc", "Call"⟩)).retry.jitter ∧
      newFromKey ⟨"svc", "Call"⟩ [jitter "fancy", maxAttempts 5] = defaultPolicyFor ⟨"svc", "Call"⟩ :=
  have full := newFromKey_of_jitter ⟨"svc", "Call"⟩ [jitter "full", maxAttempts 5]
  have fancy := newFromKey_of_jitter ⟨"svc", "Call"⟩ [jitter "fancy", maxAttempts 5]
  ⟨by decide, full.1 (by decide), by decide, fancy.2 (by decide)⟩

end Recourse.Policy

import Recourse.Policy.Types

namespace Recourse

/-!
# `EffectivePolicy.Normalize`

`Normalize` walks the fields in a fixed order.  Each block tests one field, may
overwrite it, and records the field's dotted path through the `markChanged`
closure, which mutates `normalized.Meta.Normalization`.  A block is one `setIf`
on the field's value and the `NormalizationInfo` (or, for the
`if … else if …` clamps, one `clampIf`).  The source repeats a few sequences of
blocks over different fields; each sequence is one definition below, applied
with the field's own constants and path.

The early returns on `!Hedge.Enabled` and `!Circuit.Enabled` cut the function
into three stages: retry fields with both budget costs, hedge fields, circuit
fields.  A rejected jitter returns `(EffectivePolicy{}, err)` in Go; the model
returns the error alone.
-/

/-- `NormalizeError`: the field and the value `Normalize` rejected. -/
structure NormalizeError where
  field : String
  value : String
  deriving Repr, DecidableEq

namespace NormalizationInfo

/-- The `markChanged` closure: set `Changed`, and append the path unless it is listed. -/
def markChanged
    (norm : NormalizationInfo)
    (field : String) :
    NormalizationInfo where
  changed := true
  changedFields :=
    if field ∈ norm.changedFields then norm.changedFields
    else norm.changedFields ++ [field]

end NormalizationInfo

/-! ## Blocks -/

section Blocks

variable {α : Type}

/-- One `if cond(v) { v = value; markChanged(path) }` block, on a field's value and the record. -/
def setIf
    (cond : α → Prop) [DecidablePred cond]
    (value : α)
    (path : String)
    (current : α × NormalizationInfo) :
    α × NormalizationInfo :=
  if cond current.1 then (value, current.2.markChanged path) else current

/-- `if v < low { v = low } else if v > high { v = high }`, each assignment marking `path`. -/
def clampIf
    [LinearOrder α]
    (low high : α)
    (path : String)
    (current : α × NormalizationInfo) :
    α × NormalizationInfo :=
  if current.1 < low then (low, current.2.markChanged path)
  else setIf (high < ·) high path current

/-- `v == 0` defaults, then a clamp: the `MaxAttempts`, `BackoffMultiplier` and `MaxHedges` blocks. -/
def zeroDefaultClamp
    [LinearOrder α] [Zero α]
    (fallback low high : α)
    (path : String)
    (current : α × NormalizationInfo) :
    α × NormalizationInfo :=
  current
    |> setIf (· = 0) fallback path
    |> clampIf low high path

end Blocks

/-- `v == 0` defaults, then `v < low` floors: the two budget `Cost` blocks. -/
def zeroDefaultFloor
    (fallback low : Int)
    (path : String)
    (current : Int × NormalizationInfo) :
    Int × NormalizationInfo :=
  current
    |> setIf (· = 0) fallback path
    |> setIf (· < low) low path

/--
`v <= 0` defaults, then `v < low` floors: the `InitialBackoff`, `HedgeDelay`,
`Threshold` and `Cooldown` blocks.
-/
def nonPositiveDefaultFloor
    (fallback low : Int)
    (path : String)
    (current : Int × NormalizationInfo) :
    Int × NormalizationInfo :=
  current
    |> setIf (· ≤ 0) fallback path
    |> setIf (· < low) low path

/-- `v < 0` clears, then `v > 0 && v < low` floors: the `TimeoutPerAttempt` and `OverallTimeout` blocks. -/
def zeroOrFloor
    (low : Int)
    (path : String)
    (current : Int × NormalizationInfo) :
    Int × NormalizationInfo :=
  current
    |> setIf (· < 0) 0 path
    |> setIf (fun v => 0 < v ∧ v < low) low path

/--
The `MaxBackoff` blocks: default when non-positive, cap at `maxBackoffCeiling`,
then raise to the already normalized `InitialBackoff`.
-/
def clampMaxBackoff
    (initialBackoff : Int)
    (current : Int × NormalizationInfo) :
    Int × NormalizationInfo :=
  current
    |> setIf (· ≤ 0) (250 * millisecond) "retry.max_backoff"
    |> setIf (maxBackoffCeiling < ·) maxBackoffCeiling "retry.max_backoff"
    |> setIf (· < initialBackoff) initialBackoff "retry.max_backoff"

/-- The `switch normalized.Retry.Jitter`: empty becomes `none`, the three kinds pass, the rest fail. -/
def checkJitter
    (jitter : JitterKind)
    (norm : NormalizationInfo) :
    Except NormalizeError (JitterKind × NormalizationInfo) :=
  if jitter = "" then .ok (jitterNone, norm.markChanged "retry.jitter")
  else if jitter = jitterNone ∨ jitter = jitterFull ∨ jitter = jitterEqual then .ok (jitter, norm)
  else .error ⟨"retry.jitter", jitter⟩

namespace EffectivePolicy

/-- The blocks before the `!Hedge.Enabled` return: retry fields, jitter, both budget costs. -/
def normalizeRetry (p : EffectivePolicy) : Except NormalizeError EffectivePolicy :=
  let maxAttempts :=
    zeroDefaultClamp 3 1 maxRetryAttempts "retry.max_attempts"
      (p.retry.maxAttempts, p.meta.normalization)
  let initialBackoff :=
    nonPositiveDefaultFloor (10 * millisecond) minBackoffFloor "retry.initial_backoff"
      (p.retry.initialBackoff, maxAttempts.2)
  let maxBackoff := clampMaxBackoff initialBackoff.1 (p.retry.maxBackoff, initialBackoff.2)
  let backoffMultiplier :=
    zeroDefaultClamp 2 1 maxBackoffMultiplier "retry.backoff_multiplier"
      (p.retry.backoffMultiplier, maxBackoff.2)
  match checkJitter p.retry.jitter backoffMultiplier.2 with
  | .error err => .error err
  | .ok jitter =>
      let timeoutPerAttempt :=
        zeroOrFloor minTimeoutFloor "retry.timeout_per_attempt"
          (p.retry.timeoutPerAttempt, jitter.2)
      let overallTimeout :=
        zeroOrFloor minTimeoutFloor "retry.overall_timeout"
          (p.retry.overallTimeout, timeoutPerAttempt.2)
      let retryCost :=
        zeroDefaultFloor 1 1 "retry.budget.cost" (p.retry.budget.cost, overallTimeout.2)
      let hedgeCost :=
        zeroDefaultFloor 1 1 "hedge.budget.cost" (p.hedge.budget.cost, retryCost.2)
      .ok { p with
        retry := { p.retry with
          maxAttempts := maxAttempts.1
          initialBackoff := initialBackoff.1
          maxBackoff := maxBackoff.1
          backoffMultiplier := backoffMultiplier.1
          jitter := jitter.1
          timeoutPerAttempt := timeoutPerAttempt.1
          overallTimeout := overallTimeout.1
          budget.cost := retryCost.1 }
        hedge.budget.cost := hedgeCost.1
        meta.normalization := hedgeCost.2 }

/-- The `MaxHedges` and `HedgeDelay` blocks, reached only when hedging is enabled. -/
def normalizeHedge (p : EffectivePolicy) : EffectivePolicy :=
  let maxHedges :=
    zeroDefaultClamp 2 1 Recourse.maxHedges "hedge.max_hedges"
      (p.hedge.maxHedges, p.meta.normalization)
  let hedgeDelay :=
    nonPositiveDefaultFloor (200 * millisecond) minHedgeDelayFloor "hedge.hedge_delay"
      (p.hedge.hedgeDelay, maxHedges.2)
  { p with
    hedge.maxHedges := maxHedges.1
    hedge.hedgeDelay := hedgeDelay.1
    meta.normalization := hedgeDelay.2 }

/-- The `Threshold` and `Cooldown` blocks, reached only when hedging and the circuit are enabled. -/
def normalizeCircuit (p : EffectivePolicy) : EffectivePolicy :=
  let threshold :=
    nonPositiveDefaultFloor 5 minCircuitThreshold "circuit.threshold"
      (p.circuit.threshold, p.meta.normalization)
  let cooldown :=
    nonPositiveDefaultFloor (10 * second) minCircuitCooldown "circuit.cooldown"
      (p.circuit.cooldown, threshold.2)
  { p with
    circuit.threshold := threshold.1
    circuit.cooldown := cooldown.1
    meta.normalization := cooldown.2 }

@[simp] theorem normalizeHedge_key (p : EffectivePolicy) : p.normalizeHedge.key = p.key := rfl
@[simp] theorem normalizeHedge_id (p : EffectivePolicy) : p.normalizeHedge.id = p.id := rfl
@[simp] theorem normalizeHedge_retry (p : EffectivePolicy) : p.normalizeHedge.retry = p.retry := rfl
@[simp] theorem normalizeHedge_circuit (p : EffectivePolicy) :
    p.normalizeHedge.circuit = p.circuit := rfl
@[simp] theorem normalizeHedge_enabled (p : EffectivePolicy) :
    p.normalizeHedge.hedge.enabled = p.hedge.enabled := rfl
@[simp] theorem normalizeHedge_budget (p : EffectivePolicy) :
    p.normalizeHedge.hedge.budget = p.hedge.budget := rfl
@[simp] theorem normalizeCircuit_key (p : EffectivePolicy) : p.normalizeCircuit.key = p.key := rfl
@[simp] theorem normalizeCircuit_id (p : EffectivePolicy) : p.normalizeCircuit.id = p.id := rfl
@[simp] theorem normalizeCircuit_retry (p : EffectivePolicy) :
    p.normalizeCircuit.retry = p.retry := rfl
@[simp] theorem normalizeCircuit_hedge (p : EffectivePolicy) :
    p.normalizeCircuit.hedge = p.hedge := rfl
@[simp] theorem normalizeCircuit_enabled (p : EffectivePolicy) :
    p.normalizeCircuit.circuit.enabled = p.circuit.enabled := rfl

/-- `EffectivePolicy.Normalize`. -/
def normalize (p : EffectivePolicy) : Except NormalizeError EffectivePolicy :=
  match p.normalizeRetry with
  | .error err => .error err
  | .ok normalized =>
      if !normalized.hedge.enabled then .ok normalized
      else if !normalized.normalizeHedge.circuit.enabled then .ok normalized.normalizeHedge
      else .ok normalized.normalizeHedge.normalizeCircuit

/-- Overwriting the metadata of `q` gives `p` exactly when the two agree on every other field. -/
theorem with_meta_eq_iff {q p : EffectivePolicy} {meta : Metadata} :
    { q with meta } = p ↔
      q.key = p.key ∧ q.id = p.id ∧ q.retry = p.retry ∧ q.hedge = p.hedge ∧
        q.circuit = p.circuit ∧ meta = p.meta := by
  cases p
  simp only [mk.injEq]

end EffectivePolicy

/-! ## Block lemmas -/

section BlockLemmas

variable {α : Type} {path : String} {current : α × NormalizationInfo}

@[simp] theorem setIf_fst
    {cond : α → Prop} [DecidablePred cond] {value : α} :
    (setIf cond value path current).1 =
      if cond current.1 then value else current.1 := by
  unfold setIf
  split <;> rfl

/-- A block whose test fails leaves the value and the record alone. -/
theorem setIf_of_not
    (cond : α → Prop) [DecidablePred cond] {value v : α} {norm : NormalizationInfo}
    (skipped : ¬cond v) :
    setIf cond value path (v, norm) = (v, norm) :=
  if_neg skipped

variable [LinearOrder α] {low high : α}

/-- A clamp lands in `[low, high]`. -/
theorem clampIf_mem
    (ordered : low ≤ high) :
    low ≤ (clampIf low high path current).1 ∧ (clampIf low high path current).1 ≤ high := by
  unfold clampIf setIf
  split_ifs with below above
  · exact ⟨le_rfl, ordered⟩
  · exact ⟨ordered, le_rfl⟩
  · exact ⟨not_lt.1 below, not_lt.1 above⟩

/-- A clamp of a value already in range changes nothing. -/
theorem clampIf_of_mem
    {v : α} {norm : NormalizationInfo}
    (lower : low ≤ v)
    (upper : v ≤ high) :
    clampIf low high path (v, norm) = (v, norm) := by
  simp [clampIf, setIf, not_lt.2 lower, not_lt.2 upper]

variable [Zero α] {fallback : α}

/-- Defaulting then clamping lands in `[low, high]`. -/
theorem zeroDefaultClamp_mem
    (ordered : low ≤ high) :
    low ≤ (zeroDefaultClamp fallback low high path current).1 ∧
      (zeroDefaultClamp fallback low high path current).1 ≤ high :=
  clampIf_mem ordered

/-- A non-zero value already in range passes both blocks unrecorded. -/
theorem zeroDefaultClamp_of_mem
    {v : α} {norm : NormalizationInfo}
    (nonzero : v ≠ 0)
    (lower : low ≤ v)
    (upper : v ≤ high) :
    zeroDefaultClamp fallback low high path (v, norm) = (v, norm) := by
  simp only [zeroDefaultClamp, setIf_of_not (· = 0) nonzero, clampIf_of_mem lower upper]

end BlockLemmas

section FloorLemmas

variable {fallback low v : Int} {path : String} {norm : NormalizationInfo}
  {current : Int × NormalizationInfo}

/-- A `v < low` block leaves at least `low`. -/
theorem floor_le_setIf (low : Int) (current : Int × NormalizationInfo) :
    low ≤ (setIf (· < low) low path current).1 := by
  rw [setIf_fst]
  split_ifs with below
  · exact le_rfl
  · exact not_lt.1 below

/-- Defaulting then flooring leaves at least the floor. -/
theorem zeroDefaultFloor_floor :
    low ≤ (zeroDefaultFloor fallback low path current).1 :=
  floor_le_setIf low _

/-- A value at or above a positive floor passes both blocks unrecorded. -/
theorem zeroDefaultFloor_of_le
    (positive : 0 < low)
    (lower : low ≤ v) :
    zeroDefaultFloor fallback low path (v, norm) = (v, norm) := by
  simp only [zeroDefaultFloor, setIf_of_not (· = 0) (show ¬v = 0 by omega),
    setIf_of_not (· < low) (show ¬v < low by omega)]

/-- Defaulting then flooring leaves at least the floor. -/
theorem nonPositiveDefaultFloor_floor :
    low ≤ (nonPositiveDefaultFloor fallback low path current).1 :=
  floor_le_setIf low _

/-- A value at or above a positive floor passes both blocks unrecorded. -/
theorem nonPositiveDefaultFloor_of_le
    (positive : 0 < low)
    (lower : low ≤ v) :
    nonPositiveDefaultFloor fallback low path (v, norm) = (v, norm) := by
  simp only [nonPositiveDefaultFloor, setIf_of_not (· ≤ 0) (show ¬v ≤ 0 by omega),
    setIf_of_not (· < low) (show ¬v < low by omega)]

/-- The timeout blocks leave `0` or at least the floor. -/
theorem zeroOrFloor_mem :
    (zeroOrFloor low path current).1 = 0 ∨ low ≤ (zeroOrFloor low path current).1 := by
  simp only [zeroOrFloor, setIf_fst]
  split_ifs <;> omega

/-- A timeout that is `0` or at least a positive floor passes both blocks unrecorded. -/
theorem zeroOrFloor_of_mem
    (positive : 0 < low)
    (inRange : v = 0 ∨ low ≤ v) :
    zeroOrFloor low path (v, norm) = (v, norm) := by
  simp only [zeroOrFloor, setIf_of_not (· < 0) (show ¬v < 0 by omega),
    setIf_of_not (fun v => 0 < v ∧ v < low) (show ¬(0 < v ∧ v < low) by omega)]

/-- The `MaxBackoff` blocks end between `InitialBackoff` and `max 30s InitialBackoff`. -/
theorem clampMaxBackoff_mem (initialBackoff : Int) :
    initialBackoff ≤ (clampMaxBackoff initialBackoff current).1 ∧
      (clampMaxBackoff initialBackoff current).1 ≤ max maxBackoffCeiling initialBackoff := by
  simp only [clampMaxBackoff, setIf_fst, maxBackoffCeiling, second, millisecond]
  split_ifs <;> omega

/-- A positive `MaxBackoff` within those bounds keeps its value (the blocks may still record it). -/
theorem clampMaxBackoff_of_mem
    {initialBackoff : Int}
    (positive : 0 < v)
    (lower : initialBackoff ≤ v)
    (upper : v ≤ max maxBackoffCeiling initialBackoff) :
    (clampMaxBackoff initialBackoff (v, norm)).1 = v := by
  simp only [clampMaxBackoff, setIf_fst]
  split_ifs <;> omega

end FloorLemmas

/-- The jitter `Normalize` keeps is one of the three kinds. -/
theorem checkJitter_mem
    {jitter : JitterKind} {norm : NormalizationInfo}
    {result : JitterKind × NormalizationInfo}
    (checked : checkJitter jitter norm = .ok result) :
    result.1 = jitterNone ∨ result.1 = jitterFull ∨ result.1 = jitterEqual := by
  unfold checkJitter at checked
  split_ifs at checked with empty valid
  · cases checked
    exact .inl rfl
  · cases checked
    exact valid

/-- A valid jitter passes the switch untouched and unrecorded. -/
theorem checkJitter_of_mem
    {jitter : JitterKind} (norm : NormalizationInfo)
    (valid : jitter = jitterNone ∨ jitter = jitterFull ∨ jitter = jitterEqual) :
    checkJitter jitter norm = .ok (jitter, norm) := by
  have nonempty : jitter ≠ "" := by
    rcases valid with rfl | rfl | rfl <;> decide
  simp [checkJitter, nonempty, valid]

/-- The jitters `Normalize` accepts: empty, which it defaults to `none`, or one of the three kinds. -/
def JitterAccepted (jitter : JitterKind) : Prop :=
  jitter = "" ∨ jitter = jitterNone ∨ jitter = jitterFull ∨ jitter = jitterEqual

instance (jitter : JitterKind) : Decidable (JitterAccepted jitter) :=
  inferInstanceAs (Decidable (_ ∨ _))

/-- The jitter switch fails exactly on a jitter it does not accept, naming the field and the value. -/
theorem checkJitter_eq_error_iff
    {jitter : JitterKind} {norm : NormalizationInfo} {err : NormalizeError} :
    checkJitter jitter norm = .error err ↔
      ¬JitterAccepted jitter ∧ err = ⟨"retry.jitter", jitter⟩ := by
  unfold checkJitter JitterAccepted
  split_ifs with empty valid <;> simp_all [eq_comm]

/-! ## What `Normalize` rejects -/

namespace EffectivePolicy

variable {p : EffectivePolicy} {err : NormalizeError}

theorem normalizeRetry_eq_error_iff :
    p.normalizeRetry = .error err ↔
      ¬JitterAccepted p.retry.jitter ∧ err = ⟨"retry.jitter", p.retry.jitter⟩ := by
  dsimp only [normalizeRetry]
  split
  · rename_i e checked
    obtain ⟨rejected, rfl⟩ := checkJitter_eq_error_iff.1 checked
    simp [rejected, eq_comm]
  · rename_i result checked
    refine ⟨fun failed => (by cases failed), fun ⟨rejected, named⟩ => ?_⟩
    rw [checkJitter_eq_error_iff.2 ⟨rejected, named⟩] at checked
    cases checked

/-- `Normalize` fails in its jitter switch only, on exactly the jitters it does not accept. -/
theorem normalize_eq_error_iff :
    p.normalize = .error err ↔
      ¬JitterAccepted p.retry.jitter ∧ err = ⟨"retry.jitter", p.retry.jitter⟩ := by
  rw [← normalizeRetry_eq_error_iff]
  unfold normalize
  split
  · rename_i e retried
    rw [retried]
  · rename_i q retried
    rw [retried]
    split_ifs <;> simp

/-- `DefaultPolicyFor` is a fixed point of `Normalize`, which records nothing on it. -/
theorem defaultPolicyFor_normalize (key : PolicyKey) :
    (defaultPolicyFor key).normalize = .ok (defaultPolicyFor key) :=
  rfl

end EffectivePolicy

end Recourse

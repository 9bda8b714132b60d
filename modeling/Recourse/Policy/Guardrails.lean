import Mathlib.Tactic.Linarith
import Recourse.Policy.Normalize

namespace Recourse

/-!
# Normalization lands in the guardrails

The guardrail constants beside `Normalize` bound every numeric field of the
retry and hedge policies.  `Normalize` establishes all of them except one: it caps
`MaxBackoff` at 30s and then raises it to `InitialBackoff`, which has no cap of
its own, so `MaxBackoff` ends up at most `max 30s InitialBackoff`.  Conversely a
policy already inside the guardrails comes back with its retry and hedge fields
untouched; the circuit fields, which the guardrails leave open, are clamped
when hedging and the circuit are both enabled.
-/

/--
The guardrails on the retry policy and the hedge budget's cost, `MaxBackoff`'s
ceiling apart.
-/
structure RetryGuardrails (retry : RetryPolicy) (hedgeCost : Int) : Prop where
  maxAttempts_mem : 1 ≤ retry.maxAttempts ∧ retry.maxAttempts ≤ maxRetryAttempts
  initialBackoff_floor : minBackoffFloor ≤ retry.initialBackoff
  initialBackoff_le_maxBackoff : retry.initialBackoff ≤ retry.maxBackoff
  backoffMultiplier_mem : 1 ≤ retry.backoffMultiplier ∧ retry.backoffMultiplier ≤ maxBackoffMultiplier
  jitter_mem : retry.jitter = jitterNone ∨ retry.jitter = jitterFull ∨ retry.jitter = jitterEqual
  timeoutPerAttempt_mem : retry.timeoutPerAttempt = 0 ∨ minTimeoutFloor ≤ retry.timeoutPerAttempt
  overallTimeout_mem : retry.overallTimeout = 0 ∨ minTimeoutFloor ≤ retry.overallTimeout
  retryCost_floor : 1 ≤ retry.budget.cost
  hedgeCost_floor : 1 ≤ hedgeCost

/-- The hedge guardrails, which bind only an enabled hedge policy. -/
def HedgeGuardrails (hedge : HedgePolicy) : Prop :=
  hedge.enabled = true →
    1 ≤ hedge.maxHedges ∧ hedge.maxHedges ≤ maxHedges ∧ minHedgeDelayFloor ≤ hedge.hedgeDelay

/-- The guardrail set those constants describe, `MaxBackoff`'s ceiling apart. -/
structure Guardrails (p : EffectivePolicy) : Prop where
  retry_mem : RetryGuardrails p.retry p.hedge.budget.cost
  hedge_mem : HedgeGuardrails p.hedge

/-- The circuit guardrails, which `Normalize` enforces only when it reaches the circuit blocks. -/
def CircuitGuardrails (circuit : CircuitPolicy) : Prop :=
  minCircuitThreshold ≤ circuit.threshold ∧ minCircuitCooldown ≤ circuit.cooldown

namespace EffectivePolicy

variable {p q : EffectivePolicy}

/-- The retry stage establishes the retry guardrails and bounds `MaxBackoff` by `max 30s InitialBackoff`. -/
theorem normalizeRetry_guardrails
    (normalized : p.normalizeRetry = .ok q) :
    RetryGuardrails q.retry q.hedge.budget.cost ∧
      q.retry.maxBackoff ≤ max maxBackoffCeiling q.retry.initialBackoff := by
  dsimp only [normalizeRetry] at normalized
  split at normalized
  · cases normalized
  · rename_i jitter checked
    cases normalized
    exact ⟨⟨zeroDefaultClamp_mem (by decide), nonPositiveDefaultFloor_floor,
      (clampMaxBackoff_mem _).1, zeroDefaultClamp_mem (by norm_num [maxBackoffMultiplier]),
      checkJitter_mem checked, zeroOrFloor_mem, zeroOrFloor_mem, zeroDefaultFloor_floor,
      zeroDefaultFloor_floor⟩, (clampMaxBackoff_mem _).2⟩

/-- A retry stage over a policy inside the guardrails changes no field but the metadata. -/
theorem normalizeRetry_of_guardrails
    (inRange : RetryGuardrails p.retry p.hedge.budget.cost)
    (capped : p.retry.maxBackoff ≤ max maxBackoffCeiling p.retry.initialBackoff) :
    ∃ q, p.normalizeRetry = .ok q ∧ { q with meta := p.meta } = p := by
  obtain ⟨⟨attemptsLower, attemptsUpper⟩, initialFloor, initialBelow,
    ⟨multiplierLower, multiplierUpper⟩, jitterValid, perAttempt, overall, retryCost,
    hedgeCost⟩ := inRange
  have floorPositive : 0 < minBackoffFloor := by decide
  have timeoutPositive : 0 < minTimeoutFloor := by decide
  dsimp only [normalizeRetry]
  rw [checkJitter_of_mem _ jitterValid]
  refine ⟨_, rfl, ?_⟩
  simp only [zeroDefaultClamp_of_mem (by omega) attemptsLower attemptsUpper,
    nonPositiveDefaultFloor_of_le floorPositive initialFloor,
    clampMaxBackoff_of_mem (by omega) initialBelow capped,
    zeroDefaultClamp_of_mem (by positivity) multiplierLower multiplierUpper,
    zeroOrFloor_of_mem timeoutPositive perAttempt, zeroOrFloor_of_mem timeoutPositive overall,
    zeroDefaultFloor_of_le one_pos retryCost, zeroDefaultFloor_of_le one_pos hedgeCost]

/-- The hedge stage brings `MaxHedges` into `1..3` and `HedgeDelay` up to 10ms. -/
theorem normalizeHedge_guardrails (p : EffectivePolicy) :
    HedgeGuardrails p.normalizeHedge.hedge := fun _ =>
  ⟨(zeroDefaultClamp_mem (by decide)).1, (zeroDefaultClamp_mem (by decide)).2,
    nonPositiveDefaultFloor_floor⟩

/-- The hedge stage keeps a hedge policy already inside the guardrails. -/
theorem normalizeHedge_of_guardrails
    (inRange : 1 ≤ p.hedge.maxHedges ∧ p.hedge.maxHedges ≤ maxHedges ∧
      minHedgeDelayFloor ≤ p.hedge.hedgeDelay) :
    p.normalizeHedge.hedge = p.hedge := by
  obtain ⟨lower, upper, delayFloor⟩ := inRange
  simp only [normalizeHedge, zeroDefaultClamp_of_mem (by omega) lower upper,
    nonPositiveDefaultFloor_of_le (by decide) delayFloor]

/-- The circuit stage keeps a circuit already inside its guardrails. -/
theorem normalizeCircuit_of_guardrails
    (inRange : CircuitGuardrails p.circuit) :
    p.normalizeCircuit.circuit = p.circuit := by
  obtain ⟨thresholdFloor, cooldownFloor⟩ := inRange
  simp only [normalizeCircuit, nonPositiveDefaultFloor_of_le (by decide) thresholdFloor,
    nonPositiveDefaultFloor_of_le (by decide) cooldownFloor]

/-- The retry stage leaves the hedge policy's other fields and the circuit alone. -/
theorem normalizeRetry_hedge_circuit (normalized : p.normalizeRetry = .ok q) :
    q.hedge.enabled = p.hedge.enabled ∧ q.hedge.maxHedges = p.hedge.maxHedges ∧
      q.hedge.hedgeDelay = p.hedge.hedgeDelay ∧ q.circuit = p.circuit := by
  dsimp only [normalizeRetry] at normalized
  split at normalized <;> cases normalized
  exact ⟨rfl, rfl, rfl, rfl⟩

/-- The circuit stage brings `Threshold` up to 1 and `Cooldown` up to 100ms. -/
theorem normalizeCircuit_guardrails (p : EffectivePolicy) :
    CircuitGuardrails p.normalizeCircuit.circuit :=
  ⟨nonPositiveDefaultFloor_floor, nonPositiveDefaultFloor_floor⟩

/-- The circuit the circuit stage returns depends on the input circuit alone. -/
theorem normalizeCircuit_circuit_congr (same : p.circuit = q.circuit) :
    p.normalizeCircuit.circuit = q.normalizeCircuit.circuit := by
  simp [normalizeCircuit, nonPositiveDefaultFloor, same]

/--
`Normalize` rewrites the circuit only when hedging and the circuit are both
enabled, and then as the circuit stage does; otherwise it returns it as given.
-/
theorem normalize_circuit (normalized : p.normalize = .ok q) :
    q.circuit =
      if p.hedge.enabled && p.circuit.enabled then p.normalizeCircuit.circuit else p.circuit := by
  dsimp only [normalize] at normalized
  split at normalized
  · cases normalized
  · rename_i retried
    obtain ⟨sameEnabled, -, -, sameCircuit⟩ := normalizeRetry_hedge_circuit retried
    split_ifs at normalized with hedgeOff circuitOff <;> cases normalized
    · simp_all
    · simp_all
    · simp only [Bool.not_eq_true', Bool.not_eq_false, normalizeHedge_circuit] at hedgeOff circuitOff
      rw [if_pos (by simp [← sameEnabled, ← sameCircuit, hedgeOff, circuitOff])]
      exact normalizeCircuit_circuit_congr (by simp [sameCircuit])

/-- Every policy `Normalize` accepts lands in the guardrails, with `MaxBackoff ≤ max 30s InitialBackoff`. -/
theorem normalize_guardrails
    (normalized : p.normalize = .ok q) :
    Guardrails q ∧ q.retry.maxBackoff ≤ max maxBackoffCeiling q.retry.initialBackoff := by
  unfold normalize at normalized
  split at normalized
  · cases normalized
  · rename_i retried retryStage
    obtain ⟨retryInRange, capped⟩ := normalizeRetry_guardrails retryStage
    split_ifs at normalized with hedgeOff <;> cases normalized
    · exact ⟨⟨retryInRange, fun hedgeOn => by simp [hedgeOn] at hedgeOff⟩, capped⟩
    · exact ⟨⟨retryInRange, normalizeHedge_guardrails retried⟩, capped⟩
    · exact ⟨⟨retryInRange, normalizeHedge_guardrails retried⟩, capped⟩

/--
A policy inside the guardrails (`MaxBackoff ≤ max 30s InitialBackoff`), whose
circuit is inside its own guardrails whenever `Normalize` reaches it, comes
back with every field but the metadata unchanged.
-/
theorem normalize_of_guardrails
    (inRange : Guardrails p)
    (capped : p.retry.maxBackoff ≤ max maxBackoffCeiling p.retry.initialBackoff)
    (circuitInRange :
      p.hedge.enabled = true → p.circuit.enabled = true → CircuitGuardrails p.circuit) :
    ∃ q, p.normalize = .ok q ∧ { q with meta := p.meta } = p := by
  obtain ⟨retried, retryStage, retriedFields⟩ :=
    normalizeRetry_of_guardrails inRange.retry_mem capped
  obtain ⟨sameKey, sameId, sameRetry, sameHedge, sameCircuit, -⟩ :=
    with_meta_eq_iff.1 retriedFields
  simp only [normalize, retryStage]
  by_cases hedgeOn : p.hedge.enabled = true
  · have hedgeKept : retried.normalizeHedge.hedge = p.hedge :=
      (normalizeHedge_of_guardrails (sameHedge ▸ inRange.hedge_mem hedgeOn)).trans sameHedge
    by_cases circuitOn : p.circuit.enabled = true
    · have circuitGuarded : CircuitGuardrails retried.normalizeHedge.circuit := by
        simpa [sameCircuit] using circuitInRange hedgeOn circuitOn
      have circuitKept : retried.normalizeHedge.normalizeCircuit.circuit = p.circuit :=
        (normalizeCircuit_of_guardrails circuitGuarded).trans sameCircuit
      refine ⟨retried.normalizeHedge.normalizeCircuit, ?_,
        with_meta_eq_iff.2 ⟨sameKey, sameId, sameRetry, hedgeKept, circuitKept, rfl⟩⟩
      simp [sameHedge, sameCircuit, hedgeOn, circuitOn]
    · refine ⟨retried.normalizeHedge, ?_,
        with_meta_eq_iff.2 ⟨sameKey, sameId, sameRetry, hedgeKept, sameCircuit, rfl⟩⟩
      simp [sameHedge, sameCircuit, hedgeOn, circuitOn]
  · exact ⟨retried, by simp [sameHedge, hedgeOn], retriedFields⟩

end EffectivePolicy

open EffectivePolicy

/--
`Normalize` maps every policy it accepts into the guardrails, `MaxBackoff`
bounded by `max 30s InitialBackoff`; conversely a policy already there, with
its circuit inside the circuit guardrails whenever hedging and the circuit are
enabled, comes back with every field but the metadata unchanged.
-/
theorem normalize_projects_onto_guardrails :
    (∀ p q : EffectivePolicy, p.normalize = .ok q →
      Guardrails q ∧ q.retry.maxBackoff ≤ max maxBackoffCeiling q.retry.initialBackoff) ∧
    (∀ p : EffectivePolicy, Guardrails p →
      p.retry.maxBackoff ≤ max maxBackoffCeiling p.retry.initialBackoff →
      (p.hedge.enabled = true → p.circuit.enabled = true → CircuitGuardrails p.circuit) →
      ∃ q, p.normalize = .ok q ∧ { q with meta := p.meta } = p) :=
  ⟨fun _ _ => normalize_guardrails, fun _ => normalize_of_guardrails⟩

/-- A retry policy inside the guardrails, with no budget names. -/
def sampleRetry : RetryPolicy where
  maxAttempts := 3
  initialBackoff := 10 * millisecond
  maxBackoff := 250 * millisecond
  backoffMultiplier := 2
  jitter := jitterNone
  timeoutPerAttempt := 0
  overallTimeout := 0
  classifierName := ""
  budget := ⟨"", 1⟩

/-- A policy starting its backoff at 60s, above the 30s ceiling. -/
def slowStartPolicy : EffectivePolicy where
  key := ⟨"svc", "slow"⟩
  id := ""
  retry := { sampleRetry with initialBackoff := 60 * second, maxBackoff := 60 * second }
  hedge := ⟨false, 0, 0, "", false, ⟨"", 1⟩⟩
  circuit := ⟨false, 0, 0⟩
  meta := ⟨"static", ⟨false, []⟩⟩

/-- A guarded, hedged policy whose enabled circuit has no threshold or cooldown set. -/
def unsetCircuitPolicy : EffectivePolicy where
  key := ⟨"svc", "hedged"⟩
  id := ""
  retry := sampleRetry
  hedge := ⟨true, 2, 200 * millisecond, "", false, ⟨"", 1⟩⟩
  circuit := ⟨true, 0, 0⟩
  meta := ⟨"static", ⟨false, []⟩⟩

/-- `unsetCircuitPolicy` with its circuit at the circuit floors. -/
def flooredCircuitPolicy : EffectivePolicy :=
  { unsetCircuitPolicy with circuit := ⟨true, minCircuitThreshold, minCircuitCooldown⟩ }

theorem unsetCircuitPolicy_guardrails : Guardrails unsetCircuitPolicy :=
  ⟨⟨by decide, by decide, by decide, by norm_num [unsetCircuitPolicy, sampleRetry, maxBackoffMultiplier],
    by decide, by decide, by decide, by decide, by decide⟩, fun _ => by decide⟩

/--
Where `Normalize` leaves the guardrail set as its constants describe it: a 60s
`InitialBackoff` leaves `MaxBackoff` at 60s, and a guarded policy has its
circuit rewritten.
-/
theorem normalize_leaves_guardrails :
    (∃ q, slowStartPolicy.normalize = .ok q ∧ maxBackoffCeiling < q.retry.maxBackoff) ∧
    (Guardrails unsetCircuitPolicy ∧ unsetCircuitPolicy.retry.maxBackoff ≤ maxBackoffCeiling ∧
      ∃ q, unsetCircuitPolicy.normalize = .ok q ∧ q.circuit ≠ unsetCircuitPolicy.circuit) :=
  ⟨⟨_, rfl, by decide⟩, unsetCircuitPolicy_guardrails, by decide, _, rfl, by decide⟩

/-- Hedging off, an enabled circuit with nothing set comes back unclamped, unlike the same policy hedged. -/
theorem normalize_skips_circuit_unhedged :
    ∃ q q', unsetCircuitPolicy.normalize = .ok q ∧
      { unsetCircuitPolicy with hedge.enabled := false }.normalize = .ok q' ∧
      q.circuit ≠ q'.circuit ∧ q'.circuit.enabled = true ∧ q'.circuit.threshold < minCircuitThreshold :=
  ⟨_, _, rfl, rfl, by decide, rfl, by decide⟩

/--
The law at the 60s-backoff policy, whose normalization is guarded with
`MaxBackoff` at `InitialBackoff`; and at the hedged policy with its circuit at
the floors, which lies in the amended set and comes back as it was.
-/
theorem normalize_projects_slowStartPolicy :
    (∃ q, slowStartPolicy.normalize = .ok q ∧
      Guardrails q ∧ q.retry.maxBackoff ≤ max maxBackoffCeiling q.retry.initialBackoff) ∧
    Guardrails flooredCircuitPolicy ∧
      flooredCircuitPolicy.retry.maxBackoff ≤
        max maxBackoffCeiling flooredCircuitPolicy.retry.initialBackoff ∧
      CircuitGuardrails flooredCircuitPolicy.circuit ∧
      ∃ q, flooredCircuitPolicy.normalize = .ok q ∧
        { q with meta := flooredCircuitPolicy.meta } = flooredCircuitPolicy := by
  have guarded : Guardrails flooredCircuitPolicy :=
    ⟨unsetCircuitPolicy_guardrails.1, unsetCircuitPolicy_guardrails.2⟩
  have ceiling : flooredCircuitPolicy.retry.maxBackoff ≤
      max maxBackoffCeiling flooredCircuitPolicy.retry.initialBackoff := by decide
  have circuit : CircuitGuardrails flooredCircuitPolicy.circuit := ⟨by decide, by decide⟩
  exact ⟨⟨_, rfl, normalize_projects_onto_guardrails.1 slowStartPolicy _ rfl⟩, guarded, ceiling,
    circuit, normalize_projects_onto_guardrails.2 _ guarded ceiling fun _ _ => circuit⟩

end Recourse

import Mathlib.Data.List.Nodup
import Mathlib.Tactic.NormNum
import Recourse.Policy.Guardrails

namespace Recourse

/-!
# What `Normalize` records

`Normalize` threads `Meta.Normalization` through its blocks, and each
assignment calls `markChanged`.  Seen from outside, the record a run leaves is
the input record with a list of paths marked in order: `recordAll` says that
once, and every block is shown to mark its path exactly when it changes its
field.  One block does more: the `MaxBackoff` blocks cap at 30s and then raise
to `InitialBackoff`, and they mark `retry.max_backoff` whenever the value was
above 30s, even when it ends where it began.

`normalize_record` puts the stages together: the record `Normalize` returns is
the input record with `fieldChanges p q` marked, that exception included.

Providers normalize the policies they return, and the executor normalizes
again at its boundary.  The second pass changes nothing, record included
(`normalize_idempotent`): `Normalize` lands in its guardrails, leaves a guarded
policy's fields as they are, and the one path it marks on such a policy,
`retry.max_backoff` above 30s, is already in the record of any policy it
returned.
-/

namespace NormalizationInfo

variable {norm : NormalizationInfo} {field path : String}

/-- A record that lists `path` and says the policy changed. -/
def Records (norm : NormalizationInfo) (path : String) : Prop :=
  norm.changed = true ∧ path ∈ norm.changedFields

@[simp] theorem changed_markChanged : (norm.markChanged field).changed = true := rfl

theorem mem_markChanged :
    path ∈ (norm.markChanged field).changedFields ↔ path ∈ norm.changedFields ∨ path = field := by
  unfold markChanged
  split_ifs with listed
  · exact ⟨.inl, fun member => member.elim id (· ▸ listed)⟩
  · simp

theorem nodup_markChanged (nodup : norm.changedFields.Nodup) :
    (norm.markChanged field).changedFields.Nodup := by
  unfold markChanged
  split_ifs with listed
  · exact nodup
  · exact nodup.append (List.nodup_singleton _) (by simpa using listed)

/-- `markChanged` of a path already recorded changes nothing. -/
theorem markChanged_of_records (recorded : norm.Records field) : norm.markChanged field = norm := by
  obtain ⟨changed, listed⟩ := recorded
  cases norm
  simp_all [markChanged]

theorem markChanged_markChanged : (norm.markChanged field).markChanged field = norm.markChanged field :=
  markChanged_of_records ⟨rfl, mem_markChanged.2 (.inr rfl)⟩

/--
Mark, in order, each path whose flag is set: the record a run of blocks leaves,
one `(path, changed)` pair per block.
-/
def recordAll (norm : NormalizationInfo) (changes : List (String × Bool)) : NormalizationInfo :=
  changes.foldl (fun norm change => if change.2 then norm.markChanged change.1 else norm) norm

variable {changes rest : List (String × Bool)}

@[simp] theorem recordAll_nil : norm.recordAll [] = norm := rfl

@[simp] theorem recordAll_cons {change : String × Bool} :
    norm.recordAll (change :: changes) =
      (if change.2 then norm.markChanged change.1 else norm).recordAll changes := rfl

theorem recordAll_append : norm.recordAll (changes ++ rest) = (norm.recordAll changes).recordAll rest :=
  List.foldl_append _ _ _ _

theorem mem_recordAll :
    path ∈ (norm.recordAll changes).changedFields ↔
      path ∈ norm.changedFields ∨ (path, true) ∈ changes := by
  induction changes generalizing norm with
  | nil => simp
  | cons change changes inductionHypothesis =>
      obtain ⟨field, flag⟩ := change
      cases flag <;> simp [inductionHypothesis, mem_markChanged, or_assoc, eq_comm]

theorem nodup_recordAll (nodup : norm.changedFields.Nodup) :
    (norm.recordAll changes).changedFields.Nodup := by
  induction changes generalizing norm with
  | nil => exact nodup
  | cons change changes inductionHypothesis =>
      rw [recordAll_cons]
      split_ifs
      exacts [inductionHypothesis (nodup_markChanged nodup), inductionHypothesis nodup]

theorem changed_recordAll :
    (norm.recordAll changes).changed = (norm.changed || changes.any (·.2)) := by
  induction changes generalizing norm with
  | nil => simp
  | cons change changes inductionHypothesis =>
      obtain ⟨field, flag⟩ := change
      cases flag <;> simp [inductionHypothesis]

/-- A marked path is recorded afterwards. -/
theorem records_recordAll (marked : (path, true) ∈ changes) : (norm.recordAll changes).Records path :=
  ⟨by simpa [changed_recordAll] using .inr ⟨path, marked⟩, mem_recordAll.2 (.inr marked)⟩

/-- Marking only paths already recorded changes nothing. -/
theorem recordAll_of_records
    (recorded : ∀ path, (path, true) ∈ changes → norm.Records path) :
    norm.recordAll changes = norm := by
  induction changes with
  | nil => rfl
  | cons change changes inductionHypothesis =>
      obtain ⟨field, flag⟩ := change
      have rest : ∀ path, (path, true) ∈ changes → norm.Records path :=
        fun path marked => recorded path (List.mem_cons_of_mem _ marked)
      cases flag
      · exact inductionHypothesis rest
      · rw [recordAll_cons, if_pos rfl, markChanged_of_records (recorded field (by simp))]
        exact inductionHypothesis rest

/-- From the empty record, the flag is set exactly when some path is listed. -/
theorem changed_recordAll_empty :
    (recordAll ⟨false, []⟩ changes).changed = true ↔
      (recordAll ⟨false, []⟩ changes).changedFields ≠ [] := by
  simp [changed_recordAll, mem_recordAll, List.eq_nil_iff_forall_not_mem]

end NormalizationInfo

open NormalizationInfo

/-! ## Each block marks its path when it changes its field -/

section BlockRecords

variable {path : String}

/-- A `setIf` block that only fires on a value it changes. -/
theorem setIf_record
    {α : Type} [DecidableEq α] {cond : α → Prop} [DecidablePred cond] {value : α}
    {current : α × NormalizationInfo}
    (changes : cond current.1 → value ≠ current.1) :
    (setIf cond value path current).2 =
      current.2.recordAll [(path, (setIf cond value path current).1 != current.1)] := by
  unfold setIf
  split_ifs with fired
  · simp [changes fired]
  · simp

/-- Marking one path twice is marking it once, when either mark is set. -/
theorem recordAll_pair {norm : NormalizationInfo} {first second : Bool} :
    (norm.recordAll [(path, first)]).recordAll [(path, second)] =
      norm.recordAll [(path, first || second)] := by
  cases first <;> cases second <;> simp [markChanged_markChanged]

/--
Two blocks on one path that each mark it exactly when they change the value
do so together, provided the second never brings the value back.
-/
theorem record_then {α : Type} [DecidableEq α] {current middle final : α × NormalizationInfo}
    (first : middle.2 = current.2.recordAll [(path, middle.1 != current.1)])
    (second : final.2 = middle.2.recordAll [(path, final.1 != middle.1)])
    (noReturn : final.1 = current.1 → middle.1 = current.1) :
    final.2 = current.2.recordAll [(path, final.1 != current.1)] := by
  rw [second, first, recordAll_pair]
  by_cases back : final.1 = current.1
  · simp [back, noReturn back]
  · by_cases still : middle.1 = current.1
    · simp [back, still]
    · simp [back, still]

variable {α : Type} [LinearOrder α] {low high : α} {current : α × NormalizationInfo}

/-- A clamp marks its path exactly when it moves the value. -/
theorem clampIf_record :
    (clampIf low high path current).2 =
      current.2.recordAll [(path, (clampIf low high path current).1 != current.1)] := by
  unfold clampIf
  split_ifs with below
  · simp [ne_of_gt below]
  · exact setIf_record ne_of_lt

theorem zeroDefaultClamp_record [Zero α] {fallback : α}
    (nonzero : fallback ≠ 0) (lower : low ≤ fallback) (upper : fallback ≤ high) :
    (zeroDefaultClamp fallback low high path current).2 =
      current.2.recordAll
        [(path, (zeroDefaultClamp fallback low high path current).1 != current.1)] :=
  record_then (setIf_record fun zero => zero ▸ nonzero) clampIf_record fun back => by
    simp only [zeroDefaultClamp, clampIf, setIf_fst] at back ⊢
    split_ifs at back ⊢ with zero <;> simp_all [not_lt.2 lower, not_lt.2 upper]

end BlockRecords

section IntBlockRecords

variable {path : String} {fallback low : Int} {current : Int × NormalizationInfo}

theorem zeroDefaultFloor_record (nonzero : fallback ≠ 0) (lower : low ≤ fallback) :
    (zeroDefaultFloor fallback low path current).2 =
      current.2.recordAll [(path, (zeroDefaultFloor fallback low path current).1 != current.1)] :=
  record_then (setIf_record fun zero => zero ▸ nonzero) (setIf_record Int.ne_of_gt) fun back => by
    simp only [zeroDefaultFloor, setIf_fst] at back ⊢
    split_ifs at back ⊢ <;> omega

theorem nonPositiveDefaultFloor_record (positive : 0 < fallback) (lower : low ≤ fallback) :
    (nonPositiveDefaultFloor fallback low path current).2 =
      current.2.recordAll
        [(path, (nonPositiveDefaultFloor fallback low path current).1 != current.1)] :=
  record_then (setIf_record fun nonPositive => by omega) (setIf_record Int.ne_of_gt) fun back => by
    simp only [nonPositiveDefaultFloor, setIf_fst] at back ⊢
    split_ifs at back ⊢ <;> omega

theorem zeroOrFloor_record :
    (zeroOrFloor low path current).2 =
      current.2.recordAll [(path, (zeroOrFloor low path current).1 != current.1)] :=
  record_then (setIf_record fun negative => by omega) (setIf_record fun below => by omega)
    fun back => by
      simp only [zeroOrFloor, setIf_fst] at back ⊢
      split_ifs at back ⊢ <;> omega

/--
The `MaxBackoff` blocks mark `retry.max_backoff` when they change the value, and
also whenever it was above 30s: capped, then possibly raised back.
-/
theorem clampMaxBackoff_record {initialBackoff : Int} :
    (clampMaxBackoff initialBackoff current).2 =
      current.2.recordAll [("retry.max_backoff",
        (clampMaxBackoff initialBackoff current).1 != current.1 ||
          decide (maxBackoffCeiling < current.1))] := by
  obtain ⟨v, norm⟩ := current
  simp only [clampMaxBackoff, setIf, maxBackoffCeiling, second, millisecond]
  split_ifs <;>
    simp only [recordAll_cons, recordAll_nil, Bool.or_eq_true, bne_iff_ne, ne_eq, decide_eq_true_eq,
      markChanged_markChanged, not_true_eq_false, if_false] <;>
    (try split_ifs) <;> first | rfl | omega | (simp only [false_or] at *; omega)

end IntBlockRecords

/-- The jitter switch marks `retry.jitter` exactly when it fills in the empty jitter. -/
theorem checkJitter_record
    {jitter : JitterKind} {norm : NormalizationInfo} {result : JitterKind × NormalizationInfo}
    (checked : checkJitter jitter norm = .ok result) :
    result.2 = norm.recordAll [("retry.jitter", result.1 != jitter)] := by
  unfold checkJitter at checked
  split_ifs at checked with empty valid <;> cases checked
  · simp [empty, jitterNone]
  · simp

/-! ## The record of a whole run -/

namespace EffectivePolicy

variable {p q : EffectivePolicy}

/-- The paths of the retry stage, in `Normalize`'s order, each with whether its field differs. -/
def retryChanges (p q : EffectivePolicy) : List (String × Bool) :=
  [("retry.max_attempts", q.retry.maxAttempts != p.retry.maxAttempts),
    ("retry.initial_backoff", q.retry.initialBackoff != p.retry.initialBackoff),
    ("retry.max_backoff", q.retry.maxBackoff != p.retry.maxBackoff),
    ("retry.backoff_multiplier", q.retry.backoffMultiplier != p.retry.backoffMultiplier),
    ("retry.jitter", q.retry.jitter != p.retry.jitter),
    ("retry.timeout_per_attempt", q.retry.timeoutPerAttempt != p.retry.timeoutPerAttempt),
    ("retry.overall_timeout", q.retry.overallTimeout != p.retry.overallTimeout),
    ("retry.budget.cost", q.retry.budget.cost != p.retry.budget.cost),
    ("hedge.budget.cost", q.hedge.budget.cost != p.hedge.budget.cost)]

/-- The paths of the hedge stage, each with whether its field differs. -/
def hedgeChanges (p q : EffectivePolicy) : List (String × Bool) :=
  [("hedge.max_hedges", q.hedge.maxHedges != p.hedge.maxHedges),
    ("hedge.hedge_delay", q.hedge.hedgeDelay != p.hedge.hedgeDelay)]

/-- The paths of the circuit stage, each with whether its field differs. -/
def circuitChanges (p q : EffectivePolicy) : List (String × Bool) :=
  [("circuit.threshold", q.circuit.threshold != p.circuit.threshold),
    ("circuit.cooldown", q.circuit.cooldown != p.circuit.cooldown)]

/-- Every dotted path `Normalize` may rewrite, in its order, with whether the field differs. -/
def fieldChanges (p q : EffectivePolicy) : List (String × Bool) :=
  retryChanges p q ++ hedgeChanges p q ++ circuitChanges p q

/--
What `Normalize` marks for one path: a change of its field, and for
`retry.max_backoff` also a starting value above 30s.
-/
def recordedChange (p : EffectivePolicy) (change : String × Bool) : String × Bool :=
  (change.1,
    change.2 || (change.1 == "retry.max_backoff" && decide (maxBackoffCeiling < p.retry.maxBackoff)))

/-- A pair `recordedChange` flags: a flagged change, or `retry.max_backoff` above 30s. -/
theorem mem_map_recordedChange {changes : List (String × Bool)} {path : String} :
    (path, true) ∈ changes.map (recordedChange p) ↔
      (path, true) ∈ changes ∨
        path = "retry.max_backoff" ∧ maxBackoffCeiling < p.retry.maxBackoff ∧
          ∃ flag, (path, flag) ∈ changes := by
  simp only [List.mem_map, recordedChange, Prod.mk.injEq, Bool.or_eq_true, Bool.and_eq_true,
    beq_iff_eq, decide_eq_true_eq]
  constructor
  · rintro ⟨⟨field, flag⟩, member, rfl, marked | ceiling⟩
    · exact .inl (marked ▸ member)
    · exact .inr ⟨ceiling.1, ceiling.2, flag, member⟩
  · rintro (member | ⟨rfl, above, flag, member⟩)
    · exact ⟨_, member, rfl, .inl rfl⟩
    · exact ⟨_, member, rfl, .inr ⟨rfl, above⟩⟩

/-- The retry stage marks the retry table's paths, `retry.max_backoff` above 30s included. -/
theorem normalizeRetry_record (normalized : p.normalizeRetry = .ok q) :
    q.meta.normalization =
      p.meta.normalization.recordAll ((retryChanges p q).map (recordedChange p)) := by
  dsimp only [normalizeRetry] at normalized
  split at normalized
  · cases normalized
  · rename_i jitter checked
    cases normalized
    simp (disch := first | decide | norm_num [maxBackoffMultiplier]) only [checkJitter_record checked,
      zeroDefaultClamp_record, nonPositiveDefaultFloor_record, clampMaxBackoff_record,
      zeroOrFloor_record, zeroDefaultFloor_record, ← recordAll_append, List.cons_append,
      List.nil_append, retryChanges, recordedChange, List.map_cons, List.map_nil]
    simp

/-- The hedge stage marks `hedge.max_hedges` and `hedge.hedge_delay` when it changes them. -/
theorem normalizeHedge_record (p : EffectivePolicy) :
    p.normalizeHedge.meta.normalization =
      p.meta.normalization.recordAll (hedgeChanges p p.normalizeHedge) := by
  simp (disch := decide) only [normalizeHedge, zeroDefaultClamp_record,
    nonPositiveDefaultFloor_record, ← recordAll_append, List.singleton_append, hedgeChanges]

/-- The circuit stage marks `circuit.threshold` and `circuit.cooldown` when it changes them. -/
theorem normalizeCircuit_record (p : EffectivePolicy) :
    p.normalizeCircuit.meta.normalization =
      p.meta.normalization.recordAll (circuitChanges p p.normalizeCircuit) := by
  simp (disch := decide) only [normalizeCircuit, nonPositiveDefaultFloor_record,
    ← recordAll_append, List.singleton_append, circuitChanges]

/--
The record of a whole run: `Normalize` marks, in its order, every path whose
field it changed, and `retry.max_backoff` also when that field started above 30s.
-/
theorem normalize_record (normalized : p.normalize = .ok q) :
    q.meta.normalization =
      p.meta.normalization.recordAll ((fieldChanges p q).map (recordedChange p)) := by
  dsimp only [normalize] at normalized
  split at normalized
  · cases normalized
  · rename_i r retried
    obtain ⟨-, sameHedges, sameDelay, sameCircuit⟩ := normalizeRetry_hedge_circuit retried
    split_ifs at normalized <;> cases normalized <;>
      simp [fieldChanges, recordAll_append, normalizeRetry_record retried, normalizeHedge_record,
        normalizeCircuit_record, retryChanges, hedgeChanges, circuitChanges, recordedChange,
        sameHedges, sameDelay, sameCircuit]

/--
`p` with the fields of the change table and the normalization record taken
from `q`: what `Normalize` may write.
-/
def overwrite (p q : EffectivePolicy) : EffectivePolicy :=
  { p with
    retry := { p.retry with
      maxAttempts := q.retry.maxAttempts
      initialBackoff := q.retry.initialBackoff
      maxBackoff := q.retry.maxBackoff
      backoffMultiplier := q.retry.backoffMultiplier
      jitter := q.retry.jitter
      timeoutPerAttempt := q.retry.timeoutPerAttempt
      overallTimeout := q.retry.overallTimeout
      budget.cost := q.retry.budget.cost }
    hedge := { p.hedge with
      maxHedges := q.hedge.maxHedges
      hedgeDelay := q.hedge.hedgeDelay
      budget.cost := q.hedge.budget.cost }
    circuit := { p.circuit with
      threshold := q.circuit.threshold
      cooldown := q.circuit.cooldown }
    meta.normalization := q.meta.normalization }

/-- `Normalize` writes nothing outside the change table and the record. -/
theorem normalize_overwrite (normalized : p.normalize = .ok q) : p.overwrite q = q := by
  dsimp only [normalize] at normalized
  split at normalized
  · cases normalized
  · rename_i retried
    dsimp only [normalizeRetry] at retried
    split at retried <;> cases retried
    split_ifs at normalized <;> cases normalized <;> rfl

/-- The change table lists `retry.max_backoff`, with whether it differs. -/
theorem maxBackoff_mem_fieldChanges :
    ("retry.max_backoff", q.retry.maxBackoff != p.retry.maxBackoff) ∈ fieldChanges p q :=
  List.mem_append_left _ (List.mem_append_left _ (.tail _ (.tail _ (.head _))))

/-- A `MaxBackoff` that `Normalize` leaves above 30s is in its record. -/
theorem normalize_records_maxBackoff (normalized : p.normalize = .ok q)
    (above : maxBackoffCeiling < q.retry.maxBackoff) :
    q.meta.normalization.Records "retry.max_backoff" := by
  rw [normalize_record normalized]
  refine records_recordAll (mem_map_recordedChange.2 ?_)
  by_cases wasAbove : maxBackoffCeiling < p.retry.maxBackoff
  · exact .inr ⟨rfl, wasAbove, _, maxBackoff_mem_fieldChanges⟩
  · have moved : (q.retry.maxBackoff != p.retry.maxBackoff) = true := by
      simp only [bne_iff_ne, ne_eq]
      omega
    exact .inl (moved ▸ maxBackoff_mem_fieldChanges)

/--
From an empty record, `Normalize` changes nothing outside the change table,
lists without duplicates exactly the paths whose fields it changed, plus
`retry.max_backoff` when that field started above 30s, and sets `Changed`
exactly when the list is non-empty.
-/
theorem normalize_changedFields_exact
    (fresh : p.meta.normalization = ⟨false, []⟩) (normalized : p.normalize = .ok q) :
    p.overwrite q = q ∧ q.meta.normalization.changedFields.Nodup ∧
      (∀ path, path ∈ q.meta.normalization.changedFields ↔
        (path, true) ∈ fieldChanges p q ∨
          path = "retry.max_backoff" ∧ maxBackoffCeiling < p.retry.maxBackoff) ∧
      (q.meta.normalization.changed = true ↔ q.meta.normalization.changedFields ≠ []) := by
  rw [normalize_record normalized, fresh]
  refine ⟨normalize_overwrite normalized, nodup_recordAll List.nodup_nil, fun path => ?_,
    changed_recordAll_empty⟩
  simp only [mem_recordAll, mem_map_recordedChange, List.not_mem_nil, false_or]
  exact or_congr_right (and_congr_right fun moved => and_iff_left (moved ▸ ⟨_, maxBackoff_mem_fieldChanges⟩))

/-- Where the record is not exact: a 60s `MaxBackoff` is capped, raised back to 60s, and recorded. -/
theorem normalize_marks_restored_maxBackoff :
    slowStartPolicy.meta.normalization = ⟨false, []⟩ ∧
      ∃ q, slowStartPolicy.normalize = .ok q ∧
        q.retry.maxBackoff = slowStartPolicy.retry.maxBackoff ∧
        "retry.max_backoff" ∈ q.meta.normalization.changedFields :=
  ⟨rfl, _, rfl, rfl, by decide⟩

/-- The exact record at the 60s-backoff policy. -/
theorem normalize_changedFields_slowStartPolicy :
    slowStartPolicy.meta.normalization = ⟨false, []⟩ ∧
      ∃ q, slowStartPolicy.normalize = .ok q ∧
        slowStartPolicy.overwrite q = q ∧ q.meta.normalization.changedFields.Nodup ∧
        (∀ path, path ∈ q.meta.normalization.changedFields ↔
          (path, true) ∈ fieldChanges slowStartPolicy q ∨
            path = "retry.max_backoff" ∧ maxBackoffCeiling < slowStartPolicy.retry.maxBackoff) ∧
        (q.meta.normalization.changed = true ↔ q.meta.normalization.changedFields ≠ []) :=
  ⟨rfl, _, rfl, normalize_changedFields_exact rfl rfl⟩

/-! ## Normalizing twice -/

/-- A policy `Normalize` returned with hedging and the circuit on has its circuit in the guardrails. -/
theorem normalize_circuitGuardrails (normalized : p.normalize = .ok q)
    (hedgeOn : q.hedge.enabled = true) (circuitOn : q.circuit.enabled = true) :
    CircuitGuardrails q.circuit := by
  have overwritten := normalize_overwrite normalized
  have sameHedge : p.hedge.enabled = q.hedge.enabled := congrArg (·.hedge.enabled) overwritten
  have sameCircuit : p.circuit.enabled = q.circuit.enabled := congrArg (·.circuit.enabled) overwritten
  rw [normalize_circuit normalized, if_pos (by simp [sameHedge, sameCircuit, hedgeOn, circuitOn])]
  exact normalizeCircuit_guardrails p

/-- A second `Normalize` returns the policy the first one returned, record included. -/
theorem normalize_idempotent (normalized : p.normalize = .ok q) : q.normalize = .ok q := by
  obtain ⟨guarded, capped⟩ := normalize_guardrails normalized
  obtain ⟨r, again, fields⟩ :=
    normalize_of_guardrails guarded capped (normalize_circuitGuardrails normalized)
  obtain ⟨-, -, sameRetry, sameHedge, sameCircuit, -⟩ := with_meta_eq_iff.1 fields
  have unmarked : r.meta.normalization = q.meta.normalization := by
    rw [normalize_record again]
    refine recordAll_of_records fun path marked => ?_
    rcases mem_map_recordedChange.1 marked with changed | ⟨rfl, above, -⟩
    · simp [fieldChanges, retryChanges, hedgeChanges, circuitChanges, sameRetry, sameHedge,
        sameCircuit] at changed
    · exact normalize_records_maxBackoff normalized above
  have sameMeta : r.meta = q.meta := by
    rw [← congrArg (·.meta) (normalize_overwrite again)]
    exact congrArg ({ q.meta with normalization := · }) unmarked
  rw [again, ← fields, ← sameMeta]

/-- Normalizing the 60s-backoff policy twice. -/
theorem normalize_idempotent_slowStartPolicy :
    ∃ q, slowStartPolicy.normalize = .ok q ∧ q.normalize = .ok q :=
  ⟨_, rfl, @normalize_idempotent slowStartPolicy _ rfl⟩

end EffectivePolicy

end Recourse

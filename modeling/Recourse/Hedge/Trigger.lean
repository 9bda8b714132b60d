import Recourse.Policy.Types

namespace Recourse

/-!
# Hedge triggers and their registry

The `hedge` package's `Trigger` interface, its one implementation here,
`FixedDelayTrigger`, and the `Registry` of named triggers.  The spawner of
`doRetryGroup` looks up the trigger its policy names and falls back to a
`FixedDelayTrigger` on `HedgeDelay` when the lookup gives the nil interface.

A Go interface value is the nil interface, a nil pointer of some trigger type
inside the interface, or a trigger value, and `t == nil` holds of the first
only.  `Register` rejects the nil interface, so neither `Get` nor the spawner's
choice ever gives it (`registerAll_get_not_nil`, `chooseTrigger_not_nil`).  A
nil pointer passes `Register`, unlike in the budget registry, which tests
`internal.IsTypedNil`, and reaches the spawner unchanged.  Over any sequence of
`Register` calls, the spawner uses the trigger last registered under its
policy's name, and the fallback when there is none (`chooseTrigger_registerAll`).
-/

/-- `hedge.HedgeState` as the spawner fills it; `AttemptStart`, a wall-clock time, is not read here. -/
structure HedgeState where
  attemptsLaunched : Int
  maxHedges : Int
  elapsed : Int
  deriving Repr, DecidableEq

/-- `hedge.FixedDelayTrigger`. -/
structure FixedDelayTrigger where
  delay : Int
  deriving Repr, DecidableEq

/-- `FixedDelayTrigger.ShouldSpawnHedge`: wait out the delay, then spawn the first hedge only. -/
def FixedDelayTrigger.shouldSpawnHedge (t : FixedDelayTrigger) (state : HedgeState) : Bool × Int :=
  if state.elapsed < t.delay then (false, t.delay - state.elapsed)
  else if 1 < state.attemptsLaunched then (false, 0)
  else (true, 0)

/-- A value of the interface type `hedge.Trigger`. -/
inductive Trigger where
  /-- The nil interface. -/
  | nil
  /-- A nil pointer of the named trigger type, inside the interface. -/
  | typedNil (typeName : String)
  /-- A `FixedDelayTrigger`. -/
  | fixedDelay (trigger : FixedDelayTrigger)
  /-- A trigger of another type, given by its `ShouldSpawnHedge`. -/
  | other (typeName : String) (shouldSpawnHedge : HedgeState → Bool × Int)

/-- `t == nil` on an interface value: true of the nil interface only. -/
def Trigger.isNil : Trigger → Bool
  | .nil => true
  | _ => false

/-- `internal.IsTypedNil` on a trigger: the nil interface, or a nil pointer inside one. -/
def isTypedNil : Trigger → Bool
  | .nil | .typedNil _ => true
  | _ => false

/-- `hedge.Registry`: the `triggers` map as its assignments, newest first. -/
structure Registry where
  triggers : List (String × Trigger)

/-- `NewRegistry`. -/
def newRegistry : Registry :=
  ⟨[]⟩

namespace Registry

/-- `Register`; `.error` carries the panic's message. -/
def register (r : Registry) (name : String) (t : Trigger) : Except String Registry :=
  if name = "" then .error "hedge: name cannot be empty"
  else if t.isNil then .error "hedge: trigger cannot be nil"
  else .ok ⟨(name, t) :: r.triggers⟩

/-- `Get`: the trigger last assigned to `name`, or the map's zero value, the nil interface. -/
def get (r : Registry) (name : String) : Trigger × Bool :=
  match r.triggers.lookup name with
  | some t => (t, true)
  | none => (.nil, false)

/-- A sequence of `Register` calls, up to the first that panics. -/
def registerAll (r : Registry) : List (String × Trigger) → Except String Registry
  | [] => .ok r
  | (name, t) :: rest => do
      let r ← r.register name t
      r.registerAll rest

/-- Every assignment in the map is of a non-empty name to a trigger that is not the nil interface. -/
def Valid (r : Registry) : Prop :=
  ∀ entry ∈ r.triggers, entry.1 ≠ "" ∧ entry.2.isNil = false

variable {r r' : Registry}

theorem valid_newRegistry : newRegistry.Valid :=
  fun _ absent => absurd absent (List.not_mem_nil _)

theorem register_valid {name : String} {t : Trigger}
    (valid : r.Valid) (registered : r.register name t = .ok r') : r'.Valid := by
  unfold register at registered
  split_ifs at registered with blank isNil
  cases registered
  rintro entry (_ | ⟨_, stored⟩)
  · exact ⟨blank, by simpa using isNil⟩
  · exact valid entry stored

theorem registerAll_valid {calls : List (String × Trigger)}
    (valid : r.Valid) (registered : r.registerAll calls = .ok r') : r'.Valid := by
  induction calls generalizing r with
  | nil =>
      cases registered
      exact valid
  | cons call rest inductionHypothesis =>
      obtain ⟨name, t⟩ := call
      simp only [registerAll, bind, Except.bind] at registered
      split at registered
      · cases registered
      · exact inductionHypothesis (register_valid valid ‹_›) registered

/-- In a valid registry, a name `Get` finds is bound to a trigger that is not the nil interface. -/
theorem get_not_nil {name : String} (valid : r.Valid) (found : (r.get name).2 = true) :
    (r.get name).1.isNil = false := by
  unfold get at found ⊢
  split at found
  · rename_i t bound
    obtain ⟨front, back, assigned, -⟩ := List.lookup_eq_some_iff.1 bound
    exact (valid (name, t) (by simp [assigned])).2
  · cases found

/-- A sequence of `Register` calls that returns has put every call in the map, the last in front. -/
theorem registerAll_triggers {calls : List (String × Trigger)}
    (registered : r.registerAll calls = .ok r') : r'.triggers = calls.reverse ++ r.triggers := by
  induction calls generalizing r with
  | nil =>
      cases registered
      rfl
  | cons call rest inductionHypothesis =>
      obtain ⟨name, t⟩ := call
      simp only [registerAll, bind, Except.bind] at registered
      split at registered
      · cases registered
      · rename_i stored
        unfold register at stored
        split_ifs at stored
        cases stored
        simp [inductionHypothesis registered]

end Registry

/--
After any sequence of `Register` calls on a new registry that returns, `Get`
never gives the nil interface for a name it finds.
-/
theorem registerAll_get_not_nil {calls : List (String × Trigger)} {r : Registry}
    (registered : newRegistry.registerAll calls = .ok r) {name : String}
    (found : (r.get name).2 = true) :
    (r.get name).1.isNil = false :=
  Registry.get_not_nil (Registry.registerAll_valid Registry.valid_newRegistry registered) found

/-- The spawner's lookup: the registered trigger its policy names, if it has a registry and a name. -/
def lookupTrigger (triggers : Option Registry) (pol : EffectivePolicy) : Trigger :=
  match triggers with
  | some r => if pol.hedge.triggerName ≠ "" then (r.get pol.hedge.triggerName).1 else .nil
  | none => .nil

/-- The spawner's trigger: the lookup's, or `FixedDelayTrigger{Delay: HedgeDelay}` for the nil interface. -/
def chooseTrigger (triggers : Option Registry) (pol : EffectivePolicy) : Trigger :=
  let trig := lookupTrigger triggers pol
  if trig.isNil then .fixedDelay ⟨pol.hedge.hedgeDelay⟩ else trig

/-- The spawner never asks the nil interface. -/
theorem chooseTrigger_not_nil (triggers : Option Registry) (pol : EffectivePolicy) :
    (chooseTrigger triggers pol).isNil = false := by
  unfold chooseTrigger
  generalize lookupTrigger triggers pol = trig
  cases trig <;> rfl

/-- With no trigger named, the spawner uses `FixedDelayTrigger` on the policy's `HedgeDelay`. -/
theorem chooseTrigger_unnamed (triggers : Option Registry) {pol : EffectivePolicy}
    (unnamed : pol.hedge.triggerName = "") :
    chooseTrigger triggers pol = .fixedDelay ⟨pol.hedge.hedgeDelay⟩ := by
  cases triggers <;> simp [chooseTrigger, lookupTrigger, unnamed, Trigger.isNil]

/--
After any sequence of `Register` calls on a new registry that returns, the
spawner of a policy uses the trigger last registered under the name the policy
gives, and `FixedDelayTrigger` on its `HedgeDelay` when there is none, the
empty name included.
-/
theorem chooseTrigger_registerAll {calls : List (String × Trigger)} {r : Registry}
    (registered : newRegistry.registerAll calls = .ok r) (pol : EffectivePolicy) :
    chooseTrigger (some r) pol =
      (calls.reverse.lookup pol.hedge.triggerName).getD (.fixedDelay ⟨pol.hedge.hedgeDelay⟩) := by
  have valid := Registry.registerAll_valid Registry.valid_newRegistry registered
  have stored : r.triggers = calls.reverse := by
    simpa [newRegistry] using Registry.registerAll_triggers registered
  by_cases unnamed : pol.hedge.triggerName = ""
  · have absent : calls.reverse.lookup pol.hedge.triggerName = none :=
      List.lookup_eq_none_iff.2 fun entry member => by
        have named := (valid entry (by rw [stored]; exact member)).1
        rw [unnamed]
        exact bne_iff_ne.2 (Ne.symm named)
    rw [absent]
    simp [chooseTrigger, lookupTrigger, unnamed, Trigger.isNil]
  · simp only [chooseTrigger, lookupTrigger, Registry.get, stored, if_pos unnamed]
    cases found : calls.reverse.lookup pol.hedge.triggerName with
    | none => rfl
    | some t =>
        obtain ⟨front, back, split, -⟩ := List.lookup_eq_some_iff.1 found
        have real := (valid (pol.hedge.triggerName, t) (by simp [stored, split])).2
        simp [real]

/-- A hedged policy naming the trigger `custom`. -/
def customTriggerPolicy : EffectivePolicy :=
  { defaultPolicyFor ⟨"svc", "call"⟩ with
    hedge := ⟨true, 2, 10 * millisecond, "custom", false, ⟨"", 1⟩⟩ }

/--
A nil `*customTrigger` registered under `custom` passes `Register`, comes back
from `Get`, and is the trigger the spawner calls for a policy naming it.
-/
theorem spawner_calls_typed_nil :
    ∃ r, newRegistry.registerAll [("custom", .typedNil "*customTrigger")] = .ok r ∧
      (r.get "custom").2 = true ∧ isTypedNil (r.get "custom").1 = true ∧
      isTypedNil (chooseTrigger (some r) customTriggerPolicy) = true :=
  ⟨_, rfl, rfl, rfl, rfl⟩

/-- The registry law after registering a fixed-delay trigger under `fixed`. -/
theorem registerAll_get_fixed :
    ∃ r, newRegistry.registerAll [("fixed", .fixedDelay ⟨10 * millisecond⟩)] = .ok r ∧
      (r.get "fixed").2 = true ∧ (r.get "fixed").1.isNil = false :=
  ⟨_, rfl, rfl,
    @registerAll_get_not_nil [("fixed", .fixedDelay ⟨10 * millisecond⟩)] _ rfl "fixed" rfl⟩

/-- `custom` registered twice. -/
def twiceRegistered : List (String × Trigger) :=
  [("custom", .fixedDelay ⟨5 * millisecond⟩), ("custom", .fixedDelay ⟨20 * millisecond⟩)]

/-- With `custom` registered twice, the spawner uses the second, and the fallback for an unnamed policy. -/
theorem chooseTrigger_registerAll_twice :
    ∃ r, newRegistry.registerAll twiceRegistered = .ok r ∧
      chooseTrigger (some r) customTriggerPolicy = .fixedDelay ⟨20 * millisecond⟩ ∧
      chooseTrigger (some r) (defaultPolicyFor ⟨"svc", "call"⟩) = .fixedDelay ⟨0⟩ :=
  ⟨_, rfl, by rw [@chooseTrigger_registerAll twiceRegistered _ rfl]; rfl,
    by rw [@chooseTrigger_registerAll twiceRegistered _ rfl]; rfl⟩

end Recourse

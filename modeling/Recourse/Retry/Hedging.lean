import Recourse.Policy.Options
import Recourse.Retry.Spawner

namespace Recourse

/-!
# The spawner under its trigger

The group model leaves the trigger's answers free: a `spawnerTrigger` step takes
any `(should, nextCheck)`.  Here the answers are tied to a trigger.
`TriggerReachable` is `Reachable` with each answer one that the trigger gives
in the state it is asked in, at any elapsed time.  The clock is `e.clock()`,
which a caller may set to anything.  `SpawnerReachable` takes the answers of
the trigger the spawner chooses, `chooseTrigger`.

`FixedDelayTrigger` is the spawner's fallback whenever the policy names no
trigger (`chooseTrigger_unnamed`).  It says yes only while `AttemptsLaunched`
is at most one.  So under it a group launches at most one hedge whatever
`MaxHedges` is.  With `MaxHedges` two or more, its spawner never uses up its
hedges: it polls the trigger until `groupCtx` is done.
-/

/-- A step whose trigger answer, if it has one, is one that `answers` allows. -/
def GroupStep.AnsweredBy (answers : Bool → Int → Prop) : GroupStep → Prop
  | .spawnerTrigger should nextCheck => answers should nextCheck
  | _ => True

/-- The states a group reaches when every trigger answer is one `answers` allows where it is asked. -/
inductive TriggerReachable (cfg : GroupCfg) (answers : GroupState → Bool → Int → Prop) :
    GroupState → Prop where
  | initial : TriggerReachable cfg answers GroupState.initial
  | step {s s' : GroupState} (act : GroupStep) :
      TriggerReachable cfg answers s → s.step cfg act = some s' → act.AnsweredBy (answers s) →
      TriggerReachable cfg answers s'

theorem TriggerReachable.reachable {cfg : GroupCfg} {answers : GroupState → Bool → Int → Prop}
    {s : GroupState} (reachable : TriggerReachable cfg answers s) : Reachable cfg s := by
  induction reachable with
  | initial => exact .initial
  | step act _ stepped _ inductionHypothesis => exact inductionHypothesis.step act stepped

/-- What `FixedDelayTrigger t` answers on a tick in state `s`, at some elapsed time. -/
def FixedDelayTrigger.Answers (t : FixedDelayTrigger) (cfg : GroupCfg) (s : GroupState)
    (should : Bool) (nextCheck : Int) : Prop :=
  ∃ elapsed, t.shouldSpawnHedge (s.hedgeState cfg elapsed) = (should, nextCheck)

/-- `FixedDelayTrigger` says yes only while the primary alone has been launched. -/
theorem FixedDelayTrigger.attemptsLaunched_le_of_spawn {t : FixedDelayTrigger}
    {state : HedgeState} {nextCheck : Int}
    (spawn : t.shouldSpawnHedge state = (true, nextCheck)) : state.attemptsLaunched ≤ 1 := by
  unfold shouldSpawnHedge at spawn
  split_ifs at spawn with waiting launched
  · simp at spawn
  · simp at spawn
  · exact not_lt.1 launched

/-! ## Why the spawner returns -/

section Exit

variable {cfg : GroupCfg} {s s' : GroupState}

/-- `groupCtx` stays done: the caller's context never comes back and `cancelGroup()` is not undone. -/
theorem step_groupDone (done : s.groupDone = true) {act : GroupStep}
    (stepped : s.step cfg act = some s') : s'.groupDone = true := by
  unfold GroupState.groupDone at done ⊢
  cases GroupState.step_move stepped with
  | receive =>
      unfold GroupState.receive
      split_ifs <;> simp_all [GroupState.finish]
  | cancel => simp
  | ctxDone | loadIdle => simp [GroupState.finish]
  | _ => simp_all [GroupState.launch, GroupState.commit]

/-- The spawner has returned only with hedging off, `groupCtx` done, or `maxHedges` hedges launched. -/
structure ExitInv (cfg : GroupCfg) (s : GroupState) : Prop where
  exited : s.spawner.pc = .exited →
    cfg.pol.hedge.enabled = false ∨ s.groupDone = true ∨ cfg.maxHedges ≤ s.spawner.hedgesLaunched

namespace ExitInv

theorem step (inv : ExitInv cfg s) {act : GroupStep} (stepped : s.step cfg act = some s') :
    ExitInv cfg s' := by
  -- a step that leaves the spawner alone carries its reason over, `groupCtx` staying done
  have frame (same : s'.spawner = s.spawner) (exited : s'.spawner.pc = .exited) :
      cfg.pol.hedge.enabled = false ∨ s'.groupDone = true ∨
        cfg.maxHedges ≤ s'.spawner.hedgesLaunched := by
    rw [same] at exited ⊢
    exact (inv.exited exited).imp_right (Or.imp_left fun done => step_groupDone done stepped)
  refine ⟨fun exited => ?_⟩
  cases GroupState.step_move stepped with
  | spawnerDisabled _ disabled => exact .inl (by simpa using disabled)
  | spawnerDone _ done => exact .inr (.inl done)
  | spawnerExhausted _ exhausted => exact .inr (.inr exhausted)
  | begin | spawnerStart | spawnerTick | spawnerTrigger | spawnerSkip | spawnerLaunch =>
      simp at exited
  | receive => exact frame (by simp) exited
  | _ => exact frame (by simp [GroupState.finish, GroupState.commit]) exited

theorem reachable (reachable : Reachable cfg s) : ExitInv cfg s := by
  induction reachable with
  | initial => exact ⟨fun exited => by simp [GroupState.initial] at exited⟩
  | step _ _ stepped inductionHypothesis => exact inductionHypothesis.step stepped

end ExitInv

end Exit

/-! ## One hedge under `FixedDelayTrigger` -/

section FixedDelay

variable {cfg : GroupCfg} {t : FixedDelayTrigger} {s s' : GroupState}

/-- At most one hedge launched, and a launch in hand only before the first. -/
structure OneHedgeInv (s : GroupState) : Prop where
  hedges : s.spawner.hedgesLaunched ≤ 1
  pending : ∀ nextCheck, s.spawner.pc = .launch nextCheck → s.spawner.hedgesLaunched = 0

namespace OneHedgeInv

theorem step (inv : OneHedgeInv s) {act : GroupStep}
    (answered : act.AnsweredBy (t.Answers cfg s)) (stepped : s.step cfg act = some s') :
    OneHedgeInv s' := by
  obtain ⟨hedges, pending⟩ := inv
  cases GroupState.step_move stepped with
  | spawnerTrigger _ spawn =>
      subst spawn
      obtain ⟨elapsed, spawn⟩ := answered
      have launched := FixedDelayTrigger.attemptsLaunched_le_of_spawn spawn
      simp only [GroupState.hedgeState] at launched
      exact ⟨hedges, fun _ _ => by simp; omega⟩
  | spawnerLaunch launching => exact ⟨by simp [pending _ launching], by simp⟩
  | _ => constructor <;> simp_all [GroupState.launch, GroupState.finish, GroupState.commit]

theorem reachable (reachable : TriggerReachable cfg (t.Answers cfg) s) : OneHedgeInv s := by
  induction reachable with
  | initial => exact ⟨by simp [GroupState.initial], by simp [GroupState.initial]⟩
  | step _ _ stepped answered inductionHypothesis => exact inductionHypothesis.step answered stepped

end OneHedgeInv

/--
Under a `FixedDelayTrigger`, over every interleaving and every clock, a group
launches at most one hedge, whatever `MaxHedges` is, and with `MaxHedges` two
or more its spawner returns only once `groupCtx` is done.
-/
theorem FixedDelayTrigger.launches_one_hedge (reachable : TriggerReachable cfg (t.Answers cfg) s) :
    s.spawner.hedgesLaunched ≤ 1 ∧ s.attempts.length ≤ 2 ∧
      (2 ≤ cfg.maxHedges → s.spawner.pc = .exited → s.groupDone = true) := by
  have hedges := (OneHedgeInv.reachable reachable).hedges
  have launchInv := LaunchInv.reachable reachable.reachable
  refine ⟨hedges, ?_, fun many exited => ?_⟩
  · by_cases enter : s.coord = .enter
    · simp [(launchInv.entry enter).1]
    · have := launchInv.launched enter
      omega
  · have enabled : cfg.pol.hedge.enabled = true := by
      by_contra disabled
      simp [GroupCfg.maxHedges, disabled] at many
    rcases (ExitInv.reachable reachable.reachable).exited exited with disabled | done | exhausted
    · simp [enabled] at disabled
    · exact done
    · omega

end FixedDelay

/-! ## The spawner's own trigger -/

/--
What `trig.ShouldSpawnHedge(state)` answers on a tick in state `s`, at some
elapsed time.  A nil receiver gives no answer: what its method does is not
modelled, and the spawner stays at the tick.
-/
def Trigger.Answers (trig : Trigger) (cfg : GroupCfg) (s : GroupState) (should : Bool)
    (nextCheck : Int) : Prop :=
  match trig with
  | .fixedDelay t => t.Answers cfg s should nextCheck
  | .other _ shouldSpawnHedge =>
      ∃ elapsed, shouldSpawnHedge (s.hedgeState cfg elapsed) = (should, nextCheck)
  | .nil | .typedNil _ => False

/-- The states a group reaches under the trigger its spawner chooses from `triggers`. -/
def SpawnerReachable (cfg : GroupCfg) (triggers : Option Registry) : GroupState → Prop :=
  TriggerReachable cfg ((chooseTrigger triggers cfg.pol).Answers cfg)

section Spawner

variable {cfg : GroupCfg} {s : GroupState}

/--
Whenever the spawner's trigger is a `FixedDelayTrigger`, as it is for every
policy that names no trigger, every interleaving at every clock launches at
most one hedge, so at most two attempts, whatever `MaxHedges` is; and with
`MaxHedges` two or more, the spawner returns only once `groupCtx` is done.
-/
theorem spawner_launches_one_hedge {triggers : Option Registry} {t : FixedDelayTrigger}
    (chosen : chooseTrigger triggers cfg.pol = .fixedDelay t)
    (reachable : SpawnerReachable cfg triggers s) :
    s.spawner.hedgesLaunched ≤ 1 ∧ s.attempts.length ≤ 2 ∧
      (2 ≤ cfg.maxHedges → s.spawner.pc = .exited → s.groupDone = true) := by
  unfold SpawnerReachable at reachable
  rw [chosen] at reachable
  exact FixedDelayTrigger.launches_one_hedge reachable

end Spawner

/-! ## Groups under a policy from `New` -/

section New

variable {cfg : GroupCfg} {s : GroupState}

/-- A policy `New` builds hedges at most three times. -/
theorem maxHedges_le_three_of_newFromKey {key : PolicyKey} {opts : List Policy.Option}
    (built : cfg.pol = Policy.newFromKey key opts) : cfg.maxHedges ≤ 3 := by
  obtain ⟨_, normalized⟩ := Policy.newFromKey_normalized key opts
  have hedge := (EffectivePolicy.normalize_guardrails normalized).1.hedge_mem
  rw [← built] at hedge
  unfold GroupCfg.maxHedges
  split_ifs with enabled
  · have bounds := hedge enabled
    simp only [Recourse.maxHedges] at bounds
    omega
  · omega

/--
A retry group under a policy that `New` builds, whatever its key and options,
launches at most four attempts, the primary and three hedges, under every
interleaving and every trigger; and at most two when the policy names no
trigger.
-/
theorem newFromKey_group_attempts {key : PolicyKey} {opts : List Policy.Option}
    (built : cfg.pol = Policy.newFromKey key opts) {triggers : Option Registry}
    (reachable : SpawnerReachable cfg triggers s) :
    s.attempts.length ≤ 4 ∧ (cfg.pol.hedge.triggerName = "" → s.attempts.length ≤ 2) := by
  refine ⟨?_, fun unnamed => ?_⟩
  · have bounded := (LaunchInv.reachable reachable.reachable).length_le_capacity
    have three := maxHedges_le_three_of_newFromKey built
    unfold GroupCfg.capacity at bounded
    omega
  · unfold SpawnerReachable at reachable
    rw [chooseTrigger_unnamed triggers unnamed] at reachable
    exact (FixedDelayTrigger.launches_one_hedge reachable).2.1

end New

/-- The first retry group of a call under `New("svc.call", EnableHedging())`. -/
def enabledCfg : GroupCfg where
  pol := Policy.new "svc.call" [Policy.enableHedging]
  retryIdx := 0
  lastBackoff := 0
  classify := classifyByError
  maxHedges_nonneg _ := by decide

/-- `EnableHedging()` asks for two hedges 200ms apart; the spawner launches the first. -/
theorem newFromKey_group_attempts_enableHedging :
    ∃ s, SpawnerReachable enabledCfg none s ∧ s.attempts.length = 2 ∧
      (s.attempts.length ≤ 4 ∧ (enabledCfg.pol.hedge.triggerName = "" → s.attempts.length ≤ 2)) := by
  have called := @TriggerReachable.initial enabledCfg
    (FixedDelayTrigger.Answers ⟨200 * millisecond⟩ enabledCfg)
  have reachable := ((((called.step .begin rfl trivial).step .spawnerStart rfl trivial).step
    .spawnerTick rfl trivial).step (.spawnerTrigger true 0) rfl ⟨200 * millisecond, by decide⟩).step
    .spawnerLaunch rfl trivial
  exact ⟨_, reachable, rfl, @newFromKey_group_attempts enabledCfg _ (parseKey "svc.call")
    [Policy.enableHedging] rfl none reachable⟩

/--
`hedgedPolicy` names no trigger, so its spawner asks `FixedDelayTrigger{10ms}`,
which says yes at 10ms: the primary and one hedge are out, and the spawner,
with a second hedge allowed, waits on.
-/
theorem spawner_launches_one_hedge_of_hedged :
    chooseTrigger none (hedgedCfg false).pol = .fixedDelay ⟨10 * millisecond⟩ ∧
      ∃ s, SpawnerReachable (hedgedCfg false) none s ∧
        s.attempts.length = 2 ∧ s.spawner.pc = .wait ∧
        (s.spawner.hedgesLaunched ≤ 1 ∧ s.attempts.length ≤ 2 ∧
          (2 ≤ (hedgedCfg false).maxHedges → s.spawner.pc = .exited → s.groupDone = true)) := by
  have called := @TriggerReachable.initial (hedgedCfg false)
    (FixedDelayTrigger.Answers ⟨10 * millisecond⟩ (hedgedCfg false))
  have reachable := ((((called.step .begin rfl trivial).step .spawnerStart rfl trivial).step
    .spawnerTick rfl trivial).step (.spawnerTrigger true 0) rfl ⟨10 * millisecond, by decide⟩).step
    .spawnerLaunch rfl trivial
  exact ⟨rfl, _, reachable, rfl, rfl,
    @spawner_launches_one_hedge (hedgedCfg false) _ none ⟨10 * millisecond⟩ rfl reachable⟩

end Recourse

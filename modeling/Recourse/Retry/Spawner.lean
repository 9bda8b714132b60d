import Recourse.Hedge.Trigger
import Recourse.Retry.Coordinator

namespace Recourse

/-!
# Launches and the hedge spawner

After the coordinator's first launch, every attempt comes from the spawner.  So
the set of attempts is frozen once the spawner has exited, and
`attempts_frozen_after_spawner_exit` proves it over every later run.  What the
code does not ensure is that the spawner has exited, or even looked at the
group, when the group's fate is sealed: its `select` may take a tick after
`cancelGroup()`, and it never reads the results.  The interleavings below show a
hedge launched after the group returned, and one launched after a terminal
failure.

Launch order also fixes the hedge indices: attempt `i` has `HedgeIndex` `i`.
The attempt index the budget and the records see is the group's `retryIdx`,
shared by the primary and its hedges.
-/

section Frozen

variable {cfg : GroupCfg} {s s' : GroupState}

/-- Once the spawner has exited, a step launches nothing and the spawner stays gone. -/
theorem step_after_spawner_exit
    (exited : s.spawner.pc = .exited) (begun : s.coord ≠ .enter)
    {act : GroupStep} (stepped : s.step cfg act = some s') :
    s'.attempts.length = s.attempts.length ∧ s'.spawner.pc = .exited ∧ s'.coord ≠ .enter := by
  cases GroupState.step_move stepped with
  | begin enter => exact absurd enter begun
  | receive => simp [exited, GroupState.receive_coord_ne_enter]
  | attempt => simp [GroupState.commit, exited, begun]
  | _ => simp_all [GroupState.finish]

/--
Once the spawner has exited, no later run launches an attempt: the attempts of
the group are exactly those launched so far.
-/
theorem attempts_frozen_after_spawner_exit
    (reachable : Reachable cfg s) (exited : s.spawner.pc = .exited)
    {schedule : List GroupStep} (ran : run? cfg s schedule = some s') :
    s'.attempts.length = s.attempts.length := by
  have begun : s.coord ≠ .enter := fun enter => by
    simp [((LaunchInv.reachable reachable).entry enter).2.1] at exited
  clear reachable
  induction schedule generalizing s with
  | nil =>
      cases ran
      rfl
  | cons act rest inductionHypothesis =>
      simp only [run?, Option.bind_eq_some] at ran
      obtain ⟨next, stepped, ranRest⟩ := ran
      obtain ⟨length, stillExited, stillBegun⟩ := step_after_spawner_exit exited begun stepped
      rw [inductionHypothesis stillExited ranRest stillBegun, length]

/-- A step never takes an attempt away. -/
theorem step_attempts_length_le
    {act : GroupStep} (stepped : s.step cfg act = some s') :
    s.attempts.length ≤ s'.attempts.length := by
  cases GroupState.step_move stepped <;>
    simp [GroupState.launch, GroupState.finish, GroupState.commit]

theorem run_attempts_length_le
    {schedule : List GroupStep} (ran : run? cfg s schedule = some s') :
    s.attempts.length ≤ s'.attempts.length := by
  induction schedule generalizing s with
  | nil =>
      cases ran
      rfl
  | cons act rest inductionHypothesis =>
      simp only [run?, Option.bind_eq_some] at ran
      obtain ⟨next, stepped, ranRest⟩ := ran
      exact (step_attempts_length_le stepped).trans (inductionHypothesis ranRest)

/--
From any reachable state, a terminal failure received or not, later runs only
add attempts, never past `1+maxHedges`, and none once the spawner has exited:
the spawner alone decides when launching stops.
-/
theorem later_launches_bounded
    (reachable : Reachable cfg s) {schedule : List GroupStep}
    (ran : run? cfg s schedule = some s') :
    s.attempts.length ≤ s'.attempts.length ∧ s'.attempts.length ≤ cfg.capacity ∧
      (s.spawner.pc = .exited → s'.attempts.length = s.attempts.length) :=
  ⟨run_attempts_length_le ran, (LaunchInv.reachable (reachable.of_run? ran)).length_le_capacity,
    fun exited => attempts_frozen_after_spawner_exit reachable exited ran⟩

end Frozen

/--
The primary, one of two hedges launched, fails with `NonRetryable`; the
coordinator receives it and, the hedge being active, waits.
-/
def terminalFailureSchedule : List GroupStep :=
  [.begin, .spawnerStart, .spawnerTick, .spawnerTrigger true 0, .spawnerLaunch,
    .allow 0 ⟨true, "no_budget", false⟩, .invoke 0, .opReturn 0 none (some (.op "boom")),
    .record 0, .send 0, .receive, .load]

/-- The bound after the coordinator has received the primary's `NonRetryable`. -/
theorem later_launches_bounded_after_failure :
    ∃ s s', Reachable (hedgedCfg false) s ∧
      run? (hedgedCfg false) s [.spawnerTick, .spawnerTrigger true 0, .spawnerLaunch] = some s' ∧
      s.attempts.length ≤ s'.attempts.length ∧ s'.attempts.length ≤ (hedgedCfg false).capacity ∧
      (s.spawner.pc = .exited → s'.attempts.length = s.attempts.length) := by
  obtain ⟨s, reachable, ran⟩ := Reachable.exists_of_run? (hedgedCfg false)
    (fun s => (run? (hedgedCfg false) s
      [.spawnerTick, .spawnerTrigger true 0, .spawnerLaunch]).isSome)
    terminalFailureSchedule (by decide)
  obtain ⟨s', ran⟩ := Option.isSome_iff_exists.mp ran
  exact ⟨s, s', reachable, ran, later_launches_bounded reachable ran⟩

/--
Without `CancelOnFirstTerminal`, the coordinator has received the primary's
`NonRetryable` from `op` and waits for the first hedge, and the spawner still
launches a second.
-/
theorem hedge_launches_after_terminal_failure :
    ∃ s, Reachable (hedgedCfg false) s ∧
      s.received.map (fun res => (res.isHedge, res.outcome.kind)) = [(false, .nonRetryable)] ∧
      (run? (hedgedCfg false) s [.spawnerTick, .spawnerTrigger true 0, .spawnerLaunch]).map
          (·.attempts.length) = some (s.attempts.length + 1) :=
  Reachable.exists_of_run? _ _ terminalFailureSchedule (by decide)

/--
The spawner launches after the return: the group returns its primary's success
and cancels `groupCtx`, yet the spawner's `select` takes a tick, and a hedge is
launched, asks its budget, is announced by `OnHedgeSpawn`, and runs `op`.
-/
theorem hedge_launches_after_return :
    ∃ s, Reachable (hedgedCfg false) s ∧
      s.coord = .returned ⟨some 1, none, ⟨.success, ""⟩, true⟩ ∧ s.groupDone = true ∧
      (run? (hedgedCfg false) s
          [.spawnerTick, .spawnerTrigger true 0, .spawnerLaunch,
            .allow 1 ⟨true, "no_budget", false⟩, .invoke 1]).map
          (fun s' => (s'.log.drop s.log.length).map (·.kind)) =
        some [.launch, .allowAttempt, .hedgeSpawn, .invoke] :=
  Reachable.exists_of_run? _ _
    [.begin, .spawnerStart, .allow 0 ⟨true, "no_budget", false⟩, .invoke 0,
      .opReturn 0 (some 1) none, .record 0, .send 0, .receive] (by decide)

/-! ## Indices -/

/--
What an event of the attempt at launch position `n` says about its indices: the
group's `retryIdx` as its attempt index, `n` as its hedge index, and a hedge
exactly when `n` is not zero.
-/
def GroupEvent.Indexed (retryIdx : Nat) : GroupEvent → Prop
  | .launch n idx isHedge => idx = n ∧ isHedge = (n != 0)
  | .allowAttempt n attemptIdx kind _ => attemptIdx = retryIdx ∧ kind = budgetKind (n != 0)
  | .hedgeSpawn n rec => rec.attempt = retryIdx ∧ rec.hedgeIndex = n ∧ rec.isHedge = (n != 0)
  | .invoke n info =>
      info.attempt = retryIdx ∧ info.retryIndex = retryIdx ∧ info.hedgeIndex = n ∧
        info.isHedge = (n != 0)
  | .recordAttempt n rec => rec.attempt = retryIdx ∧ rec.hedgeIndex = n ∧ rec.isHedge = (n != 0)
  | .send n res => res.idx = n ∧ res.isHedge = (n != 0)
  | .release _ => True

/-- The indices of the record and result an attempt has built and not yet passed on. -/
def Attempt.Indexed (retryIdx n : Nat) (a : Attempt) : Prop :=
  match a.pc with
  | .record rec res =>
      (GroupEvent.recordAttempt n rec).Indexed retryIdx ∧ (GroupEvent.send n res).Indexed retryIdx
  | .send res => (GroupEvent.send n res).Indexed retryIdx
  | _ => True

section Indices

variable {cfg : GroupCfg} {s s' : GroupState}

/-- An attempt in slot `n` builds and performs only events indexed by `n` and `retryIdx`. -/
theorem Attempt.step_indexed
    {n : Nat} {room : Bool} {a a' : Attempt} {act : GroupStep} {events : List GroupEvent}
    (slot : a.idx = n ∧ a.isHedge = (n != 0)) (indexed : a.Indexed cfg.retryIdx n)
    (stepped : a.step cfg n room act = some (a', events)) :
    a'.Indexed cfg.retryIdx n ∧ ∀ e ∈ events, e.Indexed cfg.retryIdx := by
  obtain ⟨idx, hedge⟩ := slot
  rcases Attempt.step_cases stepped with
    ⟨d, -, rfl, rfl⟩ | ⟨-, rfl, rfl⟩ | ⟨val, err, -, rfl, rfl⟩ | ⟨rec, res, pc, rfl, rfl⟩ |
    ⟨res, pc, -, rfl, rfl⟩ | ⟨-, rfl, rfl⟩ | ⟨-, rfl, rfl⟩ <;> clear stepped <;>
  -- split each move on the branch it takes
  [cases hd : d.allowed; cases hh : a.isHedge; skip; skip; cases ha : a.allowed;
    cases hr : a.hasRelease; skip] <;>
  simp_all [Attempt.Indexed, GroupEvent.Indexed, GroupCfg.deniedRecord, Attempt.deniedResult,
    GroupCfg.ranRecord, GroupCfg.spawnRecord, GroupCfg.attemptInfo]

/-- Every event logged so far, and every record or result in hand, is indexed. -/
structure IndexInv (cfg : GroupCfg) (s : GroupState) : Prop where
  events : ∀ e ∈ s.log, e.Indexed cfg.retryIdx
  pending : ∀ n (a : Attempt), s.attempts[n]? = some a → a.Indexed cfg.retryIdx n

namespace IndexInv

theorem frame
    (inv : IndexInv cfg s) (attempts : s'.attempts = s.attempts) (log : s'.log = s.log) :
    IndexInv cfg s' :=
  ⟨fun e member => inv.events e (log ▸ member), fun n a get => inv.pending n a (attempts ▸ get)⟩

/-- `launch(idx, isHedge)` in the slot its index names. -/
theorem launch
    (inv : IndexInv cfg s) {idx : Nat} {isHedge : Bool}
    (slot : idx = s.attempts.length ∧ isHedge = (s.attempts.length != 0)) :
    IndexInv cfg (s.launch idx isHedge) := by
  refine ⟨fun e member => ?_, fun n a get => ?_⟩
  · simp only [GroupState.launch, List.mem_append, List.mem_singleton] at member
    rcases member with member | rfl
    exacts [inv.events e member, slot]
  · simp only [GroupState.launch] at get
    by_cases before : n < s.attempts.length
    · rw [List.getElem?_append_left before] at get
      exact inv.pending n a get
    · obtain ⟨k, rfl⟩ := Nat.exists_eq_add_of_le (Nat.le_of_not_lt before)
      rw [List.getElem?_append_right (Nat.le_add_right _ _), Nat.add_sub_cancel_left] at get
      rcases k with _ | k
      · cases get
        simp [Attempt.Indexed]
      · simp only [List.getElem?_cons_succ, List.getElem?_nil, reduceCtorEq] at get

/-- An attempt step whose record, result and events are indexed keeps the invariant. -/
theorem commit
    (inv : IndexInv cfg s) {n : Nat} {a' : Attempt} {events : List GroupEvent}
    (indexed : a'.Indexed cfg.retryIdx n) (fresh : ∀ e ∈ events, e.Indexed cfg.retryIdx) :
    IndexInv cfg (s.commit n a' events) := by
  refine ⟨fun e member => ?_, fun m b got => ?_⟩
  · simp only [GroupState.commit, List.mem_append] at member
    exact member.elim (inv.events e) (fresh e)
  · simp only [GroupState.commit, List.getElem?_set] at got
    split_ifs at got with same
    · subst same
      cases got
      exact indexed
    · exact inv.pending m b got

theorem step
    (inv : IndexInv cfg s) (launchInv : LaunchInv cfg s)
    {act : GroupStep} (stepped : s.step cfg act = some s') :
    IndexInv cfg s' := by
  cases GroupState.step_move stepped with
  | attempt get next =>
    obtain ⟨indexed, fresh⟩ :=
      Attempt.step_indexed (launchInv.slots _ _ get) (inv.pending _ _ get) next
    exact inv.commit indexed fresh
  | begin enter =>
    have empty := (launchInv.entry enter).1
    exact (inv.launch (by simp [empty])).frame rfl rfl
  | spawnerLaunch launching =>
    have begun : s.coord ≠ .enter := fun enter => by
      simp [(launchInv.entry enter).2.1] at launching
    have length := launchInv.launched begun
    exact (inv.launch (by simp [length]; omega)).frame rfl rfl
  | _ => exact inv.frame (by first | rfl | simp) (by first | rfl | simp)

theorem reachable (reachable : Reachable cfg s) : IndexInv cfg s := by
  induction reachable with
  | initial =>
      exact ⟨fun e member => by simp [GroupState.initial] at member,
        fun n a get => by simp [GroupState.initial] at get⟩
  | step _ previous stepped inductionHypothesis =>
      exact inductionHypothesis.step (LaunchInv.reachable previous) stepped

end IndexInv

/--
Every attempt of a group, the primary and each hedge, allowed or denied, reaches
the budget, its `AttemptInfo` and its record with the group's `retryIdx` as its
attempt index; its hedge index is its launch position, 0 for the primary alone.
-/
theorem group_attempts_share_retry_index
    (reachable : Reachable cfg s) : ∀ e ∈ s.log, e.Indexed cfg.retryIdx :=
  (IndexInv.reachable reachable).events

end Indices

/-- The primary and a hedge are launched and both ask their budgets. -/
def shareSchedule : List GroupStep :=
  [.begin, .spawnerStart, .spawnerTick, .spawnerTrigger true 0, .spawnerLaunch,
    .allow 0 ⟨true, "no_budget", false⟩, .allow 1 ⟨true, "no_budget", false⟩]

/-- The indices after the primary and a hedge have asked their budgets. -/
theorem group_attempts_share_retry_index_of_hedge :
    ∃ s, Reachable (hedgedCfg false) s ∧ s.log.length = 4 ∧ ∀ e ∈ s.log, e.Indexed 0 := by
  obtain ⟨s, reachable, length⟩ := Reachable.exists_of_run? (hedgedCfg false)
    (fun s => s.log.length = 4) shareSchedule (by decide)
  exact ⟨s, reachable, length, group_attempts_share_retry_index reachable⟩

/--
The primary and its first hedge reach the budget with the same attempt index,
the group's `retryIdx`.
-/
theorem attempts_share_budget_index :
    ∃ s, Reachable (hedgedCfg false) s ∧
      GroupEvent.allowAttempt 0 0 .retry ⟨"", 1⟩ ∈ s.log ∧
      GroupEvent.allowAttempt 1 0 .hedge ⟨"", 1⟩ ∈ s.log :=
  Reachable.exists_of_run? _ _ shareSchedule (by decide)

/-! ## The ticker's period

The spawner creates its ticker at 25ms and, after each trigger answer,
`ticker.Reset(nextCheck)` whenever `nextCheck > 0`.  Nothing holds the period at
the 25ms floor: it stays there exactly over runs whose positive answers are
25ms or more (`spawner_period_floor`).  `FixedDelayTrigger` answers
`Delay − Elapsed` before its delay, which can be 1ms.
-/

/-- Whether the spawner's ticker runs: created, and the spawner has not returned. -/
def SpawnerPc.ticking : SpawnerPc → Bool
  | .wait | .tick | .launch _ => true
  | _ => false

/-- A step whose trigger answer, if it has one, resets the ticker to 25ms or more, or not at all. -/
def GroupStep.RespectsFloor : GroupStep → Prop
  | .spawnerTrigger _ nextCheck => nextCheck ≤ 0 ∨ 25 * millisecond ≤ nextCheck
  | _ => True

/-- The `HedgeState` the spawner builds on a tick, `elapsed` after the group started. -/
def GroupState.hedgeState (s : GroupState) (cfg : GroupCfg) (elapsed : Int) : HedgeState :=
  ⟨1 + s.spawner.hedgesLaunched, cfg.maxHedges, elapsed⟩

section Period

variable {cfg : GroupCfg} {s s' : GroupState}

/-- The ticker runs at 25ms or more, and so will it after the reset a pending launch makes. -/
structure PeriodInv (s : GroupState) : Prop where
  ticking : s.spawner.pc.ticking = true → 25 * millisecond ≤ s.spawner.period
  pending : ∀ nextCheck, s.spawner.pc = .launch nextCheck →
    nextCheck ≤ 0 ∨ 25 * millisecond ≤ nextCheck

theorem resetPeriod_floor {period nextCheck : Int} (floor : 25 * millisecond ≤ period)
    (answer : nextCheck ≤ 0 ∨ 25 * millisecond ≤ nextCheck) :
    25 * millisecond ≤ resetPeriod period nextCheck := by
  unfold resetPeriod
  split_ifs <;> omega

/-- A positive answer becomes the ticker's period, whatever the period was. -/
theorem resetPeriod_of_pos {period nextCheck : Int} (positive : 0 < nextCheck) :
    resetPeriod period nextCheck = nextCheck :=
  if_pos positive

namespace PeriodInv

theorem initial : PeriodInv GroupState.initial :=
  ⟨fun ticking => by simp [GroupState.initial, SpawnerPc.ticking] at ticking,
    fun _ pending => by simp [GroupState.initial] at pending⟩

theorem step (inv : PeriodInv s) {act : GroupStep} (respects : act.RespectsFloor)
    (stepped : s.step cfg act = some s') : PeriodInv s' := by
  obtain ⟨ticking, pending⟩ := inv
  cases GroupState.step_move stepped with
  | spawnerStart => exact ⟨fun _ => le_refl _, by simp⟩
  | spawnerTrigger ticked => exact ⟨fun _ => ticking (by simp [ticked, SpawnerPc.ticking]),
      fun _ launching => by cases launching; exact respects⟩
  | spawnerSkip ticked =>
      exact ⟨fun _ => resetPeriod_floor (ticking (by simp [ticked, SpawnerPc.ticking])) respects,
        by simp⟩
  | spawnerLaunch launching =>
      exact ⟨fun _ => resetPeriod_floor (ticking (by simp [launching, SpawnerPc.ticking]))
        (pending _ launching), by simp⟩
  | spawnerTick waiting =>
      exact ⟨fun _ => ticking (by simp [waiting, SpawnerPc.ticking]), by simp⟩
  | begin | spawnerDisabled | spawnerDone | spawnerExhausted =>
      exact ⟨fun stopped => by simp [SpawnerPc.ticking] at stopped, by simp⟩
  | receive => exact ⟨by simpa using ticking, by simpa using pending⟩
  | _ => exact ⟨ticking, pending⟩

theorem run (inv : PeriodInv s) {schedule : List GroupStep}
    (respects : ∀ act ∈ schedule, act.RespectsFloor) (ran : run? cfg s schedule = some s') :
    PeriodInv s' := by
  induction schedule generalizing s with
  | nil =>
      cases ran
      exact inv
  | cons act rest inductionHypothesis =>
      simp only [run?, Option.bind_eq_some] at ran
      obtain ⟨next, stepped, ranRest⟩ := ran
      exact inductionHypothesis (inv.step (respects act (.head _)) stepped)
        (fun act member => respects act (.tail _ member)) ranRest

end PeriodInv

/--
Over every run of a group in which each trigger answer resets the ticker to
25ms or more, or not at all, the spawner's ticker runs at 25ms or more.
-/
theorem spawner_period_floor {schedule : List GroupStep}
    (respects : ∀ act ∈ schedule, act.RespectsFloor)
    (ran : run? cfg GroupState.initial schedule = some s)
    (ticking : s.spawner.pc.ticking = true) :
    25 * millisecond ≤ s.spawner.period :=
  (PeriodInv.initial.run respects ran).ticking ticking

/--
Conversely, from any tick, a positive answer becomes the running ticker's
period, so an answer below 25ms takes it below the floor: at once when the
trigger says not to spawn, and with the launch when it says spawn.
-/
theorem spawner_period_of_answer (ticked : s.spawner.pc = .tick) {nextCheck : Int}
    (positive : 0 < nextCheck) :
    (∃ s', s.step cfg (.spawnerTrigger false nextCheck) = some s' ∧
      s'.spawner.pc.ticking = true ∧ s'.spawner.period = nextCheck) ∧
    ∃ s', run? cfg s [.spawnerTrigger true nextCheck, .spawnerLaunch] = some s' ∧
      s'.spawner.pc.ticking = true ∧ s'.spawner.period = nextCheck := by
  simp [run?, GroupState.step, ticked, resetPeriod_of_pos positive, SpawnerPc.ticking]

end Period

/-- The spawner's first tick, answered with a 30ms reset. -/
def thirtySchedule : List GroupStep :=
  [.begin, .spawnerStart, .spawnerTick, .spawnerTrigger false (30 * millisecond)]

/-- A 30ms answer keeps the ticker above the floor. -/
theorem spawner_period_floor_thirty :
    (∀ act ∈ thirtySchedule, act.RespectsFloor) ∧
      ∃ s, run? (hedgedCfg false) GroupState.initial thirtySchedule = some s ∧
        s.spawner.pc.ticking = true ∧ 25 * millisecond ≤ s.spawner.period := by
  have respects : ∀ act ∈ thirtySchedule, act.RespectsFloor := by
    simp [thirtySchedule, GroupStep.RespectsFloor, millisecond]
  exact ⟨respects, _, rfl, rfl, @spawner_period_floor (hedgedCfg false) _ _ respects rfl rfl⟩

/--
The first tick of a group under `hedgedPolicy`, which names no trigger: the
spawner asks `FixedDelayTrigger{10ms}`, which at 9ms answers 1ms, and the
ticker is reset to 1ms.
-/
theorem spawner_period_below_floor :
    chooseTrigger none (hedgedCfg false).pol = .fixedDelay ⟨10 * millisecond⟩ ∧
      1 * millisecond < 25 * millisecond ∧
      ∃ s, run? (hedgedCfg false) GroupState.initial [.begin, .spawnerStart, .spawnerTick] = some s ∧
        FixedDelayTrigger.shouldSpawnHedge ⟨10 * millisecond⟩
          (s.hedgeState (hedgedCfg false) (9 * millisecond)) = (false, 1 * millisecond) ∧
        ∃ s', s.step (hedgedCfg false) (.spawnerTrigger false (1 * millisecond)) = some s' ∧
          s'.spawner.pc.ticking = true ∧ s'.spawner.period = 1 * millisecond :=
  ⟨rfl, by decide, _, rfl, by decide, And.left (spawner_period_of_answer rfl (by decide))⟩

end Recourse

import Recourse.Retry.Hedging

namespace Recourse

/-!
# Every goroutine can finish once `groupCtx` is done

No goroutine of `doRetryGroup` blocks for good once `groupCtx` is done, that
is, once the caller's context has ended or the group has returned.  The
coordinator can take its `ctx.Done()` case.  The spawner can take its
`groupCtx.Done()` case, after at most one trigger answer or launch.  Every
attempt can run on to its end: no step of an attempt waits for another
goroutine, the send included, as `results` has room for every attempt.  So
some continuation of any such state returns the coordinator, ends the spawner,
finishes every attempt and brings `activeAttempts` back to zero
(`group_drains_once_done`).

While the caller's context is live this fails: the coordinator can wait for a
result that never comes (`coordinator_waits_after_last_result`).
-/

section Runs

variable {cfg : GroupCfg}

theorem run?_append (s : GroupState) (first second : List GroupStep) :
    run? cfg s (first ++ second) = (run? cfg s first).bind fun s' => run? cfg s' second := by
  induction first generalizing s with
  | nil => rfl
  | cons act rest inductionHypothesis =>
      simp [run?, Option.bind_assoc, inductionHypothesis]

theorem run?_trans {s s' s'' : GroupState} {first second : List GroupStep}
    (ranFirst : run? cfg s first = some s') (ranSecond : run? cfg s' second = some s'') :
    run? cfg s (first ++ second) = some s'' := by
  rw [run?_append, ranFirst, Option.some_bind, ranSecond]

/-- `groupCtx`, once done, stays done over any run. -/
theorem run_groupDone {s s' : GroupState} {schedule : List GroupStep}
    (done : s.groupDone = true) (ran : run? cfg s schedule = some s') : s'.groupDone = true := by
  induction schedule generalizing s with
  | nil =>
      cases ran
      exact done
  | cons act rest inductionHypothesis =>
      simp only [run?, Option.bind_eq_some] at ran
      obtain ⟨next, stepped, ranRest⟩ := ran
      exact inductionHypothesis (step_groupDone done stepped) ranRest

end Runs

section Drain

variable {cfg : GroupCfg} {s : GroupState}

/-! ## The coordinator -/

/-- The spawner has started once the coordinator has. -/
theorem spawner_started (reachable : Reachable cfg s) (idle : s.spawner.pc = .idle) :
    s.coord = .enter := by
  induction reachable with
  | initial => rfl
  | step _ _ stepped inductionHypothesis =>
      cases GroupState.step_move stepped <;>
        simp_all [GroupState.finish, GroupState.commit, GroupState.launch]

/-- With `groupCtx` done and the group not returned, the caller's context has ended. -/
theorem ctxErr_of_groupDone (reachable : Reachable cfg s) (done : s.groupDone = true)
    (live : ∀ r, s.coord ≠ .returned r) : ∃ err, s.ctxErr = some err := by
  unfold GroupState.groupDone at done
  cases cancelled : s.groupCancelled
  · rw [cancelled, Bool.or_false, Option.isSome_iff_exists] at done
    exact done
  · obtain ⟨r, returned⟩ := cancelled_returned reachable cancelled
    exact absurd returned (live r)

/-- Once `groupCtx` is done, the coordinator can return, through its `ctx.Done()` case if it must. -/
theorem coordinator_drains (reachable : Reachable cfg s) (done : s.groupDone = true) :
    ∃ schedule s', run? cfg s schedule = some s' ∧ ∃ r, s'.coord = .returned r := by
  cases coord : s.coord with
  | returned r => exact ⟨[], s, rfl, r, coord⟩
  | enter =>
      obtain ⟨err, ended⟩ := ctxErr_of_groupDone reachable done (by simp [coord])
      exact ⟨[.begin, .ctxDone], _, by
        simp only [run?, GroupState.step, GroupState.launch, coord, ended, Option.some_bind]; rfl,
        _, by rfl⟩
  | select =>
      obtain ⟨err, ended⟩ := ctxErr_of_groupDone reachable done (by simp [coord])
      exact ⟨[.ctxDone], _, by
        simp only [run?, GroupState.step, coord, ended, Option.some_bind]; rfl, _, by rfl⟩
  | load =>
      obtain ⟨err, ended⟩ := ctxErr_of_groupDone reachable done (by simp [coord])
      by_cases idle : s.activeAttempts = 0
      · exact ⟨[.load], _, by
          simp only [run?, GroupState.step, coord, idle, if_true, Option.some_bind]; rfl, _, by rfl⟩
      · exact ⟨[.load, .ctxDone], _, by
          simp only [run?, GroupState.step, coord, idle, if_false, ended, Option.some_bind]; rfl,
          _, by rfl⟩

/-! ## The spawner -/

/-- The spawner's way out once `groupCtx` is done: answer or launch if it must, then `groupCtx.Done()`. -/
def spawnerDrain (enabled : Bool) : SpawnerPc → List GroupStep
  | .idle | .exited => []
  | .start => if enabled then [.spawnerStart, .spawnerDone] else [.spawnerStart]
  | .wait => [.spawnerDone]
  | .tick => [.spawnerTrigger false 0, .spawnerDone]
  | .launch _ => [.spawnerLaunch, .spawnerDone]

/-- A waiting spawner takes its `groupCtx.Done()` case once `groupCtx` is done. -/
theorem run_spawnerDone (waiting : s.spawner.pc = .wait) (done : s.groupDone = true) :
    run? cfg s [.spawnerDone] = some { s with spawner.pc := .exited } := by
  simp only [run?, GroupState.step, waiting, done, if_true, Option.some_bind]

/-- Once `groupCtx` is done, a started spawner can return, leaving the coordinator where it is. -/
theorem spawner_drains (done : s.groupDone = true) (started : s.spawner.pc ≠ .idle) :
    ∃ s', run? cfg s (spawnerDrain cfg.pol.hedge.enabled s.spawner.pc) = some s' ∧
      s'.spawner.pc = .exited ∧ s'.coord = s.coord := by
  cases pc : s.spawner.pc with
  | idle => exact absurd pc started
  | exited => exact ⟨s, rfl, pc, rfl⟩
  | wait => exact ⟨_, run_spawnerDone pc done, rfl, rfl⟩
  | start =>
      cases enabled : cfg.pol.hedge.enabled
      · exact ⟨_, by
          simp only [spawnerDrain, run?, GroupState.step, pc, enabled, Bool.false_eq_true, if_false,
            Option.some_bind]; rfl, by rfl, by rfl⟩
      · exact ⟨_, @run?_trans cfg s _ _ [.spawnerStart] [.spawnerDone] (by
          simp only [run?, GroupState.step, pc, enabled, if_true, Option.some_bind]; rfl)
          (run_spawnerDone (by rfl) (by exact done)), by rfl, by rfl⟩
  | tick =>
      exact ⟨_, @run?_trans cfg s _ _ [.spawnerTrigger false 0] [.spawnerDone] (by
        simp only [run?, GroupState.step, pc, Bool.false_eq_true, if_false, Option.some_bind]; rfl)
        (run_spawnerDone (by rfl) (by exact done)), by rfl, by rfl⟩
  | launch nextCheck =>
      exact ⟨_, @run?_trans cfg s _ _ [.spawnerLaunch] [.spawnerDone]
        (by simp only [run?, GroupState.step, pc, Option.some_bind]; rfl)
        (run_spawnerDone (by rfl) (by exact done)), by rfl, by rfl⟩

/-! ## The attempts -/

/-- The step that moves an attempt on from `pc`: allowed without a `Release`, and a nil result. -/
def drainStep (n : Nat) : AttemptPc → GroupStep
  | .allow => .allow n ⟨true, "", false⟩
  | .invoke => .invoke n
  | .running => .opReturn n none none
  | .record .. => .record n
  | .send _ => .send n
  | .release => .release n
  | .exit | .done => .exit n

/-- An attempt that has not returned always has a next step, given room on `results` to send. -/
theorem Attempt.step_drainStep {n : Nat} {room : Bool} {a : Attempt} (running : a.pc ≠ .done)
    (sendRoom : ∀ res, a.pc = .send res → room = true) :
    ∃ a' events, a.step cfg n room (drainStep n a.pc) = some (a', events) ∧
      a.pc.stage < a'.pc.stage := by
  obtain ⟨idx, isHedge, decision, pc⟩ := a
  cases pc
  case send res =>
    cases allowed : Attempt.allowed ⟨idx, isHedge, decision, .send res⟩ <;>
      simp [Attempt.step, drainStep, sendRoom res rfl, allowed, AttemptPc.stage]
  case done => exact absurd rfl running
  all_goals simp [Attempt.step, drainStep, AttemptPc.stage]

/-- An attempt's remaining program points, summed over the group. -/
def remainingStages (attempts : List Attempt) : Nat :=
  (attempts.map fun a => 7 - a.pc.stage).sum

theorem remainingStages_set_lt :
    ∀ {attempts : List Attempt} {n : Nat} {a a' : Attempt}, attempts[n]? = some a →
      a.pc.stage < a'.pc.stage → remainingStages (attempts.set n a') < remainingStages attempts
  | [], _, _, _, get, _ => by simp at get
  | b :: rest, 0, a, a', get, advanced => by
      simp only [List.getElem?_cons_zero, Option.some.injEq] at get
      subst get
      have last : a'.pc.stage ≤ 7 := by cases a'.pc <;> simp [AttemptPc.stage]
      simp only [remainingStages, List.set_cons_zero, List.map_cons, List.sum_cons]
      omega
  | b :: rest, n + 1, a, a', get, advanced => by
      have smaller := remainingStages_set_lt (List.getElem?_cons_succ ▸ get) advanced
      simp only [remainingStages, List.set_cons_succ, List.map_cons, List.sum_cons] at smaller ⊢
      omega

/-- In a reachable state, no attempt goroutine that has not returned is blocked: its next step runs. -/
theorem step_drainStep (reachable : Reachable cfg s) {n : Nat} {a : Attempt}
    (get : s.attempts[n]? = some a) (running : a.pc ≠ .done) :
    ∃ a' events, s.step cfg (drainStep n a.pc) = some (s.commit n a' events) ∧
      a.pc.stage < a'.pc.stage := by
  have room : ∀ res, a.pc = .send res → decide (s.results.length < cfg.capacity) = true := by
    intro res sending
    have unsent := (GoroutineInv.reachable reachable).results_length_lt get
      (by simp [Attempt.hasSent, sending, AttemptPc.stage])
    have bounded := (LaunchInv.reachable reachable).length_le_capacity
    simpa using unsent.trans_le bounded
  obtain ⟨a', events, stepped, advanced⟩ := @Attempt.step_drainStep cfg n _ a running room
  have attemptStep : s.step cfg (drainStep n a.pc) = s.attemptStep cfg n (drainStep n a.pc) := by
    cases a.pc <;> rfl
  exact ⟨a', events, by simp [attemptStep, GroupState.attemptStep, get, stepped], advanced⟩

/--
From any reachable state, the attempt goroutines alone can all run to their
end, moving neither the spawner nor the coordinator.
-/
theorem attempts_drain (reachable : Reachable cfg s) :
    ∃ schedule s', run? cfg s schedule = some s' ∧ (∀ a ∈ s'.attempts, a.pc = .done) ∧
      s'.spawner = s.spawner ∧ s'.coord = s.coord := by
  generalize size : remainingStages s.attempts = count
  induction count using Nat.strong_induction_on generalizing s with
  | h count inductionHypothesis =>
      by_cases finished : ∀ a ∈ s.attempts, a.pc = .done
      · exact ⟨[], s, rfl, finished, rfl, rfl⟩
      push_neg at finished
      obtain ⟨a, member, running⟩ := finished
      obtain ⟨n, get⟩ := List.mem_iff_getElem?.1 member
      obtain ⟨a', events, moved, advanced⟩ := step_drainStep reachable get running
      have smaller : remainingStages (s.commit n a' events).attempts < count :=
        size ▸ remainingStages_set_lt get advanced
      obtain ⟨schedule, s', ran, done, spawner, coord⟩ :=
        inductionHypothesis _ smaller (reachable.step _ moved) rfl
      exact ⟨drainStep n a.pc :: schedule, s', by simp [run?, moved, ran], done, spawner, coord⟩

end Drain

/--
Once `groupCtx` is done, because the caller's context has ended or the group
has returned, no goroutine of `doRetryGroup` is blocked for good: from every
reachable state some continuation returns the coordinator, ends the spawner
and finishes every attempt, with `activeAttempts` back at zero.
-/
theorem group_drains_once_done {cfg : GroupCfg} {s : GroupState}
    (reachable : Reachable cfg s) (done : s.groupDone = true) :
    ∃ schedule s', run? cfg s schedule = some s' ∧ (∃ r, s'.coord = .returned r) ∧
      s'.spawner.pc = .exited ∧ (∀ a ∈ s'.attempts, a.pc = .done) ∧ s'.activeAttempts = 0 := by
  obtain ⟨first, s₁, ranFirst, r, returned⟩ := coordinator_drains reachable done
  have reachable₁ := reachable.of_run? ranFirst
  have started : s₁.spawner.pc ≠ .idle := fun idle => by
    simp [spawner_started reachable₁ idle] at returned
  obtain ⟨s₂, ranSecond, exited, coord₂⟩ :=
    spawner_drains (run_groupDone done ranFirst) started
  have reachable₂ := reachable₁.of_run? ranSecond
  obtain ⟨third, s₃, ranThird, finished, spawner₃, coord₃⟩ := attempts_drain reachable₂
  have active := (GoroutineInv.reachable (reachable₂.of_run? ranThird)).active
  refine ⟨first ++ spawnerDrain cfg.pol.hedge.enabled s₁.spawner.pc ++ third, s₃,
    run?_trans (run?_trans ranFirst ranSecond) ranThird, ⟨r, by rw [coord₃, coord₂, returned]⟩,
    by rw [spawner₃, exited], finished, ?_⟩
  rw [active, List.countP_eq_zero]
  simpa using finished

/--
The group has returned its primary's success while the hedge it launched has
not yet asked its budget: both can still run to their end.
-/
theorem group_drains_after_success :
    ∃ s, Reachable (hedgedCfg false) s ∧ s.groupDone = true ∧ s.attempts.length = 2 ∧
      ∃ schedule s', run? (hedgedCfg false) s schedule = some s' ∧
        (∃ r, s'.coord = .returned r) ∧ s'.spawner.pc = .exited ∧
        (∀ a ∈ s'.attempts, a.pc = .done) ∧ s'.activeAttempts = 0 := by
  obtain ⟨s, reachable, done, launched⟩ := Reachable.exists_of_run? (hedgedCfg false)
    (fun s => s.groupDone = true ∧ s.attempts.length = 2)
    [.begin, .spawnerStart, .spawnerTick, .spawnerTrigger true 0, .spawnerLaunch,
      .allow 0 ⟨true, "allowed", false⟩, .invoke 0, .opReturn 0 (some 1) none, .record 0, .send 0,
      .receive] (by decide)
  exact ⟨s, reachable, done, launched, group_drains_once_done reachable done⟩

end Recourse

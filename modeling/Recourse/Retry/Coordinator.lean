import Recourse.Retry.Invariants

namespace Recourse

/-!
# What the coordinator returns

The coordinator of `doRetryGroup` returns in four places: on a received
success, on a received fail-fast terminal, at the `active == 0` test after a
received failure, and on the caller's context.  `CoordInv` records what holds
at each, and `group_returns_last_received` concludes that, the caller's context
apart, the group returns the last result it received, whatever came before.

Beside each general result stands an interleaving, checked by evaluation, that
shows what the code does where the hedging plan expects otherwise: the
exhaustion return hands back the last failure received rather than the one of
highest precedence; a denied hedge's synthetic result is received like any
other; a result buffered when the caller's context ends can still win; the
result loop can block after the last result is in; and the success, fail-fast
and context returns leave sibling attempts running.
-/

/-- How `doRetryGroup` hands back a received result: a success with `ok`, a failure without. -/
def GroupReturn.OfResult (r : GroupReturn) (res : GroupResult) : Prop :=
  res.outcome.kind = .success ∧ r = ⟨res.val, none, res.outcome, true⟩ ∨
    res.outcome.kind ≠ .success ∧ r = ⟨res.val, res.err, res.outcome, false⟩

/-- What `doRetryGroup` can return: the caller's context error, or the last result received. -/
def GroupState.Returns (s : GroupState) (r : GroupReturn) : Prop :=
  (∃ err, s.ctxErr = some err ∧ r = ⟨none, some err, ⟨.abort, "context_canceled"⟩, false⟩) ∨
    ∃ res, s.received.getLast? = some res ∧ r.OfResult res

/-- What the result loop keeps true. -/
structure CoordInv (s : GroupState) : Prop where
  /-- Between a failure and the load, `lastRel` is that failure, the last result received. -/
  loading : s.coord = .load →
    s.received.getLast? = some s.lastRel ∧ s.lastRel.outcome.kind ≠ .success
  /-- Every return is the context error or the last result received. -/
  returned : ∀ r, s.coord = .returned r → s.Returns r

namespace CoordInv

variable {cfg : GroupCfg} {s s' : GroupState}

/-- Steps that leave the loop's state alone, or only enter the loop. -/
theorem frame
    (inv : CoordInv s)
    (received : s'.received = s.received)
    (lastRel : s'.lastRel = s.lastRel)
    (ctxErr : s'.ctxErr = s.ctxErr)
    (coord : s'.coord = s.coord ∨ s'.coord = .select) :
    CoordInv s' := by
  obtain ⟨loading, returned⟩ := inv
  rcases coord with coord | coord
  · refine ⟨fun loadingNow => ?_, fun r done => ?_⟩
    · rw [received, lastRel]
      exact loading (coord ▸ loadingNow)
    · have := returned r (coord ▸ done)
      unfold GroupState.Returns at *
      rwa [received, ctxErr]
  · exact ⟨fun loadingNow => by simp [coord] at loadingNow, fun r done => by simp [coord] at done⟩

/-- The `case <-ctx.Done()` return. -/
theorem ctxDone {err : Err} (errIs : s.ctxErr = some err) :
    CoordInv (s.finish ⟨none, some err, ⟨.abort, "context_canceled"⟩, false⟩) :=
  ⟨by simp [GroupState.finish], fun r done => .inl ⟨err, errIs, by
    simpa [GroupState.finish] using done.symm⟩⟩

/-- The caller's context ending changes no return already made. -/
theorem cancel (inv : CoordInv s) (live : s.ctxErr = none) (err : Err) :
    CoordInv { s with ctxErr := some err } := by
  obtain ⟨loading, returned⟩ := inv
  refine ⟨loading, fun r done => ?_⟩
  rcases returned r done with ⟨_, ctxDone, _⟩ | received
  · simp [live] at ctxDone
  · exact .inr received

/-- A receive makes its own return, or hands its failure to the load. -/
theorem receive {res : GroupResult} {rest : List GroupResult} :
    CoordInv (s.receive cfg res rest) := by
  unfold GroupState.receive
  split_ifs with success failFast
  · exact ⟨by simp [GroupState.finish], fun r done => .inr ⟨res, List.getLast?_concat _, .inl
      ⟨success, by simpa [GroupState.finish] using done.symm⟩⟩⟩
  · exact ⟨by simp [GroupState.finish], fun r done => .inr ⟨res, List.getLast?_concat _, .inr
      ⟨success, by simpa [GroupState.finish] using done.symm⟩⟩⟩
  · exact ⟨fun _ => ⟨List.getLast?_concat _, success⟩, fun r done => by simp at done⟩

theorem step (inv : CoordInv s) {act : GroupStep} (stepped : s.step cfg act = some s') :
    CoordInv s' := by
  cases GroupState.step_move stepped with
  | receive => exact receive
  | ctxDone _ cancelled => exact ctxDone cancelled
  | cancel live => exact inv.cancel live _
  | loadIdle loading =>
    obtain ⟨last, failure⟩ := inv.loading loading
    exact ⟨by simp [GroupState.finish], fun r done => .inr ⟨s.lastRel, last, .inr
      ⟨failure, by simpa [GroupState.finish] using done.symm⟩⟩⟩
  | attempt => exact inv.frame rfl rfl rfl (.inl rfl)
  | _ => exact inv.frame rfl rfl rfl (by simp [GroupState.launch])

theorem initial : CoordInv GroupState.initial :=
  ⟨fun enter => by simp [GroupState.initial] at enter, fun r enter => by
    simp [GroupState.initial] at enter⟩

theorem reachable (reachable : Reachable cfg s) : CoordInv s := by
  induction reachable with
  | initial => exact initial
  | step _ _ stepped inductionHypothesis => exact inductionHypothesis.step stepped

end CoordInv

section Returns

variable {cfg : GroupCfg} {s : GroupState} {r : GroupReturn}

/--
While the caller's context is live, `doRetryGroup` returns the last result it
received: a success as `(val, nil, outcome, true)`, a failure, fail-fast or on
exhaustion, as `(val, err, outcome, false)`.  No precedence among the failures
received before it enters.
-/
theorem group_returns_last_received
    (reachable : Reachable cfg s) (live : s.ctxErr = none) (returned : s.coord = .returned r) :
    ∃ res, s.received.getLast? = some res ∧ r.OfResult res := by
  rcases (CoordInv.reachable reachable).returned r returned with ⟨err, cancelled, -⟩ | last
  · simp [live] at cancelled
  · exact last

/--
The primary fails with `NonRetryable` and the coordinator, finding the hedge
still active, waits; the hedge then fails with `Retryable`, both goroutines
finish, and the coordinator takes the `active == 0` return.
-/
def precedenceSchedule : List GroupStep :=
  [.begin, .spawnerStart, .spawnerTick, .spawnerTrigger true 0, .spawnerLaunch,
    .allow 0 ⟨true, "no_budget", false⟩, .invoke 0, .opReturn 0 none (some (.op "boom")),
    .record 0, .send 0, .receive, .load,
    .allow 1 ⟨true, "no_budget", false⟩, .invoke 1, .opReturn 1 none (some .deadlineExceeded),
    .record 1, .send 1, .release 1, .exit 1, .release 0, .exit 0, .receive, .load]

/-- The return at the end of `precedenceSchedule` is its last received result. -/
theorem group_returns_last_received_of_retryable :
    ∃ s r, Reachable (hedgedCfg false) s ∧ s.ctxErr = none ∧ s.coord = .returned r ∧
      ∃ res, s.received.getLast? = some res ∧ r.OfResult res := by
  obtain ⟨s, reachable, live, returned⟩ := Reachable.exists_of_run? (hedgedCfg false)
    (fun s => s.ctxErr = none ∧
      s.coord = .returned ⟨none, some .deadlineExceeded, ⟨.retryable, "timeout"⟩, false⟩)
    precedenceSchedule (by decide)
  exact ⟨s, _, reachable, live, returned, group_returns_last_received reachable live returned⟩

/--
A primary's `NonRetryable` followed by a hedge's `Retryable`: the group
returns the `Retryable`, against the precedence `NonRetryable > Retryable`.
-/
theorem exhaustion_ignores_precedence :
    ∃ s, Reachable (hedgedCfg false) s ∧ s.ctxErr = none ∧
      s.received.map (·.outcome.kind) = [.nonRetryable, .retryable] ∧
      s.coord = .returned ⟨none, some .deadlineExceeded, ⟨.retryable, "timeout"⟩, false⟩ :=
  Reachable.exists_of_run? _ _ precedenceSchedule (by decide)

end Returns

/--
With the caller's context done and a success buffered, the coordinator's
`select` may still take the success and return it.
-/
theorem buffered_success_beats_cancelled_context :
    ∃ s, Reachable unhedgedCfg s ∧ s.ctxErr = some .canceled ∧ s.coord = .select ∧
      (s.step unhedgedCfg .receive).map (·.coord) =
        some (.returned ⟨some 7, none, ⟨.success, ""⟩, true⟩) :=
  Reachable.exists_of_run? _ _
    [.begin, .spawnerStart, .allow 0 ⟨true, "no_budget", false⟩, .invoke 0,
      .opReturn 0 (some 7) none, .record 0, .send 0, .cancel .canceled] (by decide)

/--
A hedge denied by its budget sends `Abort{budget_denied}`, and the group
returns it: through the fail-fast branch with `CancelOnFirstTerminal`, and as
the last failure on exhaustion without it, over the primary's own failure.
-/
theorem denied_hedge_decides_group :
    (∃ s, Reachable (hedgedCfg true) s ∧ s.received.map (·.isHedge) = [true] ∧
      s.coord = .returned ⟨none, some (.budgetDenied "budget_denied"), ⟨.abort, "budget_denied"⟩,
        false⟩) ∧
    (∃ s, Reachable (hedgedCfg false) s ∧ s.received.map (·.isHedge) = [false, true] ∧
      s.coord = .returned ⟨none, some (.budgetDenied "budget_denied"), ⟨.abort, "budget_denied"⟩,
        false⟩) :=
  ⟨Reachable.exists_of_run? _ _
    [.begin, .spawnerStart, .spawnerTick, .spawnerTrigger true 0, .spawnerLaunch,
      .allow 1 ⟨false, "budget_denied", false⟩, .record 1, .send 1, .receive] (by decide),
  Reachable.exists_of_run? _ _
    [.begin, .spawnerStart, .spawnerTick, .spawnerTrigger true 0, .spawnerLaunch,
      .allow 0 ⟨true, "no_budget", false⟩, .invoke 0, .opReturn 0 none (some .deadlineExceeded),
      .record 0, .send 0, .allow 1 ⟨false, "budget_denied", false⟩, .record 1, .send 1,
      .receive, .load, .release 0, .exit 0, .exit 1, .receive, .load] (by decide)⟩

/-! ## The exhaustion return -/

section Exhaustion

variable {cfg : GroupCfg} {s : GroupState}

/-- A finished goroutine takes no more steps. -/
theorem Attempt.step_of_done
    {a : Attempt} (done : a.pc = .done) (n : Nat) (room : Bool) (act : GroupStep) :
    a.step cfg n room act = none := by
  cases act <;> simp [Attempt.step, done]

/--
With nothing buffered, every attempt returned and the spawner gone, only the
caller's context can move a coordinator waiting in its `select`.
-/
theorem waiting_moves_only_on_cancel
    (selecting : s.coord = .select) (empty : s.results = [])
    (finished : ∀ a ∈ s.attempts, a.pc = .done) (spawnerExited : s.spawner.pc = .exited)
    (live : s.ctxErr = none) {act : GroupStep} {s' : GroupState}
    (stepped : s.step cfg act = some s') :
    ∃ err, act = .cancel err := by
  cases GroupState.step_move stepped with
  | cancel => exact ⟨_, rfl⟩
  | attempt get next => simp [Attempt.step_of_done (finished _ (List.getElem?_mem get))] at next
  | _ => simp_all

/--
The lost wake-up: a group that does not hedge receives its primary's failure,
loads `activeAttempts` before the primary's deferred decrement, and waits in its
`select` with every result received and nothing left to send.
-/
theorem coordinator_waits_after_last_result :
    ∃ s, Reachable unhedgedCfg s ∧ s.ctxErr = none ∧ s.coord = .select ∧
      s.received.length = s.attempts.length ∧
      ∀ act s', s.step unhedgedCfg act = some s' → ∃ err, act = .cancel err := by
  obtain ⟨s, reachable, live, selecting, empty, finished, spawnerExited, allIn⟩ :=
    Reachable.exists_of_run? unhedgedCfg
      (fun s => s.ctxErr = none ∧ s.coord = .select ∧ s.results = [] ∧
        (∀ a ∈ s.attempts, a.pc = .done) ∧ s.spawner.pc = .exited ∧
        s.received.length = s.attempts.length)
      [.begin, .spawnerStart, .allow 0 ⟨true, "no_budget", false⟩, .invoke 0,
        .opReturn 0 none (some .deadlineExceeded), .record 0, .send 0, .receive, .load,
        .release 0, .exit 0] (by decide)
  exact ⟨s, reachable, live, selecting, allIn, fun _ _ stepped =>
    waiting_moves_only_on_cancel selecting empty finished spawnerExited live stepped⟩

/-! ## Joining on exhaustion -/

/--
Whenever `activeAttempts` reads zero, as at the coordinator's `active == 0`
return, every attempt launched so far has returned: it has recorded once, sent
once, and run the `Release` of an allowed decision exactly once.
-/
theorem exhaustion_joins_attempts
    (reachable : Reachable cfg s) (idle : s.activeAttempts = 0)
    {n : Nat} {a : Attempt} (get : s.attempts[n]? = some a) :
    a.pc = .done ∧ (s.eventsOf n).count .recordAttempt = 1 ∧ (s.eventsOf n).count .send = 1 ∧
      (s.eventsOf n).count .release = if a.allowed && a.hasRelease then 1 else 0 := by
  have inv := GoroutineInv.reachable reachable
  have done : a.pc = .done := by
    have none := inv.active ▸ idle
    simpa using List.countP_eq_zero.mp none a (List.getElem?_mem get)
  refine ⟨done, inv.count_eq_one get ?_, inv.count_eq_one get ?_, ?_⟩
  · simp [Attempt.trace, done, AttemptPc.stage]
  · simp [Attempt.trace, done, AttemptPc.stage]
  · rw [inv.traces n, get, Option.map_some', Option.getD_some]
    split_ifs with released
    · exact List.count_eq_one_of_mem a.trace_nodup (by simp_all [Attempt.trace, AttemptPc.stage])
    · refine List.count_eq_zero.mpr ?_
      cases hedge : a.isHedge <;>
        simpa [Attempt.trace, Attempt.ranKinds, done, AttemptPc.stage, hedge] using released

/--
The join at the exhaustion return of a group whose primary and hedge, both
allowed with a `Release`, time out and finish before the coordinator loads the
counter.
-/
theorem exhaustion_joins_primary_and_hedge :
    ∃ s a b, Reachable (hedgedCfg false) s ∧ s.activeAttempts = 0 ∧
      s.coord = .returned ⟨none, some .deadlineExceeded, ⟨.retryable, "timeout"⟩, false⟩ ∧
      s.attempts[0]? = some a ∧ s.attempts[1]? = some b ∧
      (a.pc = .done ∧ (s.eventsOf 0).count .recordAttempt = 1 ∧ (s.eventsOf 0).count .send = 1 ∧
        (s.eventsOf 0).count .release = if a.allowed && a.hasRelease then 1 else 0) ∧
      (b.pc = .done ∧ (s.eventsOf 1).count .recordAttempt = 1 ∧ (s.eventsOf 1).count .send = 1 ∧
        (s.eventsOf 1).count .release = if b.allowed && b.hasRelease then 1 else 0) := by
  obtain ⟨s, reachable, idle, returned, primary, hedge⟩ := Reachable.exists_of_run? (hedgedCfg false)
    (fun s => s.activeAttempts = 0 ∧
      s.coord = .returned ⟨none, some .deadlineExceeded, ⟨.retryable, "timeout"⟩, false⟩ ∧
      (s.attempts[0]?).isSome ∧ (s.attempts[1]?).isSome)
    [.begin, .spawnerStart, .spawnerTick, .spawnerTrigger true 0, .spawnerLaunch,
      .allow 0 ⟨true, "allowed", true⟩, .allow 1 ⟨true, "allowed", true⟩, .invoke 0, .invoke 1,
      .opReturn 0 none (some .deadlineExceeded), .opReturn 1 none (some .deadlineExceeded),
      .record 0, .record 1, .send 0, .send 1, .release 0, .release 1, .exit 0, .exit 1,
      .receive, .load] (by decide)
  obtain ⟨a, getPrimary⟩ := Option.isSome_iff_exists.mp primary
  obtain ⟨b, getHedge⟩ := Option.isSome_iff_exists.mp hedge
  exact ⟨s, a, b, reachable, idle, returned, getPrimary, getHedge,
    exhaustion_joins_attempts reachable idle getPrimary,
    exhaustion_joins_attempts reachable idle getHedge⟩

/-- The kinds of the events a run from `s` logs, when the run goes through. -/
def GroupState.eventsAfter (cfg : GroupCfg) (s : GroupState) (schedule : List GroupStep) :
    Option (List EventKind) :=
  (run? cfg s schedule).map fun s' => (s'.log.drop s.log.length).map (·.kind)

/-- The hedge finishes after `context.Canceled`, then the primary runs its deferred calls. -/
def hedgeAfterReturn : List GroupStep :=
  [.opReturn 1 none (some .canceled), .record 1, .send 1, .release 1, .exit 1, .release 0, .exit 0]

/-- Both attempts finish after `context.Canceled`, the primary first. -/
def bothAfterReturn : List GroupStep :=
  [.opReturn 0 none (some .canceled), .record 0, .send 0, .release 0, .exit 0,
    .opReturn 1 none (some .canceled), .record 1, .send 1, .release 1, .exit 1]

/--
The other three returns do not join.  A success, and with
`CancelOnFirstTerminal` a `NonRetryable`, returns while a hedge still runs, and
the hedge's `recordAttempt` and both attempts' `Release` come after the return;
the caller's context returns while both attempts still run.
-/
theorem early_returns_leave_siblings_running :
    (∃ s, Reachable (hedgedCfg false) s ∧
      s.coord = .returned ⟨some 1, none, ⟨.success, ""⟩, true⟩ ∧
      s.eventsAfter (hedgedCfg false) hedgeAfterReturn =
        some [.recordAttempt, .send, .release, .release]) ∧
    (∃ s, Reachable (hedgedCfg true) s ∧
      s.coord = .returned ⟨none, some (.op "boom"), ⟨.nonRetryable, "error"⟩, false⟩ ∧
      s.eventsAfter (hedgedCfg true) hedgeAfterReturn =
        some [.recordAttempt, .send, .release, .release]) ∧
    (∃ s, Reachable (hedgedCfg false) s ∧
      s.coord = .returned ⟨none, some .canceled, ⟨.abort, "context_canceled"⟩, false⟩ ∧
      s.eventsAfter (hedgedCfg false) bothAfterReturn =
        some [.recordAttempt, .send, .release, .recordAttempt, .send, .release]) :=
  ⟨Reachable.exists_of_run? _ _
    [.begin, .spawnerStart, .spawnerTick, .spawnerTrigger true 0, .spawnerLaunch,
      .allow 0 ⟨true, "allowed", true⟩, .invoke 0, .opReturn 0 (some 1) none, .record 0, .send 0,
      .allow 1 ⟨true, "allowed", true⟩, .invoke 1, .receive] (by decide),
  Reachable.exists_of_run? _ _
    [.begin, .spawnerStart, .spawnerTick, .spawnerTrigger true 0, .spawnerLaunch,
      .allow 0 ⟨true, "allowed", true⟩, .invoke 0, .allow 1 ⟨true, "allowed", true⟩, .invoke 1,
      .opReturn 0 none (some (.op "boom")), .record 0, .send 0, .receive] (by decide),
  Reachable.exists_of_run? _ _
    [.begin, .spawnerStart, .spawnerTick, .spawnerTrigger true 0, .spawnerLaunch,
      .allow 0 ⟨true, "allowed", true⟩, .invoke 0, .allow 1 ⟨true, "allowed", true⟩, .invoke 1,
      .cancel .canceled, .ctxDone] (by decide)⟩

end Exhaustion

/-! ## Siblings after `cancelGroup()`

`cancelGroup()` runs only as `doRetryGroup` returns, and nothing labels the
attempts it cuts short: whatever `op` returns, `context.Canceled` included,
goes through the caller's classifier into the attempt's record like any other
result, and no `OnHedgeCancel` is ever called.  What keeps such a result out of
the precedence computation is only that the coordinator has returned and
receives nothing more.
-/

/--
A record, and the result its attempt sends: when the attempt ran, the record
carries the caller's classifier's outcome for the value and error of that
result, which are what `op` returned, and the result carries the same outcome.
-/
def AttemptRecord.ClassifiedAs (cfg : GroupCfg) (rec : AttemptRecord) (res : GroupResult) : Prop :=
  rec.budgetAllowed = true →
    rec.outcome = cfg.classify res.val res.err ∧ rec.err = res.err ∧ res.outcome = rec.outcome

section Classified

variable {cfg : GroupCfg} {s s' : GroupState}

/--
An attempt step holds each record with the result it will send, writes a record
only as it moves on to send that result, and sends the result it held.
-/
theorem Attempt.step_classified
    {n : Nat} {room : Bool} {a a' : Attempt} {act : GroupStep} {events : List GroupEvent}
    (pending : ∀ rec res, a.pc = .record rec res → rec.ClassifiedAs cfg res)
    (stepped : a.step cfg n room act = some (a', events)) :
    (∀ rec res, a'.pc = .record rec res → rec.ClassifiedAs cfg res) ∧
      (∀ m rec, GroupEvent.recordAttempt m rec ∈ events →
        m = n ∧ ∃ res, rec.ClassifiedAs cfg res ∧ a'.pc = .send res) ∧
      ∀ res, a.pc = .send res → GroupEvent.send n res ∈ events := by
  rcases Attempt.step_cases stepped with
    ⟨d, pc, rfl, rfl⟩ | ⟨pc, rfl, rfl⟩ | ⟨val, err, pc, rfl, rfl⟩ | ⟨rec, res, pc, rfl, rfl⟩ |
    ⟨res, pc, -, rfl, rfl⟩ | ⟨pc, rfl, rfl⟩ | ⟨pc, rfl, rfl⟩
  case inl =>
    refine ⟨fun rec res recording => ?_, by simp, by simp [pc]⟩
    split_ifs at recording
    cases recording
    simp [AttemptRecord.ClassifiedAs, GroupCfg.deniedRecord]
  case inr.inr.inl =>
    refine ⟨fun rec res recording => ?_, by simp, by simp [pc]⟩
    cases recording
    exact fun _ => ⟨rfl, rfl, rfl⟩
  case inr.inr.inr.inl =>
    refine ⟨fun _ _ recording => (by cases recording), fun m rec' member => ?_, by simp [pc]⟩
    simp only [List.mem_singleton, GroupEvent.recordAttempt.injEq] at member
    obtain ⟨rfl, rfl⟩ := member
    exact ⟨rfl, res, pending _ _ pc, rfl⟩
  case inr.inr.inr.inr.inl =>
    refine ⟨fun _ _ recording => (by split_ifs at recording), by simp, fun res' sending => ?_⟩
    cases pc.symm.trans sending
    simp
  all_goals exact ⟨fun _ _ recording => (by cases recording), by simp, by simp [pc]⟩

/--
Every record written so far goes with the result its attempt has sent or sends
next, and every record an attempt holds goes with the result it holds.
-/
structure ClassifiedInv (cfg : GroupCfg) (s : GroupState) : Prop where
  logged : ∀ n rec, GroupEvent.recordAttempt n rec ∈ s.log →
    ∃ res, rec.ClassifiedAs cfg res ∧
      (GroupEvent.send n res ∈ s.log ∨ (s.attempts[n]?).map (·.pc) = some (.send res))
  pending : ∀ a ∈ s.attempts, ∀ rec res, a.pc = .record rec res → rec.ClassifiedAs cfg res

namespace ClassifiedInv

theorem frame
    (inv : ClassifiedInv cfg s) (attempts : s'.attempts = s.attempts) (log : s'.log = s.log) :
    ClassifiedInv cfg s' := by
  obtain ⟨logged, pending⟩ := inv
  exact ⟨by rwa [attempts, log], by rwa [attempts]⟩

theorem launch (inv : ClassifiedInv cfg s) {idx : Nat} {isHedge : Bool} :
    ClassifiedInv cfg (s.launch idx isHedge) := by
  refine ⟨fun n rec member => ?_, fun a member rec res recording => ?_⟩
  · simp only [GroupState.launch, List.mem_append, List.mem_singleton, reduceCtorEq,
      or_false] at member ⊢
    obtain ⟨res, classified, sentOrHeld⟩ := inv.logged n rec member
    refine ⟨res, classified, sentOrHeld.imp id fun held => ?_⟩
    obtain ⟨a, get, -⟩ := Option.map_eq_some'.1 held
    rwa [List.getElem?_append_left (List.getElem?_eq_some_iff.1 get).1]
  · simp only [GroupState.launch, List.mem_append, List.mem_singleton] at member
    rcases member with member | rfl
    exacts [inv.pending a member rec res recording, by cases recording]

/-- An attempt step commits what `Attempt.step_classified` says it does. -/
theorem commit
    (inv : ClassifiedInv cfg s)
    {n : Nat} {room : Bool} {a a' : Attempt} {act : GroupStep} {events : List GroupEvent}
    (get : s.attempts[n]? = some a)
    (stepped : a.step cfg n room act = some (a', events)) :
    ClassifiedInv cfg (s.commit n a' events) := by
  obtain ⟨holds, written, sends⟩ :=
    Attempt.step_classified (inv.pending _ (List.getElem?_mem get)) stepped
  refine ⟨fun m rec member => ?_, fun b member => ?_⟩
  · simp only [GroupState.commit, List.mem_append] at member ⊢
    rcases member with old | new
    · obtain ⟨res, classified, sent | held⟩ := inv.logged m rec old
      · exact ⟨res, classified, .inl (.inl sent)⟩
      · refine ⟨res, classified, ?_⟩
        by_cases same : m = n
        · subst same
          simp only [get, Option.map_some', Option.some.injEq] at held
          exact .inl (.inr (sends res held))
        · rw [List.getElem?_set_ne (Ne.symm same)]
          exact .inr held
    · obtain ⟨rfl, res, classified, sending⟩ := written m rec new
      exact ⟨res, classified, .inr (by
        simp [List.getElem?_set_self (List.getElem?_eq_some_iff.1 get).1, sending])⟩
  · rcases List.mem_or_eq_of_mem_set member with member | rfl
    exacts [inv.pending b member, holds]

theorem step (inv : ClassifiedInv cfg s) {act : GroupStep} (stepped : s.step cfg act = some s') :
    ClassifiedInv cfg s' := by
  cases GroupState.step_move stepped with
  | attempt get next => exact inv.commit get next
  | begin => exact inv.launch.frame rfl rfl
  | spawnerLaunch => exact inv.launch.frame rfl rfl
  | _ => exact inv.frame (by first | rfl | simp) (by first | rfl | simp)

theorem reachable (reachable : Reachable cfg s) : ClassifiedInv cfg s := by
  induction reachable with
  | initial => exact ⟨fun n rec member => by simp [GroupState.initial] at member,
      fun a member => by simp [GroupState.initial] at member⟩
  | step _ _ stepped inductionHypothesis => exact inductionHypothesis.step stepped

end ClassifiedInv

/-- The group context is cancelled only by the coordinator's return. -/
theorem cancelled_returned (reachable : Reachable cfg s) (cancelled : s.groupCancelled = true) :
    ∃ r, s.coord = .returned r := by
  induction reachable with
  | initial => simp [GroupState.initial] at cancelled
  | step _ _ stepped inductionHypothesis =>
    cases GroupState.step_move stepped with
    | receive selecting =>
      unfold GroupState.receive at cancelled ⊢
      split_ifs at cancelled ⊢
      · exact ⟨_, rfl⟩
      · exact ⟨_, rfl⟩
      · obtain ⟨r, returned⟩ := inductionHypothesis cancelled
        simp [returned] at selecting
    | ctxDone | loadIdle => exact ⟨_, rfl⟩
    | begin enter | loadActive enter =>
      obtain ⟨r, returned⟩ := inductionHypothesis (by simpa [GroupState.launch] using cancelled)
      simp [returned] at enter
    | _ => exact inductionHypothesis cancelled

/-- After the coordinator has returned, a step neither moves it nor hands it a result. -/
theorem step_of_returned {r : GroupReturn} (returned : s.coord = .returned r) {act : GroupStep}
    (stepped : s.step cfg act = some s') : s'.coord = s.coord ∧ s'.received = s.received := by
  cases GroupState.step_move stepped <;> simp_all [GroupState.commit, GroupState.launch]

/-- Once the group is cancelled, no later run hands the coordinator a result. -/
theorem received_frozen_after_cancel (reachable : Reachable cfg s)
    (cancelled : s.groupCancelled = true) {schedule : List GroupStep}
    (ran : run? cfg s schedule = some s') : s'.received = s.received := by
  obtain ⟨r, returned⟩ := cancelled_returned reachable cancelled
  clear reachable cancelled
  induction schedule generalizing s with
  | nil =>
      cases ran
      rfl
  | cons act rest inductionHypothesis =>
      simp only [run?, Option.bind_eq_some] at ran
      obtain ⟨next, stepped, ranRest⟩ := ran
      obtain ⟨coord, received⟩ := step_of_returned returned stepped
      rw [inductionHypothesis ranRest (coord.trans returned), received]

/--
Over every run, each record of an attempt that ran, a sibling cut short by
`cancelGroup()` included, carries the caller's classifier's outcome for the
value and error `op` returned: those of the result the attempt has sent or sends
next, which carries the same outcome.  Once the group is cancelled, no later
run hands the coordinator a result.
-/
theorem cancelled_siblings_classified (reachable : Reachable cfg s) :
    (∀ n rec, GroupEvent.recordAttempt n rec ∈ s.log → rec.budgetAllowed = true →
      ∃ res, rec.outcome = cfg.classify res.val res.err ∧ rec.err = res.err ∧
        res.outcome = rec.outcome ∧
        (GroupEvent.send n res ∈ s.log ∨ (s.attempts[n]?).map (·.pc) = some (.send res))) ∧
    (s.groupCancelled = true → ∀ schedule s', run? cfg s schedule = some s' →
      s'.received = s.received) := by
  refine ⟨fun n rec logged ran => ?_,
    fun cancelled _ _ ran => received_frozen_after_cancel reachable cancelled ran⟩
  obtain ⟨res, classified, sentOrHeld⟩ := (ClassifiedInv.reachable reachable).logged n rec logged
  obtain ⟨outcome, err, sameOutcome⟩ := classified ran
  exact ⟨res, outcome, err, sameOutcome, sentOrHeld⟩

end Classified

/--
The primary succeeds and the coordinator returns; the hedge's `op` then returns
`context.Canceled`, and the hedge records it.
-/
def cancelledSiblingSchedule : List GroupStep :=
  [.begin, .spawnerStart, .spawnerTick, .spawnerTrigger true 0, .spawnerLaunch,
    .allow 0 ⟨true, "allowed", true⟩, .invoke 0, .opReturn 0 (some 1) none, .record 0, .send 0,
    .allow 1 ⟨true, "allowed", true⟩, .invoke 1, .receive, .opReturn 1 none (some .canceled),
    .record 1]

/-- The record the hedge of `cancelledSiblingSchedule` writes: the classifier's outcome for `context.Canceled`. -/
def cancelledSiblingRecord : AttemptRecord :=
  ⟨0, true, 1, classifyByError none (some .canceled), some .canceled, 0, true, "allowed"⟩

/--
A hedge cut short by the winner's return is not labelled: it records the
classifier's `NonRetryable` for `context.Canceled`, where the hedging plan asks
for `Abort` with `canceled_internal`.
-/
theorem cancelled_sibling_not_labelled :
    (∃ s, Reachable (hedgedCfg false) s ∧ s.groupCancelled = true ∧
      GroupEvent.recordAttempt 1 cancelledSiblingRecord ∈ s.log) ∧
    cancelledSiblingRecord.outcome = ⟨.nonRetryable, "error"⟩ ∧
    cancelledSiblingRecord.outcome ≠ ⟨.abort, "canceled_internal"⟩ :=
  ⟨Reachable.exists_of_run? _ _ cancelledSiblingSchedule (by decide), rfl, by decide⟩

/--
The law at the cancelled hedge: its record is classified as the result it sends
next, and the coordinator has stopped receiving.
-/
theorem cancelled_siblings_classified_of_hedge :
    ∃ s, Reachable (hedgedCfg false) s ∧ s.groupCancelled = true ∧
      GroupEvent.recordAttempt 1 cancelledSiblingRecord ∈ s.log ∧
      cancelledSiblingRecord.budgetAllowed = true ∧
      (∃ res, cancelledSiblingRecord.outcome = (hedgedCfg false).classify res.val res.err ∧
        cancelledSiblingRecord.err = res.err ∧ res.outcome = cancelledSiblingRecord.outcome ∧
        (GroupEvent.send 1 res ∈ s.log ∨ (s.attempts[1]?).map (·.pc) = some (.send res))) ∧
      ∀ schedule s', run? (hedgedCfg false) s schedule = some s' → s'.received = s.received := by
  obtain ⟨s, reachable, cancelled, logged⟩ := Reachable.exists_of_run? (hedgedCfg false)
    (fun s => s.groupCancelled = true ∧ GroupEvent.recordAttempt 1 cancelledSiblingRecord ∈ s.log)
    cancelledSiblingSchedule (by decide)
  have law := cancelled_siblings_classified reachable
  exact ⟨s, reachable, cancelled, logged, rfl, law.1 _ _ logged rfl, law.2 cancelled⟩

end Recourse

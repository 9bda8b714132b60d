import Recourse.Retry.Types

namespace Recourse

/-!
# `doRetryGroup` as a transition system

`doRetryGroup` runs three kinds of goroutine against shared state: the
coordinator (the function body and its result loop), the hedge spawner, and
one goroutine per `launch`.  The shared state is the `results` channel, the
atomic `activeAttempts` counter, the group context, and the caller's context.
Each goroutine is a program counter with its locals, and a `GroupStep` moves
exactly one goroutine by one step; every step touches shared state at most
once, so the interleavings of steps are the interleavings of the program.

What the environment decides is a step's argument: the budget's decision, the
operation's result, the trigger's answer, and the moment the caller's context
ends.  Time is not modelled: a ticker may fire whenever the spawner waits, which
covers every timing.  The spawner's trigger lookup is left out with it, the
answers themselves being arbitrary.

A step that Go would block on (a receive from an empty channel, a send to a full
one, a `select` with no ready case) is a step that returns `none`.
-/

/-- `budgetKind`: `KindHedge` for a hedge, `KindRetry` for the primary. -/
def budgetKind (isHedge : Bool) : AttemptKind :=
  if isHedge then .hedge else .retry

/-- What `doRetryGroup` reads from its arguments and its executor. -/
structure GroupCfg where
  pol : EffectivePolicy
  retryIdx : Nat
  lastBackoff : Int
  /-- `classifyWithRecovery` followed by `annotateClassifierFallback`. -/
  classify : Option Nat → Option Err → Outcome
  /--
  A normalized policy has `MaxHedges` in `1..3` whenever hedging is on; the
  model needs only that it is not negative, which makes `results` a buffered
  channel (`make` panics on a negative size, and a size of zero would make it
  unbuffered).
  -/
  maxHedges_nonneg : pol.hedge.enabled = true → 0 ≤ pol.hedge.maxHedges

namespace GroupCfg

variable (cfg : GroupCfg)

/-- `maxHedges`: `pol.Hedge.MaxHedges` when hedging is enabled, else zero. -/
def maxHedges : Nat :=
  if cfg.pol.hedge.enabled then cfg.pol.hedge.maxHedges.toNat else 0

/-- The capacity of `results`, `1+maxHedges`. -/
def capacity : Nat := 1 + cfg.maxHedges

/-- `budgetRef`: `pol.Hedge.Budget` for a hedge, `pol.Retry.Budget` for the primary. -/
def budgetRef (isHedge : Bool) : BudgetRef :=
  if isHedge then cfg.pol.hedge.budget else cfg.pol.retry.budget

/-- The `Backoff` an attempt records: `lastBackoff` for the primary, zero for a hedge. -/
def backoffOf (isHedge : Bool) : Int :=
  if isHedge then 0 else cfg.lastBackoff

end GroupCfg

/-- Where an attempt goroutine stands. -/
inductive AttemptPc where
  /-- Launched; calls `e.allowAttempt` next. -/
  | allow
  /-- Allowed; calls `OnHedgeSpawn` (hedges only) and `op` next. -/
  | invoke
  /-- `op(attemptCtx)` has not returned. -/
  | running
  /-- Calls `recordAttempt(rec)` next. -/
  | record (rec : AttemptRecord) (res : GroupResult)
  /-- Sends `res` on `results` next. -/
  | send (res : GroupResult)
  /-- Runs the deferred `release()` next. -/
  | release
  /-- Runs the deferred `activeAttempts.Add(-1)` next. -/
  | exit
  /-- The goroutine has returned. -/
  | done
  deriving Repr, DecidableEq

/-- One attempt goroutine: its hedge index, its kind, its budget decision once made. -/
structure Attempt where
  idx : Nat
  isHedge : Bool
  decision : Option Decision
  pc : AttemptPc
  deriving Repr, DecidableEq

/-- Where the hedge spawner stands. -/
inductive SpawnerPc where
  /-- The coordinator has not reached `go func()` yet. -/
  | idle
  /-- Started; checks `Enabled` next. -/
  | start
  /-- Blocked in the `select` on `groupCtx.Done()` and `ticker.C`. -/
  | wait
  /-- Took a tick with hedges left; asks the trigger next. -/
  | tick
  /-- The trigger said spawn; launches a hedge and resets the ticker next. -/
  | launch (nextCheck : Int)
  /-- Returned. -/
  | exited
  deriving Repr, DecidableEq

/--
The spawner: program counter, `hedgesLaunched`, and the ticker's period.  The
two locals hold their initial values (`hedgesLaunched := 0`, no ticker yet) until
the spawner starts.
-/
structure Spawner where
  pc : SpawnerPc
  hedgesLaunched : Nat
  period : Int
  deriving Repr, DecidableEq

/-- Where the coordinator stands. -/
inductive CoordPc where
  /-- `doRetryGroup` has been called; launches the primary and the spawner next. -/
  | enter
  /-- In the result loop's `select`. -/
  | select
  /-- Received a failure; loads `activeAttempts` next. -/
  | load
  /-- Returned `r`; the deferred `cancelGroup()` has run. -/
  | returned (r : GroupReturn)
  deriving Repr, DecidableEq

/-- The state of one retry group: goroutines, shared state, and two ghost histories. -/
structure GroupState where
  /-- `ctx.Err()`: `none` while the caller's context is live. -/
  ctxErr : Option Err
  /-- Whether `cancelGroup()` has run. -/
  groupCancelled : Bool
  activeAttempts : Nat
  /-- The buffered values of `results`, oldest first. -/
  results : List GroupResult
  /-- The attempt goroutines in launch order. -/
  attempts : List Attempt
  spawner : Spawner
  coord : CoordPc
  lastRel : GroupResult
  /-- Ghost: the results the coordinator has received, in order. -/
  received : List GroupResult
  /-- Ghost: the externally visible actions so far, in order. -/
  log : List GroupEvent
  deriving Repr, DecidableEq

/-- One step of one goroutine, or of the environment. -/
inductive GroupStep where
  /-- Coordinator: `launch(0, false)`, then `go` the spawner. -/
  | begin
  /-- Coordinator: the `case res := <-results` branch. -/
  | receive
  /-- Coordinator: the `case <-ctx.Done()` branch. -/
  | ctxDone
  /-- Coordinator: `active := activeAttempts.Load()` and the `active == 0` test. -/
  | load
  /-- Spawner: the `Enabled` test and `time.NewTicker(25ms)`. -/
  | spawnerStart
  /-- Spawner: the `case <-groupCtx.Done()` branch. -/
  | spawnerDone
  /-- Spawner: the `case <-ticker.C` branch up to the `hedgesLaunched >= maxHedges` test. -/
  | spawnerTick
  /-- Spawner: `trig.ShouldSpawnHedge(state)` answers `(should, nextCheck)`. -/
  | spawnerTrigger (should : Bool) (nextCheck : Int)
  /-- Spawner: `hedgesLaunched++`, `launch(hedgesLaunched, true)`, `ticker.Reset`. -/
  | spawnerLaunch
  /-- Attempt `n`: `e.allowAttempt` returns `decision`. -/
  | allow (n : Nat) (decision : Decision)
  /-- Attempt `n`: `OnHedgeSpawn` for a hedge, then the call `op(attemptCtx)`. -/
  | invoke (n : Nat)
  /-- Attempt `n`: `op` returns `(val, err)`, which is classified. -/
  | opReturn (n : Nat) (val : Option Nat) (err : Option Err)
  /-- Attempt `n`: `recordAttempt`. -/
  | record (n : Nat)
  /-- Attempt `n`: `results <- res`. -/
  | send (n : Nat)
  /-- Attempt `n`: the deferred `release()`. -/
  | release (n : Nat)
  /-- Attempt `n`: the deferred `activeAttempts.Add(-1)`. -/
  | exit (n : Nat)
  /-- Environment: the caller's context ends with `err`. -/
  | cancel (err : Err)
  deriving Repr, DecidableEq

/-- `ticker.Reset(nextCheck)` when `nextCheck > 0`: the ticker's period afterwards. -/
def resetPeriod (period nextCheck : Int) : Int :=
  if 0 < nextCheck then nextCheck else period

namespace Attempt

/-- Whether an attempt's budget decision allowed it. -/
def allowed (a : Attempt) : Bool :=
  a.decision.any (·.allowed)

/-- Whether an attempt's decision came with a `Release` handle. -/
def hasRelease (a : Attempt) : Bool :=
  a.decision.any (·.release)

/-- The synthetic result a denied attempt sends. -/
def deniedResult (a : Attempt) (d : Decision) : GroupResult where
  val := none
  err := some (.budgetDenied d.reason)
  outcome := ⟨.abort, d.reason⟩
  isHedge := a.isHedge
  idx := a.idx

end Attempt

namespace GroupCfg

variable (cfg : GroupCfg)

/-- The record of a denied attempt. -/
def deniedRecord (a : Attempt) (d : Decision) : AttemptRecord where
  attempt := cfg.retryIdx
  isHedge := a.isHedge
  hedgeIndex := a.idx
  outcome := ⟨.abort, d.reason⟩
  err := none
  backoff := cfg.backoffOf a.isHedge
  budgetAllowed := false
  budgetReason := d.reason

/-- The `AttemptInfo` attached to an allowed attempt's context. -/
def attemptInfo (a : Attempt) : AttemptInfo where
  retryIndex := cfg.retryIdx
  attempt := cfg.retryIdx
  isHedge := a.isHedge
  hedgeIndex := a.idx
  policyID := cfg.pol.id

/-- The record passed to `OnHedgeSpawn`. -/
def spawnRecord (a : Attempt) : AttemptRecord where
  attempt := cfg.retryIdx
  isHedge := true
  hedgeIndex := a.idx
  outcome := Outcome.zero
  err := none
  backoff := 0
  budgetAllowed := false
  budgetReason := ""

/-- The record of an attempt whose `op` returned `err`, classified as `outcome`. -/
def ranRecord (a : Attempt) (err : Option Err) (outcome : Outcome) : AttemptRecord where
  attempt := cfg.retryIdx
  isHedge := a.isHedge
  hedgeIndex := a.idx
  outcome := outcome
  err := err
  backoff := cfg.backoffOf a.isHedge
  budgetAllowed := true
  budgetReason := (a.decision.map (·.reason)).getD ""

end GroupCfg

namespace Attempt

variable (cfg : GroupCfg)

/--
One step of the attempt goroutine at launch position `n`, on its own locals:
its next locals and the actions it performs.  `room` says whether `results` has
space; a send without it blocks.
-/
def step (n : Nat) (room : Bool) (a : Attempt) : GroupStep → Option (Attempt × List GroupEvent)
  | .allow _ d =>
      match a.pc with
      | .allow =>
          let pc := if d.allowed then .invoke
            else .record (cfg.deniedRecord a d) (a.deniedResult d)
          some ({ a with decision := some d, pc },
            [.allowAttempt n cfg.retryIdx (budgetKind a.isHedge) (cfg.budgetRef a.isHedge)])
      | _ => none
  | .invoke _ =>
      match a.pc with
      | .invoke =>
          let spawn := if a.isHedge then [.hedgeSpawn n (cfg.spawnRecord a)] else []
          some ({ a with pc := .running }, spawn ++ [.invoke n (cfg.attemptInfo a)])
      | _ => none
  | .opReturn _ val err =>
      match a.pc with
      | .running =>
          let outcome := cfg.classify val err
          some ({ a with
            pc := .record (cfg.ranRecord a err outcome) ⟨val, err, outcome, a.isHedge, a.idx⟩ }, [])
      | _ => none
  | .record _ =>
      match a.pc with
      | .record rec res => some ({ a with pc := .send res }, [.recordAttempt n rec])
      | _ => none
  | .send _ =>
      match a.pc with
      | .send res =>
          if room then some ({ a with pc := if a.allowed then .release else .exit }, [.send n res])
          else none
      | _ => none
  | .release _ =>
      match a.pc with
      | .release => some ({ a with pc := .exit }, if a.hasRelease then [.release n] else [])
      | _ => none
  | .exit _ =>
      match a.pc with
      | .exit => some ({ a with pc := .done }, [])
      | _ => none
  | _ => none

end Attempt

section AttemptStepCases

variable {cfg : GroupCfg} {n : Nat} {room : Bool} {a a' : Attempt} {act : GroupStep}
  {events : List GroupEvent}

/--
The seven moves of an attempt goroutine, one per program point it can leave:
what the step needs and what it yields.  Lemmas about attempt steps case on
this and never unfold `Attempt.step`.
-/
theorem Attempt.step_cases
    (stepped : a.step cfg n room act = some (a', events)) :
    (∃ d, a.pc = .allow ∧
      a' = { a with
        decision := some d
        pc := if d.allowed then .invoke else .record (cfg.deniedRecord a d) (a.deniedResult d) } ∧
      events = [.allowAttempt n cfg.retryIdx (budgetKind a.isHedge) (cfg.budgetRef a.isHedge)]) ∨
    (a.pc = .invoke ∧ a' = { a with pc := .running } ∧
      events = (if a.isHedge then [.hedgeSpawn n (cfg.spawnRecord a)] else []) ++
        [.invoke n (cfg.attemptInfo a)]) ∨
    (∃ val err, a.pc = .running ∧
      a' = { a with
        pc := .record (cfg.ranRecord a err (cfg.classify val err))
          ⟨val, err, cfg.classify val err, a.isHedge, a.idx⟩ } ∧ events = []) ∨
    (∃ rec res, a.pc = .record rec res ∧ a' = { a with pc := .send res } ∧
      events = [.recordAttempt n rec]) ∨
    (∃ res, a.pc = .send res ∧ room = true ∧
      a' = { a with pc := if a.allowed then .release else .exit } ∧ events = [.send n res]) ∨
    (a.pc = .release ∧ a' = { a with pc := .exit } ∧
      events = if a.hasRelease then [.release n] else []) ∨
    (a.pc = .exit ∧ a' = { a with pc := .done } ∧ events = []) := by
  cases act <;> simp only [Attempt.step, reduceCtorEq] at stepped <;> split at stepped <;>
    simp only [reduceCtorEq, Option.some.injEq, Prod.mk.injEq, Option.ite_none_right_eq_some]
      at stepped
  case allow.h_1 => obtain ⟨rfl, rfl⟩ := stepped; exact .inl ⟨_, ‹_›, rfl, rfl⟩
  case invoke.h_1 => obtain ⟨rfl, rfl⟩ := stepped; exact .inr <| .inl ⟨‹_›, rfl, rfl⟩
  case opReturn.h_1 =>
    obtain ⟨rfl, rfl⟩ := stepped; exact .inr <| .inr <| .inl ⟨_, _, ‹_›, rfl, rfl⟩
  case record.h_1 =>
    obtain ⟨rfl, rfl⟩ := stepped; exact .inr <| .inr <| .inr <| .inl ⟨_, _, ‹_›, rfl, rfl⟩
  case send.h_1 =>
    obtain ⟨room, rfl, rfl⟩ := stepped
    exact .inr <| .inr <| .inr <| .inr <| .inl ⟨_, ‹_›, room, rfl, rfl⟩
  case release.h_1 =>
    obtain ⟨rfl, rfl⟩ := stepped; exact .inr <| .inr <| .inr <| .inr <| .inr <| .inl ⟨‹_›, rfl, rfl⟩
  case exit.h_1 =>
    obtain ⟨rfl, rfl⟩ := stepped; exact .inr <| .inr <| .inr <| .inr <| .inr <| .inr ⟨‹_›, rfl, rfl⟩

end AttemptStepCases

namespace GroupState

variable (cfg : GroupCfg)

/-- The state at the call of `doRetryGroup`. -/
def initial : GroupState where
  ctxErr := none
  groupCancelled := false
  activeAttempts := 0
  results := []
  attempts := []
  spawner := ⟨.idle, 0, 0⟩
  coord := .enter
  lastRel := GroupResult.zero
  received := []
  log := []

/-- Whether `groupCtx.Done()` is closed: the caller's context ended or `cancelGroup()` ran. -/
def groupDone (s : GroupState) : Bool :=
  s.ctxErr.isSome || s.groupCancelled

/-- `launch(idx, isHedge)`: count the attempt and start its goroutine. -/
def launch (s : GroupState) (idx : Nat) (isHedge : Bool) : GroupState :=
  { s with
    activeAttempts := s.activeAttempts + 1
    attempts := s.attempts ++ [⟨idx, isHedge, none, .allow⟩]
    log := s.log ++ [.launch s.attempts.length idx isHedge] }

/-- `return r` from `doRetryGroup`, with its deferred `cancelGroup()`. -/
def finish (s : GroupState) (r : GroupReturn) : GroupState :=
  { s with coord := .returned r, groupCancelled := true }

/--
Attempt `n` moves to `a` and performs `events`: a send appends its result to
`results`, and the step that finishes the goroutine is its deferred
`activeAttempts.Add(-1)`.
-/
def commit (s : GroupState) (n : Nat) (a : Attempt) (events : List GroupEvent) : GroupState :=
  { s with
    attempts := s.attempts.set n a
    log := s.log ++ events
    results := s.results ++ events.filterMap GroupEvent.sent?
    activeAttempts := if a.pc = .done then s.activeAttempts - 1 else s.activeAttempts }

/-- A step of attempt `n`, if it has been launched. -/
def attemptStep (s : GroupState) (n : Nat) (act : GroupStep) : Option GroupState :=
  s.attempts[n]?.bind fun a =>
    (a.step cfg n (s.results.length < cfg.capacity) act).map fun next => s.commit n next.1 next.2

/-- The coordinator's `case res := <-results` branch. -/
def receive (s : GroupState) (res : GroupResult) (rest : List GroupResult) : GroupState :=
  let s := { s with results := rest, received := s.received ++ [res] }
  if res.outcome.kind = .success then s.finish ⟨res.val, none, res.outcome, true⟩
  else if cfg.pol.hedge.cancelOnFirstTerminal ∧
      (res.outcome.kind = .nonRetryable ∨ res.outcome.kind = .abort) then
    { s with lastRel := res }.finish ⟨res.val, res.err, res.outcome, false⟩
  else { s with lastRel := res, coord := .load }

section ReceiveLemmas

variable {s : GroupState} {res : GroupResult} {rest : List GroupResult}

@[simp] theorem receive_attempts : (s.receive cfg res rest).attempts = s.attempts := by
  unfold receive; split_ifs <;> rfl

@[simp] theorem receive_spawner : (s.receive cfg res rest).spawner = s.spawner := by
  unfold receive; split_ifs <;> rfl

@[simp] theorem receive_log : (s.receive cfg res rest).log = s.log := by
  unfold receive; split_ifs <;> rfl

theorem receive_coord_ne_enter : (s.receive cfg res rest).coord ≠ .enter := by
  unfold receive; split_ifs <;> simp [finish]

end ReceiveLemmas

/-- One step of the group. -/
def step (s : GroupState) : GroupStep → Option GroupState
  | .begin =>
      match s.coord with
      | .enter => some { s.launch 0 false with coord := .select, spawner.pc := .start }
      | _ => none
  | .receive =>
      match s.coord, s.results with
      | .select, res :: rest => some (s.receive cfg res rest)
      | _, _ => none
  | .ctxDone =>
      match s.coord, s.ctxErr with
      | .select, some err => some (s.finish ⟨none, some err, ⟨.abort, "context_canceled"⟩, false⟩)
      | _, _ => none
  | .load =>
      match s.coord with
      | .load =>
          if s.activeAttempts = 0 then
            some (s.finish ⟨s.lastRel.val, s.lastRel.err, s.lastRel.outcome, false⟩)
          else some { s with coord := .select }
      | _ => none
  | .spawnerStart =>
      match s.spawner.pc with
      | .start =>
          if cfg.pol.hedge.enabled then
            some { s with spawner := { s.spawner with pc := .wait, period := 25 * millisecond } }
          else some { s with spawner.pc := .exited }
      | _ => none
  | .spawnerDone =>
      match s.spawner.pc with
      | .wait => if s.groupDone then some { s with spawner.pc := .exited } else none
      | _ => none
  | .spawnerTick =>
      match s.spawner.pc with
      | .wait =>
          if cfg.maxHedges ≤ s.spawner.hedgesLaunched then some { s with spawner.pc := .exited }
          else some { s with spawner.pc := .tick }
      | _ => none
  | .spawnerTrigger should nextCheck =>
      match s.spawner.pc with
      | .tick =>
          if should then some { s with spawner.pc := .launch nextCheck }
          else some { s with
            spawner := { s.spawner with
              pc := .wait, period := resetPeriod s.spawner.period nextCheck } }
      | _ => none
  | .spawnerLaunch =>
      match s.spawner.pc with
      | .launch nextCheck =>
          let hedgesLaunched := s.spawner.hedgesLaunched + 1
          some { s.launch hedgesLaunched true with
            spawner := ⟨.wait, hedgesLaunched, resetPeriod s.spawner.period nextCheck⟩ }
      | _ => none
  | .cancel err =>
      match s.ctxErr with
      | none => some { s with ctxErr := some err }
      | some _ => none
  | .allow n d => s.attemptStep cfg n (.allow n d)
  | .invoke n => s.attemptStep cfg n (.invoke n)
  | .opReturn n val err => s.attemptStep cfg n (.opReturn n val err)
  | .record n => s.attemptStep cfg n (.record n)
  | .send n => s.attemptStep cfg n (.send n)
  | .release n => s.attemptStep cfg n (.release n)
  | .exit n => s.attemptStep cfg n (.exit n)

/--
The moves of a group as a relation, one constructor per branch of `step` with
the guard it takes.  `step_move` shows that every step is one of them, so that
the invariants case on the move and never unfold `step`.
-/
inductive Move : GroupState → GroupStep → GroupState → Prop where
  | begin {s : GroupState} (enter : s.coord = .enter) :
      Move s .begin { s.launch 0 false with coord := .select, spawner.pc := .start }
  | receive {s : GroupState} {res : GroupResult} {rest : List GroupResult}
      (selecting : s.coord = .select) (buffered : s.results = res :: rest) :
      Move s .receive (s.receive cfg res rest)
  | ctxDone {s : GroupState} {err : Err}
      (selecting : s.coord = .select) (cancelled : s.ctxErr = some err) :
      Move s .ctxDone (s.finish ⟨none, some err, ⟨.abort, "context_canceled"⟩, false⟩)
  | loadIdle {s : GroupState} (loading : s.coord = .load) (idle : s.activeAttempts = 0) :
      Move s .load (s.finish ⟨s.lastRel.val, s.lastRel.err, s.lastRel.outcome, false⟩)
  | loadActive {s : GroupState} (loading : s.coord = .load) (active : ¬s.activeAttempts = 0) :
      Move s .load { s with coord := .select }
  | spawnerStart {s : GroupState} (starting : s.spawner.pc = .start)
      (enabled : cfg.pol.hedge.enabled = true) :
      Move s .spawnerStart
        { s with spawner := { s.spawner with pc := .wait, period := 25 * millisecond } }
  | spawnerDisabled {s : GroupState} (starting : s.spawner.pc = .start)
      (disabled : ¬cfg.pol.hedge.enabled = true) :
      Move s .spawnerStart { s with spawner.pc := .exited }
  | spawnerDone {s : GroupState} (waiting : s.spawner.pc = .wait) (done : s.groupDone = true) :
      Move s .spawnerDone { s with spawner.pc := .exited }
  | spawnerExhausted {s : GroupState} (waiting : s.spawner.pc = .wait)
      (exhausted : cfg.maxHedges ≤ s.spawner.hedgesLaunched) :
      Move s .spawnerTick { s with spawner.pc := .exited }
  | spawnerTick {s : GroupState} (waiting : s.spawner.pc = .wait)
      (room : ¬cfg.maxHedges ≤ s.spawner.hedgesLaunched) :
      Move s .spawnerTick { s with spawner.pc := .tick }
  | spawnerTrigger {s : GroupState} {should : Bool} {nextCheck : Int}
      (ticked : s.spawner.pc = .tick) (spawn : should = true) :
      Move s (.spawnerTrigger should nextCheck) { s with spawner.pc := .launch nextCheck }
  | spawnerSkip {s : GroupState} {should : Bool} {nextCheck : Int}
      (ticked : s.spawner.pc = .tick) (skip : ¬should = true) :
      Move s (.spawnerTrigger should nextCheck)
        { s with
          spawner := { s.spawner with
            pc := .wait, period := resetPeriod s.spawner.period nextCheck } }
  | spawnerLaunch {s : GroupState} {nextCheck : Int} (launching : s.spawner.pc = .launch nextCheck) :
      Move s .spawnerLaunch
        { s.launch (s.spawner.hedgesLaunched + 1) true with
          spawner :=
            ⟨.wait, s.spawner.hedgesLaunched + 1, resetPeriod s.spawner.period nextCheck⟩ }
  | cancel {s : GroupState} {err : Err} (live : s.ctxErr = none) :
      Move s (.cancel err) { s with ctxErr := some err }
  | attempt {s : GroupState} {act : GroupStep} {n : Nat} {a a' : Attempt}
      {events : List GroupEvent} (get : s.attempts[n]? = some a)
      (stepped : a.step cfg n (s.results.length < cfg.capacity) act = some (a', events)) :
      Move s act (s.commit n a' events)

variable {cfg} in
/-- Every step of the group is one of its moves. -/
theorem step_move {s s' : GroupState} {act : GroupStep} (stepped : s.step cfg act = some s') :
    Move cfg s act s' := by
  cases act
  case allow | invoke | opReturn | record | send | release | exit =>
    simp only [step, attemptStep, Option.bind_eq_some, Option.map_eq_some'] at stepped
    obtain ⟨a, get, ⟨a', events⟩, stepped, rfl⟩ := stepped
    exact .attempt get stepped
  all_goals
    simp only [step] at stepped
    split at stepped <;> (try split_ifs at stepped) <;> cases stepped
  all_goals constructor <;> assumption

end GroupState

/-- The states a group can reach from the call of `doRetryGroup`, under any interleaving. -/
inductive Reachable (cfg : GroupCfg) : GroupState → Prop where
  | initial : Reachable cfg GroupState.initial
  | step {s s' : GroupState} (act : GroupStep) :
      Reachable cfg s → s.step cfg act = some s' → Reachable cfg s'

/-- Run a schedule of steps; `none` as soon as one of them cannot be taken. -/
def run? (cfg : GroupCfg) : GroupState → List GroupStep → Option GroupState
  | s, [] => some s
  | s, act :: rest => (s.step cfg act).bind fun next => run? cfg next rest

/-- A schedule that runs from a reachable state ends in a reachable state. -/
theorem Reachable.of_run?
    {cfg : GroupCfg} {s s' : GroupState} {schedule : List GroupStep}
    (reachable : Reachable cfg s)
    (ran : run? cfg s schedule = some s') :
    Reachable cfg s' := by
  induction schedule generalizing s with
  | nil =>
      cases ran
      exact reachable
  | cons act rest inductionHypothesis =>
      simp only [run?, Option.bind_eq_some] at ran
      obtain ⟨next, stepped, ranRest⟩ := ran
      exact inductionHypothesis (reachable.step act stepped) ranRest

/--
A schedule accepted from the call of `doRetryGroup` exhibits a reachable state:
the form in which concrete interleavings below are checked by evaluation.
-/
theorem Reachable.exists_of_run?
    (cfg : GroupCfg) (P : GroupState → Prop) [DecidablePred P] (schedule : List GroupStep)
    (accepted : ((run? cfg GroupState.initial schedule).map fun s => decide (P s)) = some true) :
    ∃ s, Reachable cfg s ∧ P s := by
  cases ran : run? cfg GroupState.initial schedule with
  | none => simp [ran] at accepted
  | some s =>
      simp only [ran, Option.map_some', Option.some.injEq, decide_eq_true_eq] at accepted
      exact ⟨s, Reachable.initial.of_run? ran, accepted⟩

/-! ## Example configurations

The schedules that the later modules check by evaluation run under these.  The
classifier is the caller's: here a nil error is a success, a deadline a
retryable failure, and any other error a non-retryable one.
-/

/-- A caller's classifier: success on a nil error, retry on a deadline, stop otherwise. -/
def classifyByError : Option Nat → Option Err → Outcome
  | _, none => ⟨.success, ""⟩
  | _, some .deadlineExceeded => ⟨.retryable, "timeout"⟩
  | _, some _ => ⟨.nonRetryable, "error"⟩

/-- The default policy with two hedges, 10ms apart. -/
def hedgedPolicy (cancelOnFirstTerminal : Bool) : EffectivePolicy :=
  { defaultPolicyFor ⟨"example", "call"⟩ with
    hedge :=
      { enabled := true
        maxHedges := 2
        hedgeDelay := 10 * millisecond
        triggerName := ""
        cancelOnFirstTerminal := cancelOnFirstTerminal
        budget := ⟨"", 1⟩ } }

/-- The first retry group of a call under `hedgedPolicy`. -/
def hedgedCfg (cancelOnFirstTerminal : Bool) : GroupCfg where
  pol := hedgedPolicy cancelOnFirstTerminal
  retryIdx := 0
  lastBackoff := 0
  classify := classifyByError
  maxHedges_nonneg _ := (by decide : (0 : Int) ≤ 2)

/-- The first retry group of a call under the default policy, which does not hedge. -/
def unhedgedCfg : GroupCfg where
  pol := defaultPolicyFor ⟨"example", "call"⟩
  retryIdx := 0
  lastBackoff := 0
  classify := classifyByError
  maxHedges_nonneg _ := by decide

end Recourse

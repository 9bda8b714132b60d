import Recourse.Retry.Group
import Mathlib.Data.List.Nodup

namespace Recourse

/-!
# Invariants of a retry group

Two invariants hold in every reachable state of a group.  The launch invariant
ties the attempts to the spawner's counter: the primary and `hedgesLaunched`
hedges have been launched, in hedge-index order, and the counter never passes
`maxHedges`.  The goroutine invariant ties each attempt's program counter to
the shared state: the log projected onto one attempt is that goroutine's
program-order trace, `activeAttempts` counts the goroutines still running, and
`results` hands the coordinator exactly what was sent, in order.

Each is proved for one step and then, by induction on `Reachable`, for every
run.  An attempt step is analysed once, in `Attempt.step_spec` (from the
inversion lemma `Attempt.step_cases`), on the goroutine's locals alone; the
shared-state lemmas cite it.
-/

/-- How far an attempt goroutine has got: the number of its program points behind it. -/
def AttemptPc.stage : AttemptPc → Nat
  | .allow => 0
  | .invoke => 1
  | .running => 2
  | .record .. => 3
  | .send _ => 4
  | .release => 5
  | .exit => 6
  | .done => 7

/-- Whether the spawner holds a hedge it may still launch: after a tick, before the launch. -/
def SpawnerPc.pending : SpawnerPc → Nat
  | .tick => 1
  | .launch _ => 1
  | _ => 0

namespace Attempt

/-- The events between an allowed attempt's budget call and its `recordAttempt`. -/
def ranKinds (a : Attempt) : List EventKind :=
  if a.allowed then (if a.isHedge then [.hedgeSpawn, .invoke] else [.invoke]) else []

/--
The kinds of the events attempt `a` has performed, in program order, read off
its program counter: launch, budget call, `OnHedgeSpawn` and `op` when allowed,
`recordAttempt`, the send, and the deferred `Release` of an allowed decision.
-/
def trace (a : Attempt) : List EventKind :=
  [.launch]
    ++ (if 1 ≤ a.pc.stage then [.allowAttempt] else [])
    ++ (if 2 ≤ a.pc.stage then a.ranKinds else [])
    ++ (if 4 ≤ a.pc.stage then [.recordAttempt] else [])
    ++ (if 5 ≤ a.pc.stage then [.send] else [])
    ++ (if 6 ≤ a.pc.stage ∧ a.allowed ∧ a.hasRelease then [.release] else [])

/-- Whether the attempt has sent its result. -/
def hasSent (a : Attempt) : Bool :=
  5 ≤ a.pc.stage

/-- An attempt runs `op` and reaches its deferred `Release` only if its budget allowed it. -/
def Consistent (a : Attempt) : Prop :=
  a.pc = .invoke ∨ a.pc = .running ∨ a.pc = .release → a.allowed = true

/-- An attempt's events keep the order of the goroutine's program text. -/
theorem trace_sublist (a : Attempt) :
    a.trace.Sublist ([.launch] ++ [.allowAttempt] ++ [.hedgeSpawn, .invoke] ++ [.recordAttempt] ++
      [.send] ++ [.release]) := by
  unfold trace ranKinds
  refine .append (.append (.append (.append (.append (.refl _) ?_) ?_) ?_) ?_) ?_ <;>
    split_ifs <;> simp

/-- An attempt performs each kind of event at most once. -/
theorem trace_nodup (a : Attempt) : a.trace.Nodup :=
  a.trace_sublist.nodup (by decide)

end Attempt

namespace GroupState

/-- The kinds of the events of attempt `n`, in order: the log projected onto one goroutine. -/
def eventsOf (s : GroupState) (n : Nat) : List EventKind :=
  (s.log.filter (·.attempt == n)).map GroupEvent.kind

/-- Every result sent on `results` so far, in order. -/
def sent (s : GroupState) : List GroupResult :=
  s.log.filterMap GroupEvent.sent?

end GroupState

/-! ## One attempt step -/

section AttemptStep

variable {cfg : GroupCfg} {n : Nat} {room : Bool} {a a' : Attempt} {act : GroupStep}
  {events : List GroupEvent}

/--
What one step of an attempt goroutine does, whichever step it is: it starts
from a running goroutine, extends its trace by exactly the events it performs,
performs them all as attempt `n`, and sends at most once, when it passes its send.
-/
theorem Attempt.step_spec
    (consistent : a.Consistent)
    (stepped : a.step cfg n room act = some (a', events)) :
    a'.Consistent ∧ a.pc ≠ .done ∧
      a'.trace = a.trace ++ events.map GroupEvent.kind ∧
      (∀ e ∈ events, e.attempt = n) ∧
      (if a.hasSent then 1 else 0) + (events.filterMap GroupEvent.sent?).length =
        if a'.hasSent then 1 else 0 := by
  rcases Attempt.step_cases stepped with
    ⟨d, pc, rfl, rfl⟩ | ⟨pc, rfl, rfl⟩ | ⟨val, err, pc, rfl, rfl⟩ | ⟨rec, res, pc, rfl, rfl⟩ |
    ⟨res, pc, -, rfl, rfl⟩ | ⟨pc, rfl, rfl⟩ | ⟨pc, rfl, rfl⟩ <;> clear stepped <;>
  -- split each move on the branch it takes
  [cases hd : d.allowed; cases hh : a.isHedge; skip; skip; cases ha : a.allowed;
    cases hr : a.hasRelease; skip] <;>
  simp_all [Attempt.Consistent, Attempt.trace, AttemptPc.stage, Attempt.hasSent, Attempt.ranKinds,
    Attempt.allowed, Attempt.hasRelease, GroupEvent.kind, GroupEvent.attempt, GroupEvent.sent?]

/-- An attempt step keeps the goroutine's hedge index and kind. -/
theorem Attempt.step_keeps_slot
    (stepped : a.step cfg n room act = some (a', events)) :
    a'.idx = a.idx ∧ a'.isHedge = a.isHedge := by
  rcases Attempt.step_cases stepped with ⟨-, -, rfl, -⟩ | ⟨-, rfl, -⟩ | ⟨-, -, -, rfl, -⟩ |
    ⟨-, -, -, rfl, -⟩ | ⟨-, -, -, rfl, -⟩ | ⟨-, rfl, -⟩ | ⟨-, rfl, -⟩ <;> exact ⟨rfl, rfl⟩

end AttemptStep

/-! ## The goroutine invariant -/

/-- What the attempt goroutines and the channel keep true together. -/
structure GoroutineInv (s : GroupState) : Prop where
  /-- Every attempt that runs `op` or releases was allowed. -/
  consistent : ∀ a ∈ s.attempts, a.Consistent
  /-- Each attempt's events are its program-order trace; unlaunched positions have none. -/
  traces : ∀ n, s.eventsOf n = ((s.attempts[n]?).map Attempt.trace).getD []
  /-- `activeAttempts` counts the attempt goroutines that have not returned. -/
  active : s.activeAttempts = s.attempts.countP (·.pc != .done)
  /-- `results` is FIFO: what was received, then what is buffered, is what was sent. -/
  channel : s.received ++ s.results = s.sent
  /-- One send per attempt that has passed its send. -/
  sentCount : s.sent.length = s.attempts.countP Attempt.hasSent

namespace GoroutineInv

variable {cfg : GroupCfg} {s s' : GroupState}

/-- The invariant reads only the attempts, the log, the channel and the counter. -/
theorem frame
    (inv : GoroutineInv s)
    (attempts : s'.attempts = s.attempts)
    (log : s'.log = s.log)
    (results : s'.results = s.results)
    (received : s'.received = s.received)
    (active : s'.activeAttempts = s.activeAttempts) :
    GoroutineInv s' := by
  obtain ⟨consistent, traces, countActive, channel, sentCount⟩ := inv
  refine ⟨?_, ?_, ?_, ?_, ?_⟩ <;>
    simp only [GroupState.eventsOf, GroupState.sent, attempts, log, results, received,
      active] at * <;>
    assumption

theorem initial : GoroutineInv GroupState.initial :=
  ⟨by simp [GroupState.initial], by simp [GroupState.initial, GroupState.eventsOf], rfl, rfl, rfl⟩

/-- `launch` starts a goroutine whose trace is its launch event. -/
theorem launch (inv : GoroutineInv s) (idx : Nat) (isHedge : Bool) :
    GoroutineInv (s.launch idx isHedge) := by
  refine ⟨?_, fun m => ?_, ?_, ?_, ?_⟩
  · intro x member
    simp only [GroupState.launch, List.mem_append, List.mem_singleton] at member
    rcases member with member | rfl
    exacts [inv.consistent x member, by simp [Attempt.Consistent]]
  · have old := inv.traces m
    simp only [GroupState.eventsOf, GroupState.launch, List.filter_append, List.map_append]
      at old ⊢
    rw [old]
    rcases lt_trichotomy m s.attempts.length with before | rfl | after
    · simp [List.getElem?_append_left before, before.ne', GroupEvent.attempt]
    · simp only [List.getElem?_eq_none (le_refl _), List.getElem?_concat_length, Option.map_none',
        Option.map_some', Option.getD_none, Option.getD_some, List.nil_append]
      simp [Attempt.trace, AttemptPc.stage, GroupEvent.attempt, GroupEvent.kind]
    · have beyond : (s.attempts ++ [(⟨idx, isHedge, none, .allow⟩ : Attempt)]).length ≤ m := by
        simpa using after
      simp [List.getElem?_eq_none beyond, List.getElem?_eq_none after.le, after.ne,
        GroupEvent.attempt]
  · simp [GroupState.launch, inv.active]
  · simpa [GroupState.launch, GroupState.sent, GroupEvent.sent?] using inv.channel
  · simpa [GroupState.launch, GroupState.sent, GroupEvent.sent?, Attempt.hasSent,
      AttemptPc.stage] using inv.sentCount

/-- A receive moves the oldest buffered result to the coordinator. -/
theorem receive
    (inv : GoroutineInv s)
    {res : GroupResult} {rest : List GroupResult}
    (buffered : s.results = res :: rest) :
    GoroutineInv (s.receive cfg res rest) := by
  have moved : GoroutineInv { s with results := rest, received := s.received ++ [res] } :=
    { inv with channel := by simpa [GroupState.sent, buffered] using inv.channel }
  unfold GroupState.receive
  split_ifs <;> exact moved.frame rfl rfl rfl rfl rfl

/-- An attempt step commits what `Attempt.step_spec` says it does. -/
theorem commit
    (inv : GoroutineInv s)
    {n : Nat} {room : Bool} {a a' : Attempt} {act : GroupStep} {events : List GroupEvent}
    (get : s.attempts[n]? = some a)
    (stepped : a.step cfg n room act = some (a', events)) :
    GoroutineInv (s.commit n a' events) := by
  obtain ⟨consistent', running, trace, own, sends⟩ :=
    Attempt.step_spec (inv.consistent a (List.getElem?_mem get)) stepped
  obtain ⟨bound, getElem⟩ := List.getElem?_eq_some_iff.mp get
  refine ⟨?_, fun m => ?_, ?_, ?_, ?_⟩
  · intro x member
    rcases List.mem_or_eq_of_mem_set member with member | rfl
    exacts [inv.consistent x member, consistent']
  · have old := inv.traces m
    simp only [GroupState.eventsOf, GroupState.commit, List.filter_append, List.map_append]
      at old ⊢
    rw [old]
    by_cases same : n = m
    · subst same
      have mine : events.filter (·.attempt == n) = events :=
        List.filter_eq_self.mpr fun e member => by simp [own e member]
      simp [get, bound, trace, mine]
    · have others : events.filter (·.attempt == m) = [] :=
        List.filter_eq_nil_iff.mpr fun e member => by simp [own e member, same]
      simp [List.getElem?_set_ne same, others]
  · have pos : 0 < s.attempts.countP (·.pc != .done) :=
      List.countP_pos_iff.mpr ⟨a, List.getElem?_mem get, by simpa using running⟩
    rw [← inv.active] at pos
    simp only [GroupState.commit, List.countP_set _ _ _ _ bound, getElem, ← inv.active]
    by_cases done : a'.pc = .done
    · simp [running, done]
    · simp [running, done]
      omega
  · simp [GroupState.commit, GroupState.sent, ← List.append_assoc, inv.channel]
  · have le := List.boole_getElem_le_countP Attempt.hasSent s.attempts n bound
    simp only [GroupState.commit, GroupState.sent, List.filterMap_append, List.length_append,
      List.countP_set _ _ _ _ bound, getElem] at le ⊢
    rw [← GroupState.sent, inv.sentCount]
    split_ifs at sends le ⊢ <;> omega

theorem step (inv : GoroutineInv s) {act : GroupStep} (stepped : s.step cfg act = some s') :
    GoroutineInv s' := by
  cases GroupState.step_move stepped with
  | begin | spawnerLaunch => exact (inv.launch _ _).frame rfl rfl rfl rfl rfl
  | receive _ buffered => exact inv.receive buffered
  | attempt get next => exact inv.commit get next
  | _ => exact inv.frame rfl rfl rfl rfl rfl

theorem reachable (reachable : Reachable cfg s) : GoroutineInv s := by
  induction reachable with
  | initial => exact initial
  | step _ _ stepped inductionHypothesis => exact inductionHypothesis.step stepped

end GoroutineInv

/-! ## The launch invariant -/

/-- What the coordinator's and the spawner's launches keep true. -/
structure LaunchInv (cfg : GroupCfg) (s : GroupState) : Prop where
  /-- Before the coordinator starts, nothing has been launched and the spawner is idle. -/
  entry : s.coord = .enter → s.attempts = [] ∧ s.spawner.pc = .idle ∧ s.spawner.hedgesLaunched = 0
  /-- After it, the primary and `hedgesLaunched` hedges have been launched. -/
  launched : s.coord ≠ .enter → s.attempts.length = 1 + s.spawner.hedgesLaunched
  /-- The spawner never passes `maxHedges`, and holds a hedge in hand only below it. -/
  bound : s.spawner.hedgesLaunched + s.spawner.pc.pending ≤ cfg.maxHedges
  /-- Attempt `i` has hedge index `i`, and only the first is the primary. -/
  slots : ∀ i a, s.attempts[i]? = some a → a.idx = i ∧ a.isHedge = (i != 0)

namespace LaunchInv

variable {cfg : GroupCfg} {s s' : GroupState}

theorem initial : LaunchInv cfg GroupState.initial :=
  ⟨fun _ => ⟨rfl, rfl, rfl⟩, fun h => (h rfl).elim, by simp [GroupState.initial, SpawnerPc.pending],
    by simp [GroupState.initial]⟩

/-- Steps that move neither the attempts nor the spawner nor the coordinator back to entry. -/
theorem frame
    (inv : LaunchInv cfg s)
    (attempts : s'.attempts = s.attempts)
    (spawner : s'.spawner = s.spawner)
    (coord : s'.coord = .enter ↔ s.coord = .enter) :
    LaunchInv cfg s' := by
  obtain ⟨entry, launched, bound, slots⟩ := inv
  refine ⟨fun enter => ?_, fun begun => ?_, ?_, ?_⟩ <;> simp only [attempts, spawner]
  exacts [entry (coord.mp enter), launched (fun enter => begun (coord.mpr enter)), bound, slots]

/-- A spawner step after `go func()` that keeps `hedgesLaunched` and respects the bound. -/
theorem spawnerMove
    (inv : LaunchInv cfg s)
    {spawner : Spawner}
    (started : s.spawner.pc ≠ .idle)
    (hedges : spawner.hedgesLaunched = s.spawner.hedgesLaunched)
    (bounded : s.spawner.hedgesLaunched + spawner.pc.pending ≤ cfg.maxHedges) :
    LaunchInv cfg { s with spawner := spawner } := by
  obtain ⟨entry, launched, bound, slots⟩ := inv
  refine ⟨fun enter => absurd (entry enter).2.1 started, ?_, by simpa [hedges] using bounded, slots⟩
  simpa [hedges] using launched

/-- The coordinator's `launch(0, false)` and `go func()`. -/
theorem begin (inv : LaunchInv cfg s) (enter : s.coord = .enter) :
    LaunchInv cfg { s.launch 0 false with coord := .select, spawner.pc := .start } := by
  obtain ⟨empty, idle, zero⟩ := inv.entry enter
  refine ⟨by simp, by simp [GroupState.launch, empty, zero], ?_, fun i a get => ?_⟩
  · simp [GroupState.launch, SpawnerPc.pending, zero]
  · simp only [GroupState.launch, empty, List.nil_append] at get
    rcases i with _ | i
    · cases get
      simp
    · simp only [List.getElem?_cons_succ, List.getElem?_nil, reduceCtorEq] at get

/-- The spawner's `hedgesLaunched++` and `launch(hedgesLaunched, true)`. -/
theorem spawnerLaunch
    (inv : LaunchInv cfg s) {nextCheck : Int} (launching : s.spawner.pc = .launch nextCheck)
    (period : Int) :
    LaunchInv cfg { s.launch (s.spawner.hedgesLaunched + 1) true with
      spawner := ⟨.wait, s.spawner.hedgesLaunched + 1, period⟩ } := by
  obtain ⟨entry, launched, bound, slots⟩ := inv
  have begun : s.coord ≠ .enter := fun enter => by simp [(entry enter).2.1] at launching
  have length := launched begun
  refine ⟨fun enter => absurd enter begun, fun _ => ?_, ?_, fun i a get => ?_⟩
  · simp [GroupState.launch, length]
    omega
  · simpa [launching, SpawnerPc.pending] using bound
  · simp only [GroupState.launch] at get
    rcases lt_trichotomy i s.attempts.length with before | rfl | after
    · rw [List.getElem?_append_left before] at get
      exact slots i a get
    · rw [List.getElem?_concat_length] at get
      cases get
      exact ⟨by simp [length]; omega, by simp [length]⟩
    · rw [List.getElem?_eq_none (by simp; omega)] at get
      cases get

/-- An attempt step keeps every slot. -/
theorem commit
    (inv : LaunchInv cfg s)
    {n : Nat} {a a' : Attempt} {events : List GroupEvent}
    (get : s.attempts[n]? = some a)
    (keeps : a'.idx = a.idx ∧ a'.isHedge = a.isHedge) :
    LaunchInv cfg (s.commit n a' events) := by
  obtain ⟨entry, launched, bound, slots⟩ := inv
  refine ⟨fun enter => ?_, fun begun => by simpa [GroupState.commit] using launched begun, bound,
    fun i b got => ?_⟩
  · obtain ⟨empty, idle, zero⟩ := entry enter
    simp [GroupState.commit, empty, idle, zero]
  · simp only [GroupState.commit, List.getElem?_set] at got
    split_ifs at got with same
    · subst same
      obtain rfl := Option.some.inj got
      rw [keeps.1, keeps.2]
      exact slots _ a get
    · exact slots i b got

theorem step (inv : LaunchInv cfg s) {act : GroupStep} (stepped : s.step cfg act = some s') :
    LaunchInv cfg s' := by
  cases GroupState.step_move stepped with
  | begin enter => exact inv.begin enter
  | spawnerLaunch launching => exact inv.spawnerLaunch launching _
  | attempt get next => exact inv.commit get (Attempt.step_keeps_slot next)
  | receive selecting =>
    exact inv.frame (by simp) (by simp) (by simp [GroupState.receive_coord_ne_enter, selecting])
  | _ => first
    | exact inv.frame rfl rfl (by simp [GroupState.finish, *])
    | refine inv.spawnerMove (by simp [*]) rfl ?_
      have := inv.bound
      simp only [SpawnerPc.pending, *] at this ⊢
      omega

theorem reachable (reachable : Reachable cfg s) : LaunchInv cfg s := by
  induction reachable with
  | initial => exact initial
  | step _ _ stepped inductionHypothesis => exact inductionHypothesis.step stepped

end LaunchInv

/-! ## Bounded fan-out -/

/--
What `doRetryGroup` promises about its fan-out: at most `1+maxHedges`
attempts, one `recordAttempt` and one send per attempt (exactly one of each once
the goroutine has returned), so at most `1+maxHedges` sends, and a send that is
always ready to go.
-/
structure FanOutBounded (cfg : GroupCfg) (s : GroupState) : Prop where
  launches : s.attempts.length ≤ cfg.capacity
  sends : s.sent.length ≤ cfg.capacity
  atMostOnce : ∀ n a, s.attempts[n]? = some a →
    (s.eventsOf n).count .recordAttempt ≤ 1 ∧ (s.eventsOf n).count .send ≤ 1
  onceDone : ∀ n a, s.attempts[n]? = some a → a.pc = .done →
    (s.eventsOf n).count .recordAttempt = 1 ∧ (s.eventsOf n).count .send = 1
  sendReady : ∀ n a res, s.attempts[n]? = some a → a.pc = .send res →
    ∃ s', s.step cfg (.send n) = some s'

section FanOut

variable {cfg : GroupCfg} {s : GroupState} {n : Nat} {a : Attempt}

theorem LaunchInv.length_le_capacity (inv : LaunchInv cfg s) :
    s.attempts.length ≤ cfg.capacity := by
  unfold GroupCfg.capacity
  by_cases enter : s.coord = .enter
  · simp [(inv.entry enter).1]
  · have := inv.launched enter
    have := inv.bound
    omega

theorem GoroutineInv.count_le_one
    (inv : GoroutineInv s) (get : s.attempts[n]? = some a) (kind : EventKind) :
    (s.eventsOf n).count kind ≤ 1 := by
  rw [inv.traces n, get]
  exact List.nodup_iff_count_le_one.mp a.trace_nodup kind

theorem GoroutineInv.count_eq_one
    (inv : GoroutineInv s) (get : s.attempts[n]? = some a) {kind : EventKind}
    (member : kind ∈ a.trace) :
    (s.eventsOf n).count kind = 1 := by
  rw [inv.traces n, get]
  exact List.count_eq_one_of_mem a.trace_nodup member

/-- Every send so far came from an attempt that has passed its send. -/
theorem GoroutineInv.results_length_lt
    (inv : GoroutineInv s) (get : s.attempts[n]? = some a) (unsent : a.hasSent = false) :
    s.results.length < s.attempts.length := by
  have waiting : s.attempts.countP Attempt.hasSent < s.attempts.length := by
    rw [List.countP_eq_length_filter]
    exact List.length_filter_lt_length_iff_exists.mpr ⟨a, List.getElem?_mem get, by simp [unsent]⟩
  have conserved := congrArg List.length inv.channel
  rw [List.length_append, inv.sentCount] at conserved
  omega

/-- The bounded fan-out of a retry group, in every reachable state. -/
theorem retry_group_fan_out_bounded (reachable : Reachable cfg s) : FanOutBounded cfg s := by
  have launchInv := LaunchInv.reachable reachable
  have inv := GoroutineInv.reachable reachable
  have launches := launchInv.length_le_capacity
  refine ⟨launches, ?_, fun n a get => ⟨inv.count_le_one get _, inv.count_le_one get _⟩,
    fun n a get done => ?_, fun n a res get sending => ?_⟩
  · rw [inv.sentCount]
    exact (List.countP_le_length _).trans launches
  · refine ⟨inv.count_eq_one get ?_, inv.count_eq_one get ?_⟩ <;>
      simp [Attempt.trace, done, AttemptPc.stage]
  · have room := inv.results_length_lt get (by simp [Attempt.hasSent, sending, AttemptPc.stage])
    simp [GroupState.step, GroupState.attemptStep, get, Attempt.step, sending,
      show s.results.length < cfg.capacity by omega]

/-- The fan-out bound once the primary and a hedge, interleaved, have both returned. -/
theorem fan_out_bounded_after_both_return :
    ∃ s, Reachable (hedgedCfg false) s ∧ s.attempts.length = 2 ∧
      (∀ a ∈ s.attempts, a.pc = .done) ∧ FanOutBounded (hedgedCfg false) s := by
  obtain ⟨s, reachable, two, finished⟩ := Reachable.exists_of_run? (hedgedCfg false)
    (fun s => s.attempts.length = 2 ∧ ∀ a ∈ s.attempts, a.pc = .done)
    [.begin, .spawnerStart, .spawnerTick, .spawnerTrigger true 0, .spawnerLaunch,
      .allow 0 ⟨true, "allowed", true⟩, .allow 1 ⟨true, "allowed", true⟩, .invoke 0, .invoke 1,
      .opReturn 0 none (some .deadlineExceeded), .opReturn 1 none (some .deadlineExceeded),
      .record 0, .record 1, .send 0, .send 1, .release 0, .release 1, .exit 0, .exit 1]
    (by decide)
  exact ⟨s, reachable, two, finished, retry_group_fan_out_bounded reachable⟩

end FanOut

end Recourse

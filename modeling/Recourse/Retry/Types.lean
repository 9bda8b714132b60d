import Recourse.Policy.Types

namespace Recourse

/-!
# Values a retry group passes around

The `classify`, `budget` and `observe` types that `doRetryGroup` reads or
builds, and its own `groupResult`.  Start and end times are left out: the model
has no clock, and no decision of the group depends on `e.clock()`.  An attempt's
value is an opaque token (`none` is Go's `nil`).  Errors are the few the group
tells apart: the two context errors, the synthetic `errors.New(decision.Reason)`
of a denied attempt, and whatever an operation returns.

Events are the group's actions that someone outside it observes (a budget call,
an observer callback, an operation run, a channel send).  Each carries the
launch position of the attempt it concerns, a ghost identity the Go code does
not have: it lets a run's log be projected onto one goroutine.
-/

/-- `classify.OutcomeKind`, in declaration order (`OutcomeSuccess` is the zero value). -/
inductive OutcomeKind where
  | success
  | retryable
  | nonRetryable
  | abort
  deriving Repr, DecidableEq

/-- `classify.Outcome`, with the fields a retry group reads or builds. -/
structure Outcome where
  kind : OutcomeKind
  reason : String
  deriving Repr, DecidableEq

/-- The zero `Outcome`. -/
def Outcome.zero : Outcome := ⟨.success, ""⟩

/-- The `error` values a retry group tells apart. -/
inductive Err where
  /-- `context.Canceled`. -/
  | canceled
  /-- `context.DeadlineExceeded`. -/
  | deadlineExceeded
  /-- `errors.New(decision.Reason)`, sent for a denied attempt. -/
  | budgetDenied (reason : String)
  /-- Any other error an operation returns. -/
  | op (message : String)
  deriving Repr, DecidableEq

/-- `budget.AttemptKind`. -/
inductive AttemptKind where
  | retry
  | hedge
  deriving Repr, DecidableEq

/-- `budget.Decision`; `release` records whether `Release` is non-nil. -/
structure Decision where
  allowed : Bool
  reason : String
  release : Bool
  deriving Repr, DecidableEq

/-- `observe.AttemptRecord`, times apart. -/
structure AttemptRecord where
  attempt : Nat
  isHedge : Bool
  hedgeIndex : Nat
  outcome : Outcome
  err : Option Err
  backoff : Int
  budgetAllowed : Bool
  budgetReason : String
  deriving Repr, DecidableEq

/-- `observe.AttemptInfo`, attached to an attempt's context. -/
structure AttemptInfo where
  retryIndex : Nat
  attempt : Nat
  isHedge : Bool
  hedgeIndex : Nat
  policyID : String
  deriving Repr, DecidableEq

/-- `groupResult[any]`, times and `panicErr` apart (the coordinator never reads them). -/
structure GroupResult where
  val : Option Nat
  err : Option Err
  outcome : Outcome
  isHedge : Bool
  idx : Nat
  deriving Repr, DecidableEq

/-- The zero `groupResult`, the value of `lastRel` before any failure arrives. -/
def GroupResult.zero : GroupResult := ⟨none, none, Outcome.zero, false, 0⟩

/-- The four values `doRetryGroup` returns: `(any, error, classify.Outcome, bool)`. -/
structure GroupReturn where
  val : Option Nat
  err : Option Err
  outcome : Outcome
  ok : Bool
  deriving Repr, DecidableEq

/-- What kind of externally visible action an event is. -/
inductive EventKind where
  | launch
  | allowAttempt
  | hedgeSpawn
  | invoke
  | recordAttempt
  | send
  | release
  deriving Repr, DecidableEq

/-- An externally visible action of a retry group, tagged with the attempt it concerns. -/
inductive GroupEvent where
  /-- `launch(idx, isHedge)`: `activeAttempts.Add(1)` and the goroutine's start. -/
  | launch (attempt : Nat) (hedgeIndex : Nat) (isHedge : Bool)
  /-- `e.allowAttempt(groupCtx, key, budgetRef, attemptIdx, budgetKind)`. -/
  | allowAttempt (attempt : Nat) (attemptIdx : Nat) (kind : AttemptKind) (ref : BudgetRef)
  /-- `e.observer.OnHedgeSpawn(attemptCtx, key, rec)`. -/
  | hedgeSpawn (attempt : Nat) (rec : AttemptRecord)
  /-- `op(attemptCtx)`, with the `AttemptInfo` attached to `attemptCtx`. -/
  | invoke (attempt : Nat) (info : AttemptInfo)
  /-- `recordAttempt(ctx, rec)`. -/
  | recordAttempt (attempt : Nat) (rec : AttemptRecord)
  /-- `results <- res`. -/
  | send (attempt : Nat) (res : GroupResult)
  /-- The deferred `release()` of an allowed decision. -/
  | release (attempt : Nat)
  deriving Repr, DecidableEq

namespace GroupEvent

/-- The attempt an event concerns. -/
def attempt : GroupEvent → Nat
  | .launch attempt .. => attempt
  | .allowAttempt attempt .. => attempt
  | .hedgeSpawn attempt .. => attempt
  | .invoke attempt .. => attempt
  | .recordAttempt attempt .. => attempt
  | .send attempt .. => attempt
  | .release attempt => attempt

/-- The kind of an event. -/
def kind : GroupEvent → EventKind
  | .launch .. => .launch
  | .allowAttempt .. => .allowAttempt
  | .hedgeSpawn .. => .hedgeSpawn
  | .invoke .. => .invoke
  | .recordAttempt .. => .recordAttempt
  | .send .. => .send
  | .release .. => .release

/-- The result an event puts on `results`, if it is a send. -/
def sent? : GroupEvent → Option GroupResult
  | .send _ res => some res
  | _ => none

end GroupEvent

end Recourse

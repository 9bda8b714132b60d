import Recourse.Policy.Key
import Recourse.Retry.Types

namespace Recourse

/-!
# The budget registry

`budget.Registry` maps names to `Budget` values behind a mutex.  Every method
holds the lock for its whole access to the map, so the calls are atomic, and a
sequential model covers every interleaving of them.  Unlike the hedge registry,
it trims names and turns away typed-nil values (`internal.IsTypedNil`).  A
method called through a nil `*Registry` fails or finds nothing.  The zero
`Registry{}` has a nil map, which `RegisterE` allocates on first use.

`get_registerE` is the read-after-write law, up to `strings.TrimSpace`.  From
it, over any sequence of `Register` calls, `Get` returns the budget of the last
call that registered the same trimmed name with a real budget; the calls
`RegisterE` turned away leave no trace (`get_registerAll`).
-/

/-- A value of the interface type `budget.Budget`. -/
inductive Budget where
  /-- The nil interface. -/
  | nil
  /-- A nil pointer, map or function of the named type, inside the interface. -/
  | typedNil (typeName : String)
  /-- A budget of the named type, given by its `AllowAttempt` (the context apart). -/
  | value (typeName : String) (allowAttempt : PolicyKey → Nat → AttemptKind → BudgetRef → Decision)

namespace Budget

/-- `b == nil`: true of the nil interface only. -/
def isNil : Budget → Bool
  | .nil => true
  | _ => false

/-- `internal.IsTypedNil`: the nil interface, or a nil value inside one. -/
def isTypedNil : Budget → Bool
  | .nil | .typedNil _ => true
  | .value .. => false

theorem isNil_eq_false_of_isTypedNil {b : Budget} (real : b.isTypedNil = false) :
    b.isNil = false := by
  cases b <;> simp_all [isNil, isTypedNil]

/-- `budget.Registry`: the map `m` as its assignments, newest first; `none` for the nil map. -/
structure Registry where
  m : Option (List (String × Budget))

/-- `NewRegistry`. -/
def newRegistry : Registry :=
  ⟨some []⟩

namespace Registry

/-- `r.m[name]`: the budget last assigned to `name`, if any; the nil map holds none. -/
def find? (r : Registry) (name : String) : Option Budget :=
  (r.m.getD []).lookup name

/-- `(*Registry).RegisterE` through the pointer `r`, `none` for a nil one: the registry afterwards, or the error. -/
def registerE (r : Option Registry) (name : String) (b : Budget) : Except String Registry :=
  match r with
  | none => .error "registry is nil"
  | some r =>
      let name := trimSpace name
      if name = "" then .error "budget name cannot be empty"
      else if b.isTypedNil then .error "budget cannot be nil"
      else .ok ⟨some ((name, b) :: r.m.getD [])⟩

/-- `Register`: `RegisterE` with its error dropped, which leaves the registry as it was. -/
def register (r : Option Registry) (name : String) (b : Budget) : Option Registry :=
  match registerE r name b with
  | .ok r' => some r'
  | .error _ => r

/-- `MustRegister`; `.error` carries the panic's message. -/
def mustRegister (r : Option Registry) (name : String) (b : Budget) : Except String Registry :=
  match registerE r name b with
  | .ok r' => .ok r'
  | .error err => .error ("budget.Registry.MustRegister: " ++ err)

/-- `Get`. -/
def get (r : Option Registry) (name : String) : Budget × Bool :=
  match r with
  | none => (.nil, false)
  | some r =>
      let name := trimSpace name
      if name = "" then (.nil, false)
      else
        match r.find? name with
        | some b => (b, !b.isNil)
        | none => (.nil, false)

/-- A sequence of `Register` calls through one pointer. -/
def registerAll (r : Option Registry) (calls : List (String × Budget)) : Option Registry :=
  calls.foldl (fun r call => register r call.1 call.2) r

/-! ## Read after write -/

/-- What `RegisterE` accepts: a registry, a name that is not blank, and a budget that is not nil. -/
theorem registerE_ok {r : Option Registry} {name : String} {b : Budget} {r' : Registry}
    (registered : registerE r name b = .ok r') :
    ∃ r₀, r = some r₀ ∧ trimSpace name ≠ "" ∧ b.isTypedNil = false ∧
      r'.m = some ((trimSpace name, b) :: r₀.m.getD []) := by
  rcases r with _ | r₀
  · cases registered
  · simp only [registerE] at registered
    split_ifs at registered with blank typedNil
    cases registered
    exact ⟨r₀, rfl, blank, by simpa using typedNil, rfl⟩

/--
What `RegisterE` rejects, in the order it checks: a nil registry, a blank name,
a nil budget, each with its own message; `MustRegister` panics with that
message behind its prefix.
-/
theorem registerE_eq_error_iff {r : Option Registry} {name : String} {b : Budget} {err : String} :
    registerE r name b = .error err ↔
      r = none ∧ err = "registry is nil" ∨
      r ≠ none ∧ trimSpace name = "" ∧ err = "budget name cannot be empty" ∨
      r ≠ none ∧ trimSpace name ≠ "" ∧ b.isTypedNil = true ∧ err = "budget cannot be nil" := by
  rcases r with _ | r
  · simp only [registerE, Except.error.injEq]
    simpa using eq_comm
  · by_cases blank : trimSpace name = ""
    · simp only [registerE, blank, if_true, Except.error.injEq]
      simpa using eq_comm
    · cases typedNil : b.isTypedNil
      · simp [registerE, blank, typedNil]
      · simp only [registerE, blank, typedNil, if_false, if_true, Except.error.injEq]
        simpa [blank] using eq_comm

theorem mustRegister_eq_error_iff {r : Option Registry} {name : String} {b : Budget}
    {message : String} :
    mustRegister r name b = .error message ↔
      ∃ err, registerE r name b = .error err ∧ message = "budget.Registry.MustRegister: " ++ err := by
  unfold mustRegister
  split <;> rename_i registered
  · simp [registered]
  · simp only [registered, Except.error.injEq, exists_eq_left']
    exact eq_comm

/--
`Get` after a successful `RegisterE`: the new budget for every name that trims
to the registered one, and what `Get` gave before for every other name.
-/
theorem get_registerE {r : Option Registry} {name : String} {b : Budget} {r' : Registry}
    (registered : registerE r name b = .ok r') (name' : String) :
    get (some r') name' = if trimSpace name' = trimSpace name then (b, true) else get r name' := by
  obtain ⟨r₀, rfl, named, real, stored⟩ := registerE_ok registered
  simp only [get, find?, stored, Option.getD_some, List.lookup_cons]
  by_cases same : trimSpace name' = trimSpace name
  · simp [same, named, Budget.isNil_eq_false_of_isTypedNil real]
  · have differs : (trimSpace name' == trimSpace name) = false := by simpa using same
    simp only [differs, if_neg same]

/-- Whether `Register` stores `call`, and under the name `name` trims to. -/
def stores (name : String) (call : String × Budget) : Bool :=
  trimSpace call.1 == trimSpace name && trimSpace call.1 != "" && !call.2.isTypedNil

/-- `Get` after `Register`, which stores the call exactly when `RegisterE` accepts it. -/
theorem get_register (r : Registry) (call : String × Budget) (name : String) :
    get (register (some r) call.1 call.2) name =
      if stores name call then (call.2, true) else get (some r) name := by
  unfold register
  split
  · rename_i r' registered
    obtain ⟨_, same, named, real, -⟩ := registerE_ok registered
    cases same
    rw [get_registerE registered]
    by_cases sameName : trimSpace name = trimSpace call.1
    · simp [stores, sameName, named, real]
    · simp [stores, sameName, Ne.symm sameName]
  · rename_i err rejected
    have refused : stores name call = false := by
      simp only [registerE] at rejected
      split_ifs at rejected with blank typedNil <;> simp_all [stores]
    rw [refused, if_neg Bool.false_ne_true]

/-! ## Over a sequence of calls -/

/-- The budget of the last call that `Register` stores under the name `name` trims to. -/
def lastRegistration (calls : List (String × Budget)) (name : String) : Option Budget :=
  (calls.reverse.find? (stores name)).map (·.2)

theorem lastRegistration_cons (call : String × Budget) (calls : List (String × Budget))
    (name : String) :
    lastRegistration (call :: calls) name =
      (lastRegistration calls name).or (if stores name call then some call.2 else none) := by
  unfold lastRegistration
  rw [List.reverse_cons, List.find?_append]
  cases (calls.reverse.find? (stores name)) <;> cases stored : stores name call <;>
    simp [List.find?_cons, stored]

theorem register_isSome (r : Registry) (name : String) (b : Budget) :
    ∃ r', register (some r) name b = some r' := by
  unfold register
  split
  exacts [⟨_, rfl⟩, ⟨r, rfl⟩]

/--
After any sequence of `Register` calls, `Get(name)` returns the budget of the
last call whose name trims to the same non-blank name and whose budget is
neither nil nor a typed nil, with `true`; with no such call, it returns what it
returned before the calls, `(nil, false)` on `NewRegistry()` or `Registry{}`.
-/
theorem get_registerAll (r : Registry) (calls : List (String × Budget)) (name : String) :
    get (registerAll (some r) calls) name =
      match lastRegistration calls name with
      | some b => (b, true)
      | none => get (some r) name := by
  induction calls generalizing r with
  | nil => rfl
  | cons call calls inductionHypothesis =>
      obtain ⟨r', registered⟩ := register_isSome r call.1 call.2
      have stepped := get_register r call name
      rw [registered] at stepped
      simp only [registerAll, List.foldl_cons] at inductionHypothesis ⊢
      rw [registered, inductionHypothesis r', stepped, lastRegistration_cons]
      cases lastRegistration calls name <;> cases stores name call <;> rfl

end Registry

end Budget

end Recourse

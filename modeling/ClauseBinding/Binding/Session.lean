import ClauseBinding.Binding.InPlace

/-!
Contract: a context that is used for a run of operations.

Owns:
- the requests that a session answers: guards to take and to release, names to resolve,
  clauses to bind;
- the guards that are held, each for as long as the session does not release it;
- runs of requests, with the answer to each.

Does not own: what a single binding does.
-/

namespace ClauseBinding

/-- A context and the guards that are held, innermost first. -/
structure Session where
  context : Context
  guards : List Guard

inductive Request where
  | declare (parameter : Parameter)
  | isolate
  | release
  | resolve (name : String)
  | filter (filter? : Option FilterClause)
  | nested (filter : FilterClause) (type : ValueType)
  | order (order? : Option OrderClause)

/-- What comes of an operation. A release is answered by whether there was a guard. -/
inductive Answer where
  | held (outcome : Except Failure Unit)
  | released (wasHeld : Bool)
  | resolved (outcome : Except Failure ValueType)
  | predicate (outcome : Except Failure Predicate)
  | selectors (outcome : Except Failure (List Selector))

namespace Session

def start (context : Context) : Session := ⟨context, []⟩

/-- Hold one more guard, unless there is no room for it. -/
def hold
    (session : Session)
    (take : Use Guard) : Answer × Session :=
  match take.run.run session.context with
  | (.ok guard, context) => (.held (.ok ()), ⟨context, guard :: session.guards⟩)
  | (.error failure, context) => (.held (.error failure), { session with context })

def release (session : Session) : Answer × Session :=
  match session.guards with
  | [] => (.released false, session)
  | guard :: guards => (.released true, ⟨guard.release session.context, guards⟩)

def useContext
    {α : Type}
    (session : Session)
    (use : Use α)
    (answer : Except Failure α → Answer) : Answer × Session :=
  let (outcome, context) := use.run.run session.context
  (answer outcome, { session with context })

def step
    (session : Session) : Request → Answer × Session
  | .declare parameter => session.hold (Use.holdVariable parameter)
  | .isolate => session.hold Use.holdIsolated
  | .release => session.release
  | .resolve name => session.useContext (Use.reading (·.resolve name)) .resolved
  | .filter filter? => session.useContext (FilterClause.bindInPlace filter?) .predicate
  | .nested filter type => session.useContext (filter.bindNestedInPlace type) .predicate
  | .order order? => session.useContext (OrderClause.bindInPlace order?) .selectors

def run
    (session : Session) : List Request → List Answer × Session
  | [] => ([], session)
  | request :: rest =>
      let (answer, next) := session.step request
      let (answers, last) := next.run rest
      (answer :: answers, last)

end Session

end ClauseBinding

import ClauseBinding.Proofs.Binding.Depth
import ClauseBinding.Proofs.Session.InPlace

/-!
Contract: a session follows the discipline of a stack, over every run of requests.

Owns:
- the live guards of a run, read off its requests and answers alone;
- the range variables that are visible under some live guards;
- that the context of a session is determined by its live guards and by whether a filter
  was given, step after step.

Does not own: what clauses are bound to.

An isolated guard holds the whole scope of its caller, so the invariant says of every
guard, not just of the innermost, what it will give back.
-/

namespace ClauseBinding

open ClauseBinding.Outcome

inductive Holding where
  | frame (parameter : Parameter)
  | isolation

namespace Holding

/-- The live guards after a request and its answer, innermost first. A guard that was
granted is live from then on; a release ends the innermost. -/
def after
    (live : List Holding) : Request × Answer → List Holding
  | (.declare parameter, .held (.ok _)) => .frame parameter :: live
  | (.isolate, .held (.ok _)) => .isolation :: live
  | (.release, _) => live.tail
  | _ => live

def live (exchanges : List (Request × Answer)) : List Holding :=
  exchanges.foldl after []

/-- The range variables of the live guards since the innermost isolation. -/
def visible : List Holding → List Parameter
  | [] => []
  | .frame parameter :: rest => parameter :: visible rest
  | .isolation :: _ => []

def heldGuards : List Holding → List Guard
  | [] => []
  | .frame _ :: rest => .frame :: heldGuards rest
  | .isolation :: rest => .isolation (visible rest) :: heldGuards rest

private theorem length_heldGuards (live : List Holding) :
    (heldGuards live).length = live.length := by
  induction live with
  | nil => rfl
  | cons holding rest inductionHypothesis =>
      cases holding <;>
      · rw [heldGuards, List.length_cons, List.length_cons, inductionHypothesis]

end Holding

namespace Request

/-- Whether a request gives a filter clause to be bound over the elements of the context. -/
def givesFilter : Request → Bool
  | .filter filter? => filter?.isSome
  | _ => false

end Request

/-- A session as it is under some live guards, and once a filter was given or before. The
rest is as at the start. -/
structure Session.Disciplined
    (fresh : Context)
    (live : List Holding)
    (seen : Bool)
    (session : Session) : Prop where
  context : session.context =
    { fresh with scope := Holding.visible live, depth := live.length, filterSeen := seen }
  guards : session.guards = Holding.heldGuards live
  room : live.length ≤ fresh.configuration.maxDepth.toNat

namespace Session

variable {fresh : Context} {live : List Holding} {seen : Bool} {session : Session}

/-! ## Steps -/

/-- A use that leaves its context as it was leaves the session as it was. -/
theorem useContext_of_yields
    {α : Type}
    {use : Use α}
    {outcome : Except Failure α}
    (answer : Except Failure α → Answer)
    (yields : use.Yields session.context outcome) :
    session.useContext use answer = (answer outcome, session) := by
  rw [useContext, yields]

private theorem hold_of_room
    {take : Use Guard}
    {guard : Guard}
    {inside : Context}
    (holds : take.Holds session.context guard (.ok inside)) :
    session.hold take = (.held (.ok ()), ⟨inside, guard :: session.guards⟩) := by
  rw [Session.hold, holds]

private theorem hold_of_refused
    {take : Use Guard}
    {guard : Guard}
    {failure : Failure}
    (holds : take.Holds session.context guard (.error failure)) :
    session.hold take = (.held (.error failure), session) := by
  rw [Session.hold, holds]

private theorem step_declare
    (session : Session)
    (parameter : Parameter) :
    session.step (.declare parameter) =
      if session.context.depth < session.context.configuration.maxDepth.toNat then
        (.held (.ok ()),
          ⟨{ session.context.deeper with scope := parameter :: session.context.scope },
            .frame :: session.guards⟩)
      else (.held (.error (.tooDeep session.context.configuration.maxDepth)), session) := by
  have holds := Use.holdVariable_holds parameter session.context
  split
  case isTrue room =>
    have fits : session.context.Fits (1 + 0) := room
    rw [fits.declare parameter] at holds
    exact hold_of_room holds
  case isFalse full =>
    rw [Context.declare, Context.descend, if_neg full] at holds
    exact hold_of_refused holds

private theorem step_isolate (session : Session) :
    session.step .isolate =
      if session.context.depth < session.context.configuration.maxDepth.toNat then
        (.held (.ok ()),
          ⟨{ session.context.deeper with scope := [] },
            .isolation session.context.scope :: session.guards⟩)
      else (.held (.error (.tooDeep session.context.configuration.maxDepth)), session) := by
  have holds := Use.holdIsolated_holds session.context
  split
  case isTrue room =>
    have fits : session.context.Fits (1 + 0) := room
    rw [fits.isolate] at holds
    exact hold_of_room holds
  case isFalse full =>
    rw [Context.isolate, Context.descend, if_neg full] at holds
    exact hold_of_refused holds

private theorem step_resolve
    (session : Session)
    (name : String) :
    session.step (.resolve name) = (.resolved (session.context.resolve name), session) :=
  useContext_of_yields .resolved (Use.yields_reading (·.resolve name) session.context)

private theorem step_filter
    (session : Session)
    (filter? : Option FilterClause) :
    session.step (.filter filter?) =
      (.predicate (FilterClause.bind? filter?
          (some (FilterClause.noted filter? session.context))),
        { session with context := FilterClause.noted filter? session.context }) := by
  rw [step, useContext, FilterClause.run_bindInPlace]

private theorem step_nested
    (session : Session)
    (filter : FilterClause)
    (type : ValueType) :
    session.step (.nested filter type) =
      (.predicate (filter.bindNested type session.context), session) :=
  useContext_of_yields _ (filter.bindNestedInPlace_yields type session.context)

private theorem step_order
    (session : Session)
    (order? : Option OrderClause) :
    session.step (.order order?) =
      (.selectors (OrderClause.bind? order? (some session.context)), session) :=
  useContext_of_yields _ (OrderClause.bindInPlace_yields order? session.context)

namespace Disciplined

/-- Where there is room for a guard, one more is live. -/
theorem granted
    {holding : Holding}
    {guard : Guard}
    (disciplined : Disciplined fresh live seen session)
    (fits : session.context.Fits 1)
    (gives : Holding.heldGuards (holding :: live) = guard :: Holding.heldGuards live) :
    Disciplined fresh (holding :: live) seen
      ⟨{ session.context.deeper with scope := Holding.visible (holding :: live) },
        guard :: session.guards⟩ := by
  obtain ⟨isContext, isGuards, room⟩ := disciplined
  rw [isContext] at fits ⊢
  rw [isGuards]
  exact ⟨rfl, gives.symm, fits⟩

/-- A release gives back what the innermost live guard took. -/
theorem released
    (disciplined : Disciplined fresh live seen session) :
    Disciplined fresh live.tail seen session.release.2 := by
  obtain ⟨context, guards⟩ := session
  obtain ⟨rfl, rfl, room⟩ := disciplined
  cases live with
  | nil => exact ⟨rfl, rfl, room⟩
  | cons holding rest =>
      have fewer : rest.length ≤ fresh.configuration.maxDepth.toNat := Nat.le_of_succ_le room
      cases holding with
      | frame parameter => exact ⟨rfl, rfl, fewer⟩
      | isolation => exact ⟨rfl, rfl, fewer⟩

private theorem of_silent
    {request : Request}
    (disciplined : Disciplined fresh live seen session)
    (silent : request.givesFilter = false) :
    Disciplined fresh live (seen || request.givesFilter) session := by
  rw [silent, Bool.or_false]
  exact disciplined

/-- Every request leaves a session as its live guards, and what was given to it, say. -/
theorem step
    (disciplined : Disciplined fresh live seen session)
    (request : Request) :
    Disciplined fresh (Holding.after live (request, (session.step request).1))
      (seen || request.givesFilter) (session.step request).2 := by
  have isVisible : session.context.scope = Holding.visible live := by rw [disciplined.context]
  cases request with
  | declare parameter =>
      rw [step_declare]
      split
      case isTrue room =>
        rw [isVisible]
        exact (disciplined.granted room rfl).of_silent rfl
      case isFalse => exact disciplined.of_silent rfl
  | isolate =>
      rw [step_isolate]
      split
      case isTrue room =>
        rw [isVisible]
        exact (disciplined.granted room rfl).of_silent rfl
      case isFalse => exact disciplined.of_silent rfl
  | release => exact disciplined.released.of_silent rfl
  | resolve name =>
      rw [step_resolve]
      exact disciplined.of_silent rfl
  | filter filter? =>
      rw [step_filter]
      refine ⟨?_, disciplined.guards, disciplined.room⟩
      rw [FilterClause.noted, disciplined.context]
      rfl
  | nested filter type =>
      rw [step_nested]
      exact disciplined.of_silent rfl
  | order order? =>
      rw [step_order]
      exact disciplined.of_silent rfl

/-! ## Runs -/

/-- A run leaves a session as the guards that are live after it, and what was given in it,
say. -/
theorem run
    (disciplined : Disciplined fresh live seen session)
    (requests : List Request) :
    Disciplined fresh ((requests.zip (session.run requests).1).foldl Holding.after live)
      (seen || requests.any (·.givesFilter)) (session.run requests).2 := by
  induction requests generalizing session live seen with
  | nil =>
      rw [List.any_nil, Bool.or_false]
      exact disciplined
  | cons request rest inductionHypothesis =>
      have ran := inductionHypothesis (disciplined.step request)
      rw [List.any_cons, ← Bool.or_assoc]
      exact ran

end Disciplined

def reached
    (context : Context)
    (requests : List Request) : Session :=
  ((start context).run requests).2

def liveAfter
    (context : Context)
    (requests : List Request) : List Holding :=
  Holding.live (requests.zip ((start context).run requests).1)

private theorem reached_disciplined
    (catalog : Catalog)
    (elementType : DataType)
    (configuration : Configuration)
    (requests : List Request) :
    Disciplined (.start catalog elementType configuration)
      (liveAfter (.start catalog elementType configuration) requests)
      (requests.any (·.givesFilter))
      (reached (.start catalog elementType configuration) requests) := by
  have begun : Disciplined (.start catalog elementType configuration) [] false
      (start (.start catalog elementType configuration)) := ⟨rfl, rfl, Nat.zero_le _⟩
  have ran := begun.run requests
  rw [Bool.false_or] at ran
  exact ran

end Session

/-- A session follows the discipline of a stack. Wherever requests lead from a fresh
context, its depth is the number of live guards, which the configured depth bounds. Its
scope holds the range variables of the live guards since the innermost isolation, so a name
resolves to the innermost of those. A guard is granted exactly where the bound is not
reached, and one that is refused changes nothing. Filters and orders are bound as the
context stands and leave it as it stands, whether or not they are bound; only that a filter
clause was given is noted, from the first one on. Each step of a run ends a shorter run,
so all this holds after every step. -/
theorem session_stack_disciplined
    (catalog : Catalog)
    (elementType : DataType)
    (configuration : Configuration)
    (requests : List Request) :
    let fresh := Context.start catalog elementType configuration
    let session := Session.reached fresh requests
    let live := Session.liveAfter fresh requests
    session.context.depth = live.length
      ∧ session.guards.length = live.length
      ∧ live.length ≤ configuration.maxDepth.toNat
      ∧ session.context.scope = Holding.visible live
      ∧ session.context.filterSeen = requests.any (·.givesFilter)
      ∧ (∀ name, session.step (.resolve name) =
        (.resolved
          (match (Holding.visible live).find? (·.name == name) with
            | some parameter => .ok parameter.type
            | none => .error (.unboundVariable name)),
          session))
      ∧ (∀ parameter, session.step (.declare parameter) =
        if live.length < configuration.maxDepth.toNat then
          (.held (.ok ()),
            ⟨{ session.context.deeper with scope := parameter :: session.context.scope },
              .frame :: session.guards⟩)
        else (.held (.error (.tooDeep configuration.maxDepth)), session))
      ∧ (session.step .isolate =
        if live.length < configuration.maxDepth.toNat then
          (.held (.ok ()),
            ⟨{ session.context.deeper with scope := [] },
              .isolation session.context.scope :: session.guards⟩)
        else (.held (.error (.tooDeep configuration.maxDepth)), session))
      ∧ (∀ filter?, session.step (.filter filter?) =
        let noted := { session.context with
          filterSeen := session.context.filterSeen || filter?.isSome }
        (.predicate (FilterClause.bind? filter? (some noted)), { session with context := noted }))
      ∧ (∀ filter type, session.step (.nested filter type) =
        (.predicate (filter.bindNested type session.context), session))
      ∧ ∀ order?, session.step (.order order?) =
        (.selectors (OrderClause.bind? order? (some session.context)), session) := by
  intro fresh session live
  have disciplined : session.Disciplined fresh live (requests.any (·.givesFilter)) :=
    Session.reached_disciplined catalog elementType configuration requests
  have depth : session.context.depth = live.length := by rw [disciplined.context]
  have scope : session.context.scope = Holding.visible live := by rw [disciplined.context]
  have limit : session.context.configuration = configuration := by rw [disciplined.context]; rfl
  refine ⟨depth, ?_, disciplined.room, scope, ?_, ?_, ?_, ?_, ?_, ?_, ?_⟩
  · rw [disciplined.guards, Holding.length_heldGuards]
  · rw [disciplined.context]
  · intro name
    have resolved := session.step_resolve name
    rw [Context.resolve, scope] at resolved
    exact resolved
  · intro parameter
    rw [Session.step_declare, limit, depth]
  · rw [Session.step_isolate, limit, depth]
  · exact session.step_filter
  · exact session.step_nested
  · exact session.step_order

end ClauseBinding

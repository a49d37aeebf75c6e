import ClauseBinding.Expression.Tree
import ClauseBinding.Failure
import ClauseBinding.Schema.Catalog

/-!
Contract: what binding knows at a place in a clause.

Owns:
- the configuration of binding;
- the context: catalog, element type, range variables in scope, depth of nesting;
- going one level deeper, which fails at the configured depth.

Does not own: the binding of clauses.
-/

namespace ClauseBinding

/-- How binding is done: how deep clauses may nest, and whether an order is
completed by the key of the element type. -/
structure Configuration where
  maxDepth : UInt64 := 100
  stableOrder : Bool := false
deriving DecidableEq

/-- What binding knows at a place in a clause. `scope` holds the range variables,
innermost first; `filterSeen` says that a filter clause was given to this context
before. -/
structure Context where
  catalog : Catalog
  elementType : DataType
  configuration : Configuration
  scope : List Parameter
  depth : Nat
  filterSeen : Bool

namespace Context

def start
    (catalog : Catalog)
    (elementType : DataType)
    (configuration : Configuration) : Context :=
  { catalog, elementType, configuration, scope := [], depth := 0, filterSeen := false }

/-- The type of the innermost range variable of a name. -/
def resolve
    (context : Context)
    (name : String) : Except Failure ValueType :=
  match context.scope.find? (·.name == name) with
  | some parameter => .ok parameter.type
  | none => .error (.unboundVariable name)

/-- One level deeper, unless the configured depth is reached. -/
def descend (context : Context) : Except Failure Context :=
  if context.depth < context.configuration.maxDepth.toNat then
    .ok { context with depth := context.depth + 1 }
  else .error (.tooDeep context.configuration.maxDepth)

/-- One level deeper, with one more range variable. -/
def declare
    (context : Context)
    (parameter : Parameter) : Except Failure Context := do
  let inner ← context.descend
  pure { inner with scope := parameter :: inner.scope }

/-- One level deeper, with no range variables at all. -/
def isolate (context : Context) : Except Failure Context := do
  let inner ← context.descend
  pure { inner with scope := [] }

end Context

end ClauseBinding

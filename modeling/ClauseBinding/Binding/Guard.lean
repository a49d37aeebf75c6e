import ClauseBinding.Binding.Context

/-!
Contract: guards, which hold a context deeper than it was until they are released.

Owns:
- what each kind of guard takes from a context, and gives back when it is released;
- uses of a context, which may change it, also where they fail;
- a use under a guard, which is released whether or not the use fails.

Does not own: what contexts are used for.
-/

namespace ClauseBinding

/-- What a guard gives back besides its level of depth: nothing, the place of a range
variable, or the scope that it set aside. -/
inductive Guard where
  | level
  | frame
  | isolation (outer : List Parameter)

def Guard.release
    (guard : Guard)
    (context : Context) : Context :=
  let scope :=
    match guard with
    | .level => context.scope
    | .frame => context.scope.tail
    | .isolation outer => outer
  { context with scope, depth := context.depth - 1 }

/-- A use of a context, which may leave it changed, also where it fails. -/
abbrev Use (α : Type) := ExceptT Failure (StateM Context) α

namespace Use

variable {α : Type}

def reading (read : Context → Except Failure α) : Use α := do
  read (← get)

/-- Count one more level of depth, unless the configured depth is reached. -/
def enter : Use Unit := do
  let context ← get
  if context.depth < context.configuration.maxDepth.toNat then
    set { context with depth := context.depth + 1 }
  else throw (.tooDeep context.configuration.maxDepth)

def holdLevel : Use Guard := do
  enter
  pure .level

def holdVariable (parameter : Parameter) : Use Guard := do
  enter
  modify fun context => { context with scope := parameter :: context.scope }
  pure .frame

/-- Hold an isolated scope, with the scope of the context set aside. -/
def holdIsolated : Use Guard := do
  enter
  let context ← get
  set { context with scope := [] }
  pure (.isolation context.scope)

/-- Use the context under a guard, which is released in the end. -/
def under
    (hold : Use Guard)
    (use : Use α) : Use α := do
  let guard ← hold
  try use
  finally modify guard.release

end Use

end ClauseBinding

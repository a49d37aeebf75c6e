import ClauseBinding.Data.DataType

/-!
Contract: the functions that clauses may call.

Owns: their names and their overloads.

Does not own: the choice of an overload, or what a function computes.
-/

namespace ClauseBinding

inductive Function where
  | contains
  | startsWith
  | endsWith
  | length
  | indexOf
  | substring
  | toLower
  | toUpper
  | trim
  | concat
  | year
  | month
  | day
  | hour
  | minute
  | second
  | date
  | round
  | floor
  | ceiling
deriving DecidableEq, Repr

structure Signature where
  parameters : List DataType
  result : DataType
deriving DecidableEq

namespace Function

def name : Function → String
  | .contains => "contains"
  | .startsWith => "startswith"
  | .endsWith => "endswith"
  | .length => "length"
  | .indexOf => "indexof"
  | .substring => "substring"
  | .toLower => "tolower"
  | .toUpper => "toupper"
  | .trim => "trim"
  | .concat => "concat"
  | .year => "year"
  | .month => "month"
  | .day => "day"
  | .hour => "hour"
  | .minute => "minute"
  | .second => "second"
  | .date => "date"
  | .round => "round"
  | .floor => "floor"
  | .ceiling => "ceiling"

def all : List Function := [
  .contains, .startsWith, .endsWith, .length, .indexOf, .substring, .toLower, .toUpper, .trim,
  .concat, .year, .month, .day, .hour, .minute, .second, .date, .round, .floor, .ceiling]

def ofName? (name : String) : Option Function :=
  all.find? (·.name == name)

/-- The overloads of a function, preferred ones first. -/
def signatures : Function → List Signature
  | .contains | .startsWith | .endsWith => [⟨[.string, .string], .bool⟩]
  | .length => [⟨[.string], .int32⟩]
  | .indexOf => [⟨[.string, .string], .int32⟩]
  | .substring => [⟨[.string, .int32], .string⟩, ⟨[.string, .int32, .int32], .string⟩]
  | .toLower | .toUpper | .trim => [⟨[.string], .string⟩]
  | .concat => [⟨[.string, .string], .string⟩]
  | .year | .month | .day => [⟨[.date], .int32⟩, ⟨[.moment], .int32⟩]
  | .hour | .minute | .second => [⟨[.moment], .int32⟩]
  | .date => [⟨[.moment], .date⟩]
  | .round | .floor | .ceiling => [⟨[.float64], .float64⟩, ⟨[.float32], .float32⟩]

end Function

end ClauseBinding

import ClauseBinding.Data.DataType

/-!
Contract: which data types convert into which.

Owns:
- the table of implicit and explicit conversions, which a host may replace;
- the type that two operands have in common.

Does not own: what a conversion does to a value.
-/

namespace ClauseBinding

structure Conversion where
  source : DataType
  target : DataType
deriving DecidableEq

/-- Conversions applied silently, earlier targets preferred, and further ones
that a clause has to ask for. -/
structure ConversionTable where
  implicit : List Conversion
  explicit : List Conversion
deriving DecidableEq

namespace ConversionTable

/-- Every type converts into itself only. -/
def empty : ConversionTable := ⟨[], []⟩

def widenings : List Conversion := [
  ⟨.int32, .int64⟩,
  ⟨.int32, .float32⟩,
  ⟨.int32, .float64⟩,
  ⟨.int64, .float32⟩,
  ⟨.int64, .float64⟩,
  ⟨.float32, .float64⟩]

/-- Widenings are implicit; narrowings, the date of a moment and the texts of
single values have to be asked for. -/
def standard : ConversionTable where
  implicit := widenings
  explicit :=
    [⟨.int64, .int32⟩,
     ⟨.float32, .int32⟩,
     ⟨.float32, .int64⟩,
     ⟨.float64, .int32⟩,
     ⟨.float64, .int64⟩,
     ⟨.float64, .float32⟩,
     ⟨.moment, .date⟩]
    ++ [DataType.bool, .int32, .int64, .float32, .float64, .date, .moment].map (⟨·, .string⟩)

/-- Whether a type converts into another without being asked to. -/
def canPromote
    (table : ConversionTable)
    (source target : DataType) : Bool :=
  source == target || table.implicit.contains ⟨source, target⟩

def canCast
    (table : ConversionTable)
    (source target : DataType) : Bool :=
  table.canPromote source target || table.explicit.contains ⟨source, target⟩

/-- The type that both operands promote to: their own if it is the same, one of
the two if the other promotes to it, else the first implicit target of both. -/
def commonType?
    (table : ConversionTable)
    (left right : DataType) : Option DataType :=
  if left = right then some left
  else if table.canPromote left right then some right
  else if table.canPromote right left then some left
  else
    (table.implicit.map Conversion.target).find? fun target =>
      table.canPromote left target && table.canPromote right target

end ConversionTable

end ClauseBinding

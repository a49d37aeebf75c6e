import ClauseBinding.Clause.Operator
import ClauseBinding.Data.Value
import ClauseBinding.Text.Fields

/-!
Contract: clauses, as a query language hands them over.

Owns:
- clause trees, and the filter and order clauses made of them;
- literals whose type is read off the value, and paths of members.

Does not own: names, types and meaning, which binding settles.
-/

namespace ClauseBinding

/-- The range variable that a clause has unless it names one. -/
def defaultVariable : String := "$it"

/-- A clause tree. `countWhere` counts the items of a collection for which a
condition over a range variable of its own holds. -/
inductive Clause where
  | literal (value : Value) (type : ValueType)
  | reference (name : String)
  | member (source : Clause) (name : String)
  | binary (operator : BinaryOperator) (left right : Clause)
  | unary (operator : UnaryOperator) (operand : Clause)
  | call (name : String) (arguments : List Clause)
  | cast (target : DataType) (operand : Clause)
  | quantified (quantifier : Quantifier) (source : Clause) (name : String) (body : Clause)
  | count (source : Clause)
  | countWhere (source : Clause) (name : String) (condition : Clause)

instance : Inhabited Clause := ⟨.reference defaultVariable⟩

structure FilterClause where
  condition : Clause
  rangeVariable : String
deriving Inhabited

inductive Direction where
  | ascending
  | descending
deriving DecidableEq, Repr

structure OrderTerm where
  key : Clause
  direction : Direction

/-- Sort keys over one range variable, most significant first. -/
structure OrderClause where
  terms : List OrderTerm
  rangeVariable : String

namespace Clause

/-- A literal of the type its value shows. Values that show none, the absent
value among them, become literals of the null type. -/
def ofValue (value : Value) : Clause :=
  .literal value
    (match value.dataType? with
      | some data => .required data
      | none => .null)

/-- The member path of a text, cut at every slash. -/
def path
    (source : Clause)
    (text : String) : Clause :=
  (Text.fields '/' text.toList).foldl (fun source name => source.member (String.ofList name)) source

end Clause

end ClauseBinding

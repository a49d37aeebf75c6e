import ClauseBinding.Data.Sorted
import ClauseBinding.Json.Token

/-!
Contract: JSON values.

Owns:
- the values, with numbers as written and members in the order written;
- the tokens of a value, and reading a value from tokens;
- compact text, and members sorted by name.

Does not own: what a value means to anyone.
-/

namespace ClauseBinding

open ClauseBinding.Json (Token Numeral)

/-- A JSON value. Member names and texts are none where a surrogate was left alone. -/
inductive Json where
  | null
  | truth (value : Bool)
  | number (value : Numeral)
  | text (value : Option String)
  | array (items : List Json)
  | object (members : List (Option String × Json))

instance : Inhabited Json := ⟨.null⟩

namespace Json

def ofText (text : String) : Json := .text (some text)

def ofInt (value : Int) : Json := .number (Numeral.ofInt value)

def ofMembers (members : List (String × Json)) : Json :=
  .object (members.map fun member => (some member.1, member.2))

/-! ## Writing -/

mutual

def tokens : Json → List Token
  | .null => [.null]
  | .truth value => [.truth value]
  | .number value => [.number value]
  | .text value => [.text value]
  | .array items => .leftBracket :: (itemTokens items ++ [.rightBracket])
  | .object members => .leftBrace :: (memberTokens members ++ [.rightBrace])
termination_by structural value => value

def itemTokens : List Json → List Token
  | [] => []
  | item :: rest => item.tokens ++ (if rest.isEmpty then [] else .comma :: itemTokens rest)
termination_by structural items => items

def memberTokens : List (Option String × Json) → List Token
  | [] => []
  | (name, value) :: rest =>
      .text name :: .colon
        :: (value.tokens ++ (if rest.isEmpty then [] else .comma :: memberTokens rest))
termination_by structural members => members

end

/-- The compact text of a value. -/
def render (value : Json) : String :=
  String.ofList (value.tokens.flatMap Token.chars)

/-! ## Reading -/

mutual

/-- Read a value from the front of some tokens. -/
def readValue : Nat → List Token → Option (Json × List Token)
  | 0, _ => none
  | steps + 1, tokens =>
      match tokens with
      | .null :: rest => some (.null, rest)
      | .truth value :: rest => some (.truth value, rest)
      | .number value :: rest => some (.number value, rest)
      | .text value :: rest => some (.text value, rest)
      | .leftBracket :: .rightBracket :: rest => some (.array [], rest)
      | .leftBracket :: rest => do
          let (items, rest) ← readItems steps rest
          pure (.array items, rest)
      | .leftBrace :: .rightBrace :: rest => some (.object [], rest)
      | .leftBrace :: rest => do
          let (members, rest) ← readMembers steps rest
          pure (.object members, rest)
      | _ => none

/-- Read the items of an array, at least one, up to the closing bracket. -/
def readItems : Nat → List Token → Option (List Json × List Token)
  | 0, _ => none
  | steps + 1, tokens => do
      let (item, rest) ← readValue steps tokens
      match rest with
      | .comma :: rest =>
          let (items, rest) ← readItems steps rest
          pure (item :: items, rest)
      | .rightBracket :: rest => pure ([item], rest)
      | _ => none

/-- Read the members of an object, at least one, up to the closing brace. -/
def readMembers : Nat → List Token → Option (List (Option String × Json) × List Token)
  | 0, _ => none
  | steps + 1, tokens =>
      match tokens with
      | .text name :: .colon :: rest => do
          let (value, rest) ← readValue steps rest
          match rest with
          | .comma :: rest =>
              let (members, rest) ← readMembers steps rest
              pure ((name, value) :: members, rest)
          | .rightBrace :: rest => pure ([(name, value)], rest)
          | _ => none
      | _ => none

end

/-- The value that a whole text writes. Nesting is bounded by the number of tokens. -/
def parse? (text : String) : Option Json := do
  let tokens ← Token.scan text.toList
  match ← readValue (tokens.length + 1) tokens with
  | (value, []) => some value
  | _ => none

/-! ## Members in order -/

def memberBefore
    (left right : Option String × Json) : Bool :=
  match left.1, right.1 with
  | some left, some right => decide (left < right)
  | none, some _ => true
  | _, none => false

mutual

/-- A value with the members of all its objects sorted by name. -/
def sorted : Json → Json
  | .null => .null
  | .truth value => .truth value
  | .number value => .number value
  | .text value => .text value
  | .array items => .array (sortedItems items)
  | .object members => .object (sortStable memberBefore (sortedMembers members))
termination_by structural value => value

def sortedItems : List Json → List Json
  | [] => []
  | item :: rest => item.sorted :: sortedItems rest
termination_by structural items => items

def sortedMembers : List (Option String × Json) → List (Option String × Json)
  | [] => []
  | (name, value) :: rest => (name, value.sorted) :: sortedMembers rest
termination_by structural members => members

end

end Json

end ClauseBinding

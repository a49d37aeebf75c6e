/-!
Contract: positions in texts, counted in characters.

Owns:
- the search for one text in another;
- the part of a text from a position, of a length.

Does not own: the numbers that clauses use for positions.
-/

namespace ClauseBinding.Text

def occursIn
    (pattern : List Char) : List Char → Bool
  | [] => pattern.isEmpty
  | c :: rest => pattern.isPrefixOf (c :: rest) || occursIn pattern rest

def position?
    (pattern : List Char) : List Char → Option Nat
  | [] => if pattern.isEmpty then some 0 else none
  | c :: rest =>
      if pattern.isPrefixOf (c :: rest) then some 0
      else (position? pattern rest).map (· + 1)

/-- The characters from a position on. A position before the text means its start. -/
def partFrom
    (start : Int)
    (text : List Char) : List Char :=
  text.drop start.toNat

/-- At most so many characters from a position on. A negative length means none. -/
def part
    (start length : Int)
    (text : List Char) : List Char :=
  (text.drop start.toNat).take length.toNat

end ClauseBinding.Text

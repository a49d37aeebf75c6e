import ClauseBinding.Text.CaseTable

/-!
Contract: lower case and upper case of whole texts.

Owns:
- the case mapping of one character, to one or more characters;
- the rule for a capital sigma at the end of a word.

Does not own: the tables.
-/

namespace ClauseBinding.Text

def isInRanges
    (ranges : List (Nat × Nat))
    (c : Char) : Bool :=
  ranges.any fun (first, last) => first ≤ c.toNat && c.toNat ≤ last

/-- The image of a character under the run that holds it. -/
def mapByRuns
    (runs : List CaseRun)
    (c : Char) : Char :=
  match runs.findSome? (·.map? c.toNat) with
  | some code => Char.ofNat code
  | none => c

/-- The lower case of a character by itself. The capital I with a dot keeps its dot. -/
def lowerChar (c : Char) : List Char :=
  if c.toNat = 0x130 then ['i', Char.ofNat 0x307] else [mapByRuns lowerRuns c]

def upperChar (c : Char) : List Char :=
  match upperExpansions.lookup c.toNat with
  | some codes => codes.map Char.ofNat
  | none => [mapByRuns upperRuns c]

/-- Whether the first character that case rules do not look through is cased. -/
def meetsCased (text : List Char) : Bool :=
  match text.dropWhile (isInRanges caseIgnorableRanges) with
  | c :: _ => isInRanges casedRanges c
  | [] => false

/-- The lower case of the rest of a text; `before` is what precedes it, last
character first. A sigma that ends a word has a form of its own. -/
def lowerFrom
    (before : List Char) : List Char → List Char
  | [] => []
  | c :: rest =>
      let image :=
        if c.toNat = 0x3A3 then
          [Char.ofNat (if meetsCased before && !meetsCased rest then 0x3C2 else 0x3C3)]
        else lowerChar c
      image ++ lowerFrom (c :: before) rest

def lower (text : List Char) : List Char :=
  lowerFrom [] text

def upper (text : List Char) : List Char :=
  text.flatMap upperChar

end ClauseBinding.Text

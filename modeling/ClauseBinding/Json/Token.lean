import ClauseBinding.Json.Numeral

/-!
Contract: the tokens of JSON texts.

Owns:
- the tokens, and the characters written for each;
- the scanning of a text into tokens, with blanks between them;
- the escapes of texts.

Does not own: which sequences of tokens are values.
-/

namespace ClauseBinding.Json

/-- A token. A text is none when its escapes leave half of a surrogate pair,
which no character has; such a text may stand only where it is not looked at. -/
inductive Token where
  | leftBrace
  | rightBrace
  | leftBracket
  | rightBracket
  | comma
  | colon
  | null
  | truth (value : Bool)
  | number (value : Numeral)
  | text (value : Option String)
deriving DecidableEq

/-! ## Texts -/

/-- A character of a text, or a unit of UTF-16 that was written as an escape. -/
inductive Unit16 where
  | char (c : Char)
  | escaped (unit : Nat)
deriving DecidableEq

def hexValue? (c : Char) : Option Nat :=
  if '0' ≤ c ∧ c ≤ '9' then some (c.toNat - 48)
  else if 'a' ≤ c ∧ c ≤ 'f' then some (c.toNat - 87)
  else if 'A' ≤ c ∧ c ≤ 'F' then some (c.toNat - 55)
  else none

def hexUnit?
    (a b c d : Char) : Option Nat := do
  let a ← hexValue? a
  let b ← hexValue? b
  let c ← hexValue? c
  let d ← hexValue? d
  pure (((a * 16 + b) * 16 + c) * 16 + d)

def shortEscape? (c : Char) : Option Char :=
  match c with
  | '"' => some '"'
  | '\\' => some '\\'
  | '/' => some '/'
  | 'b' => some '\x08'
  | 'f' => some '\x0c'
  | 'n' => some '\n'
  | 'r' => some '\r'
  | 't' => some '\t'
  | _ => none

/-- Scan a text up to its closing quote. Control characters have to be escaped. -/
def scanUnits : List Char → Option (List Unit16 × List Char)
  | [] => none
  | '"' :: rest => some ([], rest)
  | '\\' :: 'u' :: a :: b :: c :: d :: rest => do
      let unit ← hexUnit? a b c d
      let (units, rest) ← scanUnits rest
      pure (.escaped unit :: units, rest)
  | '\\' :: c :: rest => do
      let c ← shortEscape? c
      let (units, rest) ← scanUnits rest
      pure (.char c :: units, rest)
  | c :: rest =>
      if c.toNat < 0x20 ∨ c = '\\' then none
      else do
        let (units, rest) ← scanUnits rest
        pure (.char c :: units, rest)

/-- The characters of some units. Two escaped surrogates, high before low, are
one character; other surrogates are none. -/
def joinUnits : List Unit16 → Option (List Char)
  | [] => some []
  | .char c :: rest => (joinUnits rest).map (c :: ·)
  | .escaped high :: .escaped low :: rest =>
      if 0xD800 ≤ high ∧ high < 0xDC00 then
        if 0xDC00 ≤ low ∧ low < 0xE000 then
          (joinUnits rest).map
            (Char.ofNat ((high - 0xD800) * 0x400 + (low - 0xDC00) + 0x10000) :: ·)
        else none
      else if 0xDC00 ≤ high ∧ high < 0xE000 then none
      else (joinUnits (.escaped low :: rest)).map (Char.ofNat high :: ·)
  | .escaped unit :: rest =>
      if 0xD800 ≤ unit ∧ unit < 0xE000 then none
      else (joinUnits rest).map (Char.ofNat unit :: ·)

def codeEscape (code : Nat) : List Char :=
  let digits := Nat.toDigits 16 code
  ['\\', 'u'] ++ List.replicate (4 - digits.length) '0' ++ digits

def escape (c : Char) : List Char :=
  match c with
  | '"' => ['\\', '"']
  | '\\' => ['\\', '\\']
  | '\x08' => ['\\', 'b']
  | '\x0c' => ['\\', 'f']
  | '\n' => ['\\', 'n']
  | '\r' => ['\\', 'r']
  | '\t' => ['\\', 't']
  | c => if c.toNat < 0x20 then codeEscape c.toNat else [c]

/-- The characters written for a text; half a surrogate pair for what is none. -/
def textChars : Option String → List Char
  | some text => '"' :: (text.toList.flatMap escape ++ ['"'])
  | none => '"' :: (codeEscape 0xD800 ++ ['"'])

/-! ## Numbers -/

def scanDigits (text : List Char) : List Char × List Char :=
  (text.takeWhile Char.isDigit, text.dropWhile Char.isDigit)

/-- Scan the digits before the point: a zero alone, or digits that begin with another. -/
def scanWhole (text : List Char) : Option (List Char × List Char) :=
  match text with
  | '0' :: rest => some (['0'], rest)
  | _ =>
      match scanDigits text with
      | ([], _) => none
      | scanned => some scanned

def scanFraction (text : List Char) : Option (List Char × List Char) :=
  match text with
  | '.' :: rest =>
      match scanDigits rest with
      | ([], _) => none
      | scanned => some scanned
  | _ => some ([], text)

def scanPower
    (negative : Bool)
    (text : List Char) : Option (Option (Bool × List Char) × List Char) :=
  match scanDigits text with
  | ([], _) => none
  | (digits, rest) => some (some (negative, digits), rest)

def scanExponent (text : List Char) : Option (Option (Bool × List Char) × List Char) :=
  match text with
  | c :: rest =>
      if c = 'e' ∨ c = 'E' then
        match rest with
        | '+' :: digits => scanPower false digits
        | '-' :: digits => scanPower true digits
        | digits => scanPower false digits
      else some (none, text)
  | [] => some (none, [])

/-- Scan a number, whose sign has been scanned. -/
def scanNumeral
    (negative : Bool)
    (text : List Char) : Option (Numeral × List Char) := do
  let (whole, text) ← scanWhole text
  let (fraction, text) ← scanFraction text
  let (exponent, text) ← scanExponent text
  pure (⟨negative, whole, fraction, exponent⟩, text)

/-! ## Tokens -/

/-- The blanks that may stand between tokens. -/
def isSpace (c : Char) : Bool :=
  c == ' ' || c == '\n' || c == '\r' || c == '\t'

namespace Token

def chars : Token → List Char
  | .leftBrace => ['\x7b']
  | .rightBrace => ['\x7d']
  | .leftBracket => ['[']
  | .rightBracket => [']']
  | .comma => [',']
  | .colon => [':']
  | .null => ['n', 'u', 'l', 'l']
  | .truth true => ['t', 'r', 'u', 'e']
  | .truth false => ['f', 'a', 'l', 's', 'e']
  | .number value => value.chars
  | .text value => textChars value

def scanFrom
    (c : Char)
    (rest : List Char) : Option (Token × List Char) :=
  match c, rest with
  | '\x7b', rest => some (.leftBrace, rest)
  | '\x7d', rest => some (.rightBrace, rest)
  | '[', rest => some (.leftBracket, rest)
  | ']', rest => some (.rightBracket, rest)
  | ',', rest => some (.comma, rest)
  | ':', rest => some (.colon, rest)
  | 'n', 'u' :: 'l' :: 'l' :: rest => some (.null, rest)
  | 't', 'r' :: 'u' :: 'e' :: rest => some (.truth true, rest)
  | 'f', 'a' :: 'l' :: 's' :: 'e' :: rest => some (.truth false, rest)
  | '"', rest => do
      let (units, rest) ← scanUnits rest
      pure (.text ((joinUnits units).map String.ofList), rest)
  | '-', rest => do
      let (value, rest) ← scanNumeral true rest
      pure (.number value, rest)
  | c, rest => do
      let (value, rest) ← scanNumeral false (c :: rest)
      pure (.number value, rest)

def scanWithin
    (steps : Nat)
    (text : List Char) : Option (List Token) :=
  match steps, text with
  | _, [] => some []
  | 0, _ => none
  | steps + 1, c :: rest =>
      if isSpace c then scanWithin steps rest
      else do
        let (token, rest) ← scanFrom c rest
        let tokens ← scanWithin steps rest
        pure (token :: tokens)

/-- The tokens of a text. Each step takes a character at least. -/
def scan (text : List Char) : Option (List Token) :=
  scanWithin text.length text

end Token

end ClauseBinding.Json

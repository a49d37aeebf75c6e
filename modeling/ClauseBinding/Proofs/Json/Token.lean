import ClauseBinding.Proofs.Json.Numeral
import Mathlib.Data.List.Chain

/-!
Contract: tokens are scanned back as they are written.

Owns:
- that every text survives its escapes, and that half a surrogate pair stays none;
- which tokens need something between them;
- that scanning what is written for some tokens gives those tokens.

Does not own: which sequences of tokens are values.
-/

namespace ClauseBinding.Json

/-! ## Texts -/

/-- The unit that is scanned for a character: its code for the control characters
without a short escape. -/
def unitOf (c : Char) : Unit16 :=
  if c.toNat < 0x20 ∧ c ∉ ['\x08', '\x0c', '\n', '\r', '\t'] then .escaped c.toNat else .char c

private theorem codeEscape_digits :
    ∀ code < 0x20,
      codeEscape code
          = ['\\', 'u', '0', '0', Nat.digitChar (code / 16), Nat.digitChar (code % 16)]
        ∧ hexUnit? '0' '0' (Nat.digitChar (code / 16)) (Nat.digitChar (code % 16))
          = some code := by
  decide

private theorem scanUnits_short
    {short c : Char}
    (noCode : short ≠ 'u')
    (means : shortEscape? short = some c)
    (rest : List Char) :
    scanUnits ('\\' :: short :: rest) =
      (scanUnits rest).map fun scanned => (.char c :: scanned.1, scanned.2) := by
  rw [scanUnits]
  · rw [means]
    cases scanUnits rest <;> rfl
  · rintro _ _ _ _ _ same
    exact absurd same noCode

private theorem scanUnits_escape
    (c : Char)
    (rest : List Char) :
    scanUnits (escape c ++ rest) =
      (scanUnits rest).map fun scanned => (unitOf c :: scanned.1, scanned.2) := by
  unfold escape
  split
  case h_8 _ noQuote noBackslash noBackspace noFeed noLine noReturn noTab =>
    by_cases control : c.toNat < 0x20
    · obtain ⟨written, read⟩ := codeEscape_digits c.toNat control
      have unit : unitOf c = .escaped c.toNat := by simp_all [unitOf]
      rw [if_pos control, written, unit]
      show scanUnits ('\\' :: 'u' :: '0' :: '0' :: _ :: _ :: rest) = _
      rw [scanUnits, read]
      cases scanUnits rest <;> rfl
    · have unit : unitOf c = .char c := by simp [unitOf, control]
      have plain : ¬(c.toNat < 0x20 ∨ c = '\\') := not_or.mpr ⟨control, noBackslash⟩
      rw [if_neg control, unit]
      show scanUnits (c :: rest) = _
      rw [scanUnits, if_neg plain]
      · cases scanUnits rest <;> rfl
      · exact noQuote
      · rintro _ _ _ _ _ same
        exact absurd same noBackslash
      · rintro _ _ same
        exact absurd same noBackslash
  all_goals exact scanUnits_short (by decide) rfl rest

private theorem scanUnits_flatMap
    (text rest : List Char) :
    scanUnits (text.flatMap escape ++ '"' :: rest) = some (text.map unitOf, rest) := by
  induction text with
  | nil => rfl
  | cons c others inductionHypothesis =>
      rw [List.flatMap_cons, List.append_assoc, scanUnits_escape, inductionHypothesis]
      rfl

/-- A unit that is no surrogate is a character alone. -/
theorem joinUnits_escaped
    {code : Nat}
    (noSurrogate : ¬(0xD800 ≤ code ∧ code < 0xE000))
    (rest : List Unit16) :
    joinUnits (.escaped code :: rest) = (joinUnits rest).map (Char.ofNat code :: ·) := by
  match rest with
  | [] => exact if_neg noSurrogate
  | .char c :: others => exact if_neg noSurrogate
  | .escaped low :: others =>
      have noHigh : ¬(0xD800 ≤ code ∧ code < 0xDC00) := by omega
      have noLow : ¬(0xDC00 ≤ code ∧ code < 0xE000) := by omega
      rw [joinUnits, if_neg noHigh, if_neg noLow]

private theorem joinUnits_map_unitOf (text : List Char) :
    joinUnits (text.map unitOf) = some text := by
  induction text with
  | nil => rfl
  | cons c others inductionHypothesis =>
      rw [List.map_cons, unitOf]
      split
      case isTrue control =>
        have noSurrogate : ¬(0xD800 ≤ c.toNat ∧ c.toNat < 0xE000) := by omega
        rw [joinUnits_escaped noSurrogate, inductionHypothesis, Char.ofNat_toNat]
        rfl
      case isFalse =>
        rw [joinUnits, inductionHypothesis]
        rfl

namespace Token

/-! ## Tokens one by one -/

/-- The numbers of a token have digits in the right places. -/
def WellFormed : Token → Prop
  | .number value => value.WellFormed
  | _ => True

def isNumber : Token → Bool
  | .number _ => true
  | _ => false

private theorem scanFrom_text
    (text : Option String)
    (rest : List Char) :
    ∃ others, textChars text = '"' :: others
      ∧ scanFrom '"' (others ++ rest) = some (.text text, rest) := by
  cases text with
  | some text =>
      refine ⟨_, rfl, ?_⟩
      rw [List.append_assoc, List.singleton_append]
      simp only [scanFrom, scanUnits_flatMap, joinUnits_map_unitOf, Option.bind_eq_bind,
        Option.bind_some, Option.map_some, String.ofList_toList]
      rfl
  | none =>
      refine ⟨_, rfl, ?_⟩
      rfl

/-- A digit begins a number. -/
theorem scanFrom_digit
    {c : Char}
    (digit : c.isDigit = true)
    (rest : List Char) :
    scanFrom c rest =
      (scanNumeral false (c :: rest)).map fun scanned => (.number scanned.1, scanned.2) := by
  unfold scanFrom
  split
  case h_12 => cases scanNumeral false (c :: rest) <;> rfl
  all_goals exact absurd digit (by decide)

private theorem noSpace_of_digit
    {c : Char}
    (digit : c.isDigit = true) : isSpace c = false := by
  cases space : isSpace c with
  | false => rfl
  | true =>
      simp only [isSpace, Bool.or_eq_true, beq_iff_eq] at space
      obtain ((rfl | rfl) | rfl) | rfl := space <;> exact absurd digit (by decide)

private theorem scanFrom_number
    {value : Numeral}
    (wellFormed : value.WellFormed)
    {rest : List Char}
    (ends : Numeral.EndsBefore rest) :
    ∃ c others, value.chars = c :: others ∧ isSpace c = false
      ∧ scanFrom c (others ++ rest) = some (.number value, rest) := by
  have scanned := Numeral.scanNumeral_append wellFormed ends
  rw [Numeral.chars_eq]
  cases sign : value.negative with
  | true =>
      rw [sign] at scanned
      refine ⟨'-', _, rfl, rfl, ?_⟩
      show scanFrom '-' (value.unsignedChars ++ rest) = _
      rw [scanFrom, scanned]
      rfl
  | false =>
      obtain ⟨first, others, whole⟩ := List.exists_cons_of_ne_nil wellFormed.wholeGiven
      have digit := wellFormed.wholeDigits first (whole ▸ List.mem_cons_self ..)
      obtain ⟨tail, written⟩ : ∃ tail, value.unsignedChars = first :: tail :=
        ⟨_, by rw [Numeral.unsignedChars, whole]; rfl⟩
      rw [sign, written] at scanned
      refine ⟨first, tail, written, noSpace_of_digit digit, ?_⟩
      rw [scanFrom_digit digit, ← List.cons_append, scanned]
      rfl

/-- What is written for a token is scanned as that token, if nothing goes on with a number
that it ends with. -/
theorem scanFrom_chars
    {token : Token}
    (wellFormed : token.WellFormed)
    {rest : List Char}
    (ends : token.isNumber = true → Numeral.EndsBefore rest) :
    ∃ c others, token.chars = c :: others ∧ isSpace c = false
      ∧ scanFrom c (others ++ rest) = some (token, rest) := by
  cases token with
  | number value => exact scanFrom_number wellFormed (ends rfl)
  | text text =>
      obtain ⟨others, written, scanned⟩ := scanFrom_text text rest
      exact ⟨'"', others, written, rfl, scanned⟩
  | truth value => cases value <;> exact ⟨_, _, rfl, rfl, rfl⟩
  | _ => exact ⟨_, _, rfl, rfl, rfl⟩

/-! ## Sequences of tokens -/

/-- Whether one token may directly follow another: two numbers would run into each other. -/
def Apart (left right : Token) : Prop :=
  left.isNumber = true → right.isNumber = false

/-- Only numbers begin with a character that a number can go on with. -/
theorem endsBefore_flatMap
    {token : Token}
    (noNumber : token.isNumber = false)
    (rest : List Token) : Numeral.EndsBefore ((token :: rest).flatMap chars) := by
  intro c first
  cases token with
  | number => cases noNumber
  | text text => cases text <;> obtain rfl := Option.some.inj first <;> decide
  | truth value => cases value <;> obtain rfl := Option.some.inj first <;> decide
  | _ => obtain rfl := Option.some.inj first; decide

private theorem scanWithin_chars
    {tokens : List Token}
    (wellFormed : ∀ token ∈ tokens, token.WellFormed)
    (apart : tokens.IsChain Apart)
    {steps : Nat}
    (enough : (tokens.flatMap chars).length ≤ steps) :
    scanWithin steps (tokens.flatMap chars) = some tokens := by
  induction tokens generalizing steps with
  | nil => cases steps <;> rfl
  | cons token rest inductionHypothesis =>
      have ends : token.isNumber = true → Numeral.EndsBefore (rest.flatMap chars) := by
        intro isNumber
        cases rest with
        | nil => exact fun _ absurd => nomatch absurd
        | cons next others =>
            have noNumber : next.isNumber = false := apart.rel isNumber
            exact endsBefore_flatMap noNumber others
      obtain ⟨c, others, written, noSpace, scanned⟩ :=
        scanFrom_chars (wellFormed token (List.mem_cons_self ..)) ends
      rw [List.flatMap_cons, written, List.cons_append] at enough ⊢
      rw [List.length_cons, List.length_append] at enough
      obtain ⟨below, rfl⟩ : ∃ below, steps = below + 1 := ⟨steps - 1, by omega⟩
      have restScanned : scanWithin below (rest.flatMap chars) = some rest :=
        inductionHypothesis (fun other member => wellFormed other (List.mem_cons_of_mem _ member))
          apart.tail (by omega)
      rw [scanWithin, noSpace, if_neg (by decide), scanned]
      simp only [Option.bind_eq_bind, Option.bind_some, restScanned, Option.pure_def]

/-- Tokens are scanned back, if no number follows a number. -/
theorem scan_chars
    {tokens : List Token}
    (wellFormed : ∀ token ∈ tokens, token.WellFormed)
    (apart : tokens.IsChain Apart) : scan (tokens.flatMap chars) = some tokens :=
  scanWithin_chars wellFormed apart (Nat.le_refl _)

end Token

end ClauseBinding.Json

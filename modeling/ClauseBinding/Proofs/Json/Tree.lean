import ClauseBinding.Json.Tree
import ClauseBinding.Proofs.Json.Token

/-!
Contract: JSON values are read back from their compact texts.

Owns:
- induction over values;
- how many levels of arrays and objects a value has;
- that a value is read back from its tokens, and from its text.

Does not own: texts with blanks, or with numbers and escapes in other forms.
-/

namespace ClauseBinding.Json

/-- Induction over values, with arrays and objects that go by their items and members. -/
@[elab_as_elim, induction_eliminator]
theorem induction
    {motive : Json → Prop}
    (null : motive .null)
    (truth : ∀ value, motive (.truth value))
    (number : ∀ value, motive (.number value))
    (text : ∀ value, motive (.text value))
    (array : ∀ items, (∀ item ∈ items, motive item) → motive (.array items))
    (object : ∀ members, (∀ member ∈ members, motive member.2) → motive (.object members))
    (value : Json) : motive value := by
  apply rec
    (motive_1 := motive)
    (motive_2 := fun items => ∀ item ∈ items, motive item)
    (motive_3 := fun members => ∀ member ∈ members, motive member.2)
    (motive_4 := fun member => motive member.2)
  · exact null
  · exact truth
  · exact number
  · exact text
  · exact array
  · exact object
  · exact fun _ absurd => nomatch absurd
  · exact fun first rest firstHolds restHolds => List.forall_mem_cons.mpr ⟨firstHolds, restHolds⟩
  · exact fun _ absurd => nomatch absurd
  · exact fun first rest firstHolds restHolds => List.forall_mem_cons.mpr ⟨firstHolds, restHolds⟩
  · exact fun _ _ holds => holds

/-! ## Levels -/

mutual

/-- How many levels of arrays and objects a value has. -/
def nesting : Json → Nat
  | .array items => itemsNesting items + 1
  | .object members => membersNesting members + 1
  | _ => 0
termination_by structural value => value

def itemsNesting : List Json → Nat
  | [] => 0
  | item :: rest => max item.nesting (itemsNesting rest)
termination_by structural items => items

def membersNesting : List (Option String × Json) → Nat
  | [] => 0
  | (_, value) :: rest => max value.nesting (membersNesting rest)
termination_by structural members => members

end

theorem itemsNesting_le_iff
    {items : List Json}
    {levels : Nat} : itemsNesting items ≤ levels ↔ ∀ item ∈ items, item.nesting ≤ levels := by
  induction items with
  | nil => simp [itemsNesting]
  | cons item rest inductionHypothesis =>
      rw [itemsNesting, Nat.max_le, inductionHypothesis, List.forall_mem_cons]

theorem membersNesting_le_iff
    {members : List (Option String × Json)}
    {levels : Nat} :
    membersNesting members ≤ levels ↔ ∀ member ∈ members, member.2.nesting ≤ levels := by
  induction members with
  | nil => simp [membersNesting]
  | cons member rest inductionHypothesis =>
      rw [membersNesting, Nat.max_le, inductionHypothesis, List.forall_mem_cons]

/-! ## Tokens -/

def WellFormed (value : Json) : Prop :=
  ∀ token ∈ value.tokens, token.WellFormed

theorem ofInt_wellFormed (value : Int) : (ofInt value).WellFormed := by
  intro token member
  obtain rfl := List.mem_singleton.mp member
  exact Numeral.ofInt_wellFormed value

theorem array_wellFormed
    {items : List Json}
    (each : ∀ item ∈ items, item.WellFormed) : (array items).WellFormed := by
  have itemsWellFormed : ∀ token ∈ itemTokens items, token.WellFormed := by
    induction items with
    | nil => exact fun _ absurd => nomatch absurd
    | cons item rest inductionHypothesis =>
        obtain ⟨itemWellFormed, restWellFormed⟩ := List.forall_mem_cons.mp each
        rw [itemTokens, List.forall_mem_append]
        refine ⟨itemWellFormed, ?_⟩
        cases rest with
        | nil => exact fun _ absurd => nomatch absurd
        | cons => exact List.forall_mem_cons.mpr ⟨trivial, inductionHypothesis restWellFormed⟩
  rw [WellFormed, tokens, List.forall_mem_cons, List.forall_mem_append, List.forall_mem_singleton]
  exact ⟨trivial, itemsWellFormed, trivial⟩

theorem object_wellFormed
    {members : List (Option String × Json)}
    (each : ∀ member ∈ members, member.2.WellFormed) : (object members).WellFormed := by
  have membersWellFormed : ∀ token ∈ memberTokens members, token.WellFormed := by
    induction members with
    | nil => exact fun _ absurd => nomatch absurd
    | cons member rest inductionHypothesis =>
        obtain ⟨memberWellFormed, restWellFormed⟩ := List.forall_mem_cons.mp each
        rw [memberTokens, List.forall_mem_cons, List.forall_mem_cons, List.forall_mem_append]
        refine ⟨trivial, trivial, memberWellFormed, ?_⟩
        cases rest with
        | nil => exact fun _ absurd => nomatch absurd
        | cons => exact List.forall_mem_cons.mpr ⟨trivial, inductionHypothesis restWellFormed⟩
  rw [WellFormed, tokens, List.forall_mem_cons, List.forall_mem_append, List.forall_mem_singleton]
  exact ⟨trivial, membersWellFormed, trivial⟩

private theorem tokens_eq_cons (value : Json) :
    ∃ first others, value.tokens = first :: others ∧ first ≠ .rightBracket := by
  cases value <;> exact ⟨_, _, rfl, nofun⟩

/-- No number follows a number in the tokens of a value, nor in what follows, if that
does not begin with one. -/
def TokensApart (value : Json) : Prop :=
  ∀ rest : List Token, rest.IsChain Token.Apart →
    (∀ token ∈ rest.head?, token.isNumber = false) →
    (value.tokens ++ rest).IsChain Token.Apart

private theorem apart_cons
    {token : Token}
    (noNumber : token.isNumber = false)
    {rest : List Token}
    (apart : rest.IsChain Token.Apart) : (token :: rest).IsChain Token.Apart := by
  refine List.isChain_cons.mpr ⟨?_, apart⟩
  intro next _ isNumber
  exact absurd isNumber (by rw [noNumber]; decide)

private theorem itemTokens_apart
    {items : List Json}
    (apart : ∀ item ∈ items, item.TokensApart)
    {rest : List Token}
    (restApart : rest.IsChain Token.Apart) :
    (itemTokens items ++ .rightBracket :: rest).IsChain Token.Apart := by
  induction items with
  | nil => exact apart_cons rfl restApart
  | cons item others inductionHypothesis =>
      obtain ⟨itemApart, othersApart⟩ := List.forall_mem_cons.mp apart
      rw [itemTokens, List.append_assoc]
      cases others with
      | nil => exact itemApart _ (apart_cons rfl restApart) (by simp [Token.isNumber])
      | cons next more =>
          exact itemApart _ (apart_cons rfl (inductionHypothesis othersApart))
            (by simp [Token.isNumber])

private theorem memberTokens_apart
    {members : List (Option String × Json)}
    (apart : ∀ member ∈ members, member.2.TokensApart)
    {rest : List Token}
    (restApart : rest.IsChain Token.Apart) :
    (memberTokens members ++ .rightBrace :: rest).IsChain Token.Apart := by
  induction members with
  | nil => exact apart_cons rfl restApart
  | cons member others inductionHypothesis =>
      obtain ⟨name, value⟩ := member
      obtain ⟨valueApart, othersApart⟩ := List.forall_mem_cons.mp apart
      rw [memberTokens, List.cons_append, List.cons_append, List.append_assoc]
      apply apart_cons rfl
      apply apart_cons rfl
      cases others with
      | nil => exact valueApart _ (apart_cons rfl restApart) (by simp [Token.isNumber])
      | cons next more =>
          exact valueApart _ (apart_cons rfl (inductionHypothesis othersApart))
            (by simp [Token.isNumber])

private theorem tokensApart (value : Json) : value.TokensApart := by
  intro rest restApart separated
  induction value generalizing rest with
  | array items itemsApart =>
      rw [tokens, List.cons_append, List.append_assoc]
      exact apart_cons rfl (itemTokens_apart itemsApart restApart)
  | object members membersApart =>
      rw [tokens, List.cons_append, List.append_assoc]
      exact apart_cons rfl (memberTokens_apart membersApart restApart)
  | number value =>
      refine List.isChain_cons.mpr ⟨?_, restApart⟩
      intro next isNext _
      exact separated next isNext
  | _ => exact apart_cons rfl restApart

/-! ## Reading -/

/-- A value is read from its tokens, in enough steps. -/
def ReadFromTokens (value : Json) : Prop :=
  ∀ steps rest, value.tokens.length ≤ steps →
    readValue steps (value.tokens ++ rest) = some (value, rest)

private theorem readItems_tokens
    {items : List Json}
    (given : items ≠ [])
    (read : ∀ item ∈ items, item.ReadFromTokens)
    {steps : Nat}
    (enough : (itemTokens items).length < steps)
    (rest : List Token) :
    readItems steps (itemTokens items ++ .rightBracket :: rest) = some (items, rest) := by
  induction items generalizing steps with
  | nil => exact absurd rfl given
  | cons item others inductionHypothesis =>
      obtain ⟨itemRead, othersRead⟩ := List.forall_mem_cons.mp read
      obtain ⟨below, rfl⟩ : ∃ below, steps = below + 1 := ⟨steps - 1, by omega⟩
      rw [itemTokens, List.length_append] at enough
      have itemFits : item.tokens.length ≤ below := by omega
      rw [readItems, itemTokens, List.append_assoc, itemRead below _ itemFits]
      cases others with
      | nil => rfl
      | cons next more =>
          have othersFit : (itemTokens (next :: more)).length < below := by
            simp only [List.isEmpty_cons, Bool.false_eq_true, if_false, List.length_cons] at enough
            omega
          have othersGiven := inductionHypothesis (List.cons_ne_nil _ _) othersRead othersFit
          simp only [List.isEmpty_cons, Bool.false_eq_true, if_false, List.cons_append,
            Option.bind_eq_bind, Option.bind_some, othersGiven, Option.pure_def]

private theorem readMembers_tokens
    {members : List (Option String × Json)}
    (given : members ≠ [])
    (read : ∀ member ∈ members, member.2.ReadFromTokens)
    {steps : Nat}
    (enough : (memberTokens members).length < steps)
    (rest : List Token) :
    readMembers steps (memberTokens members ++ .rightBrace :: rest) = some (members, rest) := by
  induction members generalizing steps with
  | nil => exact absurd rfl given
  | cons member others inductionHypothesis =>
      obtain ⟨name, value⟩ := member
      obtain ⟨valueRead, othersRead⟩ := List.forall_mem_cons.mp read
      obtain ⟨below, rfl⟩ : ∃ below, steps = below + 1 := ⟨steps - 1, by omega⟩
      rw [memberTokens, List.length_cons, List.length_cons, List.length_append] at enough
      have valueFits : value.tokens.length ≤ below := by omega
      rw [memberTokens, List.cons_append, List.cons_append, List.append_assoc, readMembers,
        valueRead below _ valueFits]
      cases others with
      | nil => rfl
      | cons next more =>
          have othersFit : (memberTokens (next :: more)).length < below := by
            simp only [List.isEmpty_cons, Bool.false_eq_true, if_false, List.length_cons] at enough
            omega
          have othersGiven := inductionHypothesis (List.cons_ne_nil _ _) othersRead othersFit
          simp only [List.isEmpty_cons, Bool.false_eq_true, if_false, List.cons_append,
            Option.bind_eq_bind, Option.bind_some, othersGiven, Option.pure_def]

/-- A bracket that is not closed at once opens items. -/
theorem readValue_leftBracket
    {first : Token}
    (notClosed : first ≠ .rightBracket)
    (steps : Nat)
    (others : List Token) :
    readValue (steps + 1) (.leftBracket :: first :: others) =
      (readItems steps (first :: others)).map fun read => (.array read.1, read.2) := by
  rw [readValue]
  · cases readItems steps (first :: others) <;> rfl
  · rintro _ same
    exact notClosed (List.cons.inj same).1

private theorem readFromTokens (value : Json) : value.ReadFromTokens := by
  induction value with
  | array items itemsRead =>
      intro steps rest enough
      rw [tokens, List.length_cons, List.length_append, List.length_singleton] at enough
      obtain ⟨below, rfl⟩ : ∃ below, steps = below + 1 := ⟨steps - 1, by omega⟩
      have fits : (itemTokens items).length < below := by omega
      rw [tokens, List.cons_append, List.append_assoc, List.singleton_append]
      cases items with
      | nil => rfl
      | cons item others =>
          have read := readItems_tokens (List.cons_ne_nil item others) itemsRead fits rest
          obtain ⟨first, tail, isTokens, notClosed⟩ := item.tokens_eq_cons
          rw [itemTokens, isTokens, List.cons_append, List.cons_append] at read ⊢
          rw [readValue_leftBracket notClosed, read]
          rfl
  | object members membersRead =>
      intro steps rest enough
      rw [tokens, List.length_cons, List.length_append, List.length_singleton] at enough
      obtain ⟨below, rfl⟩ : ∃ below, steps = below + 1 := ⟨steps - 1, by omega⟩
      have fits : (memberTokens members).length < below := by omega
      rw [tokens, List.cons_append, List.append_assoc, List.singleton_append]
      cases members with
      | nil => rfl
      | cons member others =>
          have read := readMembers_tokens (List.cons_ne_nil member others) membersRead fits rest
          rw [memberTokens, List.cons_append] at read ⊢
          simp only [readValue, read, Option.bind_eq_bind, Option.bind_some, Option.pure_def]
  | _ =>
      intro steps rest enough
      obtain ⟨below, rfl⟩ : ∃ below, steps = below + 1 := Nat.exists_eq_add_one.mpr enough
      rfl

/-- The compact text of a value is read as that value. -/
theorem parse?_render
    {value : Json}
    (wellFormed : value.WellFormed) : parse? value.render = some value := by
  have apart : value.tokens.IsChain Token.Apart := by
    simpa using value.tokensApart [] .nil (by simp)
  have scanned : Token.scan value.render.toList = some value.tokens := by
    rw [render, String.toList_ofList]
    exact Token.scan_chars wellFormed apart
  have read := value.readFromTokens (value.tokens.length + 1) [] (by omega)
  rw [List.append_nil] at read
  rw [parse?, scanned, Option.bind_eq_bind, Option.bind_some, read]
  rfl

end ClauseBinding.Json

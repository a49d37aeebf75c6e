import ClauseBinding.Proofs.Evaluation.Outcome

/-!
Contract: computations over the items of a list, one after the other.

Owns:
- that a traversal has a value exactly when the computation of each item has one;
- that else it fails as the first of them that fails, and exactly as that one.

Does not own: the computations.
-/

namespace ClauseBinding.Outcome

variable {α β : Type} {compute : α → Except Failure β} {items : List α}

/-- The first item of which the computation fails, fails with a failure. -/
inductive FirstFails (compute : α → Except Failure β) : List α → Failure → Prop where
  | here {item : α} {rest : List α} {failure : Failure}
      (fails : compute item = .error failure) :
      FirstFails compute (item :: rest) failure
  | later {item : α} {rest : List α} {value : β} {failure : Failure}
      (succeeds : compute item = .ok value)
      (restFails : FirstFails compute rest failure) :
      FirstFails compute (item :: rest) failure

private theorem mapM_eq_all (items : List α) : items.mapM compute = all (items.map compute) := by
  induction items with
  | nil => rfl
  | cons first rest inductionHypothesis =>
      rw [List.mapM_cons, inductionHypothesis]
      rfl

theorem mapM_eq_ok_iff
    {values : List β} :
    items.mapM compute = .ok values ↔
      List.Forall₂ (fun item value => compute item = .ok value) items values := by
  rw [mapM_eq_all, all_eq_ok, List.forall₂_map_left_iff]

theorem mapM_eq_error_iff
    {failure : Failure} :
    items.mapM compute = .error failure ↔ FirstFails compute items failure := by
  induction items with
  | nil => exact ⟨nofun, nofun⟩
  | cons first rest inductionHypothesis =>
      rw [List.mapM_cons, bind_eq_error]
      constructor
      · rintro (fails | ⟨value, isValue, fails⟩)
        · exact .here fails
        · rcases bind_eq_error.mp fails with restFails | ⟨_, -, absurd⟩
          · exact .later isValue (inductionHypothesis.mp restFails)
          · cases absurd
      · intro fails
        cases fails with
        | here isFailure => exact .inl isFailure
        | later succeeds restFails =>
            exact .inr ⟨_, succeeds, bind_eq_error.mpr (.inl (inductionHypothesis.mpr restFails))⟩

theorem mapM_eq_ok
    {value : α → β}
    (each : ∀ item ∈ items, compute item = .ok (value item)) :
    items.mapM compute = .ok (items.map value) := by
  induction items with
  | nil => rfl
  | cons first rest inductionHypothesis =>
      obtain ⟨isFirst, areRest⟩ := List.forall_mem_cons.mp each
      rw [List.mapM_cons, isFirst, inductionHypothesis areRest]
      rfl

/-- Values that are put to some use make no difference to failures. -/
theorem firstFails_map_iff
    {γ : Type}
    {use : β → γ}
    {failure : Failure} :
    FirstFails (fun item => compute item >>= fun value => pure (use value)) items failure ↔
      FirstFails compute items failure := by
  constructor
  · intro fails
    induction fails with
    | here fails =>
        rcases bind_eq_error.mp fails with isFailure | ⟨_, -, absurd⟩
        · exact .here isFailure
        · cases absurd
    | later succeeds _ inductionHypothesis =>
        obtain ⟨value, isValue, -⟩ := bind_eq_ok.mp succeeds
        exact .later isValue inductionHypothesis
  · intro fails
    induction fails with
    | here isFailure => exact .here (bind_eq_error.mpr (.inl isFailure))
    | later succeeds _ inductionHypothesis =>
        exact .later (bind_eq_ok.mpr ⟨_, succeeds, rfl⟩) inductionHypothesis

theorem each_of_mapM_eq_ok
    {values : List β}
    (succeeds : items.mapM compute = .ok values) :
    ∀ item ∈ items, ∃ value, compute item = .ok value := by
  induction items generalizing values with
  | nil => exact fun _ absurd => nomatch absurd
  | cons first rest inductionHypothesis =>
      rw [List.mapM_cons] at succeeds
      obtain ⟨value, isFirst, remaining⟩ := bind_eq_ok.mp succeeds
      obtain ⟨others, areRest, -⟩ := bind_eq_ok.mp remaining
      exact List.forall_mem_cons.mpr ⟨⟨value, isFirst⟩, inductionHypothesis areRest⟩

/-- The items before the first that fails have values, and its failure is that of the
traversal. -/
theorem mapM_eq_error
    (fails : ∃ item ∈ items, ∃ failure, compute item = .error failure) :
    ∃ before item after failure,
      items = before ++ item :: after
        ∧ (∀ other ∈ before, ∃ value, compute other = .ok value)
        ∧ compute item = .error failure
        ∧ items.mapM compute = .error failure := by
  induction items with
  | nil => obtain ⟨_, absurd, -⟩ := fails; cases absurd
  | cons first rest inductionHypothesis =>
      cases outcome : compute first with
      | error failure =>
          have noneBefore : ∀ other ∈ ([] : List α), ∃ value, compute other = .ok value :=
            fun _ absurd => nomatch absurd
          refine ⟨[], first, rest, failure, rfl, noneBefore, outcome, ?_⟩
          rw [List.mapM_cons, outcome]
          rfl
      | ok value =>
          have restFails : ∃ item ∈ rest, ∃ failure, compute item = .error failure := by
            obtain ⟨item, member, failure, isFailure⟩ := fails
            rcases List.mem_cons.mp member with rfl | isLater
            · rw [outcome] at isFailure
              cases isFailure
            · exact ⟨item, isLater, failure, isFailure⟩
          obtain ⟨before, item, after, failure, rfl, succeed, isFailure, together⟩ :=
            inductionHypothesis restFails
          refine ⟨first :: before, item, after, failure, rfl,
            List.forall_mem_cons.mpr ⟨⟨value, outcome⟩, succeed⟩, isFailure, ?_⟩
          rw [List.mapM_cons, outcome, together]
          rfl

end ClauseBinding.Outcome

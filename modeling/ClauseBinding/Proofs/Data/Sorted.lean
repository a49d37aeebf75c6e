import Mathlib.Data.List.Basic
import ClauseBinding.Data.Sorted

/-!
Contract: what the stable sort of a list is.

Owns:
- that it has the items of the list, and commutes with a renaming of them;
- for an order in which incomparability is transitive, that no item stands behind one
  it comes before, and that incomparable items keep their order;
- that nothing else has these two properties, hence that what is sorted stays as it is
  and leaving out items and sorting commute;
- that the list it makes does not depend on the order of the items, if no two of them
  are incomparable.

Does not own: any particular order.

Items are numbered to speak of the order they had. The sort is a fold over the items, which
keeps the sorted ones last first; the invariant is about that list.
-/

namespace ClauseBinding

variable {α β : Type} {before : α → α → Bool}

/-! ## Items -/

private theorem insertBehind_perm
    (item : α)
    (items : List α) : (insertBehind before item items).Perm (item :: items) := by
  induction items with
  | nil => exact .refl _
  | cons last others inductionHypothesis =>
      by_cases comes : before item last = true
      · rw [insertBehind, if_pos comes]
        exact (inductionHypothesis.cons last).trans (.swap ..)
      · rw [insertBehind, if_neg comes]

private theorem foldl_insertBehind_perm
    (sorted items : List α) :
    (items.foldl (fun sorted item => insertBehind before item sorted) sorted).Perm
      (items ++ sorted) := by
  induction items generalizing sorted with
  | nil => exact .refl _
  | cons item rest inductionHypothesis =>
      rw [List.foldl_cons]
      have moved : (rest ++ insertBehind before item sorted).Perm (item :: (rest ++ sorted)) :=
        ((insertBehind_perm item sorted).append_left rest).trans List.perm_middle
      exact (inductionHypothesis _).trans moved

theorem sortStable_perm (items : List α) : (sortStable before items).Perm items := by
  have folded := @foldl_insertBehind_perm α before [] items
  rw [List.append_nil] at folded
  exact (List.reverse_perm _).trans folded

private theorem insertBehind_map
    (rename : β → α)
    (item : β)
    (items : List β) :
    insertBehind before (rename item) (items.map rename) =
      (insertBehind (fun left right => before (rename left) (rename right)) item items).map
        rename := by
  induction items with
  | nil => rfl
  | cons last others inductionHypothesis =>
      by_cases comes : before (rename item) (rename last) = true
      · simp [insertBehind, comes, inductionHypothesis]
      · simp [insertBehind, comes]

theorem sortStable_map
    (rename : β → α)
    (items : List β) :
    sortStable before (items.map rename) =
      (sortStable (fun left right => before (rename left) (rename right)) items).map rename := by
  have folds : ∀ sorted : List β,
      (items.map rename).foldl (fun sorted item => insertBehind before item sorted)
          (sorted.map rename) =
        (items.foldl (fun sorted item =>
          insertBehind (fun left right => before (rename left) (rename right)) item sorted)
          sorted).map rename := by
    induction items with
    | nil => exact fun _ => rfl
    | cons item rest inductionHypothesis =>
        intro sorted
        rw [List.map_cons, List.foldl_cons, List.foldl_cons, insertBehind_map,
          inductionHypothesis]
  rw [sortStable, sortStable, List.map_reverse, ← folds []]
  rfl

/-- Only how the items compare with each other matters. -/
theorem sortStable_congr
    {before' : α → α → Bool}
    {items : List α}
    (agree : ∀ left ∈ items, ∀ right ∈ items, before left right = before' left right) :
    sortStable before items = sortStable before' items := by
  rw [← List.attach_map_subtype_val items, sortStable_map, sortStable_map]
  congr 2
  funext left right
  exact agree left.1 left.2 right.1 right.2

/-! ## Order -/

/-- Among some items no two come before each other, and being incomparable or behind
is transitive. -/
structure WeakOrder
    (before : α → α → Bool)
    (among : α → Prop) : Prop where
  asymmetric : ∀ {left right}, among left → among right →
    before left right = true → before right left = false
  transitive : ∀ {first second third}, among first → among second → among third →
    before first second = false → before second third = false → before first third = false

/-- Fewer items are in a weak order too. -/
theorem WeakOrder.mono
    {among fewer : α → Prop}
    (weak : WeakOrder before among)
    (less : ∀ {item}, fewer item → among item) : WeakOrder before fewer :=
  ⟨fun left right => weak.asymmetric (less left) (less right),
    fun first second third => weak.transitive (less first) (less second) (less third)⟩

/-- A numbered item may stand behind another: it does not come before it, and if neither
comes before the other it has the greater number. -/
def StandsBehind
    (before : α → α → Bool)
    (earlier later : α × Nat) : Prop :=
  before later.1 earlier.1 = false ∧
    (before earlier.1 later.1 = false → earlier.2 < later.2)

variable {among : α → Prop}

/-- One step keeps the sorted items sorted. They are given last first. -/
theorem insertBehind_sorted
    (weak : WeakOrder before among)
    {item : α × Nat}
    {sorted : List (α × Nat)}
    (isAmong : among item.1)
    (areAmong : ∀ old ∈ sorted, among old.1)
    (newer : ∀ old ∈ sorted, old.2 < item.2)
    (isSorted : sorted.Pairwise fun later earlier => StandsBehind before earlier later) :
    (insertBehind (fun left right => before left.1 right.1) item sorted).Pairwise
      fun later earlier => StandsBehind before earlier later := by
  induction sorted with
  | nil => exact List.pairwise_singleton _ _
  | cons last others inductionHypothesis =>
      obtain ⟨lastAmong, othersAmong⟩ := List.forall_mem_cons.mp areAmong
      obtain ⟨newerThanLast, newerThanOthers⟩ := List.forall_mem_cons.mp newer
      obtain ⟨behindOthers, othersSorted⟩ := List.pairwise_cons.mp isSorted
      by_cases comes : before item.1 last.1 = true
      · rw [insertBehind, if_pos comes]
        refine List.pairwise_cons.mpr
          ⟨?_, inductionHypothesis othersAmong newerThanOthers othersSorted⟩
        intro earlier member
        rcases List.mem_cons.mp ((insertBehind_perm item others).mem_iff.mp member) with
          rfl | isOther
        · refine ⟨weak.asymmetric isAmong lastAmong comes, ?_⟩
          intro notBefore
          rw [comes] at notBefore
          cases notBefore
        · exact behindOthers earlier isOther
      · have behindLast : before item.1 last.1 = false := by simpa using comes
        rw [insertBehind, if_neg comes]
        refine List.pairwise_cons.mpr ⟨?_, isSorted⟩
        intro earlier member
        refine ⟨?_, fun _ => newer earlier member⟩
        rcases List.mem_cons.mp member with rfl | isOther
        · exact behindLast
        · exact weak.transitive isAmong lastAmong (othersAmong earlier isOther) behindLast
            (behindOthers earlier isOther).1

private theorem foldl_insertBehind_sorted
    (weak : WeakOrder before among)
    {sorted items : List (α × Nat)}
    (sortedAmong : ∀ old ∈ sorted, among old.1)
    (itemsAmong : ∀ item ∈ items, among item.1)
    (newer : ∀ old ∈ sorted, ∀ item ∈ items, old.2 < item.2)
    (numbered : items.Pairwise fun earlier later => earlier.2 < later.2)
    (isSorted : sorted.Pairwise fun later earlier => StandsBehind before earlier later) :
    (items.foldl (fun sorted item =>
        insertBehind (fun left right => before left.1 right.1) item sorted) sorted).Pairwise
      fun later earlier => StandsBehind before earlier later := by
  induction items generalizing sorted with
  | nil => exact isSorted
  | cons item rest inductionHypothesis =>
      obtain ⟨isAmong, restAmong⟩ := List.forall_mem_cons.mp itemsAmong
      obtain ⟨itemFirst, restNumbered⟩ := List.pairwise_cons.mp numbered
      have members : ∀ old,
          old ∈ insertBehind (fun left right => before left.1 right.1) item sorted →
            old = item ∨ old ∈ sorted :=
        fun old member => List.mem_cons.mp ((insertBehind_perm item sorted).mem_iff.mp member)
      apply inductionHypothesis
      · intro old member
        rcases members old member with rfl | isOld
        · exact isAmong
        · exact sortedAmong old isOld
      · exact restAmong
      · intro old member new isNew
        rcases members old member with rfl | isOld
        · exact itemFirst new isNew
        · exact newer old isOld new (List.mem_cons_of_mem _ isNew)
      · exact restNumbered
      · exact insertBehind_sorted weak isAmong sortedAmong
          (fun old isOld => newer old isOld item List.mem_cons_self) isSorted

/-- Numbered items are sorted so that each stands behind those before it. -/
theorem sortStable_numbered
    {numbered : List (α × Nat)}
    (weak : WeakOrder before (· ∈ numbered.map Prod.fst))
    (increasing : numbered.Pairwise fun earlier later => earlier.2 < later.2) :
    (sortStable (fun left right => before left.1 right.1) numbered).Pairwise
      (StandsBehind before) := by
  rw [sortStable, List.pairwise_reverse]
  exact foldl_insertBehind_sorted weak (fun _ absurd => nomatch absurd)
    (fun _ member => List.mem_map_of_mem member) (fun _ absurd => nomatch absurd) increasing .nil

private theorem zipIdx_increasing (items : List α) :
    items.zipIdx.Pairwise fun earlier later => earlier.2 < later.2 := by
  rw [← List.pairwise_map (f := Prod.snd) (R := (· < ·)), List.zipIdx_map_snd]
  exact List.pairwise_lt_range'

/-- The stable sort of a list: its items, numbered, so that each stands behind those
before it. -/
theorem sortStable_stable
    {items : List α}
    (weak : WeakOrder before (· ∈ items)) :
    ∃ order : List (α × Nat),
      order.Perm items.zipIdx
        ∧ order.map Prod.fst = sortStable before items
        ∧ order.Pairwise (StandsBehind before) := by
  refine ⟨sortStable (fun left right => before left.1 right.1) items.zipIdx,
    sortStable_perm _, ?_, sortStable_numbered ?_ (zipIdx_increasing items)⟩
  · rw [← sortStable_map, List.zipIdx_map_fst]
  · rw [List.zipIdx_map_fst]
    exact weak

/-- There is one way to put numbered items so that each stands behind those before it,
as no two items may stand behind each other. -/
theorem sortStable_unique
    {numbered order : List (α × Nat)}
    (weak : WeakOrder before (· ∈ numbered.map Prod.fst))
    (increasing : numbered.Pairwise fun earlier later => earlier.2 < later.2)
    (same : order.Perm numbered)
    (stable : order.Pairwise (StandsBehind before)) :
    order.map Prod.fst = sortStable before (numbered.map Prod.fst) := by
  have unique : order = sortStable (fun left right => before left.1 right.1) numbered := by
    refine List.Perm.eq_of_pairwise ?_ stable (sortStable_numbered weak increasing)
      (same.trans (sortStable_perm numbered).symm)
    intro left right _ _ rightBehind leftBehind
    have rightGreater := rightBehind.2 leftBehind.1
    have leftGreater := leftBehind.2 rightBehind.1
    omega
  rw [unique, sortStable_map]

theorem sortStable_sorted
    {items : List α}
    (weak : WeakOrder before (· ∈ items)) :
    (sortStable before items).Pairwise fun earlier later => before later earlier = false := by
  obtain ⟨order, -, isSort, stable⟩ := sortStable_stable weak
  rw [← isSort, List.pairwise_map]
  exact stable.imp fun behind => behind.1

/-- A list in which no item comes before an earlier one is sorted already. -/
theorem sortStable_of_sorted
    {items : List α}
    (weak : WeakOrder before (· ∈ items))
    (isSorted : items.Pairwise fun earlier later => before later earlier = false) :
    sortStable before items = items := by
  have numberedSorted : items.zipIdx.Pairwise fun earlier later =>
      before later.1 earlier.1 = false := by
    rw [← List.pairwise_map (f := Prod.fst) (R := fun earlier later => before later earlier = false),
      List.zipIdx_map_fst]
    exact isSorted
  have stable : items.zipIdx.Pairwise (StandsBehind before) :=
    (numberedSorted.and (zipIdx_increasing items)).imp fun behind => ⟨behind.1, fun _ => behind.2⟩
  have unique := @sortStable_unique α before items.zipIdx items.zipIdx
  rw [List.zipIdx_map_fst] at unique
  exact (unique weak (zipIdx_increasing items) (.refl _) stable).symm

/-- Leaving out items and sorting commute, incomparable items included. -/
theorem sortStable_filter
    {items : List α}
    (weak : WeakOrder before (· ∈ items))
    (keep : α → Bool) :
    sortStable before (items.filter keep) = (sortStable before items).filter keep := by
  obtain ⟨order, same, isSort, stable⟩ := sortStable_stable weak
  have kept : (items.zipIdx.filter (keep ∘ Prod.fst)).map Prod.fst = items.filter keep := by
    rw [← List.filter_map, List.zipIdx_map_fst]
  have keptWeak : WeakOrder before (· ∈ (items.zipIdx.filter (keep ∘ Prod.fst)).map Prod.fst) := by
    rw [kept]
    exact weak.mono fun member => List.mem_of_mem_filter member
  have unique := sortStable_unique keptWeak ((zipIdx_increasing items).filter _) (same.filter _)
    (stable.filter _)
  rw [← kept, ← unique, ← List.filter_map, isSort]

/-- If no two items are incomparable, there is one way to sort them. -/
theorem sortStable_eq_of_perm
    {items others : List α}
    (weak : WeakOrder before (· ∈ items))
    (strict : ∀ left ∈ items, ∀ right ∈ items,
      before left right = false → before right left = false → left = right)
    (same : others.Perm items) : sortStable before others = sortStable before items := by
  have othersAmong : ∀ {item}, item ∈ others → item ∈ items := same.mem_iff.mp
  have othersWeak : WeakOrder before (· ∈ others) := weak.mono othersAmong
  have sortedPerm : (sortStable before others).Perm (sortStable before items) :=
    (sortStable_perm others).trans (same.trans (sortStable_perm items).symm)
  refine List.Perm.eq_of_pairwise ?_ (sortStable_sorted othersWeak) (sortStable_sorted weak)
    sortedPerm
  intro left right leftMember rightMember notAfter notBefore
  have leftItem : left ∈ items := othersAmong ((sortStable_perm others).mem_iff.mp leftMember)
  have rightItem : right ∈ items := (sortStable_perm items).mem_iff.mp rightMember
  exact strict left leftItem right rightItem notBefore notAfter

end ClauseBinding

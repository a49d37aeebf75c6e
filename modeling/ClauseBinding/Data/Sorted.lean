/-!
Contract: the stable sort of a list.

Owns: insertion behind the items that do not come after, and the sort made of it.

Does not own: any particular order.
-/

namespace ClauseBinding

variable {α : Type}

/-- Put an item behind the last of some items, given last first, that it does
not come before. -/
def insertBehind
    (before : α → α → Bool)
    (item : α) : List α → List α
  | [] => [item]
  | last :: others =>
      if before item last then last :: insertBehind before item others
      else item :: last :: others

/-- Sort by insertion; items of which neither comes before the other keep their order. -/
def sortStable
    (before : α → α → Bool)
    (items : List α) : List α :=
  (items.foldl (fun sorted item => insertBehind before item sorted) []).reverse

end ClauseBinding

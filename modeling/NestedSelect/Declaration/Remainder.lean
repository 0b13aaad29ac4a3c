/-!
What is left behind something that has been read from the front of a list. Whoever reads an item
leaves less than there was, and so reading on and on comes to an end.
-/

namespace NestedSelect.Declaration

/-- What is left behind something that is not empty. -/
abbrev Shorter {α : Type} (items : List α) := { rest : List α // rest.length < items.length }

variable {α : Type} {inner items : List α}

namespace Shorter

/-- The rest behind the first item. -/
def tail (first : α) (rest : List α) : Shorter (first :: rest) :=
  ⟨rest, Nat.lt_succ_self _⟩

/-- The rest behind the first two items. -/
def tail₂ (first second : α) (rest : List α) : Shorter (first :: second :: rest) :=
  ⟨rest, Nat.lt_succ_of_lt (Nat.lt_succ_self _)⟩

/-- What is left of a rest is a rest of the whole. -/
def behind (rest : Shorter inner) (h : inner.length < items.length) : Shorter items :=
  ⟨rest.1, Nat.lt_trans rest.2 h⟩

end Shorter

/-- Dropping items from the front leaves no more of them. -/
theorem length_dropWhile_le (p : α → Bool) (items : List α)
    : (items.dropWhile p).length ≤ items.length :=
  (List.dropWhile_sublist p).length_le

end NestedSelect.Declaration

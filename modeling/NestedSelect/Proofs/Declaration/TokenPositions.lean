import NestedSelect.Declaration.Lexer
/-!
Positions of the tokens of a text. Tokens stand in the order of their positions, and only those of
one documentation comment share theirs. So whatever stands inside of braces has a position behind
the start of the text.
-/

namespace NestedSelect.Declaration

namespace Position

/-- The first position is in an earlier line than the second one, or further left in the same line.
-/
def Before (first second : Position) : Prop :=
  first.line < second.line ∨ first.line = second.line ∧ first.column < second.column

variable {first second third : Position}

theorem Before.trans (left : first.Before second) (right : second.Before third)
    : first.Before third := by
  unfold Before at *
  omega

theorem Before.irrefl : ¬ first.Before first := by
  unfold Before
  omega

theorem before_next (position : Position) (c : Char) : position.Before (position.next c) := by
  unfold next
  split
  · exact .inl (Nat.lt_succ_self _)
  · exact .inr ⟨rfl, Nat.lt_succ_self _⟩

theorem before_after (position : Position) (c : Char) (text : List Char)
    : position.Before (position.after (c :: text)) := by
  induction text generalizing position c with
  | nil => exact position.before_next c
  | cons next text ih => exact (position.before_next c).trans (ih (position.next c) next)

end Position

/-- A token stands at a position or behind it. -/
def Token.StandsFrom (position : Position) (token : Token) : Prop :=
  token.position = position ∨ position.Before token.position

theorem Token.StandsFrom.later {first second : Position} {token : Token}
    (stands : token.StandsFrom second) (before : first.Before second)
    : first.Before token.position := by
  rcases stands with same | behind
  · exact same ▸ before
  · exact before.trans behind

/-- All tokens of a documentation comment have its position, and none of them is a brace. -/
theorem documentationTokens_placed (inner : Bool) (comment : String) (position : Position)
    : ∀ token ∈ documentationTokens inner comment position,
        token.position = position ∧ token.kind ≠ .opening .brace := by
  cases inner <;> simp [documentationTokens]

/-- Tokens stand in the order of a text, at a position or behind it. What follows an opening brace
stands behind it.
-/
structure InOrder (position : Position) (tokens : List Token) : Prop where
  stand : ∀ token ∈ tokens, token.StandsFrom position
  braces
    : tokens.Pairwise fun first second =>
        first.kind = .opening .brace → first.position.Before second.position

/-- The tokens of a text stand in its order. By induction over the text. -/
theorem tokensFrom_inOrder {isOpen : List Delimiter} {position : Position} {text : List Char}
    {tokens : List Token} (read : tokensFrom isOpen position text = some tokens)
    : InOrder position tokens := by
  have moves (position : Position) {c : Char} {tail rest : List Char}
      (shorter : rest.length < (c :: tail).length)
      : position.Before (position.after ((c :: tail).take (tail.length + 1 - rest.length))) := by
    obtain ⟨count, taken⟩ := Nat.exists_eq_add_of_lt shorter
    have some : tail.length + 1 - rest.length = count + 1 := by
      rw [List.length_cons] at taken
      omega
    rw [some]
    exact position.before_after c _
  fun_induction tokensFrom isOpen position text generalizing tokens
  case case1 =>
    obtain rfl := Option.some.inj read
    exact ⟨nofun, .nil⟩
  case case4 isOpen position c tail rest shorter _ _ _ ih =>
    have inside := ih read
    exact ⟨fun token member => .inr ((inside.stand token member).later (moves position shorter)),
      inside.braces⟩
  case case5 isOpen position c tail rest shorter _ _ inner comment _ ih =>
    obtain ⟨later, found, rfl⟩ := Option.map_eq_some_iff.mp read
    have inside := ih found
    have document := documentationTokens_placed inner (String.ofList comment) position
    refine ⟨fun token member => ?_, List.pairwise_append.mpr ⟨?_, inside.braces, ?_⟩⟩
    · rcases List.mem_append.mp member with own | behind
      · exact .inl (document token own).1
      · exact .inr ((inside.stand token behind).later (moves position shorter))
    · refine List.pairwise_of_forall_mem_list fun first member second _ brace => ?_
      exact absurd brace (document first member).2
    · intro first member second _ brace
      exact absurd brace (document first member).2
  case case7 isOpen position c tail rest shorter _ _ kind _ _ _ ih =>
    obtain ⟨later, found, rfl⟩ := Option.map_eq_some_iff.mp read
    have inside := ih found
    have behind (token : Token) (member : token ∈ later) : position.Before token.position :=
      (inside.stand token member).later (moves position shorter)
    refine ⟨fun token member => ?_, .cons (fun token member _ => behind token member) inside.braces⟩
    rcases List.mem_cons.mp member with rfl | later
    · exact .inl rfl
    · exact .inr (behind token later)
  all_goals cases read

/-- Whatever stands behind an opening brace stands behind the start of the text. -/
theorem before_of_opening_brace {text : String} {front inside : List Token} {opening : Token}
    (read : tokens text = some (front ++ opening :: inside))
    (brace : opening.kind = .opening .brace)
    : ∀ token ∈ inside, Position.start.Before token.position := by
  have inOrder
      : ∃ position,
          (position = .start ∨ Position.start.Before position)
          ∧ InOrder position (front ++ opening :: inside) := by
    unfold tokens at read
    split at read
    · exact ⟨_, .inr (Position.start.before_next _), tokensFrom_inOrder read⟩
    · exact ⟨_, .inl rfl, tokensFrom_inOrder read⟩
  obtain ⟨position, starts, stand, braces⟩ := inOrder
  intro token member
  have after := (List.pairwise_append.mp braces).2.1
  have behind := (List.pairwise_cons.mp after).1 token member brace
  have placed := stand opening (by simp)
  rcases starts with rfl | later
  · rcases placed with same | further
    · exact same ▸ behind
    · exact further.trans behind
  · exact (placed.later later).trans behind

end NestedSelect.Declaration

import NestedSelect.Proofs.Statement.Outline
import NestedSelect.Proofs.Text.QuotedReading
/-!
What a provider can tell from its condition. The names in a condition can be read back from it,
whatever they are, so the condition of a many-relation tells under which alias it is used and by
which keys it is tied to which parent. All other relations are asked about the empty condition.
-/

namespace NestedSelect

-----------------------------------------------------------------------------------------
-- Conditions read back
-----------------------------------------------------------------------------------------

/-- The alias and the correlation that a text is the condition of. -/
def readCondition? (text : String) : Option (String × Correlation) := do
  let ((aliasName, foreignKey), rest) ← readColumn? text.toList
  let ((parentAlias, referencedKey), rest) ← readColumn? (← [' ', '=', ' '].isPrefixOf? rest)
  if rest = [] then some (aliasName, ⟨parentAlias, foreignKey, referencedKey⟩) else none

/-- A text is read as a condition exactly if it is the one of the alias and the correlation. -/
theorem readCondition?_eq_some_iff (text aliasName : String) (correlation : Correlation)
    : readCondition? text = some (aliasName, correlation)
        ↔ text = Correlation.conditionText aliasName (some correlation) := by
  have characters
      : (Correlation.conditionText aliasName (some correlation)).toList
          = (quoteColumn aliasName correlation.foreignKey).toList
            ++ ([' ', '=', ' ']
              ++ (quoteColumn correlation.parentAlias correlation.referencedKey).toList) := by
    simp [Correlation.conditionText, String.toList_append]
  rw [← String.toList_inj, characters]
  simp only [readCondition?, Option.bind_eq_bind, Option.bind_eq_some_iff,
    List.isPrefixOf?_eq_some_iff_append_eq, readColumn?_eq_some_iff, Prod.exists,
    Option.ite_none_right_eq_some, Option.some.injEq, Prod.mk.injEq]
  constructor
  · rintro ⟨_, _, _, ⟨first, _⟩, behind, equals, _, _, _, ⟨second, _⟩, rfl, rfl, rfl⟩
    rw [first, ← equals, second, List.append_nil]
  · intro written
    exact ⟨_, _, _, ⟨written, by simp⟩, _, rfl, _, _, [], ⟨(List.append_nil _).symm, by simp⟩, rfl,
      rfl, rfl⟩

/-- The condition of a relation that is tied to its parent is read as this tie. -/
theorem readCondition?_conditionText (aliasName : String) (correlation : Option Correlation)
    : readCondition? (Correlation.conditionText aliasName correlation)
        = correlation.map (aliasName, ·) := by
  cases correlation with
  | none => rfl
  | some correlation => exact (readCondition?_eq_some_iff _ _ _).mpr rfl

/-- A condition decides the alias and the correlation. -/
theorem conditionText_inj (aliasName otherAlias : String) (correlation other : Correlation)
    : Correlation.conditionText aliasName (some correlation)
          = Correlation.conditionText otherAlias (some other)
        ↔ aliasName = otherAlias ∧ correlation = other := by
  rw [← readCondition?_eq_some_iff, readCondition?_conditionText]
  simp

-----------------------------------------------------------------------------------------
-- Ties of a relation tree
-----------------------------------------------------------------------------------------

/-- The tie of a use with a provider: its alias and what correlates it, if anything does. -/
def TableUse.ties (use : TableUse) (correlation : Option Correlation)
    : List (Option (String × Correlation)) :=
  match use.spec.subquery with
  | none => []
  | some _ => [correlation.map (use.aliasName, ·)]

namespace Relation

mutual

/-- The ties of the relations with a provider, in pre-order. Only a many-relation is correlated. -/
def ties (correlation : Option Correlation) : Relation → List (Option (String × Correlation))
  | ⟨use, one, many⟩ =>
    use.ties correlation ++ tiesOfOne one ++ tiesOfMany use.aliasName many

/-- The ties of one-relations and of all relations below them. -/
def tiesOfOne : List (Joined Relation) → List (Option (String × Correlation))
  | [] => []
  | ⟨_, relation⟩ :: rest => relation.ties none ++ tiesOfOne rest

/-- The ties of many-relations and of all relations below them. -/
def tiesOfMany (parent : String) : List (Joined Relation) → List (Option (String × Correlation))
  | [] => []
  | ⟨keys, relation⟩ :: rest =>
    relation.ties (some ⟨parent, keys.foreignKey, keys.referencedKey⟩) ++ tiesOfMany parent rest

end

end Relation

/-- The tie of an inquiry, as its condition tells it. -/
def Inquiry.tie (inquiry : Inquiry) : Option (String × Correlation) :=
  readCondition? inquiry.condition

theorem TableUse.map_tie_inquiries (use : TableUse) (correlation : Option Correlation)
    : (use.inquiries (Correlation.conditionText use.aliasName correlation)).map Inquiry.tie
        = use.ties correlation := by
  unfold inquiries ties
  cases use.spec.subquery with
  | none => rfl
  | some provider => simp [Inquiry.tie, readCondition?_conditionText]

namespace Relation

mutual

/-- The conditions of all inquiries tell the ties of the relations that are asked. By induction over
the relation tree.
-/
theorem map_tie_inquiries (correlation : Option Correlation) (relation : Relation)
    : (relation.inquiries (Correlation.conditionText relation.use.aliasName correlation)).map
          Inquiry.tie
        = relation.ties correlation := by
  match relation with
  | ⟨use, one, many⟩ =>
      simp only [inquiries, ties, List.map_append, use.map_tie_inquiries correlation,
        map_tie_inquiriesOfOne one, map_tie_inquiriesOfMany use.aliasName many]

theorem map_tie_inquiriesOfOne (joins : List (Joined Relation))
    : (inquiriesOfOne joins).map Inquiry.tie = tiesOfOne joins := by
  match joins with
  | [] => rfl
  | ⟨_, relation⟩ :: rest =>
      have first := map_tie_inquiries none relation
      rw [inquiriesOfOne, tiesOfOne, List.map_append, map_tie_inquiriesOfOne rest, ← first]
      rfl

theorem map_tie_inquiriesOfMany (parent : String) (joins : List (Joined Relation))
    : (inquiriesOfMany parent joins).map Inquiry.tie = tiesOfMany parent joins := by
  match joins with
  | [] => rfl
  | ⟨keys, relation⟩ :: rest =>
      have first :=
        map_tie_inquiries (some ⟨parent, keys.foreignKey, keys.referencedKey⟩) relation
      rw [inquiriesOfMany, tiesOfMany, List.map_append, map_tie_inquiriesOfMany parent rest,
        ← first]
      rfl

end

end Relation

/-- The statement of a relation tree is written by inquiries whose conditions tell the ties. -/
theorem Relation.map_tie_outline (options : RenderOptions) (relation : Relation)
    : (relation.outline options none).inquiries.map Inquiry.tie = relation.ties none := by
  rw [relation.inquiries_outline options none, relation.map_tie_inquiries none]

/-- A quoted name or literal is read back as it is, with exactly what follows it, whatever
characters it has. So a qualified column decides its two names, and a condition its alias, its
foreign key, and the alias and the key of the parent. Every statement is written by inquiries, and
the conditions of these tell all that of each many-relation with a provider, in pre-order, and
nothing of any other relation. So many-relations that differ in any of it are never asked about the
same condition.
-/
theorem quoted_names_decode_uniquely
    : (∀ text rest name,
          readIdentifier? text = some (name, rest)
          ↔ text = (quoteIdentifier name).toList ++ rest ∧ rest.head? ≠ some '"')
      ∧ (∀ text rest content,
          readLiteral? text = some (content, rest)
          ↔ text = (quoteLiteral content).toList ++ rest ∧ rest.head? ≠ some '\'')
      ∧ (∀ qualifier column otherQualifier otherColumn,
          quoteColumn qualifier column = quoteColumn otherQualifier otherColumn
          ↔ qualifier = otherQualifier ∧ column = otherColumn)
      ∧ (∀ aliasName otherAlias correlation other,
          Correlation.conditionText aliasName (some correlation)
            = Correlation.conditionText otherAlias (some other)
          ↔ aliasName = otherAlias ∧ correlation = other)
      ∧ ∀ options (relation : Relation),
          relation.select options none = (relation.outline options none).writing
          ∧ (relation.outline options none).inquiries.map Inquiry.tie = relation.ties none :=
  ⟨readIdentifier?_eq_some_iff, readLiteral?_eq_some_iff, quoteColumn_inj, conditionText_inj,
    fun options relation =>
      ⟨relation.select_eq_writing options none, relation.map_tie_outline options⟩⟩

end NestedSelect

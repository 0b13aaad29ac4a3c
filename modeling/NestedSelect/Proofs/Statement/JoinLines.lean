import NestedSelect.Proofs.Relation.TreeCorrespondence
import NestedSelect.Proofs.Statement.LayoutInvariance
/-!
The lines of joins. Every child in a relation tree is joined by lines of its own, which stand in a
row in the statement of the tree. A child that its parent references is joined on a single line, and
a child that references its parent by a nested select that is grouped by the referencing column.
-/

namespace NestedSelect

-----------------------------------------------------------------------------------------
-- Statements of lines
-----------------------------------------------------------------------------------------

/-- Some lines as text, with a break between any two of them that leads to the depth of the second.
-/
def Line.write (layout : Layout) (lines : List Line) (texts : List String) : String :=
  String.join
    (weave (Line.chunks lines texts) (((lines.drop 1).map Line.depth).map layout.lineBreak))

/-- Whatever is rendered from a relation tree are its lines. -/
theorem Relation.render_eq_lines {relation : Relation} {options : RenderOptions}
    {rendered : Rendered} (success : relation.render options = .ok rendered)
    : ∃ texts,
        rendered.sql
          = Line.write options.layout (relation.lines options.sequenceColumn [] none) texts := by
  obtain ⟨fragments, texts, _, _, rfl⟩ := (renderAfter_eq_ok_iff _ _ _ _).mp success
  exact ⟨texts, write_outline options.layout options.sequenceColumn relation texts⟩

-----------------------------------------------------------------------------------------
-- Sources
-----------------------------------------------------------------------------------------

/-- A column and the alias of the table use that it is read from. -/
structure QualifiedColumn where
  aliasName : String
  column : String

namespace QualifiedColumn

/-- The alias and the column with a dot between them. -/
def spelled (column : QualifiedColumn) : Draft :=
  [.identifier column.aliasName, .text ".", .identifier column.column]

/-- Two columns with an equals sign between them. -/
def equated (first second : QualifiedColumn) : Draft :=
  first.spelled ++ [.text " = "] ++ second.spelled

/-- Two equated columns as text. -/
def equatedText (first second : QualifiedColumn) : String :=
  quoteIdentifier first.aliasName ++ "." ++ quoteIdentifier first.column ++ " = "
    ++ (quoteIdentifier second.aliasName ++ "." ++ quoteIdentifier second.column)

theorem spelled_eq (qualifier name : String)
    : spelled ⟨qualifier, name⟩ = Draft.column qualifier name := rfl

end QualifiedColumn

namespace TableUse

variable (sequenceColumn : String) (use : TableUse)

/-- All rows of a use: a scan of the table without a condition, or what the provider answers when it
is given no condition.
-/
def allRows : Outline :=
  match use.spec.subquery with
  | none =>
    .ofDraft
      [.text "(", .text "select *, row_number() over () as ", .identifier sequenceColumn,
        .text " from ", .identifier use.table, .text ") as ", .identifier use.aliasName]
  | some provider =>
    Outline.ofDraft [.text "("] ++ [.inquiry ⟨use.path, provider, ""⟩]
      ++ .ofDraft [.text ") as ", .identifier use.aliasName]

/-- The rows of a use in which two columns agree: a scan of the table on that condition, or what the
provider answers to it.
-/
def rowsWhere (first second : QualifiedColumn) : Outline :=
  match use.spec.subquery with
  | none =>
    .ofDraft
      ([.text "(", .text "select *, row_number() over () as ", .identifier sequenceColumn,
          .text " from ", .identifier use.table, .text " as ", .identifier use.aliasName,
          .text " where "]
        ++ first.equated second ++ [.text ") as ", .identifier use.aliasName])
  | some provider =>
    Outline.ofDraft [.text "("] ++ [.inquiry ⟨use.path, provider, first.equatedText second⟩]
      ++ .ofDraft [.text ") as ", .identifier use.aliasName]

theorem sourceOutline_none
    : use.sourceOutline { sequenceColumn } none = use.allRows sequenceColumn := by
  unfold sourceOutline rowsOutline allRows
  cases use.spec.subquery <;> rfl

theorem sourceOutline_some (correlation : Correlation)
    : use.sourceOutline { sequenceColumn } (some correlation)
        = use.rowsWhere sequenceColumn ⟨use.aliasName, correlation.foreignKey⟩
            ⟨correlation.parentAlias, correlation.referencedKey⟩ := by
  unfold sourceOutline rowsOutline rowsWhere
  cases use.spec.subquery with
  | none =>
      simp [Outline.ofDraft, scan, Correlation.condition, QualifiedColumn.equated,
        QualifiedColumn.spelled_eq]
  | some provider => rfl

end TableUse

-----------------------------------------------------------------------------------------
-- Joins in a row
-----------------------------------------------------------------------------------------

namespace Relation

variable (sequenceColumn : String)

/-- The lines that join all children of a relation. -/
def linesOfJoins (within : List TableUse) (relation : Relation) : List Line :=
  linesOfOne sequenceColumn within relation.use.aliasName relation.one
    ++ linesOfMany sequenceColumn within relation.use.aliasName relation.many

/-- The line that joins a child with one row on two equated columns, and the joins of its own
children behind it. All rows of the child are joined, and nothing is grouped.
-/
def joinOfOne (within : List TableUse) (child : Relation) (first second : QualifiedColumn)
    : List Line :=
  ⟨within, false,
      .ofDraft [.text child.use.spec.joinType.sql, .text " lateral "]
        ++ child.use.allRows sequenceColumn
        ++ .ofDraft (.text " on " :: first.equated second)⟩
    :: child.linesOfJoins sequenceColumn within

/-- The lines that join a child with many rows on two equated columns. Inside of parentheses there
is a select over the rows in which the columns agree. The first column is its first item, and the
last line groups by it.
-/
def joinOfMany (within : List TableUse) (child : Relation) (first second : QualifiedColumn)
    : List Line :=
  let inside := child.use :: within
  let key := first.spelled
  [⟨within, false, .ofDraft [.text child.use.spec.joinType.sql, .text " lateral ", .text "("]⟩,
    ⟨inside, false, .ofDraft [.text "select"]⟩,
    ⟨inside, true, .ofDraft (key ++ [.text ","])⟩,
    ⟨inside, true, .ofDraft (child.aggregate { sequenceColumn })⟩,
    ⟨inside, false,
      .ofDraft [.text "from "] ++ child.use.rowsWhere sequenceColumn first second⟩]
    ++ child.linesOfJoins sequenceColumn inside
    ++ [⟨inside, false, .ofDraft (.text "group by " :: key)⟩,
      ⟨within, false,
        .ofDraft
          ([.text ") ", .identifier child.use.aliasName, .text " on "] ++ first.equated second)⟩]

/-- The lines that join a child to a parent. -/
def linesOfJoin (within : List TableUse) (parent : String)
    : RelationKind × Joined Relation → List Line
  | (.one, ⟨keys, child⟩) =>
    child.joinOfOne sequenceColumn within ⟨child.use.aliasName, keys.referencedKey⟩
      ⟨parent, keys.foreignKey⟩
  | (.many, ⟨keys, child⟩) =>
    child.joinOfMany sequenceColumn within ⟨child.use.aliasName, keys.foreignKey⟩
      ⟨parent, keys.referencedKey⟩

theorem linesOfOne_eq_flatMap (within : List TableUse) (parent : String)
    (joins : List (Joined Relation))
    : linesOfOne sequenceColumn within parent joins
        = joins.flatMap fun joined => linesOfJoin sequenceColumn within parent (.one, joined) := by
  induction joins with
  | nil => rfl
  | cons joined rest ih =>
      obtain ⟨keys, use, one, many⟩ := joined
      rw [List.flatMap_cons, ← ih]
      simp [linesOfOne, linesOfJoin, joinOfOne, linesOfJoins, TableUse.sourceOutline_none,
        onClause, QualifiedColumn.equated, QualifiedColumn.spelled_eq]

theorem linesOfMany_eq_flatMap (within : List TableUse) (parent : String)
    (joins : List (Joined Relation))
    : linesOfMany sequenceColumn within parent joins
        = joins.flatMap fun joined => linesOfJoin sequenceColumn within parent (.many, joined) := by
  induction joins with
  | nil => rfl
  | cons joined rest ih =>
      obtain ⟨keys, use, one, many⟩ := joined
      rw [List.flatMap_cons, ← ih]
      simp [linesOfMany, linesOfJoin, joinOfMany, linesOfJoins, lines, itemLines, groupingLines,
        TableUse.sourceOutline_some, onClause, QualifiedColumn.equated, QualifiedColumn.spelled_eq]

/-- The joins of a relation are those of its children, one after another. -/
theorem linesOfJoins_eq_flatMap (within : List TableUse) (relation : Relation)
    : relation.linesOfJoins sequenceColumn within
        = relation.children.flatMap (linesOfJoin sequenceColumn within relation.use.aliasName) := by
  rw [linesOfJoins, linesOfOne_eq_flatMap, linesOfMany_eq_flatMap, children, List.flatMap_append,
    List.flatMap_map, List.flatMap_map]

theorem linesOfJoin_infix_linesOfJoins (within : List TableUse) {relation : Relation}
    {join : RelationKind × Joined Relation} (member : join ∈ relation.children)
    : linesOfJoin sequenceColumn within relation.use.aliasName join
        <:+: relation.linesOfJoins sequenceColumn within := by
  rw [linesOfJoins_eq_flatMap, List.flatMap_def]
  exact List.infix_of_mem_flatten (List.mem_map_of_mem member)

/-- The joins below a child stand among the lines that join the child. -/
theorem linesOfJoins_infix_linesOfJoin (within : List TableUse) (parent : String)
    (join : RelationKind × Joined Relation)
    : ∃ inside,
        join.2.relation.linesOfJoins sequenceColumn inside
          <:+: linesOfJoin sequenceColumn within parent join := by
  obtain ⟨kind, keys, child⟩ := join
  cases kind with
  | one => exact ⟨within, (List.suffix_cons _ _).isInfix⟩
  | many => exact ⟨child.use :: within, List.infix_append _ _ _⟩

/-- The joins of every relation in a tree stand among those of the root, by induction over the
address of the relation.
-/
theorem linesOfJoins_infix_of_at? (within : List TableUse) {relation standing : Relation}
    {address : Address} (there : relation.at? address = some standing)
    : ∃ inside,
        standing.linesOfJoins sequenceColumn inside
          <:+: relation.linesOfJoins sequenceColumn within := by
  induction address generalizing relation within with
  | nil =>
      obtain rfl := Option.some.inj there
      exact ⟨within, List.infix_rfl⟩
  | cons index rest ih =>
      obtain ⟨join, child, below⟩ := Option.bind_eq_some_iff.mp there
      obtain ⟨around, joined⟩ :=
        linesOfJoins_infix_linesOfJoin sequenceColumn within relation.use.aliasName join
      obtain ⟨inside, deeper⟩ := ih around below
      have own := linesOfJoin_infix_linesOfJoins sequenceColumn within (List.mem_of_getElem? child)
      exact ⟨inside, deeper.trans (joined.trans own)⟩

/-- The joins of a relation stand among the lines of the select over it. -/
theorem linesOfJoins_infix_lines (relation : Relation)
    : relation.linesOfJoins sequenceColumn [] <:+: relation.lines sequenceColumn [] none := by
  obtain ⟨use, one, many⟩ := relation
  rw [lines, groupingLines, List.append_nil, List.append_assoc]
  exact (List.suffix_append _ _).isInfix

/-- Every child in a tree has its lines in the statement of the tree. -/
theorem linesOfJoin_infix_lines {relation parent : Relation} {address : Address}
    (there : relation.at? address = some parent) {join : RelationKind × Joined Relation}
    (member : join ∈ parent.children)
    : ∃ within,
        linesOfJoin sequenceColumn within parent.use.aliasName join
          <:+: relation.lines sequenceColumn [] none := by
  obtain ⟨within, standing⟩ := linesOfJoins_infix_of_at? sequenceColumn [] there
  have own := linesOfJoin_infix_linesOfJoins sequenceColumn within member
  exact ⟨within, own.trans (standing.trans (linesOfJoins_infix_lines sequenceColumn relation))⟩

end Relation

end NestedSelect

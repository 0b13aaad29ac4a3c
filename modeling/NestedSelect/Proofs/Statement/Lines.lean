import NestedSelect.Proofs.Statement.Outline
/-!
The lines of a statement. A statement consists of lines: the clauses of its selects, the items of
their select lists, and the joins. Each many-relation whose parentheses are open around a line puts
it one level deeper, and so does being an item of a select list. The breaks of a statement lead to
just these depths.
-/

namespace NestedSelect

/-- One line of a statement. -/
structure Line where
  /-- The many-relations whose parentheses are open around the line, the innermost first. -/
  within : List TableUse
  /-- The line is an item of a select list. -/
  isItem : Bool
  /-- What stands on the line, without the break in front of it. -/
  content : Outline

/-- How many levels deep a line stands. -/
def Line.depth (line : Line) : Nat :=
  line.within.length + line.isItem.toNat

-----------------------------------------------------------------------------------------
-- The lines of a relation tree
-----------------------------------------------------------------------------------------

namespace Relation

/-- The items of a select list. The foreign key of a correlated relation comes before its rows. -/
def itemLines (sequenceColumn : String) (within : List TableUse) (relation : Relation)
    (correlation : Option Correlation)
    : List Line :=
  let rows : Line := ⟨within, true, .ofDraft (relation.aggregate { sequenceColumn })⟩
  match correlation with
  | none => [rows]
  | some correlation =>
    [⟨within, true,
        .ofDraft (Draft.column relation.use.aliasName correlation.foreignKey ++ [.text ","])⟩,
      rows]

/-- The line that groups the rows of a correlated relation. -/
def groupingLines (within : List TableUse) (aliasName : String)
    : Option Correlation → List Line
  | none => []
  | some correlation =>
    [⟨within, false,
      .ofDraft ([.text "group by "] ++ Draft.column aliasName correlation.foreignKey)⟩]

mutual

/-- The lines of the select over a relation, inside of the parentheses of some many-relations. -/
def lines (sequenceColumn : String) (within : List TableUse) (correlation : Option Correlation)
    : Relation → List Line
  | ⟨use, one, many⟩ =>
    ⟨within, false, .ofDraft [.text "select"]⟩
      :: itemLines sequenceColumn within ⟨use, one, many⟩ correlation
      ++ [⟨within, false,
        .ofDraft [.text "from "] ++ use.sourceOutline { sequenceColumn } correlation⟩]
      ++ linesOfOne sequenceColumn within use.aliasName one
      ++ linesOfMany sequenceColumn within use.aliasName many
      ++ groupingLines within use.aliasName correlation

/-- A one-relation is joined on a line of its own, and its own joins follow. -/
def linesOfOne (sequenceColumn : String) (within : List TableUse) (parent : String)
    : List (Joined Relation) → List Line
  | [] => []
  | ⟨keys, ⟨use, one, many⟩⟩ :: rest =>
    ⟨within, false,
        .ofDraft [.text use.spec.joinType.sql, .text " lateral "]
          ++ use.sourceOutline { sequenceColumn } none
          ++ .ofDraft (onClause use.aliasName keys.referencedKey parent keys.foreignKey)⟩
      :: linesOfOne sequenceColumn within use.aliasName one
      ++ linesOfMany sequenceColumn within use.aliasName many
      ++ linesOfOne sequenceColumn within parent rest

/-- A many-relation has a line that opens its parentheses, the lines of its select, and a line that
closes the parentheses.
-/
def linesOfMany (sequenceColumn : String) (within : List TableUse) (parent : String)
    : List (Joined Relation) → List Line
  | [] => []
  | ⟨keys, relation⟩ :: rest =>
    ⟨within, false,
        .ofDraft [.text relation.use.spec.joinType.sql, .text " lateral ", .text "("]⟩
      :: relation.lines sequenceColumn (relation.use :: within)
        (some ⟨parent, keys.foreignKey, keys.referencedKey⟩)
      ++ [⟨within, false,
        .ofDraft
          ([.text ") ", .identifier relation.use.aliasName]
            ++ onClause relation.use.aliasName keys.foreignKey parent keys.referencedKey)⟩]
      ++ linesOfMany sequenceColumn within parent rest

end

mutual

/-- How many many-relations are nested in one another below a relation. -/
def manyDepth : Relation → Nat
  | ⟨_, one, many⟩ => max (manyDepthOfOne one) (manyDepthOfMany many)

def manyDepthOfOne : List (Joined Relation) → Nat
  | [] => 0
  | ⟨_, relation⟩ :: rest => max relation.manyDepth (manyDepthOfOne rest)

def manyDepthOfMany : List (Joined Relation) → Nat
  | [] => 0
  | ⟨_, relation⟩ :: rest => max (relation.manyDepth + 1) (manyDepthOfMany rest)

end

end Relation

-----------------------------------------------------------------------------------------
-- Outlines on lines
-----------------------------------------------------------------------------------------

namespace Draft

/-- The draft has no line break in it. -/
def Unbroken (draft : Draft) : Prop :=
  ∀ shift, Part.line shift ∉ draft

theorem Unbroken.append {front back : Draft} (first : Unbroken front) (second : Unbroken back)
    : Unbroken (front ++ back) := by
  intro shift member
  exact (List.mem_append.mp member).elim (first shift) (second shift)

theorem Unbroken.column (qualifier name : String) : Unbroken (Draft.column qualifier name) := by
  simp [Unbroken, Draft.column]

theorem Unbroken.text (content : String) : Unbroken [.text content] := by
  simp [Unbroken]

theorem Unbroken.commaSeparated {drafts : List Draft}
    (unbroken : ∀ draft ∈ drafts, Unbroken draft)
    : Unbroken (List.intercalate [.text ", "] drafts) := by
  intro shift member
  have apart (draft : Draft) (inside : draft ∈ drafts) (part : Part) (found : part ∈ draft)
      : part ≠ .line shift := by
    rintro rfl
    exact unbroken draft inside shift found
  exact forall_mem_commaSeparated (by simp) apart _ member rfl

end Draft

/-- All values of the members are without line breaks. -/
def UnbrokenMembers (members : List (String × Draft)) : Prop :=
  ∀ member ∈ members, member.2.Unbroken

theorem UnbrokenMembers.append {front back : List (String × Draft)}
    (first : UnbrokenMembers front) (second : UnbrokenMembers back)
    : UnbrokenMembers (front ++ back) := by
  intro member inside
  exact (List.mem_append.mp inside).elim (first member) (second member)

theorem TableUse.jsonObject_unbroken (use : TableUse) {members : List (String × Draft)}
    (unbroken : UnbrokenMembers members)
    : (use.jsonObject members).Unbroken := by
  have listed : (jsonMembers members).Unbroken := by
    refine Draft.Unbroken.commaSeparated ?_
    intro draft inside
    obtain ⟨member, found, rfl⟩ := List.mem_map.mp inside
    have key : Draft.Unbroken [.literal member.1, .text ", "] := by simp [Draft.Unbroken]
    exact key.append (unbroken member found)
  have object := ((Draft.Unbroken.text "json_strip_nulls(json_build_object(").append listed).append
    (.text "))")
  unfold jsonObject
  cases use.primaryKey with
  | none => exact object
  | some key =>
      exact ((((Draft.Unbroken.text _).append (.column use.aliasName key)).append
        (.text _)).append object).append (.text _)

namespace Relation

mutual

/-- An object is written on one line, by induction over the tree. -/
theorem jsonObject_unbroken (relation : Relation) : relation.jsonObject.Unbroken := by
  match relation with
  | ⟨use, one, many⟩ =>
      have columns : UnbrokenMembers (use.fields.map use.columnMember) := by
        intro member inside
        obtain ⟨field, _, rfl⟩ := List.mem_map.mp inside
        exact .column use.aliasName field.column
      have arrays : UnbrokenMembers (many.map Joined.arrayMember) := by
        intro member inside
        obtain ⟨joined, _, rfl⟩ := List.mem_map.mp inside
        exact .column joined.relation.use.aliasName joined.relation.use.aggregateColumn
      exact use.jsonObject_unbroken ((columns.append (objectMembers_unbroken one)).append arrays)

theorem objectMembers_unbroken (joins : List (Joined Relation))
    : UnbrokenMembers (objectMembers joins) := by
  match joins with
  | [] => exact fun member inside => by simp [objectMembers] at inside
  | ⟨keys, relation⟩ :: rest =>
      intro member inside
      rw [objectMembers] at inside
      rcases List.mem_cons.mp inside with rfl | behind
      · exact jsonObject_unbroken relation
      · exact objectMembers_unbroken rest member behind

end

theorem aggregate_unbroken (options : RenderOptions) (relation : Relation)
    : (relation.aggregate options).Unbroken := by
  have exported
      : Draft.Unbroken [.text ") as ", .identifier relation.use.aggregateColumn] := by
    simp [Draft.Unbroken]
  unfold aggregate
  refine (((((Draft.Unbroken.text _).append relation.jsonObject_unbroken).append
    (.text _)).append ?_).append (.column _ _)).append exported
  cases relation.use.spec.orderBy <;> simp [Draft.Unbroken]

theorem onClause_unbroken (child childColumn parent parentColumn : String)
    : (onClause child childColumn parent parentColumn).Unbroken :=
  (((Draft.Unbroken.text _).append (.column child childColumn)).append (.text _)).append
    (.column parent parentColumn)

end Relation

namespace Outline

/-- The outline has no line break in it. -/
def Unbroken (outline : Outline) : Prop :=
  ∀ shift, Item.part (.line shift) ∉ outline

theorem Unbroken.append {front back : Outline} (first : front.Unbroken)
    (second : back.Unbroken)
    : Unbroken (front ++ back) := by
  intro shift member
  exact (List.mem_append.mp member).elim (first shift) (second shift)

theorem Unbroken.ofDraft {draft : Draft} (unbroken : draft.Unbroken)
    : Unbroken (ofDraft draft) := by
  intro shift member
  obtain ⟨part, inside, same⟩ := List.mem_map.mp member
  obtain rfl : part = .line shift := Item.part.inj same
  exact unbroken shift inside

end Outline

/-- A source is written on one line. -/
theorem TableUse.sourceOutline_unbroken (options : RenderOptions) (use : TableUse)
    (correlation : Option Correlation)
    : (use.sourceOutline options correlation).Unbroken := by
  have rows : (use.rowsOutline options correlation).Unbroken := by
    unfold rowsOutline
    cases use.spec.subquery with
    | none =>
        refine .ofDraft ?_
        cases correlation <;> simp [Draft.Unbroken, scan, Correlation.condition, Draft.column]
    | some provider => simp [Outline.Unbroken]
  have named : Draft.Unbroken [.text ") as ", .identifier use.aliasName] := by
    simp [Draft.Unbroken]
  exact ((Outline.Unbroken.ofDraft (.text _)).append rows).append (.ofDraft named)

-----------------------------------------------------------------------------------------
-- Outlines on lines
-----------------------------------------------------------------------------------------

namespace Outline

/-- The outline has some lines, each with a break in front of it, and nothing else. The breaks lead
from a depth to those of the lines in turn and so to a final one. A line only goes `shallower` where
there is a level to leave.
-/
inductive OnLines : Nat → List Line → Outline → Nat → Prop
  | nil {depth} : OnLines depth [] [] depth
  | cons {depth shift line lines rest final}
    (unbroken : line.content.Unbroken)
    (leads : shift.apply depth = line.depth)
    (room : shift = .shallower → 0 < depth)
    (behind : OnLines line.depth lines rest final)
    : OnLines depth (line :: lines) (.part (.line shift) :: (line.content ++ rest)) final

theorem OnLines.append {start middle final : Nat} {lines others : List Line}
    {front back : Outline} (first : OnLines start lines front middle)
    (second : OnLines middle others back final)
    : OnLines start (lines ++ others) (front ++ back) final := by
  induction first with
  | nil => exact second
  | cons unbroken leads room _ ih =>
      rw [List.cons_append, List.cons_append, List.append_assoc]
      exact .cons unbroken leads room (ih second)

/-- A line that keeps the depth asks for no level to leave. -/
theorem room_of_keep {depth : Nat} : LineShift.keep = .shallower → 0 < depth := nofun

/-- A single line with the break in front of it. -/
theorem OnLines.single {depth : Nat} {shift : LineShift} {content : Outline}
    (unbroken : content.Unbroken) (within : List TableUse) (isItem : Bool)
    (leads : shift.apply depth = within.length + isItem.toNat)
    (room : shift = .shallower → 0 < depth)
    : OnLines depth [⟨within, isItem, content⟩] (.part (.line shift) :: content)
        (within.length + isItem.toNat) := by
  have alone := @OnLines.cons _ _ ⟨within, isItem, content⟩ _ _ _ unbroken leads room .nil
  rwa [List.append_nil] at alone

end Outline

namespace Relation

open Outline

/-- The select list stands one level deeper, each of its items on a line of its own. -/
theorem itemLines_onLines (options : RenderOptions) (within : List TableUse)
    (relation : Relation) (correlation : Option Correlation)
    : OnLines within.length
        (itemLines options.sequenceColumn within relation correlation)
        (.part (.line .deeper) :: ofDraft (relation.selectList options correlation))
        (within.length + 1) := by
  have rows : (ofDraft (relation.aggregate options)).Unbroken :=
    .ofDraft (relation.aggregate_unbroken options)
  cases correlation with
  | none => exact .single rows within true rfl nofun
  | some correlation =>
      have key : Draft.Unbroken
          (Draft.column relation.use.aliasName correlation.foreignKey ++ [.text ","]) :=
        .append (.column _ _) (.text _)
      have first : OnLines within.length _ (.part (.line .deeper) :: _) _ :=
        .single (.ofDraft key) within true rfl nofun
      have second : OnLines (within.length + 1) _ (.part (.line .keep) :: _) _ :=
        .single rows within true rfl nofun
      have parts
          : ofDraft (relation.selectList options (some correlation))
              = ofDraft
                  (Draft.column relation.use.aliasName correlation.foreignKey ++ [.text ","])
                ++ .part (.line .keep) :: ofDraft (relation.aggregate options) := by
        simp [ofDraft, selectList]
      rw [parts]
      exact first.append second

theorem groupingLines_onLines (within : List TableUse) (aliasName : String)
    (correlation : Option Correlation)
    : OnLines within.length (groupingLines within aliasName correlation)
        (ofDraft (grouping aliasName correlation)) within.length := by
  cases correlation with
  | none => exact .nil
  | some correlation =>
      have key : Draft.Unbroken
          ([.text "group by "] ++ Draft.column aliasName correlation.foreignKey) :=
        .append (.text _) (.column _ _)
      exact .single (.ofDraft key) within false rfl nofun

mutual

/-- A select behind a line break has its lines, by induction over the tree. It returns to the depth
that it starts at.
-/
theorem outline_onLines (options : RenderOptions) (correlation : Option Correlation)
    (relation : Relation) (within : List TableUse) {depth : Nat} {shift : LineShift}
    (leads : shift.apply depth = within.length) (room : shift = .shallower → 0 < depth)
    : OnLines depth (relation.lines options.sequenceColumn within correlation)
        (.part (.line shift) :: relation.outline options correlation) within.length := by
  match relation with
  | ⟨use, one, many⟩ =>
      have head : OnLines depth _ (.part (.line shift) :: _) _ :=
        .single (.ofDraft (.text "select")) within false leads room
      have items := itemLines_onLines options within ⟨use, one, many⟩ correlation
      have origin : OnLines (within.length + 1) _ (.part (.line .shallower) :: _) _ :=
        .single (.append (.ofDraft (.text "from "))
          (use.sourceOutline_unbroken options correlation)) within false rfl (by simp)
      have joinedOne := outlineOne_onLines options use.aliasName one within
      have joinedMany := outlineMany_onLines options use.aliasName many within
      have grouped := groupingLines_onLines within use.aliasName correlation
      have parts
          : .part (.line shift) :: outline options correlation ⟨use, one, many⟩
              = .part (.line shift) :: ofDraft [.text "select"]
                ++ .part (.line .deeper)
                  :: ofDraft (selectList options ⟨use, one, many⟩ correlation)
                ++ .part (.line .shallower)
                  :: (ofDraft [.text "from "] ++ use.sourceOutline options correlation)
                ++ outlineOne options use.aliasName one
                ++ outlineMany options use.aliasName many
                ++ ofDraft (grouping use.aliasName correlation) := by
        simp [outline, ofDraft]
      rw [parts]
      exact ((((head.append items).append origin).append joinedOne).append joinedMany).append
        grouped

theorem outlineOne_onLines (options : RenderOptions) (parent : String)
    (joins : List (Joined Relation)) (within : List TableUse)
    : OnLines within.length (linesOfOne options.sequenceColumn within parent joins)
        (outlineOne options parent joins) within.length := by
  match joins with
  | [] => exact .nil
  | ⟨keys, ⟨use, one, many⟩⟩ :: rest =>
      have keyword : Draft.Unbroken [.text use.spec.joinType.sql, .text " lateral "] := by
        simp [Draft.Unbroken]
      have condition := onClause_unbroken use.aliasName keys.referencedKey parent keys.foreignKey
      have head : OnLines within.length _ (.part (.line .keep) :: _) _ :=
        .single (((Unbroken.ofDraft keyword).append
          (use.sourceOutline_unbroken options none)).append (.ofDraft condition)) within false rfl
          nofun
      have joinedOne := outlineOne_onLines options use.aliasName one within
      have joinedMany := outlineMany_onLines options use.aliasName many within
      have others := outlineOne_onLines options parent rest within
      have parts
          : outlineOne options parent (⟨keys, ⟨use, one, many⟩⟩ :: rest)
              = .part (.line .keep)
                  :: (ofDraft [.text use.spec.joinType.sql, .text " lateral "]
                    ++ use.sourceOutline options none
                    ++ ofDraft
                      (onClause use.aliasName keys.referencedKey parent keys.foreignKey))
                ++ outlineOne options use.aliasName one
                ++ outlineMany options use.aliasName many
                ++ outlineOne options parent rest := by
        simp [outlineOne, joinHead, ofDraft]
      rw [parts]
      exact ((head.append joinedOne).append joinedMany).append others

theorem outlineMany_onLines (options : RenderOptions) (parent : String)
    (joins : List (Joined Relation)) (within : List TableUse)
    : OnLines within.length (linesOfMany options.sequenceColumn within parent joins)
        (outlineMany options parent joins) within.length := by
  match joins with
  | [] => exact .nil
  | ⟨keys, relation⟩ :: rest =>
      have keyword
          : Draft.Unbroken
              [.text relation.use.spec.joinType.sql, .text " lateral ", .text "("] := by
        simp [Draft.Unbroken]
      have closed
          : Draft.Unbroken
              ([.text ") ", .identifier relation.use.aliasName]
                ++ onClause relation.use.aliasName keys.foreignKey parent keys.referencedKey) :=
        .append (by simp [Draft.Unbroken]) (onClause_unbroken _ _ _ _)
      have head : OnLines within.length _ (.part (.line .keep) :: _) _ :=
        .single (.ofDraft keyword) within false rfl nofun
      have nested := outline_onLines options
        (some ⟨parent, keys.foreignKey, keys.referencedKey⟩) relation (relation.use :: within)
        (show LineShift.deeper.apply within.length = _ from rfl) nofun
      have tail : OnLines (within.length + 1) _ (.part (.line .shallower) :: _) _ :=
        .single (.ofDraft closed) within false rfl (by simp)
      have others := outlineMany_onLines options parent rest within
      have parts
          : outlineMany options parent (⟨keys, relation⟩ :: rest)
              = .part (.line .keep)
                  :: ofDraft [.text relation.use.spec.joinType.sql, .text " lateral ", .text "("]
                ++ .part (.line .deeper)
                  :: relation.outline options
                    (some ⟨parent, keys.foreignKey, keys.referencedKey⟩)
                ++ .part (.line .shallower)
                  :: ofDraft
                    ([.text ") ", .identifier relation.use.aliasName]
                      ++ onClause relation.use.aliasName keys.foreignKey parent
                        keys.referencedKey)
                ++ outlineMany options parent rest := by
        simp [outlineMany, joinHead, ofDraft]
      rw [parts]
      exact ((head.append nested).append tail).append others

end

end Relation

end NestedSelect

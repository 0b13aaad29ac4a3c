import Mathlib.Data.List.Chain
import NestedSelect.Proofs.Statement.Outline
import NestedSelect.Proofs.Text.Lexing
/-!
The seams of a statement. Where two quoted texts touch, their marks might be read as a doubled one.
A statement has something without quotes between any two of them, and around every text that is
copied from elsewhere.
-/

namespace NestedSelect

open Lexing

/-- Text with something to it and without quote characters. -/
def Plain (content : String) : Prop :=
  content.toList ≠ [] ∧ ∀ c ∈ content.toList, quotesOf c = none

-- Only the characters of the text are gone through, not all characters there are.
instance (content : String) : Decidable (Plain content) :=
  let : Decidable (∀ c ∈ content.toList, quotesOf c = none) := List.decidableBAll _ _
  inferInstanceAs (Decidable (_ ∧ _))

/-- Plain text ends outside of quotes. -/
theorem Plain.complete {content : String} (plain : Plain content) : Complete content.toList := by
  rw [Complete, lex_unquoted plain.2]
  rfl

namespace Outline

/-- The item keeps what stands on both sides of it apart. -/
def Item.Separates : Item → Prop
  | .part (.text content) => Plain content
  | .part (.line _) => True
  | _ => False

/-- Copied text ends outside of quotes. The answers to inquiries are not known yet. -/
def Item.Complete : Item → Prop
  | .part (.text content) => Lexing.Complete content.toList
  | _ => True

theorem Item.Separates.complete {item : Item} (separates : item.Separates) : item.Complete := by
  match item with
  | .part (.text _) => exact Plain.complete separates
  | .part (.line _) => trivial

/-- Of any two neighbours one separates, and all copied text ends outside of quotes. -/
structure Tidy (outline : Outline) : Prop where
  seams : outline.IsChain fun first second => first.Separates ∨ second.Separates
  complete : ∀ item ∈ outline, item.Complete

/-- A tidy outline that may follow anything. -/
structure Framed (outline : Outline) : Prop extends Tidy outline where
  opening : ∀ item ∈ outline.head?, item.Separates

theorem Framed.nil : Framed [] :=
  ⟨⟨.nil, by simp⟩, by simp⟩

/-- A separating item may stand in front of anything tidy. -/
theorem Framed.cons {item : Item} {rest : Outline} (separates : item.Separates)
    (tidy : rest.Tidy)
    : Framed (item :: rest) := by
  refine ⟨⟨List.isChain_cons.mpr ⟨fun _ _ => .inl separates, tidy.seams⟩, ?_⟩, ?_⟩
  · intro other member
    rcases List.mem_cons.mp member with rfl | behind
    · exact separates.complete
    · exact tidy.complete other behind
  · rintro _ ⟨⟩
    exact separates

/-- Any item may stand in front of what may follow anything. -/
theorem Tidy.cons {item : Item} {rest : Outline} (complete : item.Complete)
    (framed : rest.Framed)
    : Tidy (item :: rest) := by
  refine ⟨List.isChain_cons.mpr ⟨?_, framed.seams⟩, ?_⟩
  · exact fun next first => .inr (framed.opening next first)
  · intro other member
    rcases List.mem_cons.mp member with rfl | behind
    · exact complete
    · exact framed.complete other behind

theorem Tidy.append {front back : Outline} (tidy : front.Tidy) (framed : back.Framed)
    : Tidy (front ++ back) where
  seams :=
    tidy.seams.append framed.seams fun _ _ next first => .inr (framed.opening next first)
  complete := by
    intro item member
    rcases List.mem_append.mp member with before | behind
    · exact tidy.complete item before
    · exact framed.complete item behind

theorem Framed.append {front back : Outline} (first : front.Framed) (second : back.Framed)
    : Framed (front ++ back) := by
  cases front with
  | nil => exact second
  | cons item rest => exact ⟨first.toTidy.append second, first.opening⟩

end Outline

namespace Draft

/-- A tidy draft is tidy as an outline. -/
def Tidy (draft : Draft) : Prop :=
  (Outline.ofDraft draft).Tidy

/-- A draft that may follow anything. -/
def Framed (draft : Draft) : Prop :=
  (Outline.ofDraft draft).Framed

variable {front back rest : Draft}

theorem Framed.tidy (framed : Framed rest) : Tidy rest :=
  Outline.Framed.toTidy framed

theorem Framed.nil : Framed [] :=
  Outline.Framed.nil

/-- Plain text separates. -/
theorem Framed.text {content : String} (plain : Plain content) (tidy : Tidy rest)
    : Framed (.text content :: rest) :=
  Outline.Framed.cons plain tidy

theorem Framed.single {content : String} (plain : Plain content) : Framed [.text content] :=
  .text plain Framed.nil.tidy

/-- Line breaks separate. -/
theorem Framed.line (shift : LineShift) (tidy : Tidy rest) : Framed (.line shift :: rest) :=
  Outline.Framed.cons trivial tidy

/-- Copied text needs to be kept apart from what follows. -/
theorem Tidy.copied {content : String} (complete : Complete content.toList)
    (framed : Framed rest)
    : Tidy (.text content :: rest) :=
  Outline.Tidy.cons complete framed

/-- Identifiers need to be kept apart from what follows. -/
theorem Tidy.identifier (name : String) (framed : Framed rest)
    : Tidy (.identifier name :: rest) :=
  Outline.Tidy.cons trivial framed

/-- Literals need to be kept apart from what follows. -/
theorem Tidy.literal (content : String) (framed : Framed rest)
    : Tidy (.literal content :: rest) :=
  Outline.Tidy.cons trivial framed

theorem Tidy.append (tidy : Tidy front) (framed : Framed back) : Tidy (front ++ back) := by
  rw [Tidy, Outline.ofDraft, List.map_append]
  exact Outline.Tidy.append tidy framed

theorem Framed.append (first : Framed front) (second : Framed back)
    : Framed (front ++ back) := by
  rw [Framed, Outline.ofDraft, List.map_append]
  exact Outline.Framed.append first second

theorem Tidy.column (qualifier name : String) : Tidy (Draft.column qualifier name) :=
  .identifier qualifier (.text (by decide) (.identifier name .nil))

/-- Tidy drafts may be listed with commas between them. -/
theorem Tidy.commaSeparated {drafts : List Draft} (tidy : ∀ draft ∈ drafts, Tidy draft)
    : Tidy (List.intercalate [.text ", "] drafts) := by
  induction drafts with
  | nil => exact Framed.nil.tidy
  | cons first others ih =>
      have head := tidy first (by simp)
      have tail := ih fun draft member => tidy draft (by simp [member])
      cases others with
      | nil => simpa only [List.intercalate_singleton] using head
      | cons next others =>
          simp only [List.intercalate_cons_cons, List.append_assoc]
          exact head.append (.text (by decide) tail)

end Draft

-----------------------------------------------------------------------------------------
-- Select lists
-----------------------------------------------------------------------------------------

/-- The values of the members may follow plain text. -/
def TidyMembers (members : List (String × Draft)) : Prop :=
  ∀ member ∈ members, member.2.Tidy

theorem TidyMembers.append {front back : List (String × Draft)} (first : TidyMembers front)
    (second : TidyMembers back)
    : TidyMembers (front ++ back) := by
  intro member inside
  rcases List.mem_append.mp inside with before | behind
  · exact first member before
  · exact second member behind

theorem jsonMembers_tidy {members : List (String × Draft)} (tidy : TidyMembers members)
    : (jsonMembers members).Tidy := by
  refine Draft.Tidy.commaSeparated ?_
  intro draft inside
  obtain ⟨member, found, rfl⟩ := List.mem_map.mp inside
  exact .literal member.1 (.text (by decide) (tidy member found))

namespace TableUse

theorem jsonObject_framed (use : TableUse) {members : List (String × Draft)}
    (tidy : TidyMembers members)
    : (use.jsonObject members).Framed := by
  have object
      : Draft.Framed
          ([.text "json_strip_nulls(json_build_object("] ++ jsonMembers members
            ++ [.text "))"]) :=
    .append (.text (by decide) (jsonMembers_tidy tidy)) (.single (by decide))
  unfold jsonObject
  cases use.primaryKey with
  | none => exact object
  | some key =>
      have present : Draft.Framed (.text "case when " :: Draft.column use.aliasName key) :=
        .text (by decide) (.column use.aliasName key)
      have absent : Draft.Framed [.text " is null then null else "] :=
        .single (by decide)
      have closed : Draft.Framed [.text " end"] := .single (by decide)
      exact ((present.append absent).append object).append closed

theorem columnMembers_tidy (use : TableUse)
    : TidyMembers (use.fields.map use.columnMember) := by
  intro member inside
  obtain ⟨field, _, rfl⟩ := List.mem_map.mp inside
  exact .column use.aliasName field.column

end TableUse

namespace Relation

theorem arrayMembers_tidy (joins : List (Joined Relation))
    : TidyMembers (joins.map Joined.arrayMember) := by
  intro member inside
  obtain ⟨joined, _, rfl⟩ := List.mem_map.mp inside
  exact .column joined.relation.use.aliasName joined.relation.use.aggregateColumn

mutual

/-- A JSON object may follow anything, by induction over the tree. -/
theorem jsonObject_framed (relation : Relation) : relation.jsonObject.Framed := by
  match relation with
  | ⟨use, one, many⟩ =>
      have columns := use.columnMembers_tidy
      have objects := objectMembers_tidy one
      exact use.jsonObject_framed ((columns.append objects).append (arrayMembers_tidy many))

theorem objectMembers_tidy (joins : List (Joined Relation))
    : TidyMembers (objectMembers joins) := by
  match joins with
  | [] => exact fun member inside => by simp [objectMembers] at inside
  | ⟨keys, relation⟩ :: rest =>
      intro member inside
      rw [objectMembers] at inside
      rcases List.mem_cons.mp inside with rfl | behind
      · exact (jsonObject_framed relation).tidy
      · exact objectMembers_tidy rest member behind

end

end Relation

/-- The sort expression of a use, if it has one, ends outside of quotes. -/
def TableUse.SortComplete (use : TableUse) : Prop :=
  ∀ expression ∈ use.spec.orderBy, Complete expression.toList

namespace Relation

theorem aggregate_framed (options : RenderOptions) (relation : Relation)
    (sorted : relation.use.SortComplete)
    : (relation.aggregate options).Framed := by
  have sequence := Draft.Tidy.column relation.use.aliasName options.sequenceColumn
  have opened : Draft.Framed [.text "json_agg("] := .single (by decide)
  have exported
      : Draft.Framed [.text ") as ", .identifier relation.use.aggregateColumn] :=
    .text (by decide) (.identifier _ .nil)
  have framed (order : Draft)
      (tidy : Draft.Tidy (order ++ Draft.column relation.use.aliasName options.sequenceColumn))
      : Draft.Framed
          ([.text "json_agg("] ++ relation.jsonObject ++ [.text " order by "] ++ order
            ++ Draft.column relation.use.aliasName options.sequenceColumn
            ++ [.text ") as ", .identifier relation.use.aggregateColumn]) := by
    have sortedRows := Draft.Framed.text (by decide : Plain " order by ") tidy
    have all := ((opened.append relation.jsonObject_framed).append sortedRows).append exported
    simpa using all
  cases order : relation.use.spec.orderBy with
  | none => simpa only [aggregate, order] using framed [] sequence
  | some expression =>
      have copied := sorted expression order
      have sortedBy := framed [.text expression, .text ", "]
        (.copied copied (.text (by decide) sequence))
      simpa only [aggregate, order] using sortedBy

theorem selectList_tidy (options : RenderOptions) (relation : Relation)
    (correlation : Option Correlation) (sorted : relation.use.SortComplete)
    : (relation.selectList options correlation).Tidy := by
  have rows := relation.aggregate_framed options sorted
  cases correlation with
  | none => exact rows.tidy
  | some correlation =>
      have key := Draft.Tidy.column relation.use.aliasName correlation.foreignKey
      have comma : Draft.Framed [.text ",", .line .keep] :=
        .text (by decide) (Draft.Framed.line _ Draft.Framed.nil.tidy).tidy
      exact (key.append comma).append rows

theorem grouping_framed (aliasName : String) (correlation : Option Correlation)
    : (grouping aliasName correlation).Framed := by
  cases correlation with
  | none => exact .nil
  | some correlation =>
      have key := Draft.Tidy.column aliasName correlation.foreignKey
      exact .line _ (Draft.Framed.text (by decide) key).tidy

theorem onClause_framed (child childColumn parent parentColumn : String)
    : (onClause child childColumn parent parentColumn).Framed := by
  have own := Draft.Framed.text (by decide : Plain " on ") (.column child childColumn)
  exact own.append (Draft.Framed.text (by decide : Plain " = ") (.column parent parentColumn))

theorem joinHead_framed (use : TableUse) : (joinHead use).Framed := by
  have keyword : Plain use.spec.joinType.sql := by
    cases use.spec.joinType <;> decide
  exact .line _ (Draft.Framed.text keyword
    (Draft.Framed.single (by decide)).tidy).tidy

end Relation

-----------------------------------------------------------------------------------------
-- Sources
-----------------------------------------------------------------------------------------

namespace TableUse

theorem scan_framed (options : RenderOptions) (use : TableUse)
    (correlation : Option Correlation)
    : (use.scan options correlation).Framed := by
  have table
      : Draft.Framed
          [.text "select *, row_number() over () as ", .identifier options.sequenceColumn,
            .text " from ", .identifier use.table] :=
    .text (by decide) (.identifier _ (.text (by decide) (.identifier _ .nil)))
  refine Draft.Framed.append table ?_
  cases correlation with
  | none => exact .nil
  | some correlation =>
      have named : Draft.Framed [.text " as ", .identifier use.aliasName] :=
        .text (by decide) (.identifier _ .nil)
      have child := Draft.Tidy.column use.aliasName correlation.foreignKey
      have parent := Draft.Tidy.column correlation.parentAlias correlation.referencedKey
      have condition : (correlation.condition use.aliasName).Tidy := by
        rw [Correlation.condition, List.append_assoc]
        exact child.append (.text (by decide) parent)
      exact named.append (.text (by decide) condition)

theorem sourceOutline_framed (options : RenderOptions) (use : TableUse)
    (correlation : Option Correlation)
    : (use.sourceOutline options correlation).Framed := by
  have rows : (use.rowsOutline options correlation).Tidy := by
    unfold rowsOutline
    cases use.spec.subquery with
    | none => exact (use.scan_framed options correlation).tidy
    | some provider => exact .cons trivial .nil
  have opened : Plain "(" := by decide
  have named : Draft.Framed [.text ") as ", .identifier use.aliasName] :=
    .text (by decide) (.identifier _ .nil)
  exact Outline.Framed.append (Outline.Framed.cons opened rows) named

end TableUse

-----------------------------------------------------------------------------------------
-- Whole statements
-----------------------------------------------------------------------------------------

namespace Relation

mutual

/-- The uses of a relation tree. -/
def uses : Relation → List TableUse
  | ⟨use, one, many⟩ => use :: (usesOfAll one ++ usesOfAll many)

/-- The uses of children and of all relations below them. -/
def usesOfAll : List (Joined Relation) → List TableUse
  | [] => []
  | ⟨_, relation⟩ :: rest => relation.uses ++ usesOfAll rest

end

mutual

/-- A statement is framed if its sort expressions end outside of quotes. By induction over the
tree: every stretch starts with something that separates, so the stretches fit together.
-/
theorem outline_framed (options : RenderOptions) (correlation : Option Correlation)
    (relation : Relation) (sorted : ∀ use ∈ relation.uses, use.SortComplete)
    : (relation.outline options correlation).Framed := by
  match relation with
  | ⟨use, one, many⟩ =>
      rw [uses] at sorted
      have list := selectList_tidy options ⟨use, one, many⟩ correlation (sorted use (by simp))
      have selected : Draft.Framed (.text "select" :: .line .deeper :: _) :=
        .text (by decide) (Draft.Framed.line _ list).tidy
      have origin : Draft.Framed [.line .shallower, .text "from "] :=
        .line _ (Draft.Framed.single (by decide)).tidy
      rw [outline]
      refine .append (.append (.append (.append ?_ ?_) ?_) ?_) ?_
      · exact selected.append origin
      · exact use.sourceOutline_framed options correlation
      · exact outlineOne_framed options use.aliasName one fun use member =>
          sorted use (by simp [member])
      · exact outlineMany_framed options use.aliasName many fun use member =>
          sorted use (by simp [member])
      · exact grouping_framed use.aliasName correlation

theorem outlineOne_framed (options : RenderOptions) (parent : String)
    (joins : List (Joined Relation)) (sorted : ∀ use ∈ usesOfAll joins, use.SortComplete)
    : (outlineOne options parent joins).Framed := by
  match joins with
  | [] => exact .nil
  | ⟨keys, ⟨use, one, many⟩⟩ :: rest =>
      rw [usesOfAll, uses] at sorted
      rw [outlineOne]
      refine .append (.append (.append (.append (.append ?_ ?_) ?_) ?_) ?_) ?_
      · exact joinHead_framed use
      · exact use.sourceOutline_framed options none
      · exact onClause_framed _ _ _ _
      · exact outlineOne_framed options use.aliasName one fun use member =>
          sorted use (by simp [member])
      · exact outlineMany_framed options use.aliasName many fun use member =>
          sorted use (by simp [member])
      · exact outlineOne_framed options parent rest fun use member =>
          sorted use (by simp [member])

theorem outlineMany_framed (options : RenderOptions) (parent : String)
    (joins : List (Joined Relation)) (sorted : ∀ use ∈ usesOfAll joins, use.SortComplete)
    : (outlineMany options parent joins).Framed := by
  match joins with
  | [] => exact .nil
  | ⟨keys, relation⟩ :: rest =>
      rw [usesOfAll] at sorted
      have opened : Draft.Framed [.text "(", .line .deeper] :=
        .text (by decide) (Draft.Framed.line _ Draft.Framed.nil.tidy).tidy
      have named
          : Draft.Framed
              [.line .shallower, .text ") ", .identifier relation.use.aliasName] :=
        .line _ (Draft.Framed.text (by decide) (.identifier _ .nil)).tidy
      rw [outlineMany]
      refine .append (.append (.append ?_ ?_) ?_) ?_
      · exact (joinHead_framed relation.use).append opened
      · exact outline_framed options _ relation fun use member => sorted use (by simp [member])
      · exact named.append (onClause_framed _ _ _ _)
      · exact outlineMany_framed options parent rest fun use member =>
          sorted use (by simp [member])

end

end Relation

end NestedSelect

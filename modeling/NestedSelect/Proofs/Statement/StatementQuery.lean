import NestedSelect.Proofs.Sql.Scope
import NestedSelect.Proofs.Statement.DraftWords
/-!
The query that a statement is read as. Where no provider is asked and no sort expression is copied,
a relation tree alone decides the whole statement, and its text has exactly one reading.
-/

namespace NestedSelect

open Lexing Sql

-----------------------------------------------------------------------------------------
-- Queries of relation trees
-----------------------------------------------------------------------------------------

/-- A member of a JSON object. -/
abbrev Member := String × Expression

/-- The arguments that build an object of some members: each key in front of its value. -/
def memberArguments (members : List Member) : List Expression :=
  members.flatMap fun member => [.text member.1, member.2]

/-- The rows of a child that belong to one row of its parent. -/
def Correlation.comparison (correlation : Correlation) (aliasName : String) : Comparison :=
  ⟨.column aliasName correlation.foreignKey,
    .column correlation.parentAlias correlation.referencedKey⟩

namespace TableUse

/-- The table of a use, as the only source of its scan. -/
def tableSource (use : TableUse) (correlation : Option Correlation) : Source :=
  .table use.table (correlation.map fun _ => use.aliasName)

/-- The scan of the table with its rows numbered. -/
def scanSource (options : RenderOptions) (use : TableUse) (correlation : Option Correlation)
    : Source :=
  .derived
    (.select [.all, .value .rowNumber (some options.sequenceColumn)]
      (use.tableSource correlation) [] (correlation.map (·.comparison use.aliasName)) none)
    use.aliasName

@[simp]
theorem name_scanSource (options : RenderOptions) (use : TableUse)
    (correlation : Option Correlation)
    : (use.scanSource options correlation).name = use.aliasName := rfl

def columns (use : TableUse) : List Member :=
  use.fields.map fun field => (field.jsonKey, .column use.aliasName field.column)

/-- An object with the members, unless there is no row. -/
def object (use : TableUse) (members : List Member) : Expression :=
  let object := .stripNulls (.buildObject (memberArguments members))
  match use.primaryKey with
  | none => object
  | some key => .unlessNull (.column use.aliasName key) object

end TableUse

namespace Relation

/-- A member for the array of each many-relation. -/
def arrays (joins : List (Joined Relation)) : List Member :=
  joins.map fun joined =>
    (joined.keys.jsonKey,
      .column joined.relation.use.aliasName joined.relation.use.aggregateColumn)

mutual

/-- The object of one row, with the objects of the one-relations in it. -/
def object : Relation → Expression
  | ⟨use, one, many⟩ => use.object (use.columns ++ objects one ++ arrays many)

def objects : List (Joined Relation) → List Member
  | [] => []
  | ⟨keys, relation⟩ :: rest => (keys.jsonKey, relation.object) :: objects rest

end

/-- The foreign key of a correlated relation and the array of its rows. -/
def outputs (options : RenderOptions) (relation : Relation) (correlation : Option Correlation)
    : List Output :=
  (correlation.toList.map fun correlation =>
      .value (.column relation.use.aliasName correlation.foreignKey) none)
    ++ [.value
          (.aggregate relation.object
            (.column relation.use.aliasName options.sequenceColumn))
          (some relation.use.aggregateColumn)]

mutual

/-- The query over a relation and all that is joined to it. -/
def query (options : RenderOptions) (correlation : Option Correlation) : Relation → Query
  | ⟨use, one, many⟩ =>
    .select (outputs options ⟨use, one, many⟩ correlation) (use.scanSource options correlation)
      (joinsOfOne options use.aliasName one ++ joinsOfMany options use.aliasName many) none
      (correlation.map fun correlation => .column use.aliasName correlation.foreignKey)

def joinsOfOne (options : RenderOptions) (parent : String) : List (Joined Relation) → List Join
  | [] => []
  | ⟨keys, ⟨use, one, many⟩⟩ :: rest =>
    .lateral use.spec.joinType (use.scanSource options none)
        ⟨.column use.aliasName keys.referencedKey, .column parent keys.foreignKey⟩
      :: (joinsOfOne options use.aliasName one ++ joinsOfMany options use.aliasName many
        ++ joinsOfOne options parent rest)

def joinsOfMany (options : RenderOptions) (parent : String) : List (Joined Relation) → List Join
  | [] => []
  | ⟨keys, relation⟩ :: rest =>
    .lateral relation.use.spec.joinType
        (.derived (relation.query options (some ⟨parent, keys.foreignKey, keys.referencedKey⟩))
          relation.use.aliasName)
        ⟨.column relation.use.aliasName keys.foreignKey, .column parent keys.referencedKey⟩
      :: joinsOfMany options parent rest

end

end Relation

-----------------------------------------------------------------------------------------
-- Select lists
-----------------------------------------------------------------------------------------

/-- The members are written alike, key by key. -/
def ReadMembers (drafts : List (String × Draft)) (members : List Member) : Prop :=
  List.Forall₂ (fun draft member => draft.1 = member.1 ∧ draft.2.Reads member.2.words) drafts
    members

theorem jsonMembers_reads {drafts : List (String × Draft)} {members : List Member}
    (alike : ReadMembers drafts members)
    : (jsonMembers drafts).Reads (Expression.listed (memberArguments members)) := by
  have comma : Draft.Apart [.text ", "] [.mark ','] := .text (by decide) (by decide)
  induction alike with
  | nil => exact Draft.Ends.nil.reads
  | @cons draft member drafts members head tail ih =>
      obtain ⟨key, value⟩ := head
      have first
          : Draft.Reads (.literal draft.1 :: .text ", " :: draft.2)
              (.quoted .literal member.1 :: .mark ',' :: member.2.words) := by
        rw [← key]
        exact ((Draft.Apart.literal draft.1).append comma.ends).ends.append_reads value
      cases tail with
      | nil =>
          simpa [jsonMembers, memberArguments, Expression.listed, Expression.words] using first
      | @cons next other drafts members head tail =>
          have both := (first.append comma).append_reads ih
          simpa [jsonMembers, memberArguments, Expression.listed, Expression.words] using both

namespace TableUse

theorem jsonObject_reads (use : TableUse) {drafts : List (String × Draft)} {members : List Member}
    (alike : ReadMembers drafts members)
    : (use.jsonObject drafts).Reads (use.object members).words := by
  have opened
      : Draft.Ends [.text "json_strip_nulls(json_build_object("]
          [.keyword "json_strip_nulls", .mark '(', .keyword "json_build_object", .mark '('] :=
    .text (by decide)
  have closed : Draft.Apart [.text "))"] [.mark ')', .mark ')'] := .text (by decide) (by decide)
  have object := (opened.append_reads (jsonMembers_reads alike)).append closed
  unfold jsonObject TableUse.object
  cases use.primaryKey with
  | none => simpa [Expression.words] using object.reads
  | some key =>
      have tested : Draft.Ends [.text "case when "] [.keyword "case", .keyword "when"] :=
        .text (by decide)
      have otherwise
          : Draft.Ends [.text " is null then null else "]
              [.keyword "is", .keyword "null", .keyword "then", .keyword "null",
                .keyword "else"] :=
        .text (by decide)
      have last : Draft.Reads [.text " end"] [.keyword "end"] := .text (by decide)
      have column := (Draft.Apart.column use.aliasName key).ends
      have guarded := (((tested.append column).append otherwise).append object).append_reads last
      simpa [Expression.words] using guarded

theorem columns_read (use : TableUse)
    : ReadMembers (use.fields.map use.columnMember) use.columns := by
  refine List.forall₂_map_left_iff.mpr (List.forall₂_map_right_iff.mpr ?_)
  refine List.forall₂_same.mpr ?_
  intro field _
  exact ⟨rfl, (Draft.Apart.column _ _).ends.reads⟩

end TableUse

namespace Relation

theorem arrays_read (joins : List (Joined Relation))
    : ReadMembers (joins.map Joined.arrayMember) (arrays joins) := by
  refine List.forall₂_map_left_iff.mpr (List.forall₂_map_right_iff.mpr ?_)
  refine List.forall₂_same.mpr ?_
  intro joined _
  exact ⟨rfl, (Draft.Apart.column _ _).ends.reads⟩

mutual

theorem jsonObject_reads (relation : Relation)
    : relation.jsonObject.Reads relation.object.words := by
  match relation with
  | ⟨use, one, many⟩ =>
      rw [jsonObject, object]
      refine use.jsonObject_reads (List.rel_append (List.rel_append use.columns_read ?_) ?_)
      · exact objectMembers_read one
      · exact arrays_read many

theorem objectMembers_read (joins : List (Joined Relation))
    : ReadMembers (objectMembers joins) (objects joins) := by
  match joins with
  | [] => exact .nil
  | ⟨keys, relation⟩ :: rest =>
      exact .cons ⟨rfl, jsonObject_reads relation⟩ (objectMembers_read rest)

end

theorem selectList_ends (options : RenderOptions) (relation : Relation)
    (correlation : Option Correlation) (unsorted : relation.use.spec.orderBy = none)
    : (relation.selectList options correlation).Ends
        (Output.listed (relation.outputs options correlation)) := by
  have opened : Draft.Ends [.text "json_agg("] [.keyword "json_agg", .mark '('] := .text (by decide)
  have order : Draft.Apart [.text " order by "] [.keyword "order", .keyword "by"] :=
    .text (by decide) (by decide)
  have closed : Draft.Ends [.text ") as "] [.mark ')'] := .text (by decide)
  have sequence := Draft.Apart.column relation.use.aliasName options.sequenceColumn
  have name := (Draft.Apart.identifier relation.use.aggregateColumn).ends
  have object := (opened.append_reads relation.jsonObject_reads).append order
  have rows := ((object.append sequence.ends).append closed).append name
  have aggregate
      : (relation.aggregate options).Ends
          (Output.words (.value
            (.aggregate relation.object
              (.column relation.use.aliasName options.sequenceColumn))
            (some relation.use.aggregateColumn))) := by
    simpa [Relation.aggregate, unsorted, Output.words, Expression.words, nameWords] using rows
  cases correlation with
  | none => exact aggregate
  | some correlation =>
      have key := (Draft.Apart.column relation.use.aliasName correlation.foreignKey).ends
      have comma : Draft.Ends [.text ","] [.mark ','] := .text (by decide)
      have list := ((key.append comma).append (Draft.Apart.line .keep).ends).append aggregate
      simpa [selectList, outputs, Output.listed, Output.words, nameWords] using list

end Relation

-----------------------------------------------------------------------------------------
-- From clauses
-----------------------------------------------------------------------------------------

/-- Two columns with a sign of equality between them. -/
theorem Draft.Ends.equation (qualifier name otherQualifier otherName : String)
    : Draft.Ends
        (Draft.column qualifier name ++ [.text " = "] ++ Draft.column otherQualifier otherName)
        (Comparison.words ⟨.column qualifier name, .column otherQualifier otherName⟩) := by
  have equals : Draft.Ends [.text " = "] [.mark '='] := .text (by decide)
  have left := (Draft.Apart.column qualifier name).ends.append equals
  simpa [Comparison.words] using left.append (Draft.Apart.column otherQualifier otherName).ends

namespace Relation

theorem grouping_ends (aliasName : String) (correlation : Option Correlation)
    : (grouping aliasName correlation).Ends
        (groupWords (correlation.map fun correlation =>
          .column aliasName correlation.foreignKey)) := by
  cases correlation with
  | none => exact .nil
  | some correlation =>
      have keyword : Draft.Ends [.text "group by "] [.keyword "group", .keyword "by"] :=
        .text (by decide)
      have key := (Draft.Apart.column aliasName correlation.foreignKey).ends
      exact (Draft.Apart.line .keep).ends.append (keyword.append key)

theorem onClause_ends (child childColumn parent parentColumn : String)
    : (onClause child childColumn parent parentColumn).Ends
        (.keyword "on"
          :: Comparison.words ⟨.column child childColumn, .column parent parentColumn⟩) := by
  have keyword : Draft.Ends [.text " on "] [.keyword "on"] := .text (by decide)
  exact keyword.append (.equation child childColumn parent parentColumn)

theorem joinHead_ends (use : TableUse)
    : (joinHead use).Ends (joinWords use.spec.joinType ++ [.keyword "lateral"]) := by
  have keyword : Draft.Reads [.text use.spec.joinType.sql] (joinWords use.spec.joinType) := by
    cases use.spec.joinType <;> exact .text (by decide)
  have lateral : Draft.Apart [.text " lateral "] [.keyword "lateral"] :=
    .text (by decide) (by decide)
  exact (Draft.Apart.line .keep).ends.append (keyword.append lateral)

end Relation

namespace TableUse

theorem scan_ends (options : RenderOptions) (use : TableUse) (correlation : Option Correlation)
    : (use.scan options correlation).Ends
        (Query.words
          (.select [.all, .value .rowNumber (some options.sequenceColumn)]
            (use.tableSource correlation) []
            (correlation.map (·.comparison use.aliasName)) none)) := by
  have opened
      : Draft.Ends [.text "select *, row_number() over () as "]
          [.keyword "select", .mark '*', .mark ',', .keyword "row_number", .mark '(', .mark ')',
            .keyword "over", .mark '(', .mark ')'] :=
    .text (by decide)
  have origin : Draft.Ends [.text " from "] [.keyword "from"] := .text (by decide)
  have sequence := (Draft.Apart.identifier options.sequenceColumn).ends
  have table := (Draft.Apart.identifier use.table).ends
  have rows := ((opened.append sequence).append origin).append table
  cases correlation with
  | none =>
      simpa [scan, Query.words, Output.listed, Output.words, Expression.words, nameWords,
        tableSource, Source.words, Join.allWords, whereWords, groupWords] using rows
  | some correlation =>
      have named : Draft.Ends [.text " as "] [] := .text (by decide)
      have condition : Draft.Ends [.text " where "] [.keyword "where"] := .text (by decide)
      have name := (Draft.Apart.identifier use.aliasName).ends
      have equation :=
        Draft.Ends.equation use.aliasName correlation.foreignKey correlation.parentAlias
          correlation.referencedKey
      have tied := (((rows.append named).append name).append condition).append equation
      simpa [scan, Correlation.condition, Correlation.comparison, Query.words, Output.listed,
        Output.words, Expression.words, Comparison.words, nameWords, tableSource, Source.words,
        Join.allWords, whereWords, groupWords] using tied

end TableUse

-----------------------------------------------------------------------------------------
-- Whole statements
-----------------------------------------------------------------------------------------

namespace Outline

theorem fill_append (front back : Outline)
    : (front ++ back).fill [] = front.fill [] ++ back.fill [] := by
  induction front with
  | nil => rfl
  | cons item rest ih =>
      cases item with
      | part part => exact congrArg (part :: ·) ih
      | inquiry inquiry => exact ih

theorem fill_ofDraft (draft : Draft) : (ofDraft draft).fill [] = draft := by
  induction draft with
  | nil => rfl
  | cons part rest ih => exact congrArg (part :: ·) ih

end Outline

/-- The use neither asks a provider nor copies a sort expression. -/
structure TableUse.Bare (use : TableUse) : Prop where
  scanned : use.spec.subquery = none
  unsorted : use.spec.orderBy = none

/-- Without a provider the source of a use is its scan. -/
theorem TableUse.Bare.sourceOutline_ends {use : TableUse} (bare : use.Bare)
    (options : RenderOptions) (correlation : Option Correlation)
    : Draft.Ends ((use.sourceOutline options correlation).fill [])
        (use.scanSource options correlation).words := by
  have opened : Draft.Ends [.text "("] [.mark '('] := .text (by decide)
  have closed : Draft.Ends [.text ") as "] [.mark ')'] := .text (by decide)
  have name := (Draft.Apart.identifier use.aliasName).ends
  have source := ((opened.append (use.scan_ends options correlation)).append closed).append name
  simpa [sourceOutline, rowsOutline, bare.scanned, Outline.fill_append, Outline.fill_ofDraft,
    scanSource, Source.words] using source

namespace Relation

mutual

/-- A statement is written with the words of the query of its tree, by induction over the tree. -/
theorem outline_ends (options : RenderOptions) (correlation : Option Correlation)
    (relation : Relation) (bare : ∀ use ∈ relation.uses, use.Bare)
    : Draft.Ends ((relation.outline options correlation).fill [])
        (relation.query options correlation).words := by
  match relation with
  | ⟨use, one, many⟩ =>
      rw [uses] at bare
      have own := bare use (by simp)
      have keyword : Draft.Reads [.text "select"] [.keyword "select"] := .text (by decide)
      have origin : Draft.Ends [.text "from "] [.keyword "from"] := .text (by decide)
      have list := selectList_ends options ⟨use, one, many⟩ correlation own.unsorted
      have source := own.sourceOutline_ends options correlation
      have joinedOne := outlineOne_ends options use.aliasName one fun use member =>
        bare use (by simp [member])
      have joinedMany := outlineMany_ends options use.aliasName many fun use member =>
        bare use (by simp [member])
      have grouped := grouping_ends use.aliasName correlation
      have selected := (keyword.append (.line .deeper)).append list
      have sources :=
        ((selected.append (Draft.Apart.line .shallower).ends).append origin).append source
      have all := ((sources.append joinedOne).append joinedMany).append grouped
      simpa [outline, Outline.fill_append, Outline.fill_ofDraft, query, Query.words,
        Join.allWords_append, whereWords] using all

theorem outlineOne_ends (options : RenderOptions) (parent : String)
    (joins : List (Joined Relation)) (bare : ∀ use ∈ usesOfAll joins, use.Bare)
    : Draft.Ends ((outlineOne options parent joins).fill [])
        (Join.allWords (joinsOfOne options parent joins)) := by
  match joins with
  | [] => exact .nil
  | ⟨keys, ⟨use, one, many⟩⟩ :: rest =>
      rw [usesOfAll, uses] at bare
      have source := (bare use (by simp)).sourceOutline_ends options none
      have condition := onClause_ends use.aliasName keys.referencedKey parent keys.foreignKey
      have joinedOne := outlineOne_ends options use.aliasName one fun use member =>
        bare use (by simp [member])
      have joinedMany := outlineMany_ends options use.aliasName many fun use member =>
        bare use (by simp [member])
      have others := outlineOne_ends options parent rest fun use member =>
        bare use (by simp [member])
      have joined := ((joinHead_ends use).append source).append condition
      have all := ((joined.append joinedOne).append joinedMany).append others
      simpa [outlineOne, Outline.fill_append, Outline.fill_ofDraft, joinsOfOne, Join.allWords,
        Join.allWords_append] using all

theorem outlineMany_ends (options : RenderOptions) (parent : String)
    (joins : List (Joined Relation)) (bare : ∀ use ∈ usesOfAll joins, use.Bare)
    : Draft.Ends ((outlineMany options parent joins).fill [])
        (Join.allWords (joinsOfMany options parent joins)) := by
  match joins with
  | [] => exact .nil
  | ⟨keys, relation⟩ :: rest =>
      rw [usesOfAll] at bare
      have opened : Draft.Ends [.text "("] [.mark '('] := .text (by decide)
      have closed : Draft.Ends [.text ") "] [.mark ')'] := .text (by decide)
      have name := (Draft.Apart.identifier relation.use.aliasName).ends
      have nested :=
        outline_ends options (some ⟨parent, keys.foreignKey, keys.referencedKey⟩) relation
          fun use member => bare use (by simp [member])
      have condition :=
        onClause_ends relation.use.aliasName keys.foreignKey parent keys.referencedKey
      have others := outlineMany_ends options parent rest fun use member =>
        bare use (by simp [member])
      have head := ((joinHead_ends relation.use).append opened).append
        (Draft.Apart.line .deeper).ends
      have source :=
        (((head.append nested).append (Draft.Apart.line .shallower).ends).append closed).append name
      have all := (source.append condition).append others
      simpa [outlineMany, Outline.fill_append, Outline.fill_ofDraft, joinsOfMany, Join.allWords,
        Source.words] using all

end

mutual

theorem inquiries_of_bare (condition : String) (relation : Relation)
    (bare : ∀ use ∈ relation.uses, use.Bare)
    : relation.inquiries condition = [] := by
  match relation with
  | ⟨use, one, many⟩ =>
      rw [uses] at bare
      have own := (bare use (by simp)).scanned
      have below := inquiriesOfOne_of_bare one fun use member => bare use (by simp [member])
      have behind := inquiriesOfMany_of_bare use.aliasName many fun use member =>
        bare use (by simp [member])
      simp [inquiries, TableUse.inquiries, own, below, behind]

theorem inquiriesOfOne_of_bare (joins : List (Joined Relation))
    (bare : ∀ use ∈ usesOfAll joins, use.Bare)
    : inquiriesOfOne joins = [] := by
  match joins with
  | [] => rfl
  | ⟨keys, relation⟩ :: rest =>
      rw [usesOfAll] at bare
      have first := inquiries_of_bare "" relation fun use member => bare use (by simp [member])
      have others := inquiriesOfOne_of_bare rest fun use member => bare use (by simp [member])
      simp [inquiriesOfOne, first, others]

theorem inquiriesOfMany_of_bare (parent : String) (joins : List (Joined Relation))
    (bare : ∀ use ∈ usesOfAll joins, use.Bare)
    : inquiriesOfMany parent joins = [] := by
  match joins with
  | [] => rfl
  | ⟨keys, relation⟩ :: rest =>
      rw [usesOfAll] at bare
      have first := fun condition =>
        inquiries_of_bare condition relation fun use member => bare use (by simp [member])
      have others := inquiriesOfMany_of_bare parent rest fun use member =>
        bare use (by simp [member])
      simp [inquiriesOfMany, first, others]

end

/-- A bare tree is rendered without arguments, and its statement is read as its query. -/
theorem render_reads {relation : Relation} (bare : ∀ use ∈ relation.uses, use.Bare)
    (options : RenderOptions)
    : ∃ sql,
        relation.render options = .ok ⟨sql, []⟩
        ∧ (relation.query options none).Reads sql := by
  refine ⟨Draft.write options.layout ((relation.outline options none).fill []), ?_, ?_⟩
  · refine (relation.renderAfter_eq_ok_iff options 0 _).mpr ⟨[], [], ?_, .nil, rfl⟩
    rw [inquiries_of_bare "" relation bare]
    exact .nil
  · have sorted : ∀ use ∈ relation.uses, use.SortComplete := by
      intro use member
      simp [TableUse.SortComplete, (bare use member).unsorted]
    have tidy := (outline_framed options none relation sorted).toTidy
    have tokens := Outline.lex_fill options.layout 0 tidy [] (by simp)
    have read := (outline_ends options none relation bare).reads options.layout 0
    rw [Query.Reads, Lexing.words, Draft.toList_write, tokens, Option.map_some, read]

end Relation

end NestedSelect

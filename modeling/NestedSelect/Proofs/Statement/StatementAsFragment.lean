import NestedSelect.Proofs.Statement.Resplicing
/-!
A rendered statement in place of a provider's answer. Where no name and no text disturbs the quotes,
the statement can be renumbered like any fragment, and then it is what the tree is rendered as
behind the arguments that come before it.
-/

namespace NestedSelect

open Placeholder

-----------------------------------------------------------------------------------------
-- Trees that keep the quotes in order
-----------------------------------------------------------------------------------------

/-- No name of the use and no text that is copied from it disturbs the quotes of a statement. -/
structure TableUse.KeepsQuotes (use : TableUse) : Prop where
  aliasName : '\'' ∉ use.aliasName.toList
  table : '\'' ∉ use.table.toList
  primaryKey : ∀ key ∈ use.primaryKey, '\'' ∉ key.toList
  columns : ∀ field ∈ use.fields, '\'' ∉ field.column.toList
  jsonKeys : ∀ field ∈ use.fields, '"' ∉ field.jsonKey.toList
  sorting
    : ∀ expression ∈ use.spec.orderBy,
        Even (expression.toList.count '\'') ∧ Even (expression.toList.count '"')
        ∧ numbers expression = []

/-- No name that ties a child to its parent disturbs the quotes of a statement. -/
structure JoinKeys.KeepQuotes (keys : JoinKeys) : Prop where
  jsonKey : '"' ∉ keys.jsonKey.toList
  foreignKey : '\'' ∉ keys.foreignKey.toList
  referencedKey : '\'' ∉ keys.referencedKey.toList

namespace Relation

mutual

/-- Nothing that a tree writes itself disturbs the quotes of its statement. -/
def KeepsQuotes : Relation → Prop
  | ⟨use, one, many⟩ => use.KeepsQuotes ∧ AllKeepQuotes one ∧ AllKeepQuotes many

def AllKeepQuotes : List (Joined Relation) → Prop
  | [] => True
  | ⟨keys, relation⟩ :: rest => keys.KeepQuotes ∧ relation.KeepsQuotes ∧ AllKeepQuotes rest

end

theorem KeepsQuotes.use {relation : Relation} (keeps : relation.KeepsQuotes)
    : relation.use.KeepsQuotes := by
  cases relation
  exact keeps.1

end Relation

/-- The names of a correlation do not disturb the quotes of a statement. -/
structure Correlation.KeepsQuotes (correlation : Correlation) : Prop where
  parentAlias : '\'' ∉ correlation.parentAlias.toList
  foreignKey : '\'' ∉ correlation.foreignKey.toList
  referencedKey : '\'' ∉ correlation.referencedKey.toList

-----------------------------------------------------------------------------------------
-- Inert drafts
-----------------------------------------------------------------------------------------

/-- Text without quote characters and without `$`. -/
def Bland (content : String) : Prop :=
  ∀ c ∈ content.toList, c ≠ '$' ∧ c ≠ '\'' ∧ c ≠ '"'

instance (content : String) : Decidable (Bland content) :=
  List.decidableBAll _ _

namespace Draft

theorem Part.Inert.text {content : String} (bland : Bland content)
    : (Part.text content).Inert := by
  intro layout depth
  exact .of_absent (fun member => (bland _ member).1 rfl) (fun member => (bland _ member).2.1 rfl)
    fun member => (bland _ member).2.2 rfl

theorem Part.Inert.line (shift : LineShift) : (Part.line shift).Inert := by
  intro layout depth
  have blank (c : Char) (other : c ≠ ' ' ∧ c ≠ '\n')
      : c ∉ (layout.lineBreak (shift.apply depth)).toList := fun member =>
    (mem_lineBreak layout _ c member).elim other.1 other.2
  exact .of_absent (blank _ (by decide)) (blank _ (by decide)) (blank _ (by decide))

theorem Part.Inert.identifier {name : String} (single : '\'' ∉ name.toList)
    : (Part.identifier name).Inert := by
  intro layout depth
  rw [Part.write, quoteIdentifier, String.toList_ofList]
  exact .identifier single

theorem Part.Inert.literal {content : String} (double : '"' ∉ content.toList)
    : (Part.literal content).Inert := by
  intro layout depth
  rw [Part.write, quoteLiteral, String.toList_ofList]
  exact .literal double

/-- All parts of the draft are copied. -/
def Inert (draft : Draft) : Prop :=
  ∀ part ∈ draft, part.Inert

theorem Inert.nil : Inert [] := by
  simp [Inert]

theorem Inert.cons {part : Part} {rest : Draft} (first : part.Inert) (others : Inert rest)
    : Inert (part :: rest) :=
  List.forall_mem_cons.mpr ⟨first, others⟩

theorem Inert.append {front back : Draft} (first : Inert front) (second : Inert back)
    : Inert (front ++ back) :=
  List.forall_mem_append.mpr ⟨first, second⟩

theorem Inert.single {content : String} (bland : Bland content) : Inert [.text content] :=
  .cons (.text bland) .nil

theorem Inert.column {qualifier name : String} (first : '\'' ∉ qualifier.toList)
    (second : '\'' ∉ name.toList)
    : Inert (Draft.column qualifier name) :=
  .cons (.identifier first) (.cons (.text (by decide)) (.cons (.identifier second) .nil))

theorem Inert.commaSeparated {drafts : List Draft} (inert : ∀ draft ∈ drafts, Inert draft)
    : Inert (List.intercalate [.text ", "] drafts) :=
  forall_mem_commaSeparated (.text (by decide)) inert

/-- An inert draft is steady as an outline. -/
theorem Inert.steady {draft : Draft} (inert : Inert draft)
    : (Outline.ofDraft draft).Steady := by
  induction draft with
  | nil => exact .nil
  | cons part rest ih =>
      obtain ⟨first, others⟩ := List.forall_mem_cons.mp inert
      exact .part first (ih others)

end Draft

-----------------------------------------------------------------------------------------
-- Select lists
-----------------------------------------------------------------------------------------

theorem not_mem_aggregateColumn {use : TableUse} (name : '\'' ∉ use.aliasName.toList)
    : '\'' ∉ use.aggregateColumn.toList := by
  simp [TableUse.aggregateColumn, String.toList_append, name]

/-- Keys and values of the members are copied. -/
def InertMembers (members : List (String × Draft)) : Prop :=
  ∀ member ∈ members, '"' ∉ member.1.toList ∧ member.2.Inert

theorem InertMembers.append {front back : List (String × Draft)} (first : InertMembers front)
    (second : InertMembers back)
    : InertMembers (front ++ back) :=
  List.forall_mem_append.mpr ⟨first, second⟩

namespace TableUse

theorem jsonObject_inert {use : TableUse} (keeps : use.KeepsQuotes)
    {members : List (String × Draft)} (inert : InertMembers members)
    : (use.jsonObject members).Inert := by
  have listed : (jsonMembers members).Inert := by
    refine .commaSeparated fun draft inside => ?_
    obtain ⟨member, found, rfl⟩ := List.mem_map.mp inside
    obtain ⟨key, value⟩ := inert member found
    exact .cons (.literal key) (.cons (.text (by decide)) value)
  have object
      : Draft.Inert
          ([.text "json_strip_nulls(json_build_object("] ++ jsonMembers members
            ++ [.text "))"]) :=
    ((Draft.Inert.single (by decide)).append listed).append (.single (by decide))
  unfold jsonObject
  cases found : use.primaryKey with
  | none => exact object
  | some key =>
      have present := Draft.Inert.column keeps.aliasName (keeps.primaryKey key found)
      exact ((((Draft.Inert.single (by decide)).append present).append
        (.single (by decide))).append object).append (.single (by decide))

theorem columnMembers_inert {use : TableUse} (keeps : use.KeepsQuotes)
    : InertMembers (use.fields.map use.columnMember) := by
  intro member inside
  obtain ⟨field, found, rfl⟩ := List.mem_map.mp inside
  exact ⟨keeps.jsonKeys field found, .column keeps.aliasName (keeps.columns field found)⟩

end TableUse

namespace Relation

theorem arrayMembers_inert {joins : List (Joined Relation)} (keep : AllKeepQuotes joins)
    : InertMembers (joins.map Joined.arrayMember) := by
  induction joins with
  | nil => simp [InertMembers]
  | cons joined rest ih =>
      obtain ⟨keys, relation⟩ := joined
      obtain ⟨own, below, others⟩ := keep
      have name := below.use.aliasName
      exact List.forall_mem_cons.mpr
        ⟨⟨own.jsonKey, .column name (not_mem_aggregateColumn name)⟩, ih others⟩

mutual

/-- An object is copied, by induction over the tree. -/
theorem jsonObject_inert (relation : Relation) (keeps : relation.KeepsQuotes)
    : relation.jsonObject.Inert := by
  match relation with
  | ⟨use, one, many⟩ =>
      obtain ⟨own, ones, manys⟩ := keeps
      have columns := TableUse.columnMembers_inert own
      have objects := objectMembers_inert one ones
      exact TableUse.jsonObject_inert own
        ((columns.append objects).append (arrayMembers_inert manys))

theorem objectMembers_inert (joins : List (Joined Relation)) (keep : AllKeepQuotes joins)
    : InertMembers (objectMembers joins) := by
  match joins with
  | [] => simp [objectMembers, InertMembers]
  | ⟨keys, relation⟩ :: rest =>
      obtain ⟨own, below, others⟩ := keep
      rw [objectMembers]
      exact List.forall_mem_cons.mpr
        ⟨⟨own.jsonKey, jsonObject_inert relation below⟩, objectMembers_inert rest others⟩

end

/-- The rows of a relation are copied around its sort expression, and that is sealed. -/
theorem aggregate_steady {options : RenderOptions} (sequence : '\'' ∉ options.sequenceColumn.toList)
    (relation : Relation) (keeps : relation.KeepsQuotes)
    : (Outline.ofDraft (relation.aggregate options)).Steady := by
  have name := keeps.use.aliasName
  have rows : Draft.Inert ([.text "json_agg("] ++ relation.jsonObject ++ [.text " order by "]) :=
    ((Draft.Inert.single (by decide)).append (relation.jsonObject_inert keeps)).append
      (.single (by decide))
  have numbered
      : Draft.Inert
          (Draft.column relation.use.aliasName options.sequenceColumn
            ++ [.text ") as ", .identifier relation.use.aggregateColumn]) :=
    (Draft.Inert.column name sequence).append
      (.cons (.text (by decide)) (.cons (.identifier (not_mem_aggregateColumn name)) .nil))
  cases order : relation.use.spec.orderBy with
  | none =>
      have all := (rows.append numbered).steady
      simpa [aggregate, order] using all
  | some expression =>
      obtain ⟨single, double, absent⟩ := keeps.use.sorting expression order
      have sorted
          : (Outline.ofDraft
              ([.text expression, .text ", "]
                ++ Draft.column relation.use.aliasName options.sequenceColumn
                ++ [.text ") as ", .identifier relation.use.aggregateColumn])).Steady :=
        .sorting (Quotes.readAll_of_even _ single double) absent ⟨',', [' '], rfl, rfl⟩
          (Draft.Inert.steady (.cons (.text (by decide)) numbered))
      have all := rows.steady.append sorted
      simpa [aggregate, order, Outline.ofDraft] using all

theorem selectList_steady {options : RenderOptions}
    (sequence : '\'' ∉ options.sequenceColumn.toList) (relation : Relation)
    (keeps : relation.KeepsQuotes) {correlation : Option Correlation}
    (tied : ∀ tie ∈ correlation, tie.KeepsQuotes)
    : (Outline.ofDraft (relation.selectList options correlation)).Steady := by
  have rows := aggregate_steady sequence relation keeps
  cases correlation with
  | none => exact rows
  | some correlation =>
      have key
          : Draft.Inert
              (Draft.column relation.use.aliasName correlation.foreignKey
                ++ [.text ",", .line .keep]) :=
        (Draft.Inert.column keeps.use.aliasName (tied _ rfl).foreignKey).append
          (.cons (.text (by decide)) (.cons (.line _) .nil))
      have all := key.steady.append rows
      simpa [selectList, Outline.ofDraft] using all

theorem grouping_inert {aliasName : String} (name : '\'' ∉ aliasName.toList)
    {correlation : Option Correlation} (tied : ∀ tie ∈ correlation, tie.KeepsQuotes)
    : (grouping aliasName correlation).Inert := by
  cases correlation with
  | none => exact .nil
  | some correlation =>
      exact .cons (.line _) (.cons (.text (by decide)) (.column name (tied _ rfl).foreignKey))

theorem onClause_inert {child childColumn parent parentColumn : String}
    (first : '\'' ∉ child.toList) (second : '\'' ∉ childColumn.toList)
    (third : '\'' ∉ parent.toList) (fourth : '\'' ∉ parentColumn.toList)
    : (onClause child childColumn parent parentColumn).Inert :=
  (((Draft.Inert.single (by decide)).append (.column first second)).append
    (.single (by decide))).append (.column third fourth)

theorem joinHead_inert (use : TableUse) : (joinHead use).Inert := by
  have keyword : Bland use.spec.joinType.sql := by
    cases use.spec.joinType <;> decide
  exact .cons (.line _) (.cons (.text keyword) (.single (by decide)))

end Relation

-----------------------------------------------------------------------------------------
-- Sources and whole statements
-----------------------------------------------------------------------------------------

namespace TableUse

theorem scan_inert {options : RenderOptions} (sequence : '\'' ∉ options.sequenceColumn.toList)
    {use : TableUse} (keeps : use.KeepsQuotes) {correlation : Option Correlation}
    (tied : ∀ tie ∈ correlation, tie.KeepsQuotes)
    : (use.scan options correlation).Inert := by
  refine .append
    (.cons (.text (by decide)) (.cons (.identifier sequence)
      (.cons (.text (by decide)) (.cons (.identifier keeps.table) .nil)))) ?_
  cases correlation with
  | none => exact .nil
  | some correlation =>
      have tie := tied _ rfl
      have named : Draft.Inert [.text " as ", .identifier use.aliasName, .text " where "] :=
        .cons (.text (by decide)) (.cons (.identifier keeps.aliasName) (.single (by decide)))
      have condition : (correlation.condition use.aliasName).Inert :=
        ((Draft.Inert.column keeps.aliasName tie.foreignKey).append (.single (by decide))).append
          (.column tie.parentAlias tie.referencedKey)
      exact named.append condition

/-- The answer of a provider stands in parentheses, and the closing one seals it. -/
theorem sourceOutline_steady {options : RenderOptions}
    (sequence : '\'' ∉ options.sequenceColumn.toList) {use : TableUse} (keeps : use.KeepsQuotes)
    {correlation : Option Correlation} (tied : ∀ tie ∈ correlation, tie.KeepsQuotes)
    : (use.sourceOutline options correlation).Steady := by
  have opened : Draft.Inert [.text "("] := .single (by decide)
  have named : Draft.Inert [.text ") as ", .identifier use.aliasName] :=
    .cons (.text (by decide)) (.cons (.identifier keeps.aliasName) .nil)
  unfold sourceOutline rowsOutline
  rw [List.append_assoc]
  refine opened.steady.append ?_
  cases use.spec.subquery with
  | none => exact (scan_inert sequence keeps tied).steady.append named.steady
  | some provider => exact .inquiry ⟨')', " as ".toList, rfl, rfl⟩ named.steady

end TableUse

namespace Relation

mutual

/-- A statement is steady where nothing disturbs its quotes, by induction over the tree. -/
theorem outline_steady {options : RenderOptions} (sequence : '\'' ∉ options.sequenceColumn.toList)
    {correlation : Option Correlation} (tied : ∀ tie ∈ correlation, tie.KeepsQuotes)
    (relation : Relation) (keeps : relation.KeepsQuotes)
    : (relation.outline options correlation).Steady := by
  match relation with
  | ⟨use, one, many⟩ =>
      have list := selectList_steady sequence _ keeps tied
      obtain ⟨own, ones, manys⟩ := keeps
      have selected : Draft.Inert [.text "select", .line .deeper] :=
        .cons (.text (by decide)) (.cons (.line _) .nil)
      have origin : Draft.Inert [.line .shallower, .text "from "] :=
        .cons (.line _) (.single (by decide))
      have head := (selected.steady.append list).append origin.steady
      rw [outline]
      refine .append (.append (.append (.append ?_ ?_) ?_) ?_) ?_
      · simpa [Outline.ofDraft] using head
      · exact TableUse.sourceOutline_steady sequence own tied
      · exact outlineOne_steady sequence own.aliasName one ones
      · exact outlineMany_steady sequence own.aliasName many manys
      · exact (grouping_inert own.aliasName tied).steady

theorem outlineOne_steady {options : RenderOptions}
    (sequence : '\'' ∉ options.sequenceColumn.toList) {parent : String}
    (parentName : '\'' ∉ parent.toList) (joins : List (Joined Relation))
    (keep : AllKeepQuotes joins)
    : (outlineOne options parent joins).Steady := by
  match joins with
  | [] => exact .nil
  | ⟨keys, ⟨use, one, many⟩⟩ :: rest =>
      obtain ⟨names, ⟨own, ones, manys⟩, others⟩ := keep
      rw [outlineOne]
      refine .append (.append (.append (.append (.append ?_ ?_) ?_) ?_) ?_) ?_
      · exact (joinHead_inert use).steady
      · exact TableUse.sourceOutline_steady sequence own nofun
      · exact (onClause_inert own.aliasName names.referencedKey parentName
          names.foreignKey).steady
      · exact outlineOne_steady sequence own.aliasName one ones
      · exact outlineMany_steady sequence own.aliasName many manys
      · exact outlineOne_steady sequence parentName rest others

theorem outlineMany_steady {options : RenderOptions}
    (sequence : '\'' ∉ options.sequenceColumn.toList) {parent : String}
    (parentName : '\'' ∉ parent.toList) (joins : List (Joined Relation))
    (keep : AllKeepQuotes joins)
    : (outlineMany options parent joins).Steady := by
  match joins with
  | [] => exact .nil
  | ⟨keys, relation⟩ :: rest =>
      obtain ⟨names, below, others⟩ := keep
      have name := below.use.aliasName
      have tied
          : ∀ tie ∈ some (⟨parent, keys.foreignKey, keys.referencedKey⟩ : Correlation),
              tie.KeepsQuotes := by
        rintro _ ⟨⟩
        exact ⟨parentName, names.foreignKey, names.referencedKey⟩
      have opened : Draft.Inert [.text "(", .line .deeper] :=
        .cons (.text (by decide)) (.cons (.line _) .nil)
      have closed
          : Draft.Inert [.line .shallower, .text ") ", .identifier relation.use.aliasName] :=
        .cons (.line _) (.cons (.text (by decide)) (.cons (.identifier name) .nil))
      rw [outlineMany]
      refine .append (.append (.append ?_ ?_) ?_) ?_
      · exact ((joinHead_inert relation.use).append opened).steady
      · exact outline_steady sequence tied relation below
      · exact (closed.append
          (onClause_inert name names.foreignKey parentName names.referencedKey)).steady
      · exact outlineMany_steady sequence parentName rest others

end

end Relation

/-- A statement is itself a fragment. If the identifiers of a tree hold no `'` and its JSON keys no
`"`, and its sort expressions and the answers of its providers hold an even number of each, and no
sort expression has a placeholder, then renumbering the rendered statement by any offset does the
same as rendering the tree behind so many arguments: both fail, or both give the same text, and the
arguments are those of the statement.
-/
theorem statement_serves_as_fragment (relation : Relation) (options : RenderOptions)
    (rendered : Rendered) (offset : Nat)
    (sequence : '\'' ∉ options.sequenceColumn.toList) (keeps : relation.KeepsQuotes)
    (even
      : ∀ inquiry ∈ relation.inquiries "", ∀ fragment,
          inquiry.provider inquiry.condition = .ok fragment
          → Even (fragment.sql.toList.count '\'') ∧ Even (fragment.sql.toList.count '"'))
    (success : relation.render options = .ok rendered)
    : (∃ sql,
          renumber rendered.sql offset = .ok sql
          ∧ relation.renderAfter options offset = .ok ⟨sql, rendered.arguments⟩)
      ∨ (∃ digits, renumber rendered.sql offset = .error digits)
        ∧ ∃ error, relation.renderAfter options offset = .error error := by
  obtain ⟨fragments, texts, answers, spliced, rfl⟩ :=
    (relation.renderAfter_eq_ok_iff options 0 rendered).mp success
  have outside : ∀ text ∈ texts, Quotes.readAll {} text.toList = {} := by
    refine spliced.outside fun fragment member => ?_
    obtain ⟨inquiry, asked, answer⟩ := answers.answered member
    obtain ⟨single, double⟩ := even inquiry asked fragment answer
    exact Quotes.readAll_of_even _ single double
  have fits : (relation.outline options none).inquiries.length = texts.length := by
    rw [Relation.inquiries_outline, ← spliced.length_eq]
    exact answers.length_eq
  have untied : ∀ tie ∈ (none : Option Correlation), tie.KeepsQuotes := by simp
  have steady := Relation.outline_steady sequence untied relation keeps
  have moved := steady.renumber_write options.layout offset fits outside
  cases renumbered : texts.mapM (renumber · offset) with
  | ok shifted =>
      rw [renumbered] at moved
      have behind := (spliced.mapM_renumber_eq_ok_iff offset shifted).mp renumbered
      rw [Nat.zero_add] at behind
      exact .inl ⟨_, moved,
        (relation.renderAfter_eq_ok_iff options offset _).mpr ⟨_, _, answers, behind, rfl⟩⟩
  | error digits =>
      rw [renumbered] at moved
      refine .inr ⟨⟨digits, moved⟩, ?_⟩
      cases after : relation.renderAfter options offset with
      | error error => exact ⟨error, rfl⟩
      | ok other =>
          -- A rendering that succeeds has the same answers, and so all texts can be renumbered.
          obtain ⟨same, shifted, others, behind, rfl⟩ :=
            (relation.renderAfter_eq_ok_iff options offset other).mp after
          obtain rfl := answers.unique others
          rw [← Nat.zero_add offset] at behind
          have found := (spliced.mapM_renumber_eq_ok_iff offset shifted).mpr behind
          rw [renumbered] at found
          contradiction

/-- The statement of users and their tracks, spliced in behind three other arguments. -/
theorem statement_serves_as_fragment_of_tracks
    : ∃ rendered sql,
        tracksOfUsers.render {} = .ok rendered
        ∧ renumber rendered.sql 3 = .ok sql
        ∧ tracksOfUsers.renderAfter {} 3 = .ok ⟨sql, rendered.arguments⟩
        ∧ rendered.arguments = [.int 5, .int 6, .int 7] := by
  have asked : Answers (tracksOfUsers.inquiries "") answersOfTracks :=
    .cons rfl (.cons rfl .nil)
  have first : Spliced 0 answersOfTracks ["select $2, $1", "select $3"] :=
    .cons rfl (.cons rfl .nil)
  have behind : Spliced 3 answersOfTracks ["select $5, $4", "select $6"] :=
    .cons rfl (.cons rfl .nil)
  have success := (tracksOfUsers.renderAfter_eq_ok_iff {} 0 _).mpr ⟨_, _, asked, first, rfl⟩
  have after := (tracksOfUsers.renderAfter_eq_ok_iff {} 3 _).mpr ⟨_, _, asked, behind, rfl⟩
  have keeps : tracksOfUsers.KeepsQuotes := by
    refine ⟨?_, trivial, ⟨?_, ?_, ?_⟩, ⟨?_, trivial, trivial⟩, trivial⟩
    · refine ⟨by decide, by decide, by decide, ?_, ?_, ?_⟩ <;> intro _ absent <;> cases absent
    · decide
    · decide
    · decide
    · refine ⟨by decide, by decide, ?_, ?_, ?_, ?_⟩ <;> intro _ absent <;> cases absent
  have even
      : ∀ inquiry ∈ tracksOfUsers.inquiries "", ∀ fragment,
          inquiry.provider inquiry.condition = .ok fragment
          → Even (fragment.sql.toList.count '\'') ∧ Even (fragment.sql.toList.count '"') := by
    intro inquiry member fragment answer
    have known := asked.contains member answer
    simp only [answersOfTracks, List.mem_cons, List.not_mem_nil, or_false] at known
    rcases known with rfl | rfl <;> decide
  rcases statement_serves_as_fragment tracksOfUsers {} _ 3 (by decide) keeps even success with
    ⟨sql, renumbered, same⟩ | ⟨_, error, failed⟩
  · refine ⟨_, sql, success, renumbered, same, ?_⟩
    rfl
  · cases after.symm.trans failed

end NestedSelect

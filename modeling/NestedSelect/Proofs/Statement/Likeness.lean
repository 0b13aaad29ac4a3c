import NestedSelect.Proofs.Statement.Frame
/-!
Relation trees of one form. Two trees are alike up to a relation between their names if they have
the same lists, the same optional data, the same sort expressions and the same join types, and a
provider at the same places. What the providers answer does not matter. The outlines of alike trees
are alike, part by part.
-/

namespace NestedSelect

variable {same : String → String → Prop} {β : Type}

-----------------------------------------------------------------------------------------
-- Likeness of trees
-----------------------------------------------------------------------------------------

/-- Both uses hold names that are the same, and all else but the paths and the answers of their
providers is equal.
-/
structure TableUse.Alike (same : String → String → Prop) (left right : TableUse) : Prop where
  aliasName : same left.aliasName right.aliasName
  table : same left.table right.table
  primaryKey : Option.Rel same left.primaryKey right.primaryKey
  joinType : left.spec.joinType = right.spec.joinType
  subquery : left.spec.subquery.isSome = right.spec.subquery.isSome
  orderBy : left.spec.orderBy = right.spec.orderBy
  fields
    : List.Forall₂
        (fun first second => same first.column second.column ∧ same first.jsonKey second.jsonKey)
        left.fields right.fields

/-- Both ties to a parent go by names that are the same. -/
structure JoinKeys.Alike (same : String → String → Prop) (left right : JoinKeys) : Prop where
  jsonKey : same left.jsonKey right.jsonKey
  foreignKey : same left.foreignKey right.foreignKey
  referencedKey : same left.referencedKey right.referencedKey

namespace Relation

mutual

/-- Both trees have the same form, and uses and keys that are alike at each place. -/
def Alike (same : String → String → Prop) : Relation → Relation → Prop
  | ⟨leftUse, leftOne, leftMany⟩, ⟨rightUse, rightOne, rightMany⟩ =>
    leftUse.Alike same rightUse
    ∧ AllAlike same leftOne rightOne
    ∧ AllAlike same leftMany rightMany

/-- Both lists of children have the same length, and the children are alike in turn. -/
def AllAlike (same : String → String → Prop)
    : List (Joined Relation) → List (Joined Relation) → Prop
  | [], [] => True
  | ⟨leftKeys, left⟩ :: leftRest, ⟨rightKeys, right⟩ :: rightRest =>
    leftKeys.Alike same rightKeys
    ∧ left.Alike same right
    ∧ AllAlike same leftRest rightRest
  | _, _ => False

end

theorem Alike.use {left right : Relation} (alike : left.Alike same right)
    : left.use.Alike same right.use := by
  cases left
  cases right
  exact alike.1

end Relation

/-- Both correlations are there or both are absent, and they go by names that are the same. -/
structure Correlation.Alike (same : String → String → Prop) (left right : Correlation)
    : Prop where
  parentAlias : same left.parentAlias right.parentAlias
  foreignKey : same left.foreignKey right.foreignKey
  referencedKey : same left.referencedKey right.referencedKey

-----------------------------------------------------------------------------------------
-- Likeness of drafts and outlines
-----------------------------------------------------------------------------------------

namespace Draft

/-- Both parts are of one kind, and they differ in nothing but names that are the same. -/
def Part.Alike (same : String → String → Prop) : Part → Part → Prop
  | .text left, .text right => left = right
  | .identifier left, .identifier right => same left right
  | .literal left, .literal right => same left right
  | .line left, .line right => left = right
  | _, _ => False

/-- The parts of both drafts are alike in turn. -/
def Alike (same : String → String → Prop) : Draft → Draft → Prop :=
  List.Forall₂ (Part.Alike same)

theorem Alike.nil : Alike same [] [] := List.Forall₂.nil

theorem Alike.append {left right leftBack rightBack : Draft} (front : Alike same left right)
    (back : Alike same leftBack rightBack)
    : Alike same (left ++ leftBack) (right ++ rightBack) :=
  List.rel_append front back

theorem Alike.text (content : String) {left right : Draft} (rest : Alike same left right)
    : Alike same (.text content :: left) (.text content :: right) :=
  .cons rfl rest

theorem Alike.line (shift : LineShift) {left right : Draft} (rest : Alike same left right)
    : Alike same (.line shift :: left) (.line shift :: right) :=
  .cons rfl rest

theorem Alike.identifier {leftName rightName : String} (name : same leftName rightName)
    {left right : Draft} (rest : Alike same left right)
    : Alike same (.identifier leftName :: left) (.identifier rightName :: right) :=
  .cons name rest

theorem Alike.literal {leftContent rightContent : String}
    (content : same leftContent rightContent) {left right : Draft}
    (rest : Alike same left right)
    : Alike same (.literal leftContent :: left) (.literal rightContent :: right) :=
  .cons content rest

theorem Alike.column {leftQualifier rightQualifier leftName rightName : String}
    (qualifier : same leftQualifier rightQualifier) (name : same leftName rightName)
    : Alike same (Draft.column leftQualifier leftName) (Draft.column rightQualifier rightName) :=
  .identifier qualifier (.text "." (.identifier name .nil))

end Draft

namespace Outline

/-- Parts that are alike, or any two inquiries. -/
def Item.Alike (same : String → String → Prop) : Item → Item → Prop
  | .part left, .part right => left.Alike same right
  | .inquiry _, .inquiry _ => True
  | _, _ => False

/-- The items of both outlines are alike in turn. -/
def Alike (same : String → String → Prop) : Outline → Outline → Prop :=
  List.Forall₂ (Item.Alike same)

theorem Alike.append {left right leftBack rightBack : Outline} (front : Alike same left right)
    (back : Alike same leftBack rightBack)
    : Alike same (left ++ leftBack) (right ++ rightBack) :=
  List.rel_append front back

theorem Alike.ofDraft {left right : Draft} (drafts : left.Alike same right)
    : Alike same (ofDraft left) (ofDraft right) :=
  List.forall₂_map_left_iff.mpr (List.forall₂_map_right_iff.mpr drafts)

/-- Alike outlines have one frame, where a spelling does not tell alike parts apart. -/
theorem Alike.frame_eq {left right : Outline} (alike : Alike same left right)
    (spelling : Nat → Draft.Part → List β)
    (unseen : ∀ depth first second, Draft.Part.Alike same first second
      → spelling depth first = spelling depth second) (depth : Nat)
    : left.frame spelling depth = right.frame spelling depth := by
  induction alike generalizing depth with
  | nil => rfl
  | @cons first second leftRest rightRest head _ ih =>
      cases first with
      | inquiry _ =>
          cases second with
          | inquiry _ => exact congrArg ([] :: ·) (ih depth)
          | part _ => exact head.elim
      | part first =>
          cases second with
          | inquiry _ => exact head.elim
          | part second =>
              have level : first.depthAfter depth = second.depthAfter depth := by
                cases first <;> cases second <;>
                  simp_all [Item.Alike, Draft.Part.Alike, Draft.Part.depthAfter]
              rw [frame, frame, unseen depth first second head, level, ih]

end Outline

-----------------------------------------------------------------------------------------
-- Alike trees have alike outlines
-----------------------------------------------------------------------------------------

namespace Draft

/-- Alike drafts may be listed with commas between them. -/
theorem Alike.commaSeparated {left right : List Draft}
    (alike : List.Forall₂ (Alike same) left right)
    : Alike same (List.intercalate [.text ", "] left)
        (List.intercalate [.text ", "] right) := by
  induction alike with
  | nil => exact .nil
  | @cons first second leftRest rightRest head tail ih =>
      cases tail with
      | nil => simpa only [List.intercalate_singleton] using head
      | cons next rest =>
          simp only [List.intercalate_cons_cons, List.append_assoc]
          exact head.append (.text ", " ih)

end Draft

/-- Both members have keys that are the same and values that are alike. -/
def MemberAlike (same : String → String → Prop) (left right : String × Draft) : Prop :=
  same left.1 right.1 ∧ left.2.Alike same right.2

theorem jsonMembers_alike {left right : List (String × Draft)}
    (alike : List.Forall₂ (MemberAlike same) left right)
    : Draft.Alike same (jsonMembers left) (jsonMembers right) := by
  refine .commaSeparated ?_
  rw [List.forall₂_map_left_iff, List.forall₂_map_right_iff]
  exact alike.imp fun first second alike => .literal alike.1 (.text ", " alike.2)

namespace TableUse.Alike

variable {left right : TableUse}

theorem jsonObject (uses : left.Alike same right) {leftMembers rightMembers : List (String × Draft)}
    (members : List.Forall₂ (MemberAlike same) leftMembers rightMembers)
    : Draft.Alike same (left.jsonObject leftMembers) (right.jsonObject rightMembers) := by
  have object
      : Draft.Alike same
          ([.text "json_strip_nulls(json_build_object("] ++ jsonMembers leftMembers
            ++ [.text "))"])
          ([.text "json_strip_nulls(json_build_object("] ++ jsonMembers rightMembers
            ++ [.text "))"]) :=
    .append (.text _ (jsonMembers_alike members)) (.text _ .nil)
  unfold TableUse.jsonObject
  cases leftKey : left.primaryKey with
  | none =>
      cases rightKey : right.primaryKey with
      | none => exact object
      | some key => simpa [leftKey, rightKey] using uses.primaryKey
  | some leftName =>
      cases rightKey : right.primaryKey with
      | none => simpa [leftKey, rightKey] using uses.primaryKey
      | some rightName =>
          have key : same leftName rightName := by
            simpa [leftKey, rightKey] using uses.primaryKey
          exact (((Draft.Alike.text _ (.column uses.aliasName key)).append (.text _ .nil)).append
            object).append (.text _ .nil)

theorem columnMembers (uses : left.Alike same right)
    : List.Forall₂ (MemberAlike same) (left.fields.map left.columnMember)
        (right.fields.map right.columnMember) := by
  rw [List.forall₂_map_left_iff, List.forall₂_map_right_iff]
  exact uses.fields.imp fun first second alike => ⟨alike.2, .column uses.aliasName alike.1⟩

end TableUse.Alike

/-- Names that are the same stay so with the suffix of aggregate columns. -/
def Suffixed (same : String → String → Prop) : Prop :=
  ∀ left right, same left right → same (left ++ "_json") (right ++ "_json")

namespace Relation

theorem arrayMembers_alike (suffixed : Suffixed same) (left right : List (Joined Relation))
    (alike : AllAlike same left right)
    : List.Forall₂ (MemberAlike same) (left.map Joined.arrayMember)
        (right.map Joined.arrayMember) := by
  match left, right with
  | [], [] => exact .nil
  | ⟨leftKeys, leftRelation⟩ :: leftRest, ⟨rightKeys, rightRelation⟩ :: rightRest =>
      obtain ⟨keys, relations, rest⟩ := alike
      have name := relations.use.aliasName
      exact .cons ⟨keys.jsonKey, .column name (suffixed _ _ name)⟩
        (arrayMembers_alike suffixed leftRest rightRest rest)
  | [], _ :: _ => exact alike.elim
  | _ :: _, [] => exact alike.elim

mutual

/-- The JSON objects of alike trees are alike, by induction over the tree. -/
theorem jsonObject_alike (suffixed : Suffixed same) (left right : Relation)
    (alike : left.Alike same right)
    : Draft.Alike same left.jsonObject right.jsonObject := by
  match left, right with
  | ⟨leftUse, leftOne, leftMany⟩, ⟨rightUse, rightOne, rightMany⟩ =>
      obtain ⟨uses, one, many⟩ := alike
      refine uses.jsonObject (List.rel_append (List.rel_append uses.columnMembers ?_) ?_)
      · exact objectMembers_alike suffixed leftOne rightOne one
      · exact arrayMembers_alike suffixed leftMany rightMany many

theorem objectMembers_alike (suffixed : Suffixed same) (left right : List (Joined Relation))
    (alike : AllAlike same left right)
    : List.Forall₂ (MemberAlike same) (objectMembers left) (objectMembers right) := by
  match left, right with
  | [], [] => exact .nil
  | ⟨leftKeys, leftRelation⟩ :: leftRest, ⟨rightKeys, rightRelation⟩ :: rightRest =>
      obtain ⟨keys, relations, rest⟩ := alike
      exact .cons ⟨keys.jsonKey, jsonObject_alike suffixed leftRelation rightRelation relations⟩
        (objectMembers_alike suffixed leftRest rightRest rest)
  | [], _ :: _ => exact alike.elim
  | _ :: _, [] => exact alike.elim

end

variable {leftOptions rightOptions : RenderOptions}
  {leftCorrelation rightCorrelation : Option Correlation}

theorem aggregate_alike (suffixed : Suffixed same) {left right : Relation}
    (alike : left.Alike same right)
    (sequence : same leftOptions.sequenceColumn rightOptions.sequenceColumn)
    : Draft.Alike same (left.aggregate leftOptions) (right.aggregate rightOptions) := by
  have name := alike.use.aliasName
  have object := jsonObject_alike suffixed left right alike
  refine (((((Draft.Alike.text _ .nil).append object).append (.text _ .nil)).append ?_).append
    (.column name sequence)).append (.text _ (.identifier (suffixed _ _ name) .nil))
  rw [alike.use.orderBy]
  cases right.use.spec.orderBy with
  | none => exact .nil
  | some expression => exact .text expression (.text ", " .nil)

theorem selectList_alike (suffixed : Suffixed same) {left right : Relation}
    (alike : left.Alike same right)
    (sequence : same leftOptions.sequenceColumn rightOptions.sequenceColumn)
    (correlations : Option.Rel (Correlation.Alike same) leftCorrelation rightCorrelation)
    : Draft.Alike same (left.selectList leftOptions leftCorrelation)
        (right.selectList rightOptions rightCorrelation) := by
  refine .append ?_ (aggregate_alike suffixed alike sequence)
  cases correlations with
  | none => exact .nil
  | some keys =>
      exact (Draft.Alike.column alike.use.aliasName keys.foreignKey).append
        (.text _ (.line _ .nil))

theorem grouping_alike {leftName rightName : String} (name : same leftName rightName)
    (correlations : Option.Rel (Correlation.Alike same) leftCorrelation rightCorrelation)
    : Draft.Alike same (grouping leftName leftCorrelation)
        (grouping rightName rightCorrelation) := by
  cases correlations with
  | none => exact .nil
  | some keys => exact .line _ (.text _ (.column name keys.foreignKey))

theorem onClause_alike {left leftColumn leftParent leftParentColumn right rightColumn
      rightParent rightParentColumn : String}
    (child : same left right) (column : same leftColumn rightColumn)
    (parent : same leftParent rightParent)
    (parentColumn : same leftParentColumn rightParentColumn)
    : Draft.Alike same (onClause left leftColumn leftParent leftParentColumn)
        (onClause right rightColumn rightParent rightParentColumn) :=
  ((Draft.Alike.text _ (.column child column)).append (.text _ .nil)).append
    (.column parent parentColumn)

theorem joinHead_alike {left right : TableUse} (uses : left.Alike same right)
    : Draft.Alike same (joinHead left) (joinHead right) := by
  unfold joinHead
  rw [uses.joinType]
  exact .line _ (.text _ (.text _ .nil))

end Relation

namespace TableUse.Alike

variable {left right : TableUse} {leftOptions rightOptions : RenderOptions}
  {leftCorrelation rightCorrelation : Option Correlation}

theorem scan (uses : left.Alike same right)
    (sequence : same leftOptions.sequenceColumn rightOptions.sequenceColumn)
    (correlations : Option.Rel (Correlation.Alike same) leftCorrelation rightCorrelation)
    : Draft.Alike same (left.scan leftOptions leftCorrelation)
        (right.scan rightOptions rightCorrelation) := by
  refine .append (.text _ (.identifier sequence (.text _ (.identifier uses.table .nil)))) ?_
  cases correlations with
  | none => exact .nil
  | some keys =>
      exact .text _ (.identifier uses.aliasName (.text _
        (((Draft.Alike.column uses.aliasName keys.foreignKey).append (.text _ .nil)).append
          (.column keys.parentAlias keys.referencedKey))))

/-- The sources of alike uses are alike, where an open source is like any other. -/
theorem sourceOutline (uses : left.Alike same right)
    (sequence : same leftOptions.sequenceColumn rightOptions.sequenceColumn)
    (correlations : Option.Rel (Correlation.Alike same) leftCorrelation rightCorrelation)
    : Outline.Alike same (left.sourceOutline leftOptions leftCorrelation)
        (right.sourceOutline rightOptions rightCorrelation) := by
  refine .append (.append (.ofDraft (.text _ .nil)) ?_)
    (.ofDraft (.text _ (.identifier uses.aliasName .nil)))
  have present := uses.subquery
  unfold rowsOutline
  cases leftProvider : left.spec.subquery with
  | none =>
      cases rightProvider : right.spec.subquery with
      | none => exact .ofDraft (uses.scan sequence correlations)
      | some provider => simp [leftProvider, rightProvider] at present
  | some provider =>
      cases rightProvider : right.spec.subquery with
      | none => simp [leftProvider, rightProvider] at present
      | some other => exact .cons trivial .nil

end TableUse.Alike

namespace Relation

variable {leftOptions rightOptions : RenderOptions}

mutual

/-- The statements of alike trees are alike before any provider is asked. By induction over the
tree.
-/
theorem outline_alike (suffixed : Suffixed same)
    (sequence : same leftOptions.sequenceColumn rightOptions.sequenceColumn)
    {leftCorrelation rightCorrelation : Option Correlation}
    (correlations : Option.Rel (Correlation.Alike same) leftCorrelation rightCorrelation)
    (left right : Relation) (alike : left.Alike same right)
    : Outline.Alike same (left.outline leftOptions leftCorrelation)
        (right.outline rightOptions rightCorrelation) := by
  match left, right with
  | ⟨leftUse, leftOne, leftMany⟩, ⟨rightUse, rightOne, rightMany⟩ =>
      have list := selectList_alike suffixed alike sequence correlations
      obtain ⟨uses, one, many⟩ := alike
      have name := uses.aliasName
      rw [outline, outline]
      refine .append (.append (.append (.append (.ofDraft ?_) ?_) ?_) ?_) (.ofDraft ?_)
      · exact ((Draft.Alike.text _ (.line _ .nil)).append list).append (.line _ (.text _ .nil))
      · exact uses.sourceOutline sequence correlations
      · exact outlineOne_alike suffixed sequence name leftOne rightOne one
      · exact outlineMany_alike suffixed sequence name leftMany rightMany many
      · exact grouping_alike name correlations

theorem outlineOne_alike (suffixed : Suffixed same)
    (sequence : same leftOptions.sequenceColumn rightOptions.sequenceColumn)
    {leftParent rightParent : String} (parents : same leftParent rightParent)
    (left right : List (Joined Relation)) (alike : AllAlike same left right)
    : Outline.Alike same (outlineOne leftOptions leftParent left)
        (outlineOne rightOptions rightParent right) := by
  match left, right with
  | [], [] => exact .nil
  | ⟨leftKeys, ⟨leftUse, leftOne, leftMany⟩⟩ :: leftRest,
      ⟨rightKeys, ⟨rightUse, rightOne, rightMany⟩⟩ :: rightRest =>
      obtain ⟨keys, ⟨uses, one, many⟩, rest⟩ := alike
      have name := uses.aliasName
      rw [outlineOne, outlineOne]
      refine .append (.append (.append (.append (.append (.ofDraft ?_) ?_) (.ofDraft ?_)) ?_) ?_) ?_
      · exact joinHead_alike uses
      · exact uses.sourceOutline sequence .none
      · exact onClause_alike name keys.referencedKey parents keys.foreignKey
      · exact outlineOne_alike suffixed sequence name leftOne rightOne one
      · exact outlineMany_alike suffixed sequence name leftMany rightMany many
      · exact outlineOne_alike suffixed sequence parents leftRest rightRest rest
  | [], _ :: _ => exact alike.elim
  | _ :: _, [] => exact alike.elim

theorem outlineMany_alike (suffixed : Suffixed same)
    (sequence : same leftOptions.sequenceColumn rightOptions.sequenceColumn)
    {leftParent rightParent : String} (parents : same leftParent rightParent)
    (left right : List (Joined Relation)) (alike : AllAlike same left right)
    : Outline.Alike same (outlineMany leftOptions leftParent left)
        (outlineMany rightOptions rightParent right) := by
  match left, right with
  | [], [] => exact .nil
  | ⟨leftKeys, leftRelation⟩ :: leftRest, ⟨rightKeys, rightRelation⟩ :: rightRest =>
      obtain ⟨keys, relations, rest⟩ := alike
      have name := relations.use.aliasName
      have ties
          : Correlation.Alike same ⟨leftParent, leftKeys.foreignKey, leftKeys.referencedKey⟩
              ⟨rightParent, rightKeys.foreignKey, rightKeys.referencedKey⟩ :=
        ⟨parents, keys.foreignKey, keys.referencedKey⟩
      rw [outlineMany, outlineMany]
      refine .append (.append (.append (.ofDraft ?_) ?_) (.ofDraft ?_)) ?_
      · exact (joinHead_alike relations.use).append (.text _ (.line _ .nil))
      · exact outline_alike suffixed sequence (.some ties) leftRelation rightRelation relations
      · exact (Draft.Alike.line _ (.text _ (.identifier name .nil))).append
          (onClause_alike name keys.foreignKey parents keys.referencedKey)
      · exact outlineMany_alike suffixed sequence parents leftRest rightRest rest
  | [], _ :: _ => exact alike.elim
  | _ :: _, [] => exact alike.elim

end

end Relation

end NestedSelect

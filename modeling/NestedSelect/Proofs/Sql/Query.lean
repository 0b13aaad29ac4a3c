import NestedSelect.Join.Spec
import NestedSelect.Proofs.Text.Words
/-!
Queries. The SQL that is needed to select rows as nested JSON, and the words that each piece of it
is written with. A text has at most one reading as a query.
-/

namespace NestedSelect.Sql

open Lexing

-----------------------------------------------------------------------------------------
-- Syntax
-----------------------------------------------------------------------------------------

/-- An expression over the columns of a row, or of the rows of a group. -/
inductive Expression where
  | column (qualifier name : String)
  | text (content : String)
  | rowNumber
  | stripNulls (value : Expression)
  /-- A JSON object of keys and values in turn. -/
  | buildObject (arguments : List Expression)
  /-- The value where another one is not null. -/
  | unlessNull (tested value : Expression)
  /-- The JSON array of all values of a group. -/
  | aggregate (value order : Expression)

/-- The values on both sides are equal. -/
structure Comparison where
  left : Expression
  right : Expression

/-- What a query selects. -/
inductive Output where
  /-- All columns of its source. -/
  | all
  | value (expression : Expression) (name : Option String)

mutual

/-- A select over some sources. -/
inductive Query where
  | select (outputs : List Output) (first : Source) (joins : List Join)
    (condition : Option Comparison) (grouping : Option Expression)

/-- An item of a from clause. -/
inductive Source where
  | table (name : String) (aliasName : Option String)
  | derived (query : Query) (aliasName : String)

/-- A source that is joined to those on its left, which it may look at. -/
inductive Join where
  | lateral (joinType : JoinType) (source : Source) (condition : Comparison)

end

-----------------------------------------------------------------------------------------
-- Words
-----------------------------------------------------------------------------------------

mutual

def Expression.words : Expression → List Word
  | .column qualifier name =>
    [.quoted .identifier qualifier, .mark '.', .quoted .identifier name]
  | .text content => [.quoted .literal content]
  | .rowNumber =>
    [.keyword "row_number", .mark '(', .mark ')', .keyword "over", .mark '(', .mark ')']
  | .stripNulls value => .keyword "json_strip_nulls" :: .mark '(' :: value.words ++ [.mark ')']
  | .buildObject arguments =>
    .keyword "json_build_object" :: .mark '(' :: Expression.listed arguments ++ [.mark ')']
  | .unlessNull tested value =>
    .keyword "case" :: .keyword "when" :: tested.words
      ++ .keyword "is" :: .keyword "null" :: .keyword "then" :: .keyword "null"
        :: .keyword "else" :: value.words ++ [.keyword "end"]
  | .aggregate value order =>
    .keyword "json_agg" :: .mark '(' :: value.words
      ++ .keyword "order" :: .keyword "by" :: order.words ++ [.mark ')']

/-- The words of some expressions with commas between them. -/
def Expression.listed : List Expression → List Word
  | [] => []
  | [last] => last.words
  | first :: next :: rest => first.words ++ .mark ',' :: Expression.listed (next :: rest)

end

def Comparison.words (comparison : Comparison) : List Word :=
  comparison.left.words ++ .mark '=' :: comparison.right.words

def nameWords : Option String → List Word
  | none => []
  | some name => [.quoted .identifier name]

def Output.words : Output → List Word
  | .all => [.mark '*']
  | .value expression name => expression.words ++ nameWords name

def Output.listed : List Output → List Word
  | [] => []
  | [last] => last.words
  | first :: next :: rest => first.words ++ .mark ',' :: Output.listed (next :: rest)

def joinWords : JoinType → List Word
  | .left => [.keyword "left", .keyword "join"]
  | .right => [.keyword "right", .keyword "join"]
  | .inner => [.keyword "inner", .keyword "join"]
  | .fullOuter => [.keyword "full", .keyword "outer", .keyword "join"]

def whereWords : Option Comparison → List Word
  | none => []
  | some condition => .keyword "where" :: condition.words

def groupWords : Option Expression → List Word
  | none => []
  | some expression => .keyword "group" :: .keyword "by" :: expression.words

mutual

def Query.words : Query → List Word
  | .select outputs first joins condition grouping =>
    .keyword "select" :: Output.listed outputs ++ .keyword "from" :: first.words
      ++ Join.allWords joins ++ whereWords condition ++ groupWords grouping

def Source.words : Source → List Word
  | .table name aliasName => .quoted .identifier name :: nameWords aliasName
  | .derived query aliasName =>
    .mark '(' :: query.words ++ [.mark ')', .quoted .identifier aliasName]

def Join.allWords : List Join → List Word
  | [] => []
  | .lateral joinType source condition :: rest =>
    joinWords joinType ++ .keyword "lateral" :: source.words
      ++ .keyword "on" :: condition.words ++ Join.allWords rest

end

theorem Join.allWords_append (front back : List Join)
    : allWords (front ++ back) = allWords front ++ allWords back := by
  induction front with
  | nil => rfl
  | cons join rest ih =>
      cases join
      simp [allWords, ih]

/-- The text is read as the query. -/
def Query.Reads (query : Query) (text : String) : Prop :=
  Lexing.words text = some query.words

-----------------------------------------------------------------------------------------
-- Readings are unique
-----------------------------------------------------------------------------------------

namespace Expression

/-- No expression starts with a mark. -/
theorem words_ne_mark (expression : Expression) (c : Char) (rest others : List Word)
    : expression.words ++ rest ≠ .mark c :: others := by
  cases expression <;> simp [words]

mutual

/-- The words of an expression are no beginning of the words of another one. By induction over the
expression, whose first words tell of which kind it is.
-/
theorem words_cancel (left right : Expression) (leftRest rightRest : List Word)
    (same : left.words ++ leftRest = right.words ++ rightRest)
    : left = right ∧ leftRest = rightRest := by
  match left with
  | .column qualifier name =>
      cases right with
      | column => simpa [words, and_assoc] using same
      | _ => simp [words] at same
  | .text content =>
      cases right with
      | text => simpa [words] using same
      | _ => simp [words] at same
  | .rowNumber =>
      cases right with
      | rowNumber => simpa [words] using same
      | _ => simp [words] at same
  | .stripNulls value =>
      cases right with
      | stripNulls other =>
          simp only [words, List.cons_append, List.append_assoc, List.cons.injEq] at same
          obtain ⟨rfl, rest⟩ := words_cancel value other _ _ same.2.2
          exact ⟨rfl, (List.cons.inj rest).2⟩
      | _ => simp [words] at same
  | .buildObject arguments =>
      cases right with
      | buildObject others =>
          simp only [words, List.cons_append, List.append_assoc, List.cons.injEq] at same
          obtain ⟨rfl, rest⟩ := listed_cancel arguments others _ _ same.2.2
          exact ⟨rfl, rest⟩
      | _ => simp [words] at same
  | .unlessNull tested value =>
      cases right with
      | unlessNull otherTested otherValue =>
          simp only [words, List.cons_append, List.append_assoc, List.cons.injEq] at same
          obtain ⟨rfl, behind⟩ := words_cancel tested otherTested _ _ same.2.2
          simp only [List.cons.injEq] at behind
          obtain ⟨rfl, rest⟩ := words_cancel value otherValue _ _ behind.2.2.2.2.2
          exact ⟨rfl, (List.cons.inj rest).2⟩
      | _ => simp [words] at same
  | .aggregate value order =>
      cases right with
      | aggregate otherValue otherOrder =>
          simp only [words, List.cons_append, List.append_assoc, List.cons.injEq] at same
          obtain ⟨rfl, behind⟩ := words_cancel value otherValue _ _ same.2.2
          simp only [List.cons.injEq] at behind
          obtain ⟨rfl, rest⟩ := words_cancel order otherOrder _ _ behind.2.2
          exact ⟨rfl, (List.cons.inj rest).2⟩
      | _ => simp [words] at same

theorem listed_cancel (left right : List Expression) (leftRest rightRest : List Word)
    (same : listed left ++ .mark ')' :: leftRest = listed right ++ .mark ')' :: rightRest)
    : left = right ∧ leftRest = rightRest := by
  match left, right with
  | [], [] => exact ⟨rfl, (List.cons.inj same).2⟩
  | [], [other] => exact absurd same.symm (words_ne_mark other _ _ _)
  | [], other :: next :: others =>
      rw [listed, listed, List.append_assoc] at same
      exact absurd same.symm (words_ne_mark other _ _ _)
  | [value], [] => exact absurd same (words_ne_mark value _ _ _)
  | value :: next :: values, [] =>
      rw [listed, listed, List.append_assoc] at same
      exact absurd same (words_ne_mark value _ _ _)
  | [value], [other] =>
      obtain ⟨rfl, rest⟩ := words_cancel value other _ _ same
      exact ⟨rfl, (List.cons.inj rest).2⟩
  | [value], other :: next :: others =>
      rw [listed, listed, List.append_assoc] at same
      obtain ⟨-, rest⟩ := words_cancel value other _ _ same
      simp at rest
  | value :: next :: values, [other] =>
      rw [listed, listed, List.append_assoc] at same
      obtain ⟨-, rest⟩ := words_cancel value other _ _ same
      simp at rest
  | value :: next :: values, other :: otherNext :: others =>
      rw [listed, listed, List.append_assoc, List.append_assoc] at same
      obtain ⟨rfl, rest⟩ := words_cancel value other _ _ same
      obtain ⟨tail, rest⟩ :=
        listed_cancel (next :: values) (otherNext :: others) _ _ (List.cons.inj rest).2
      exact ⟨by rw [tail], rest⟩

end

end Expression

theorem Comparison.words_cancel (left right : Comparison) (leftRest rightRest : List Word)
    (same : left.words ++ leftRest = right.words ++ rightRest)
    : left = right ∧ leftRest = rightRest := by
  obtain ⟨first, second⟩ := left
  obtain ⟨otherFirst, otherSecond⟩ := right
  simp only [words, List.append_assoc, List.cons_append] at same
  obtain ⟨rfl, behind⟩ := Expression.words_cancel first otherFirst _ _ same
  obtain ⟨rfl, rest⟩ := Expression.words_cancel second otherSecond _ _ (List.cons.inj behind).2
  exact ⟨rfl, rest⟩

/-- The words do not go on with a name. -/
def Nameless (rest : List Word) : Prop :=
  ∀ name, rest.head? ≠ some (.quoted .identifier name)

theorem nameWords_cancel {left right : Option String} {leftRest rightRest : List Word}
    (leftNameless : Nameless leftRest) (rightNameless : Nameless rightRest)
    (same : nameWords left ++ leftRest = nameWords right ++ rightRest)
    : left = right ∧ leftRest = rightRest := by
  cases left with
  | none =>
      cases right with
      | none => exact ⟨rfl, same⟩
      | some other => exact absurd (congrArg List.head? same) (leftNameless other)
  | some name =>
      cases right with
      | none => exact absurd (congrArg List.head? same).symm (rightNameless name)
      | some other => simpa [nameWords] using same

theorem Output.words_cancel (left right : Output) {leftRest rightRest : List Word}
    (leftNameless : Nameless leftRest) (rightNameless : Nameless rightRest)
    (same : left.words ++ leftRest = right.words ++ rightRest)
    : left = right ∧ leftRest = rightRest := by
  cases left with
  | all =>
      cases right with
      | all => exact ⟨rfl, (List.cons.inj same).2⟩
      | value other otherName =>
          rw [words, words, List.append_assoc] at same
          exact absurd same.symm (Expression.words_ne_mark other _ _ _)
  | value expression name =>
      cases right with
      | all =>
          rw [words, words, List.append_assoc] at same
          exact absurd same (Expression.words_ne_mark expression _ _ _)
      | value other otherName =>
          rw [words, words, List.append_assoc, List.append_assoc] at same
          obtain ⟨rfl, behind⟩ := Expression.words_cancel expression other _ _ same
          obtain ⟨rfl, rest⟩ := nameWords_cancel leftNameless rightNameless behind
          exact ⟨rfl, rest⟩

/-- No output starts like a from clause. -/
theorem Output.words_ne_from (output : Output) (rest others : List Word)
    : output.words ++ rest ≠ .keyword "from" :: others := by
  match output with
  | .all => simp [words]
  | .value expression _ => cases expression <;> simp [words, Expression.words]

theorem nameless_keyword (letters : String) (rest : List Word)
    : Nameless (.keyword letters :: rest) := by
  simp [Nameless]

theorem nameless_mark (c : Char) (rest : List Word) : Nameless (.mark c :: rest) := by
  simp [Nameless]

theorem Output.listed_cancel (left right : List Output) (leftRest rightRest : List Word)
    (same
      : listed left ++ .keyword "from" :: leftRest = listed right ++ .keyword "from" :: rightRest)
    : left = right ∧ leftRest = rightRest := by
  match left, right with
  | [], [] => exact ⟨rfl, (List.cons.inj same).2⟩
  | [], [other] => exact absurd same.symm (words_ne_from other _ _)
  | [], other :: next :: others =>
      rw [listed, listed, List.append_assoc] at same
      exact absurd same.symm (words_ne_from other _ _)
  | [output], [] => exact absurd same (words_ne_from output _ _)
  | output :: next :: outputs, [] =>
      rw [listed, listed, List.append_assoc] at same
      exact absurd same (words_ne_from output _ _)
  | [output], [other] =>
      obtain ⟨rfl, rest⟩ :=
        words_cancel output other (nameless_keyword _ _) (nameless_keyword _ _) same
      exact ⟨rfl, (List.cons.inj rest).2⟩
  | [output], other :: next :: others =>
      rw [listed, listed, List.append_assoc] at same
      obtain ⟨-, rest⟩ :=
        words_cancel output other (nameless_keyword _ _) (nameless_mark _ _) same
      simp at rest
  | output :: next :: outputs, [other] =>
      rw [listed, listed, List.append_assoc] at same
      obtain ⟨-, rest⟩ :=
        words_cancel output other (nameless_mark _ _) (nameless_keyword _ _) same
      simp at rest
  | output :: next :: outputs, other :: otherNext :: others =>
      rw [listed, listed, List.append_assoc, List.append_assoc] at same
      obtain ⟨rfl, rest⟩ :=
        words_cancel output other (nameless_mark _ _) (nameless_mark _ _) same
      obtain ⟨tail, rest⟩ :=
        listed_cancel (next :: outputs) (otherNext :: others) _ _ (List.cons.inj rest).2
      exact ⟨by rw [tail], rest⟩

/-- The words may stand behind a query: they are over, or close the parenthesis around it. -/
def Closing (rest : List Word) : Prop :=
  ∀ word ∈ rest.head?, word = .mark ')'

theorem Closing.ne_keyword {rest : List Word} (closing : Closing rest) (letters : String)
    (others : List Word)
    : rest ≠ .keyword letters :: others := by
  rintro rfl
  simpa using closing _ rfl

/-- The last clauses of a query and what is behind it do not start with anything that may stand in
front of them.
-/
theorem clauses_open (condition : Option Comparison) (grouping : Option Expression)
    {rest : List Word} (closing : Closing rest)
    : Nameless (whereWords condition ++ (groupWords grouping ++ rest))
      ∧ ∀ joinType others,
          whereWords condition ++ (groupWords grouping ++ rest) ≠ joinWords joinType ++ others := by
  cases condition with
  | some condition =>
      refine ⟨nameless_keyword _ _, ?_⟩
      intro joinType others
      cases joinType <;> simp [whereWords, joinWords]
  | none =>
      cases grouping with
      | some grouping =>
          refine ⟨nameless_keyword _ _, ?_⟩
          intro joinType others
          cases joinType <;> simp [whereWords, groupWords, joinWords]
      | none =>
          cases rest with
          | nil =>
              refine ⟨by simp [Nameless, whereWords, groupWords], ?_⟩
              intro joinType others
              cases joinType <;> simp [whereWords, groupWords, joinWords]
          | cons word rest =>
              obtain rfl := closing word rfl
              refine ⟨nameless_mark _ _, ?_⟩
              intro joinType others
              cases joinType <;> simp [whereWords, groupWords, joinWords]

theorem groupWords_cancel {left right : Option Expression} {leftRest rightRest : List Word}
    (leftClosing : Closing leftRest) (rightClosing : Closing rightRest)
    (same : groupWords left ++ leftRest = groupWords right ++ rightRest)
    : left = right ∧ leftRest = rightRest := by
  cases left with
  | none =>
      cases right with
      | none => exact ⟨rfl, same⟩
      | some other =>
          exact absurd same (leftClosing.ne_keyword _ _)
  | some expression =>
      cases right with
      | none =>
          exact absurd same.symm (rightClosing.ne_keyword _ _)
      | some other =>
          simp only [groupWords, List.cons_append, List.cons.injEq, true_and] at same
          obtain ⟨rfl, rest⟩ := Expression.words_cancel expression other _ _ same
          exact ⟨rfl, rest⟩

theorem clauses_cancel {left right : Option Comparison} {leftGrouping rightGrouping}
    {leftRest rightRest : List Word} (leftClosing : Closing leftRest)
    (rightClosing : Closing rightRest)
    (same
      : whereWords left ++ (groupWords leftGrouping ++ leftRest)
        = whereWords right ++ (groupWords rightGrouping ++ rightRest))
    : left = right ∧ leftGrouping = rightGrouping ∧ leftRest = rightRest := by
  cases left with
  | none =>
      cases right with
      | none => exact ⟨rfl, groupWords_cancel leftClosing rightClosing same⟩
      | some other =>
          cases leftGrouping with
          | none => exact absurd same (leftClosing.ne_keyword _ _)
          | some grouping => simp [whereWords, groupWords] at same
  | some condition =>
      cases right with
      | none =>
          cases rightGrouping with
          | none => exact absurd same.symm (rightClosing.ne_keyword _ _)
          | some grouping => simp [whereWords, groupWords] at same
      | some other =>
          simp only [whereWords, List.cons_append, List.cons.injEq, true_and] at same
          obtain ⟨rfl, rest⟩ := Comparison.words_cancel condition other _ _ same
          exact ⟨rfl, groupWords_cancel leftClosing rightClosing rest⟩

theorem joinWords_cancel {first second : JoinType} {firstRest secondRest : List Word}
    (same : joinWords first ++ firstRest = joinWords second ++ secondRest)
    : first = second ∧ firstRest = secondRest := by
  cases first <;> cases second <;> simp_all [joinWords]

theorem Join.allWords_nameless (joins : List Join) {rest : List Word} (nameless : Nameless rest)
    : Nameless (Join.allWords joins ++ rest) := by
  match joins with
  | [] => exact nameless
  | .lateral joinType source condition :: others =>
      cases joinType <;> exact nameless_keyword _ _

mutual

/-- The words of a query are no beginning of those of another one, where both are over or in
parentheses. By induction over the query.
-/
theorem Query.words_cancel (left right : Query) {leftRest rightRest : List Word}
    (leftClosing : Closing leftRest) (rightClosing : Closing rightRest)
    (same : left.words ++ leftRest = right.words ++ rightRest)
    : left = right ∧ leftRest = rightRest := by
  match left, right with
  | .select outputs first joins condition grouping,
    .select otherOutputs otherFirst otherJoins otherCondition otherGrouping =>
      simp only [Query.words, List.cons_append, List.append_assoc, List.cons.injEq, true_and]
        at same
      obtain ⟨rfl, sources⟩ := Output.listed_cancel outputs otherOutputs _ _ same
      have leftOpen := clauses_open condition grouping leftClosing
      have rightOpen := clauses_open otherCondition otherGrouping rightClosing
      obtain ⟨rfl, joined⟩ :=
        Source.words_cancel first otherFirst (Join.allWords_nameless joins leftOpen.1)
          (Join.allWords_nameless otherJoins rightOpen.1) sources
      obtain ⟨rfl, clauses⟩ :=
        Join.allWords_cancel joins otherJoins leftOpen.2 rightOpen.2 joined
      obtain ⟨rfl, rfl, rest⟩ := clauses_cancel leftClosing rightClosing clauses
      exact ⟨rfl, rest⟩

theorem Source.words_cancel (left right : Source) {leftRest rightRest : List Word}
    (leftNameless : Nameless leftRest) (rightNameless : Nameless rightRest)
    (same : left.words ++ leftRest = right.words ++ rightRest)
    : left = right ∧ leftRest = rightRest := by
  match left, right with
  | .table name aliasName, .table otherName otherAlias =>
      simp only [Source.words, List.cons_append, List.cons.injEq, Word.quoted.injEq, true_and]
        at same
      obtain ⟨rfl, named⟩ := same
      obtain ⟨rfl, rest⟩ := nameWords_cancel leftNameless rightNameless named
      exact ⟨rfl, rest⟩
  | .table name aliasName, .derived query otherAlias => simp [Source.words] at same
  | .derived query aliasName, .table name otherAlias => simp [Source.words] at same
  | .derived query aliasName, .derived otherQuery otherAlias =>
      simp only [Source.words, List.cons_append, List.append_assoc, List.cons.injEq, true_and]
        at same
      obtain ⟨rfl, named⟩ :=
        Query.words_cancel query otherQuery (by simp [Closing]) (by simp [Closing]) same
      simp only [List.nil_append, List.cons.injEq, Word.quoted.injEq, true_and] at named
      obtain ⟨rfl, rest⟩ := named
      exact ⟨rfl, rest⟩

theorem Join.allWords_cancel (left right : List Join) {leftRest rightRest : List Word}
    (leftOver : ∀ joinType others, leftRest ≠ joinWords joinType ++ others)
    (rightOver : ∀ joinType others, rightRest ≠ joinWords joinType ++ others)
    (same : Join.allWords left ++ leftRest = Join.allWords right ++ rightRest)
    : left = right ∧ leftRest = rightRest := by
  match left, right with
  | [], [] => exact ⟨rfl, same⟩
  | [], .lateral joinType source condition :: others =>
      simp only [Join.allWords, List.append_assoc] at same
      exact absurd same (leftOver _ _)
  | .lateral joinType source condition :: joins, [] =>
      simp only [Join.allWords, List.append_assoc] at same
      exact absurd same.symm (rightOver _ _)
  | .lateral joinType source condition :: joins,
    .lateral otherType otherSource otherCondition :: others =>
      simp only [Join.allWords, List.cons_append, List.append_assoc] at same
      obtain ⟨rfl, sources⟩ := joinWords_cancel same
      obtain ⟨rfl, conditions⟩ :=
        Source.words_cancel source otherSource (nameless_keyword _ _) (nameless_keyword _ _)
          (List.cons.inj sources).2
      obtain ⟨rfl, behind⟩ :=
        Comparison.words_cancel condition otherCondition _ _ (List.cons.inj conditions).2
      obtain ⟨rfl, rest⟩ := Join.allWords_cancel joins others leftOver rightOver behind
      exact ⟨rfl, rest⟩

end

/-- A text is read as one query at most. -/
theorem Query.Reads.unique {text : String} {query other : Query} (reads : query.Reads text)
    (otherReads : other.Reads text)
    : query = other := by
  have same : query.words = other.words := Option.some.inj (reads.symm.trans otherReads)
  have closing : Closing [] := by simp [Closing]
  exact (Query.words_cancel query other closing closing (by rw [same])).1

end NestedSelect.Sql

import NestedSelect.Proofs.Declaration.Phrases
import NestedSelect.Proofs.Outcome
/-!
The language of `foreign` attributes. What describes a foreign key is one group in parentheses, with
an arrow between two sides. Each side is the declared table or the path of another one, and may list
columns. Nothing else is accepted, and an arrow that does not tell a foreign key is rejected for the
first reason among its columns and its sides.
-/

namespace NestedSelect.Declaration

open Reader

-----------------------------------------------------------------------------------------
-- Phrases
-----------------------------------------------------------------------------------------

/-- The columns of a side: none at all, or a list of names in parentheses. -/
inductive ColumnsPhrase : List Token → List String → Prop
  | absent : ColumnsPhrase [] []
  | listed {opening closing : Token} {phrase : List Token} {names : List String}
    (opens : opening.isOpening .parenthesis = true) (list : NameList phrase names)
    (closes : closing.kind = .closing .parenthesis)
    : ColumnsPhrase (opening :: phrase ++ [closing]) names

/-- A side in front of a rest: the word for the declared table or a path that does not start with
it, and columns.
-/
inductive SidePhrase (rest : List Token) : List Token → Side → Prop
  | self {word : Token} {columns : List Token} {names : List String}
    (isSelf : word.isWord "Self" = true) (listed : ColumnsPhrase columns names)
    : SidePhrase rest (word :: columns) ⟨.self, names⟩
  | other {phrase columns : List Token} {names : List String} {path : Path}
    (isOther : nextWord "Self" (phrase ++ columns ++ rest) = false)
    (isPath : Takes (withGrammar Grammar.path) phrase (columns ++ rest) path)
    (listed : ColumnsPhrase columns names)
    : SidePhrase rest (phrase ++ columns) ⟨.other path, names⟩

/-- One group in parentheses with an arrow between two sides. -/
inductive ArrowPhrase : List Token → Arrow → Prop
  | intro {opening equals greater closing : Token} {first second : List Token} {left right : Side}
    (opens : opening.isOpening .parenthesis = true)
    (referencing : SidePhrase (equals :: greater :: second ++ [closing]) first left)
    (joint : equals.isJointMark '=' = true) (points : greater.isMark '>' = true)
    (referenced : SidePhrase [closing] second right)
    (closes : closing.kind = .closing .parenthesis)
    : ArrowPhrase (opening :: (first ++ equals :: greater :: second ++ [closing])) ⟨left, right⟩

-----------------------------------------------------------------------------------------
-- Sides
-----------------------------------------------------------------------------------------

theorem takes_columnNames {opening closing : Token} {phrase : List Token} {names : List String}
    (opens : opening.isOpening .parenthesis = true) (list : NameList phrase names)
    (closes : closing.kind = .closing .parenthesis) (rest : List Token)
    : Takes columnNames (opening :: phrase ++ [closing]) rest names := by
  have ends : atEnd (closing :: rest) = true := by rw [atEnd, Token.isClosing, closes]
  have enough : phrase.length ≤ (phrase ++ closing :: rest).length + 1 := by simp; omega
  have counted := Takes.look List.length (phrase ++ closing :: rest)
  have steps : Takes (iterate nameStep []) phrase (closing :: rest) names.reverse := by
    have read := takes_iterateFor list ends enough []
    rw [List.append_nil] at read
    exact counted.bind read
  have all := steps.map List.reverse
  rw [List.reverse_reverse] at all
  exact Takes.group opens closes all

/-- Column names that are read are a list of names in parentheses. -/
theorem columnsPhrase_of_run {isOpen : List Delimiter} {before after : Progress}
    {names : List String} (ran : columnNames.run before = .ok (names, after))
    (complete : after.leftover = none) (closes : Closes isOpen before.rest)
    : ∃ phrase, ColumnsPhrase phrase names ∧ before.rest = phrase ++ after.rest := by
  obtain ⟨opening, closing, inside, middle, same, opens, read, -, -, left, closed⟩ :=
    exists_of_run_group ran complete closes
  rw [listed_identifier_eq] at read
  unfold iterate remaining at read
  simp only [run_bind_eq_ok_iff, run_look_eq_ok_iff] at read
  obtain ⟨_, _, ⟨_, _, ⟨rfl, rfl⟩, steps⟩, done⟩ := read
  obtain ⟨rfl, rfl⟩ := (run_pure_eq_ok_iff _ _ _ _).mp done
  obtain ⟨phrase, found, list, whole, rfl, -⟩ := nameList_of_iterateFor steps
  have whole : inside = phrase ++ closing :: after.rest := whole.trans (by rw [left])
  refine ⟨opening :: phrase ++ [closing], ?_, ?_⟩
  · rw [List.append_nil, List.reverse_reverse]
    exact .listed opens list closed
  · rw [same, whole]
    simp

/-- Columns are read where a group follows, and there are none where it does not. -/
def sideColumns (table : SideTable) : Reader Side := do
  let hasColumns ← sees (nextGroup .parenthesis)
  return ⟨table, ← if hasColumns then columnNames else pure []⟩

theorem takes_sideColumns {columns rest : List Token} {names : List String}
    (listed : ColumnsPhrase columns names) (ends : nextGroup .parenthesis rest = false)
    (table : SideTable)
    : Takes (sideColumns table) columns rest ⟨table, names⟩ := by
  have seen := Takes.look (nextGroup .parenthesis) (columns ++ rest)
  cases listed with
  | absent =>
      have follows : nextGroup .parenthesis ([] ++ rest) = false := ends
      rw [follows] at seen
      exact seen.bind ((Takes.pure [] rest).map (Side.mk table))
  | @listed opening closing phrase names opens list closes =>
      have follows
          : nextGroup .parenthesis (opening :: phrase ++ [closing] ++ rest) = true := opens
      rw [follows] at seen
      exact seen.bind ((takes_columnNames opens list closes rest).map (Side.mk table))

theorem columnsPhrase_of_sideColumns {isOpen : List Delimiter} {before after : Progress}
    {table : SideTable} {found : Side}
    (ran : (sideColumns table).run before = .ok (found, after))
    (complete : after.leftover = none) (closes : Closes isOpen before.rest)
    : found.table = table
      ∧ ∃ phrase, ColumnsPhrase phrase found.columns ∧ before.rest = phrase ++ after.rest := by
  unfold sideColumns sees at ran
  simp only [run_bind_eq_ok_iff, run_look_eq_ok_iff] at ran
  obtain ⟨_, _, ⟨rfl, rfl⟩, ran⟩ := ran
  cases follows : nextGroup .parenthesis before.rest with
  | true =>
      rw [follows, if_pos rfl] at ran
      obtain ⟨names, middle, read, done⟩ := (run_bind_eq_ok_iff _ _ _ _ _).mp ran
      obtain ⟨rfl, rfl⟩ := (run_pure_eq_ok_iff _ _ _ _).mp done
      exact ⟨rfl, columnsPhrase_of_run read complete closes⟩
  | false =>
      rw [follows] at ran
      obtain ⟨names, middle, read, done⟩ := (run_bind_eq_ok_iff _ _ _ _ _).mp ran
      obtain ⟨rfl, rfl⟩ := (run_pure_eq_ok_iff _ _ _ _).mp read
      obtain ⟨rfl, rfl⟩ := (run_pure_eq_ok_iff _ _ _ _).mp done
      exact ⟨rfl, [], .absent, rfl⟩

/-- A side is taken in front of anything but another group or the word for the declared table. -/
theorem SidePhrase.takes {phrase rest : List Token} {found : Side}
    (written : SidePhrase rest phrase found) (ends : nextGroup .parenthesis rest = false)
    : Takes side phrase rest found := by
  cases written with
  | @self word columns names isSelf listed =>
      have named : Takes (wordIf "Self") [word] ([] ++ (columns ++ rest)) true := .wordIf isSelf _
      have table : Takes sideTable ([word] ++ []) (columns ++ rest) .self :=
        named.bind (Takes.pure SideTable.self (columns ++ rest))
      exact table.bind (takes_sideColumns listed ends _)
  | @other phrase columns names path isOther isPath listed =>
      rw [List.append_assoc] at isOther
      have unnamed : Takes (wordIf "Self") [] (phrase ++ (columns ++ rest)) false :=
        .wordIf_of_other isOther
      have table : Takes sideTable phrase (columns ++ rest) (.other path) :=
        unnamed.bind (isPath.map SideTable.other)
      exact table.bind (takes_sideColumns listed ends _)

/-- The table of a side is the declared one, by its word, or any other one, by its path. -/
theorem table_of_run {before after : Progress} {table : SideTable}
    (ran : sideTable.run before = .ok (table, after)) (fresh : before.leftover = none)
    (complete : after.leftover = none)
    : (table = .self ∧ ∃ word : Token, word.isWord "Self" = true ∧ before.rest = word :: after.rest)
      ∨ nextWord "Self" before.rest = false
        ∧ ∃ path phrase,
            table = .other path ∧ before.rest = phrase ++ after.rest
            ∧ Takes (withGrammar Grammar.path) phrase after.rest path := by
  obtain ⟨isSelf, start, asked, told⟩ := (run_bind_eq_ok_iff _ _ _ _ _).mp ran
  rw [run_wordIf] at asked
  cases next : nextWord "Self" before.rest with
  | true =>
      rw [next] at asked
      cases asked
      obtain ⟨rfl, rfl⟩ := (run_pure_eq_ok_iff _ _ _ _).mp told
      obtain ⟨tokens, written, leftover⟩ := before
      cases tokens with
      | nil => cases next
      | cons word rest => exact .inl ⟨rfl, word, next, rfl⟩
  | false =>
      rw [next] at asked
      cases asked
      simp only [Bool.false_eq_true, if_false, run_bind_eq_ok_iff, run_pure_eq_ok_iff] at told
      obtain ⟨path, _, read, rfl, rfl⟩ := told
      obtain ⟨phrase, whole, isPath⟩ := takes_path_of_run read fresh complete
      exact .inr ⟨rfl, path, phrase, rfl, whole, isPath⟩

/-- Whatever is read as a side is the phrase of one. -/
theorem sidePhrase_of_run {isOpen : List Delimiter} {before after : Progress} {found : Side}
    (ran : side.run before = .ok (found, after)) (fresh : before.leftover = none)
    (complete : after.leftover = none) (closes : Closes isOpen before.rest)
    : ∃ phrase, before.rest = phrase ++ after.rest ∧ SidePhrase after.rest phrase found := by
  obtain ⟨table, middle, named, behind⟩ := (run_bind_eq_ok_iff _ _ _ _ _).mp ran
  have columns : (sideColumns table).run middle = .ok (found, after) := behind
  have passed := (leads_of_run columns).complete complete
  have left := closes.of_leads (leads_of_run named)
  obtain ⟨given, names⟩ := found
  obtain ⟨rfl, phrase, listed, rest⟩ := columnsPhrase_of_sideColumns columns complete left
  rcases table_of_run named fresh passed with
    ⟨rfl, word, isSelf, whole⟩ | ⟨isOther, path, front, rfl, whole, isPath⟩
  · exact ⟨word :: phrase, by rw [whole, rest]; rfl, .self isSelf listed⟩
  · rw [rest, ← List.append_assoc] at whole
    rw [rest] at isPath
    rw [whole] at isOther
    exact ⟨front ++ phrase, whole, .other isOther isPath listed⟩

-----------------------------------------------------------------------------------------
-- Arrows
-----------------------------------------------------------------------------------------

theorem nextMarks_arrow_iff (tokens : List Token)
    : nextMarks "=>" tokens = true
      ↔ ∃ equals greater rest,
          tokens = equals :: greater :: rest
          ∧ equals.isJointMark '=' = true ∧ greater.isMark '>' = true := by
  match tokens with
  | [] =>
      change (false && false) = true ↔ _
      simp
  | [equals] =>
      change (equals.isJointMark '=' && false) = true ↔ _
      simp
  | equals :: greater :: rest =>
      change (equals.isJointMark '=' && greater.isMark '>') = true ↔ _
      rw [Bool.and_eq_true]
      constructor
      · exact fun points => ⟨equals, greater, rest, rfl, points⟩
      · rintro ⟨_, _, _, ⟨⟩, points⟩
        exact points

theorem ArrowPhrase.takes {tokens : List Token} {found : Arrow} (written : ArrowPhrase tokens found)
    : Takes (group .parenthesis arrow) tokens [] found := by
  obtain @⟨opening, equals, greater, closing, first, second, left, right, opens, referencing, joint,
    points, referenced, closes⟩ := written
  have noGroup {token : Token} {rest : List Token}
      (other : token.isOpening .parenthesis = false)
      : nextGroup .parenthesis (token :: rest) = false := other
  have equalsOther : equals.isOpening .parenthesis = false := by
    rw [Token.isJointMark, decide_eq_true_eq] at joint
    simp [Token.isOpening, joint]
  have closingOther : closing.isOpening .parenthesis = false := by simp [Token.isOpening, closes]
  have takesFirst := referencing.takes (noGroup equalsOther)
  have takesSecond := referenced.takes (noGroup closingOther)
  have pointed : nextMarks "=>" ([equals, greater] ++ (second ++ [closing])) = true :=
    (nextMarks_arrow_iff _).mpr ⟨equals, greater, _, rfl, joint, points⟩
  have takesMarks : Takes (marks "=>") [equals, greater] (second ++ [closing]) () :=
    .marks rfl pointed
  have inside
      : Takes arrow (first ++ ([equals, greater] ++ second)) [closing] ⟨left, right⟩ :=
    takesFirst.bind (takesMarks.bind (takesSecond.map (Arrow.mk left)))
  exact inside.group opens closes

/-- All of some tokens are read as an arrow in parentheses exactly if they are the phrase of it. -/
theorem readAll_arrow_eq_ok_iff {tokens : List Token} (balanced : Balanced tokens) (found : Arrow)
    : readAll (group .parenthesis arrow) tokens = .ok found ↔ ArrowPhrase tokens found := by
  refine ⟨fun success => ?_, fun written => written.takes.readAll⟩
  obtain ⟨after, ran, complete, done⟩ := (readAll_eq_ok_iff _ _ _).mp success
  obtain ⟨opening, closing, inside, middle, same, opens, read, closes, kept, left, closed⟩ :=
    exists_of_run_group ran complete balanced
  obtain ⟨first, start, readFirst, behind⟩ := (run_bind_eq_ok_iff _ _ _ _ _).mp read
  obtain ⟨_, pointed, marked, behind⟩ := (run_bind_eq_ok_iff _ _ _ _ _).mp behind
  obtain ⟨second, _, readSecond, made⟩ := (run_bind_eq_ok_iff _ _ _ _ _).mp behind
  obtain ⟨rfl, rfl⟩ := (run_pure_eq_ok_iff _ _ _ _).mp made
  -- Nothing is left over in the end, so nothing has been left over on the way.
  have toFirst := leads_of_run readFirst
  have toMarks := leads_of_run marked
  have passedMarks := (leads_of_run readSecond).complete kept
  have passedFirst := toMarks.complete passedMarks
  have closesFirst := closes.of_leads toFirst
  obtain ⟨firstPhrase, whole, isFirst⟩ := sidePhrase_of_run readFirst rfl passedFirst closes
  obtain ⟨secondPhrase, rest, isSecond⟩ :=
    sidePhrase_of_run readSecond passedMarks kept (closesFirst.of_leads toMarks)
  obtain ⟨points, rfl⟩ := (run_marks_eq_ok_iff _ _ _ _).mp marked
  obtain ⟨equals, greater, others, arrowed, joint, pointing⟩ := (nextMarks_arrow_iff _).mp points
  have behindArrow : others = secondPhrase ++ [closing] := by
    rw [left, done, Progress.behind, arrowed] at rest
    exact rest
  rw [arrowed, behindArrow] at whole isFirst
  rw [left, done] at isSecond
  have tokens_eq
      : tokens
          = opening
              :: (firstPhrase ++ equals :: greater :: secondPhrase ++ [closing]) := by
    refine same.trans (congrArg _ (whole.trans ?_))
    simp
  rw [tokens_eq]
  exact .intro opens isFirst joint pointing isSecond closed

-----------------------------------------------------------------------------------------
-- Foreign keys
-----------------------------------------------------------------------------------------

namespace Arrow

/-- An arrow describes a foreign key: just one side is the declared table, the first side lists the
column of the key, and the second side lists none. The declared table is referenced where it is the
second side.
-/
inductive Describes : Arrow → ForeignKey → Prop
  | references {path : Path} {column : String}
    : Describes ⟨⟨.self, [column]⟩, ⟨.other path, []⟩⟩ ⟨path, column, false⟩
  | isReferenced {path : Path} {column : String}
    : Describes ⟨⟨.other path, [column]⟩, ⟨.self, []⟩⟩ ⟨path, column, true⟩

/-- What is wrong with an arrow first: columns of the second side, then the declared table on both
sides or on none, and then the number of columns of the first side.
-/
inductive Violates : Arrow → Fault → Prop
  | referencedColumns {arrow : Arrow} (given : arrow.second.columns ≠ [])
    : Violates arrow .referencedColumnsGiven
  | bothSelf {columns : List String}
    : Violates ⟨⟨.self, columns⟩, ⟨.self, []⟩⟩ .selfReferencesSelf
  | noSelf {first second : Path} {columns : List String}
    : Violates ⟨⟨.other first, columns⟩, ⟨.other second, []⟩⟩ .selfMissing
  | columnCount {first second : SideTable} {columns : List String}
    (one : first = .self ↔ second ≠ .self) (count : columns.length ≠ 1)
    : Violates ⟨⟨first, columns⟩, ⟨second, []⟩⟩ .foreignKeyCount

theorem describes_iff (arrow : Arrow) (key : ForeignKey)
    : arrow.Describes key ↔ arrow.foreignKey = .ok key := by
  rw [foreignKey_eq_ok_iff]
  constructor
  · rintro (⟨⟩ | ⟨⟩) <;> rfl
  · intro same
    obtain ⟨other, column, referencesSelf⟩ := key
    cases referencesSelf with
    | false =>
        rw [same]
        exact .references
    | true =>
        rw [same]
        exact .isReferenced

theorem violates_iff (arrow : Arrow) (fault : Fault)
    : arrow.Violates fault ↔ arrow.foreignKey = .error fault := by
  obtain ⟨⟨first, columns⟩, ⟨second, referenced⟩⟩ := arrow
  constructor
  · intro violates
    cases violates with
    | referencedColumns given =>
        cases referenced with
        | nil => exact absurd rfl given
        | cons column others => rfl
    | bothSelf => rfl
    | noSelf => rfl
    | columnCount one count =>
        rcases columns with _ | ⟨column, _ | ⟨next, others⟩⟩
        · cases first <;> cases second <;> first | rfl | simp at one
        · exact absurd rfl count
        · cases first <;> cases second <;> first | rfl | simp at one
  · intro failure
    cases referenced with
    | cons column others =>
        cases failure
        exact .referencedColumns (by simp)
    | nil =>
        cases first with
        | self =>
            cases second with
            | self =>
                cases failure
                exact .bothSelf
            | other path =>
                rcases columns with _ | ⟨column, _ | ⟨next, others⟩⟩ <;> cases failure
                all_goals exact .columnCount (by simp) (by simp)
        | other path =>
            cases second with
            | other target =>
                cases failure
                exact .noSelf
            | self =>
                rcases columns with _ | ⟨column, _ | ⟨next, others⟩⟩ <;> cases failure
                all_goals exact .columnCount (by simp) (by simp)

end Arrow

/-- What is wrong with an arrow is reported at the first token inside of its parentheses. -/
theorem foreignKey_eq_error_of_violates {tokens : List Token} {found : Arrow} {fault : Fault}
    (written : ArrowPhrase tokens found) (violates : found.Violates fault)
    : foreignKey tokens = .error ⟨fault, place tokens.tail⟩ := by
  obtain ⟨after, ran, -, -⟩ := written.takes []
  rw [List.append_nil] at ran
  obtain ⟨opens, middle, inside, -⟩ := (run_group_eq_ok_iff _ _ _ _ _).mp ran
  have checked
      : (whole do return (← arrow).foreignKey).run (Progress.behind ⟨tokens, [], none⟩ 1)
          = .error ⟨fault, place (tokens.drop 1)⟩ := by
    have read
        : (do return (← arrow).foreignKey : Reader _).run (Progress.behind ⟨tokens, [], none⟩ 1)
            = .ok (.error fault, middle) :=
      (run_bind_eq_ok_iff _ _ _ _ _).mpr
        ⟨found, middle, inside, (run_pure_eq_ok_iff _ _ _ _).mpr
          ⟨(found.violates_iff fault).mp violates, rfl⟩⟩
    change runWhole _ _ = _
    rw [runWhole, read]
    rfl
  have failed
      : foreignArgument.run ⟨tokens, [], none⟩ = .error ⟨fault, place tokens.tail⟩ := by
    change runEnclosed _ _ _ _ _ = _
    rw [runEnclosed, if_pos opens, checked, List.drop_one]
  rw [foreignKey, readAll, failed]

/-- An attribute for a foreign key is accepted exactly if what stands behind its name is an arrow in
parentheses that describes a foreign key, and then that key is what it says. Any other arrow in
parentheses is rejected for the first thing that is wrong with it.
-/
theorem foreign_attribute_grammar {added : Attribute} (named : added.name = some "foreign")
    (balanced : Balanced added.tokens) (markings : Markings)
    : (∀ marked,
          markings.add added = .ok marked
          ↔ ∃ arrow key,
              ArrowPhrase added.tokens arrow ∧ arrow.Describes key
              ∧ marked = { markings with foreign := some key })
      ∧ ∀ arrow,
          ArrowPhrase added.tokens arrow
          → ∀ diagnostic,
              markings.add added = .error diagnostic
              ↔ ∃ fault,
                  arrow.Violates fault
                  ∧ diagnostic = ⟨fault, place added.tokens.tail⟩ := by
  have added_eq
      : markings.add added
          = foreignKey added.tokens >>= fun key => .ok { markings with foreign := some key } := by
    simp only [Markings.add, named]
    rfl
  refine ⟨fun marked => ?accepted, fun arrow written diagnostic => ?rejected⟩
  case accepted =>
    rw [added_eq, bind_eq_ok_iff]
    simp only [foreignKey_eq_ok_iff, readAll_arrow_eq_ok_iff balanced, ← Arrow.describes_iff]
    constructor
    · rintro ⟨key, ⟨arrow, written, describes⟩, ⟨⟩⟩
      exact ⟨arrow, key, written, describes, rfl⟩
    · rintro ⟨arrow, key, written, describes, rfl⟩
      exact ⟨key, ⟨arrow, written, describes⟩, rfl⟩
  case rejected =>
    cases outcome : arrow.foreignKey with
    | ok key =>
        have accepted : foreignKey added.tokens = .ok key :=
          (foreignKey_eq_ok_iff _ _).mpr ⟨arrow, written.takes.readAll, outcome⟩
        rw [added_eq, accepted]
        simp only [Arrow.violates_iff, outcome]
        exact ⟨nofun, nofun⟩
    | error fault =>
        have violates := (arrow.violates_iff fault).mpr outcome
        rw [added_eq, foreignKey_eq_error_of_violates written violates]
        constructor
        · rintro ⟨⟩
          exact ⟨fault, violates, rfl⟩
        · rintro ⟨other, otherViolates, rfl⟩
          rw [(arrow.violates_iff other).mp otherViolates] at outcome
          cases outcome
          rfl

/-- The attribute that tells that posts reference their authors. -/
def postsAttribute : Attribute :=
  ⟨some "foreign", ⟨1, 2⟩, (tokens "(db::Post(by,) => Self)").getD []⟩

theorem foreign_attribute_grammar_of_posts
    : ∃ marked arrow key,
        (({} : Markings).add postsAttribute = .ok marked)
        ∧ ArrowPhrase postsAttribute.tokens arrow ∧ arrow.Describes key
        ∧ marked.foreign = some key
        ∧ key.other.text = "db::Post" ∧ key.column = "by" ∧ key.referencesSelf = true := by
  have lexes : (tokens "(db::Post(by,) => Self)").isSome = true := by decide +kernel
  obtain ⟨found, read⟩ := Option.isSome_iff_exists.mp lexes
  have balanced : Balanced postsAttribute.tokens := by
    rw [postsAttribute, read]
    exact balanced_of_tokens read
  have accepted : (({} : Markings).add postsAttribute).toOption.isSome = true := by decide +kernel
  obtain ⟨marked, success⟩ := Option.isSome_iff_exists.mp accepted
  have success := eq_ok_of_toOption success
  obtain ⟨arrow, key, written, describes, same⟩ :=
    ((foreign_attribute_grammar rfl balanced {}).1 marked).mp success
  have told
      : ((({} : Markings).add postsAttribute).toOption.bind (·.foreign)).map
            (fun key => (key.other.text, key.column, key.referencesSelf))
          = some ("db::Post", "by", true) := by
    decide +kernel
  rw [success, same] at told
  obtain ⟨text, column, referencesSelf⟩ := Prod.mk.inj (Option.some.inj told)
    |>.imp_right Prod.mk.inj
  exact ⟨marked, arrow, key, success, written, describes, by rw [same], text, column,
    referencesSelf⟩

end NestedSelect.Declaration

import NestedSelect.Proofs.Placeholder.RenumberedTokens
import NestedSelect.Proofs.Statement.ArgumentAlignment
import NestedSelect.Proofs.Statement.Seams
/-!
Names in a whole statement. A name is written as one token that decodes to it, and all other tokens
of a statement are decided by the form of the tree and the answers of its providers. So no name can
end its quotes early, whatever characters it has.
-/

namespace NestedSelect

open Lexing

-----------------------------------------------------------------------------------------
-- The tokens of a draft
-----------------------------------------------------------------------------------------

namespace Draft

/-- The tokens of a part. A name is a token of its own, whatever it is. -/
def Part.tokens (layout : Layout) (depth : Nat) : Part → List (Token Char)
  | .text content => (lex content.toList).getD []
  | .identifier name => [.quoted .identifier name.toList]
  | .literal content => [.quoted .literal content.toList]
  | .line shift => (layout.lineBreak (shift.apply depth)).toList.map .single

/-- The tokens of a draft, part by part. -/
def tokens (layout : Layout) (draft : Draft) : List (Token Char) :=
  draft.spell (Part.tokens layout) 0

theorem lineBreak_plain (layout : Layout) (depth : Nat) : Plain (layout.lineBreak depth) := by
  refine ⟨by cases layout <;> simp [Layout.lineBreak], ?_⟩
  intro c inside
  rcases mem_lineBreak layout depth c inside with rfl | rfl <;> rfl

/-- A part that separates is written as plain text. -/
theorem Part.write_plain {part : Part} (separates : (Outline.Item.part part).Separates)
    (layout : Layout) (depth : Nat)
    : Plain (part.write layout depth) := by
  match part with
  | .text _ => exact separates
  | .line shift => exact lineBreak_plain layout (shift.apply depth)

/-- A part is read as its tokens where it is complete. -/
theorem Part.lex_write {part : Part} (complete : (Outline.Item.part part).Complete)
    (layout : Layout) (depth : Nat)
    : lex (part.write layout depth).toList = some (part.tokens layout depth) := by
  cases part with
  | text content =>
      obtain ⟨tokens, read⟩ := Option.isSome_iff_exists.mp complete
      simp [write, Part.tokens, read]
  | identifier name =>
      rw [write, quoteIdentifier, String.toList_ofList]
      exact lex_encode .identifier name.toList
  | literal content =>
      rw [write, quoteLiteral, String.toList_ofList]
      exact lex_encode .literal content.toList
  | line shift => exact lex_unquoted (lineBreak_plain layout (shift.apply depth)).2

end Draft

namespace Outline

/-- What separates is written without quotes at its start, whatever follows it. -/
theorem opening_unquoted {outline : Outline} (opening : ∀ item ∈ outline.head?, item.Separates)
    (layout : Layout) (depth : Nat) (texts : List String)
    : ∀ c ∈ ((outline.fill texts).spell
          (fun depth part => (part.write layout depth).toList) depth).head?,
        quotesOf c = none := by
  match outline with
  | [] => simp [fill, Draft.spell]
  | .inquiry _ :: _ => exact (opening _ rfl).elim
  | .part part :: rest =>
      have plain := Draft.Part.write_plain (opening _ rfl) layout depth
      intro c first
      rw [fill, Draft.spell, List.head?_append_of_ne_nil _ plain.1] at first
      exact plain.2 c (List.mem_of_mem_head? first)

/-- A tidy outline is read part by part when complete texts fill it. By induction over the outline:
at each seam one side has no quotes to share.
-/
theorem lex_fill (layout : Layout) (depth : Nat) {outline : Outline} (tidy : outline.Tidy)
    (texts : List String) (complete : ∀ text ∈ texts, Complete text.toList)
    : lex
          ((outline.fill texts).spell
            (fun depth part => (part.write layout depth).toList) depth)
        = some ((outline.fill texts).spell (Draft.Part.tokens layout) depth) := by
  induction outline generalizing depth texts with
  | nil => rfl
  | cons item rest ih =>
      obtain ⟨seam, seams⟩ := List.isChain_cons.mp tidy.seams
      have tidyRest : Tidy rest :=
        ⟨seams, fun other member => tidy.complete other (List.mem_cons_of_mem _ member)⟩
      have opening (bare : ¬ item.Separates) : ∀ next ∈ rest.head?, next.Separates :=
        fun next first => (seam next first).resolve_left bare
      cases item with
      | part part =>
          have first := Draft.Part.lex_write (tidy.complete (.part part) (by simp)) layout depth
          have later := ih (part.depthAfter depth) tidyRest texts complete
          rw [fill, Draft.spell, Draft.spell]
          refine lex_append first later ?_
          -- Either the part has no quotes, or what follows it starts without any.
          by_cases separates : (Item.part part).Separates
          · exact .inl (Draft.Part.write_plain separates layout depth).2
          · exact .inr (opening_unquoted (opening separates) layout _ texts)
      | inquiry inquiry =>
          cases texts with
          | nil => exact ih depth tidyRest [] complete
          | cons text texts =>
              obtain ⟨tokens, read⟩ := Option.isSome_iff_exists.mp (complete text (by simp))
              have later := ih depth tidyRest texts fun text member =>
                complete text (List.mem_cons_of_mem _ member)
              have apart := opening_unquoted (opening id) layout depth texts
              have first : lex text.toList = some ((lex text.toList).getD []) := by rw [read]; rfl
              rw [fill, Draft.spell, Draft.spell]
              exact lex_append first later (.inr apart)

end Outline

-----------------------------------------------------------------------------------------
-- Slots for names
-----------------------------------------------------------------------------------------

/-- A token that is known, or the place of a name. -/
inductive Slot where
  | fixed (token : Token Char)
  | name (kind : Kind)
deriving DecidableEq, Repr

/-- The tokens that slots become when names are put in their places, one name in each. -/
inductive Fills : List Slot → List String → List (Token Char) → Prop
  | nil : Fills [] [] []
  | fixed {token slots names tokens} (rest : Fills slots names tokens)
    : Fills (.fixed token :: slots) names (token :: tokens)
  | name {kind name slots names tokens} (rest : Fills slots names tokens)
    : Fills (.name kind :: slots) (name :: names) (.quoted kind name.toList :: tokens)

/-- Known tokens take no names. -/
theorem Fills.known {slots : List Slot} {names : List String} {tokens : List (Token Char)}
    (rest : Fills slots names tokens) (front : List (Token Char))
    : Fills (front.map .fixed ++ slots) names (front ++ tokens) := by
  induction front with
  | nil => exact rest
  | cons token others ih => exact .fixed ih

namespace Draft

/-- The name that a part writes. -/
def Part.name? : Part → Option String
  | .identifier name => some name
  | .literal content => some content
  | _ => none

/-- The names of a draft in writing order. -/
def names (draft : Draft) : List String :=
  draft.filterMap Part.name?

/-- The tokens of a part with a place for the name that it writes. -/
def Part.slots (layout : Layout) (depth : Nat) : Part → List Slot
  | .identifier _ => [.name .identifier]
  | .literal _ => [.name .literal]
  | part => (part.tokens layout depth).map .fixed

/-- The tokens of a draft are its slots with its names put in their places. -/
theorem fills (layout : Layout) (depth : Nat) (draft : Draft)
    : Fills (draft.spell (Part.slots layout) depth) draft.names
        (draft.spell (Part.tokens layout) depth) := by
  induction draft generalizing depth with
  | nil => exact .nil
  | cons part rest ih =>
      have later := ih (part.depthAfter depth)
      cases part with
      | text content => exact later.known _
      | identifier name => exact .name later
      | literal content => exact .name later
      | line shift => exact later.known _

end Draft

-----------------------------------------------------------------------------------------
-- Whole statements
-----------------------------------------------------------------------------------------

/-- The tokens of an answer, with its pieces spelled in some way. -/
def Subquery.tokens (letters : Placeholder.Piece → List Char) (fragment : Subquery)
    : List (Token Char) :=
  ((lexItems Placeholder.Piece.quotes (Placeholder.scan fragment.sql.toList)).getD []).flatMap
    (Token.spell letters)

/-- The tokens that each answer has in a statement: its own, but with the digits of its
placeholders moved by the arguments of the answers before it.
-/
def splicedTokens (fragments : List Subquery) : List (List (Token Char)) :=
  fragments.mapIdx fun index fragment =>
    fragment.tokens fun piece => (piece.moved (argumentsBefore fragments index)).text

/-- Answers are read as their own tokens, and what is spliced in for them is read as the same
tokens with moved placeholders. By induction over the answers, with the offset so far.
-/
theorem Spliced.tokens {offset : Nat} {fragments : List Subquery} {texts : List String}
    (spliced : Spliced offset fragments texts)
    (complete : ∀ fragment ∈ fragments, Complete fragment.sql.toList)
    : (∀ fragment ∈ fragments,
          lex fragment.sql.toList = some (fragment.tokens Placeholder.Piece.text))
      ∧ texts.map (fun text => lex text.toList)
        = (fragments.mapIdx fun index fragment =>
            fragment.tokens fun piece =>
              (piece.moved (offset + argumentsBefore fragments index)).text).map some := by
  induction spliced with
  | nil => exact ⟨by simp, rfl⟩
  | @cons offset first sql fragments texts renumbered behind ih =>
      obtain ⟨own, later⟩ := ih fun fragment member => complete fragment (by simp [member])
      obtain ⟨tokens, read, original, moved⟩ :=
        Placeholder.lex_renumbered renumbered (complete first (by simp))
      have spelled (letters : Placeholder.Piece → List Char)
          : first.tokens letters = tokens.flatMap (Token.spell letters) := by
        rw [Subquery.tokens, read, Option.getD_some]
      constructor
      · intro fragment member
        rcases List.mem_cons.mp member with rfl | behind
        · rw [original, spelled]
        · exact own fragment behind
      · rw [List.map_cons, later, List.mapIdx_cons, moved, spelled]
        simp [argumentsBefore, Nat.add_assoc]

/-- All trees of one form have one frame of tokens between them, however their names and those of
their columns are spelled. A statement is read to its end, every name in it is one token that
decodes to the name, and all other tokens are those of the frame and of the answers. The answers
keep their own tokens, but for the digits of placeholders. So two statements of one form with the
same answers are filled from the same slots, and differ in nothing but the names in them.
-/
theorem render_contains_names (layout : Layout) (relation : Relation)
    : ∃ frame : List (List Slot),
        ∀ (variant : Relation) (options : RenderOptions) (rendered : Rendered),
          relation.Alike (fun _ _ => True) variant
          → options.layout = layout
          → (∀ use ∈ variant.uses, use.SortComplete)
          → (∀ inquiry ∈ variant.inquiries "",
              ∀ fragment,
                inquiry.provider inquiry.condition = .ok fragment
                → Complete fragment.sql.toList)
          → variant.render options = .ok rendered
          → ∃ (stretch : Stretch) (fragments : List Subquery),
              variant.select options none 0 = .ok stretch
              ∧ rendered.sql = Draft.write layout stretch.parts
              ∧ lex rendered.sql.toList = some (stretch.parts.tokens layout)
              ∧ Answers (variant.inquiries "") fragments
              ∧ frame.length = fragments.length + 1
              ∧ Fills (weave frame ((splicedTokens fragments).map (·.map .fixed))).flatten
                  stretch.parts.names (stretch.parts.tokens layout)
              ∧ ∀ fragment ∈ fragments,
                  lex fragment.sql.toList
                    = some (fragment.tokens Placeholder.Piece.text) := by
  refine ⟨(relation.outline ⟨layout, ""⟩ none).frame (Draft.Part.slots layout) 0, ?_⟩
  intro variant options rendered alike sameLayout sorted whole success
  subst sameLayout
  obtain ⟨fragments, texts, answers, spliced, rfl⟩ :=
    (variant.renderAfter_eq_ok_iff options 0 rendered).mp success
  have asked : (variant.outline options none).inquiries = variant.inquiries "" :=
    Relation.inquiries_outline options none variant
  have selected
      : variant.select options none 0
        = .ok ⟨(variant.outline options none).fill texts, fragments.flatMap (·.arguments)⟩ := by
    rw [Relation.select_eq_writing]
    exact (Outline.writing_eq_ok_iff _ _ _).mpr
      ⟨fragments, texts, asked.symm ▸ answers, spliced, rfl⟩
  have complete : ∀ fragment ∈ fragments, Complete fragment.sql.toList := by
    intro fragment member
    obtain ⟨inquiry, asked, answer⟩ := answers.answered member
    exact whole inquiry asked fragment answer
  obtain ⟨own, read⟩ := spliced.tokens complete
  -- Slots leave the names out, so they are equal in all trees of the form.
  have unseen (depth : Nat) (first second : Draft.Part)
      (equal : Draft.Part.Alike (fun _ _ => True) first second)
      : first.slots options.layout depth = second.slots options.layout depth := by
    cases first <;> cases second <;> simp_all [Draft.Part.Alike, Draft.Part.slots]
  have outlines
      : Outline.Alike (fun _ _ => True) (relation.outline ⟨options.layout, ""⟩ none)
          (variant.outline options none) :=
    Relation.outline_alike (fun _ _ _ => trivial) trivial .none relation variant alike
  have frame := outlines.frame_eq _ unseen 0
  have gaps : (variant.outline options none).inquiries.length = fragments.length := by
    rw [asked, answers.length_eq]
  have textsComplete : ∀ text ∈ texts, Complete text.toList := by
    intro text member
    have inside := List.mem_map_of_mem (f := fun text : String => lex text.toList) member
    rw [read] at inside
    obtain ⟨tokens, _, found⟩ := List.mem_map.mp inside
    rw [Complete, ← found]
    rfl
  have known
      : texts.map (fun text => ((lex text.toList).getD []).map Slot.fixed)
        = (splicedTokens fragments).map (·.map .fixed) := by
    have decoded := congrArg (List.map fun found => (found.getD []).map Slot.fixed) read
    simpa [splicedTokens, Function.comp_def] using decoded
  have framed := Relation.outline_framed options none variant sorted
  refine ⟨_, fragments, selected, rfl, ?_, answers, ?_, ?_, own⟩
  · rw [Draft.toList_write]
    exact Outline.lex_fill options.layout 0 framed.toTidy texts textsComplete
  · rw [frame, Outline.length_frame, gaps]
  · have filled := Draft.fills options.layout 0 ((variant.outline options none).fill texts)
    rw [Outline.spell_fill (Draft.Part.slots options.layout)
      (fun text => ((lex text.toList).getD []).map .fixed) (fun _ _ => rfl) 0 _ texts
      (gaps.trans spliced.length_eq), ← frame] at filled
    rw [← known]
    exact filled

/-- The tracks of users once more, under names that hold quotes, commas and line breaks. -/
def quotedTracksOfUsers : Relation :=
  let users := { tracksOfUsers.use with
    aliasName := "\"us\"er"
    table := "'"
    primaryKey := some "\", ("
  }
  let tracks : TableUse := {
    path := "tracks"
    aliasName := "tr'\n'acks"
    table := ""
    primaryKey := none
    spec := { subquery := some fun _ => .ok ⟨"select $1", [.int 7]⟩ }
    fields := []
  }
  ⟨users, [], [⟨⟨"''", "\"\"", ""⟩, ⟨tracks, [], []⟩⟩]⟩

/-- The statements for both are read to their ends, and are filled from the same slots. -/
theorem render_contains_names_of_tracks
    : ∃ (slots : List Slot) (plain quoted : Rendered) (plainNames quotedNames : List String)
        (plainTokens quotedTokens : List (Token Char)),
        tracksOfUsers.render {} = .ok plain
        ∧ quotedTracksOfUsers.render {} = .ok quoted
        ∧ lex plain.sql.toList = some plainTokens
        ∧ lex quoted.sql.toList = some quotedTokens
        ∧ Fills slots plainNames plainTokens
        ∧ Fills slots quotedNames quotedTokens := by
  obtain ⟨frame, contains⟩ := render_contains_names .compact tracksOfUsers
  have contained (variant : Relation) (alike : tracksOfUsers.Alike (fun _ _ => True) variant)
      (unsorted : ∀ use ∈ variant.uses, use.spec.orderBy = none)
      (asked : Answers (variant.inquiries "") answersOfTracks)
      : ∃ rendered names tokens,
          variant.render {} = .ok rendered
          ∧ lex rendered.sql.toList = some tokens
          ∧ Fills (weave frame ((splicedTokens answersOfTracks).map (·.map .fixed))).flatten
              names tokens := by
    have spliced : Spliced 0 answersOfTracks ["select $2, $1", "select $3"] :=
      .cons rfl (.cons rfl .nil)
    have success := (variant.renderAfter_eq_ok_iff {} 0 _).mpr ⟨_, _, asked, spliced, rfl⟩
    have sorted : ∀ use ∈ variant.uses, use.SortComplete := by
      intro use member expression present
      rw [unsorted use member] at present
      contradiction
    have whole
        : ∀ inquiry ∈ variant.inquiries "",
            ∀ fragment,
              inquiry.provider inquiry.condition = .ok fragment
              → Complete fragment.sql.toList := by
      intro inquiry member fragment answer
      have plain : ∀ fragment ∈ answersOfTracks, Plain fragment.sql := by decide
      exact (plain fragment (asked.contains member answer)).complete
    obtain ⟨stretch, fragments, _, _, read, answers, _, filled, _⟩ :=
      contains variant {} _ alike rfl sorted whole success
    obtain rfl := asked.unique answers
    exact ⟨_, _, _, success, read, filled⟩
  obtain ⟨plain, plainNames, plainTokens, success, read, filled⟩ :=
    contained tracksOfUsers
      ⟨⟨trivial, trivial, .some trivial, rfl, rfl, rfl, .nil⟩, trivial,
        ⟨trivial, trivial, trivial⟩,
        ⟨⟨trivial, trivial, .none, rfl, rfl, rfl, .nil⟩, trivial, trivial⟩, trivial⟩
      (by simp [tracksOfUsers, Relation.uses, Relation.usesOfAll]) (.cons rfl (.cons rfl .nil))
  obtain ⟨quoted, quotedNames, quotedTokens, quotedSuccess, quotedRead, quotedFilled⟩ :=
    contained quotedTracksOfUsers
      ⟨⟨trivial, trivial, .some trivial, rfl, rfl, rfl, .nil⟩, trivial,
        ⟨trivial, trivial, trivial⟩,
        ⟨⟨trivial, trivial, .none, rfl, rfl, rfl, .nil⟩, trivial, trivial⟩, trivial⟩
      (by simp [quotedTracksOfUsers, tracksOfUsers, Relation.uses, Relation.usesOfAll])
      (.cons rfl (.cons rfl .nil))
  exact ⟨_, plain, quoted, plainNames, quotedNames, plainTokens, quotedTokens, success,
    quotedSuccess, read, quotedRead, filled, quotedFilled⟩

end NestedSelect

import NestedSelect.Declaration.Member
import NestedSelect.Proofs.Declaration.BalancedTokens
import NestedSelect.Proofs.Declaration.TypePositions
/-!
The tokens of a member. All that is kept of a member stands among the tokens that the member is read
from: its start, its attributes with their arguments, its first argument and its return type.
-/

namespace NestedSelect.Declaration

open Reader

-----------------------------------------------------------------------------------------
-- Attributes
-----------------------------------------------------------------------------------------

/-- An attribute is read on the way: a token stands at its position, and its argument is a part of
what is read.
-/
structure Attribute.StandsBetween (given : Attribute) (before after : Progress) : Prop where
  position : before.Passes after given.position
  tokens : ∃ rest, given.tokens ++ rest <:+ before.rest ∧ after.rest <:+ rest
  balanced : Balanced given.tokens

theorem Attribute.StandsBetween.widen {given : Attribute} {before after outer later : Progress}
    (stands : given.StandsBetween before after) (first : before.rest <:+ outer.rest)
    (last : later.rest <:+ after.rest)
    : given.StandsBetween outer later := by
  obtain ⟨rest, inside, behind⟩ := stands.tokens
  exact ⟨stands.position.widen first last, ⟨rest, inside.trans first, last.trans behind⟩,
    stands.balanced⟩

section

variable {isOpen : List Delimiter} {before after : Progress}

/-- An attribute in its brackets stands in front of the bracket that closes. -/
theorem bracketed_stands (closes : Closes isOpen before.rest) {given : Attribute}
    (ran : bracketed.run before = .ok (given, after))
    : given.StandsBetween before after := by
  obtain ⟨opens, middle, inside, rfl⟩ := (run_group_eq_ok_iff _ _ _ _ _).mp ran
  simp only [run_bind_eq_ok_iff, run_look_eq_ok_iff, run_pure_eq_ok_iff] at inside
  obtain ⟨_, _, ⟨rfl, rfl⟩, name, named, path, tokens, ended, all, rfl, rfl⟩ := inside
  obtain ⟨rfl, left⟩ : (splitGroup 0 named.rest).1 = tokens ∧ groupEnd named.rest = ended.rest := by
    cases all
    exact ⟨rfl, rfl⟩
  have leads := leads_of_run path
  have start : named.rest <:+ before.rest := leads.suffix.trans (List.drop_suffix 1 _)
  have opened := (closes.opened opens).of_leads leads
  obtain ⟨closing, rest, ends, -, -⟩ := opened.groupEnd_eq_cons
  rw [left] at ends
  have behind : (Progress.leave ended).rest <:+ rest := by
    change (groupEnd ended.rest).drop 1 <:+ rest
    rw [← left, groupEnd_of_atEnd (atEnd_groupEnd _), left, ends]
    exact List.suffix_refl _
  refine ⟨?position, ⟨ended.rest, ?tokens, ?behind⟩, opened.balanced_contents⟩
  case position =>
    have visits : (Progress.behind before 1).Visits ended (place (Progress.behind before 1).rest) :=
      Progress.visits_place ((left ▸ groupEnd_suffix _).trans leads.suffix)
    have passes := visits.passes ⟨closing, rest, ends, behind⟩
    exact passes.widen (List.drop_suffix 1 _) (List.suffix_refl _)
  case tokens =>
    rw [← left]
    refine List.IsSuffix.trans ?_ start
    exact (splitGroup_append 0 named.rest).symm ▸ List.suffix_refl _
  case behind =>
    rw [ends]
    exact behind.trans (List.suffix_cons _ _)

/-- Steps that each read an attribute in brackets leave all of them on the way. -/
theorem stand_of_iterate (closes : Closes isOpen before.rest)
    {step : List Attribute → Reader (Option (List Attribute))}
    (adds
      : ∀ {found next earlier later},
          (step found).run earlier = .ok (some next, later)
          → ∃ start given,
              earlier.Leads start ∧ bracketed.run start = .ok (given, later)
              ∧ next = given :: found)
    {found : List Attribute}
    (ran
      : (do return (← iterate step []).reverse : Reader (List Attribute)).run before
          = .ok (found, after))
    : ∀ given ∈ found, given.StandsBetween before after := by
  obtain ⟨reversed, middle, steps, done⟩ := (run_bind_eq_ok_iff _ _ _ _ _).mp ran
  obtain ⟨rfl, rfl⟩ := (run_pure_eq_ok_iff _ _ _ _).mp done
  have later {found : List Attribute} {earlier later : Progress} (leads : earlier.Leads later)
      (stand : ∀ given ∈ found, given.StandsBetween before earlier)
      : ∀ given ∈ found, given.StandsBetween before later :=
    fun given member => (stand given member).widen (List.suffix_refl _) leads.suffix
  have stand : ∀ given ∈ reversed, given.StandsBetween before middle := by
    refine iterate_invariant
      (fun found progress => ∀ given ∈ found, given.StandsBetween before progress)
      later ?_ nofun steps
    intro found next earlier reached leads stand stepped
    obtain ⟨start, given, onward, read, rfl⟩ := adds stepped
    have there := leads.trans onward
    intro other member
    rcases List.mem_cons.mp member with rfl | inside
    · have stands := bracketed_stands (closes.of_leads there) read
      exact stands.widen there.suffix (List.suffix_refl _)
    · exact later (onward.trans (leads_of_run read)) stand other inside
  exact fun given member => stand given (List.mem_reverse.mp member)

theorem attributes_stand (closes : Closes isOpen before.rest) {found : List Attribute}
    (ran : attributes.run before = .ok (found, after))
    : ∀ given ∈ found, given.StandsBetween before after := by
  refine stand_of_iterate closes ?_ ran
  intro found next earlier later stepped
  obtain ⟨isMarked, start, marked, behind⟩ := (run_bind_eq_ok_iff _ _ _ _ _).mp stepped
  cases isMarked with
  | false => cases behind
  | true =>
      obtain ⟨given, last, read, made⟩ := (run_bind_eq_ok_iff _ _ _ _ _).mp behind
      cases made
      exact ⟨start, given, leads_of_run marked, read, rfl⟩

theorem innerAttributes_stand (closes : Closes isOpen before.rest) {found : List Attribute}
    (ran : innerAttributes.run before = .ok (found, after))
    : ∀ given ∈ found, given.StandsBetween before after := by
  refine stand_of_iterate closes ?_ ran
  intro found next earlier later stepped
  simp only [sees, run_bind_eq_ok_iff, run_look_eq_ok_iff] at stepped
  obtain ⟨_, _, ⟨rfl, rfl⟩, _, _, ⟨rfl, rfl⟩, behind⟩ := stepped
  split at behind
  case isFalse => cases behind
  case isTrue =>
    obtain ⟨⟨⟩, start, taken, behind⟩ := (run_bind_eq_ok_iff _ _ _ _ _).mp behind
    obtain ⟨given, last, read, made⟩ := (run_bind_eq_ok_iff _ _ _ _ _).mp behind
    cases made
    exact ⟨start, given, leads_of_run taken, read, rfl⟩

end

-----------------------------------------------------------------------------------------
-- Signatures
-----------------------------------------------------------------------------------------

/-- What is told of where the first argument and the return type of a function stand. -/
def toldPositions (firstArgument : Option Position) (returns : Option TypeShape) : List Position :=
  firstArgument.toList ++ returns.toList.flatMap (·.positions)

namespace Grammar

section

variable {g : Grammar} {before after : Progress} {position : Position}

/-- The first argument stands where the reading of an argument starts. -/
theorem first_of_run_signatureArgument {arguments result : SignatureArguments}
    (ran : (g.signatureArgument arguments).run before = .ok (result, after))
    (first : result.first = some position)
    : arguments.first = some position ∨ place before.rest = position := by
  obtain ⟨start, _, looked, read⟩ := (run_bind_eq_ok_iff _ _ _ _ _).mp ran
  obtain ⟨rfl, rfl⟩ := (run_look_eq_ok_iff _ _ _ _).mp looked
  have own {found : Option Position}
      (told : (if arguments.count = 0 then some (place before.rest) else found) = some position)
      : found = some position ∨ place before.rest = position := by
    split at told
    · exact .inr (Option.some.inj told)
    · exact .inl told
  refine (?gives
      : Gives _ fun result =>
          result.first = some position
          → arguments.first = some position ∨ place before.rest = position)
    _ _ _ read first
  refine .bind fun _ => .bind fun hasDots => ?_
  split
  · refine .bind fun isLast => .pure fun told => ?_
    dsimp only at told
    split at told
    · cases told
    · exact own told
  refine .bind fun isReceiver => ?_
  split
  · exact .bind fun _ => .pure own
  · exact .bind fun _ => .pure own

theorem visits_of_run_signatureArguments {found : SignatureArguments}
    (ran : g.signatureArguments.run before = .ok (found, after))
    (first : found.first = some position)
    : before.Visits after position := by
  refine iterate_invariant
    (fun arguments progress =>
      ∀ position, arguments.first = some position → before.Visits progress position)
    ?stays ?goes ?fresh ran position first
  case stays =>
    intro arguments earlier later leads visits position first
    exact (visits position first).widen (List.suffix_refl _) leads.suffix
  case goes =>
    intro arguments next earlier later leads visits stepped position first
    have onward := leads_of_run stepped
    obtain ⟨-, ended⟩ | ⟨-, stepped⟩ := run_if_sees stepped
    · cases ended
    obtain ⟨more, middle, read, behind⟩ := (run_bind_eq_ok_iff _ _ _ _ _).mp stepped
    obtain rfl : more = next := by
      obtain ⟨-, made⟩ | ⟨-, behind⟩ := run_if_sees behind
      · exact Option.some.inj ((run_pure_eq_ok_iff _ _ _ _).mp made).1
      · obtain ⟨_, _, -, made⟩ := (run_bind_eq_ok_iff _ _ _ _ _).mp behind
        exact Option.some.inj ((run_pure_eq_ok_iff _ _ _ _).mp made).1
    rcases first_of_run_signatureArgument read first with kept | rfl
    · exact (visits position kept).widen (List.suffix_refl _) onward.suffix
    · exact (Progress.visits_place onward.suffix).widen leads.suffix (List.suffix_refl _)
  case fresh =>
    intro position first
    cases first

end

theorem visits_of_run_returnType {depth : Nat} {allowPlus : Bool} {before after : Progress}
    {shape : TypeShape}
    (ran : ((ofDepth depth).returnType allowPlus).run before = .ok (some shape, after))
    : ∀ position ∈ shape.positions, before.Visits after position := by
  obtain ⟨isGiven, middle, marked, behind⟩ := (run_bind_eq_ok_iff _ _ _ _ _).mp ran
  cases isGiven with
  | false => cases behind
  | true =>
      obtain ⟨found, last, read, made⟩ := (run_bind_eq_ok_iff _ _ _ _ _).mp behind
      obtain ⟨⟨⟩, rfl⟩ := (run_pure_eq_ok_iff _ _ _ _).mp made
      have start := (leads_of_run marked).suffix
      exact fun position member =>
        (visits_of_run_type read position member).widen start (List.suffix_refl _)

/-- What is told of a signature stands on the way. -/
theorem visits_of_run_signature {depth : Nat} {before after : Progress} {found : Signature}
    (ran : (ofDepth depth).signature.run before = .ok (found, after))
    : ∀ position ∈ toldPositions found.firstArgument found.returns,
        before.Visits after position := by
  simp only [signature, run_bind_eq_ok_iff, run_pure_eq_ok_iff] at ran
  obtain ⟨_, qualified, qualifiers, _, named, fn, name, generic, identifier, _, listed, parameters,
    arguments, returned, group, returns, conditioned, type, _, last, conditions, rfl, rfl⟩ := ran
  have toName := (leads_of_run qualifiers).trans (leads_of_run fn)
  have toList := toName.trans ((leads_of_run identifier).trans (leads_of_run parameters))
  have toReturns := toList.trans (leads_of_run group)
  have behindType := leads_of_run conditions
  have behindList := (leads_of_run type).trans behindType
  intro position member
  rcases List.mem_append.mp member with first | second
  · obtain ⟨-, middle, inside, rfl⟩ := (run_group_eq_ok_iff _ _ _ _ _).mp group
    have visits := visits_of_run_signatureArguments inside (Option.mem_toList.mp first)
    exact visits.widen ((List.drop_suffix 1 _).trans toList.suffix)
      (behindList.suffix.trans (Progress.leave_suffix middle))
  · obtain ⟨shape, given, told⟩ := List.mem_flatMap.mp second
    obtain rfl : returns = some shape := Option.mem_toList.mp given
    exact (visits_of_run_returnType type position told).widen toReturns.suffix behindType.suffix

section

variable {g : Grammar} {before after : Progress} {found : List Attribute}

/-- The end of a function is at least a semicolon or a brace. -/
theorem advances_of_run_functionEnd (ran : g.functionEnd.run before = .ok (found, after))
    : before.Advances after := by
  have advances {what : Token → Bool} (comes : before.rest.head?.any what = true)
      (behind : after.rest <:+ before.rest.drop 1)
      : before.Advances after := by
    obtain ⟨tokens, written, leftover⟩ := before
    cases tokens with
    | nil => cases comes
    | cons token rest => exact ⟨token, rest, rfl, behind⟩
  obtain ⟨opens, ran⟩ | ⟨-, ran⟩ := run_if_sees ran
  · obtain ⟨-, middle, inside, rfl⟩ := (run_group_eq_ok_iff _ _ _ _ _).mp ran
    have leads := leads_of_run inside
    exact advances opens ((Progress.leave_suffix middle).trans leads.suffix)
  obtain ⟨-, ran⟩ | ⟨-, ran⟩ := run_if_sees ran
  · obtain ⟨_, _, marked, made⟩ := (run_bind_eq_ok_iff _ _ _ _ _).mp ran
    obtain ⟨rfl, rfl⟩ := (run_pure_eq_ok_iff _ _ _ _).mp made
    obtain ⟨comes, rfl⟩ := (run_marks_eq_ok_iff _ _ _ _).mp marked
    exact advances comes (List.suffix_refl _)
  · cases ran

/-- The attributes at the start of a body stand in the body. -/
theorem functionEnd_stand {isOpen : List Delimiter} (closes : Closes isOpen before.rest)
    (ran : g.functionEnd.run before = .ok (found, after))
    : ∀ given ∈ found, given.StandsBetween before after := by
  obtain ⟨opens, ran⟩ | ⟨-, ran⟩ := run_if_sees ran
  · obtain ⟨-, middle, inside, rfl⟩ := (run_group_eq_ok_iff _ _ _ _ _).mp ran
    obtain ⟨attributes, last, read, behind⟩ := (run_bind_eq_ok_iff _ _ _ _ _).mp inside
    obtain ⟨_, _, statements, made⟩ := (run_bind_eq_ok_iff _ _ _ _ _).mp behind
    obtain ⟨rfl, rfl⟩ := (run_pure_eq_ok_iff _ _ _ _).mp made
    have leads := leads_of_run statements
    intro given member
    have stands := innerAttributes_stand (closes.opened opens) read given member
    exact stands.widen (List.drop_suffix 1 _) ((Progress.leave_suffix _).trans leads.suffix)
  obtain ⟨-, ran⟩ | ⟨-, ran⟩ := run_if_sees ran
  · obtain ⟨_, _, marked, made⟩ := (run_bind_eq_ok_iff _ _ _ _ _).mp ran
    obtain ⟨rfl, rfl⟩ := (run_pure_eq_ok_iff _ _ _ _).mp made
    nofun
  · cases ran

end

end Grammar

-----------------------------------------------------------------------------------------
-- Members
-----------------------------------------------------------------------------------------

/-- An attribute stands among some tokens, and its argument is balanced. -/
structure Attribute.StandsIn (given : Attribute) (own : List Token) : Prop where
  position : Holds own given.position
  tokens : given.tokens <:+: own
  balanced : Balanced given.tokens

theorem Attribute.StandsBetween.standsIn {given : Attribute} {before after : Progress}
    (stands : given.StandsBetween before after) {own : List Token}
    (whole : before.rest = own ++ after.rest)
    : given.StandsIn own := by
  refine ⟨stands.position.holds whole, ?_, stands.balanced⟩
  obtain ⟨rest, ⟨front, split⟩, ⟨between, rfl⟩⟩ := stands.tokens
  refine ⟨front, between, ?_⟩
  have same : own ++ after.rest = front ++ given.tokens ++ between ++ after.rest := by
    rw [← whole, ← split]
    simp
  exact (List.append_cancel_right same).symm

/-- A member with all that is kept of it stands among some tokens. It starts with the first one. -/
structure MemberSyntax.StandsIn (written : MemberSyntax) (own : List Token) : Prop where
  start : own.head?.map (·.position) = some written.start
  attributes : ∀ given ∈ written.attributes, given.StandsIn own
  told : ∀ position ∈ toldPositions written.firstArgument written.returns, Holds own position

/-- A member stands among the tokens that it is read from. -/
theorem memberSyntax_stands {isOpen : List Delimiter} {before after : Progress}
    (closes : Closes isOpen before.rest) {written : MemberSyntax}
    (ran : memberSyntax.run before = .ok (written, after))
    : ∃ own, before.rest = own ++ after.rest ∧ written.StandsIn own := by
  simp only [memberSyntax, withGrammar, remaining, run_bind_eq_ok_iff, run_look_eq_ok_iff,
    run_pure_eq_ok_iff] at ran
  obtain ⟨_, _, ⟨rfl, rfl⟩, _, _, ⟨rfl, rfl⟩, outer, signed, marked, signature, ended, read, inside,
    last, ends, rfl, rfl⟩ := ran
  have toSignature := leads_of_run marked
  have toEnd := toSignature.trans (leads_of_run read)
  have behind := leads_of_run ends
  have advances := Grammar.advances_of_run_functionEnd ends
  obtain ⟨own, whole⟩ := (toEnd.trans behind).suffix
  refine ⟨own, whole.symm, ?start, ?attributes, ?told⟩
  case start =>
    obtain ⟨token, member, -⟩ :=
      ((Progress.visits_place toEnd.suffix).passes advances).holds whole.symm
    cases own with
    | nil => cases member
    | cons first others =>
        rw [← whole]
        rfl
  case attributes =>
    intro given member
    rcases List.mem_append.mp member with earlier | later
    · have stands := attributes_stand closes marked given earlier
      have wide := stands.widen (List.suffix_refl _)
        ((leads_of_run read).trans behind).suffix
      exact wide.standsIn whole.symm
    · have stands := Grammar.functionEnd_stand (closes.of_leads toEnd) ends given later
      exact (stands.widen toEnd.suffix (List.suffix_refl _)).standsIn whole.symm
  case told =>
    intro position member
    have visits := Grammar.visits_of_run_signature read position member
    have wide := visits.widen toSignature.suffix (List.suffix_refl _)
    exact (wide.passes advances).holds whole.symm

end NestedSelect.Declaration

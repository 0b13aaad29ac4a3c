import NestedSelect.Declaration.Expansion
import NestedSelect.Proofs.Declaration.MemberSites
import NestedSelect.Proofs.Declaration.Phrases
import NestedSelect.Proofs.Declaration.TokenPositions
/-!
The layout of a block. Between its braces a block has the tokens of its members, one member behind
another and nothing else, and each member is read from its own tokens.
-/

namespace NestedSelect.Declaration

open Reader

-----------------------------------------------------------------------------------------
-- Members behind each other
-----------------------------------------------------------------------------------------

/-- A member with its own tokens. -/
structure MemberSite where
  written : MemberSyntax
  own : List Token
  stands : written.StandsIn own

/-- Members stand one behind another in front of a rest, and each is read from its own tokens. -/
inductive LaidOut (rest : List Token) : List Token → List MemberSite → Prop
  | done : LaidOut rest rest []
  | member {site : MemberSite} {before after : Progress} {sites : List MemberSite}
    (read : memberSyntax.run before = .ok (site.written, after))
    (own : before.rest = site.own ++ after.rest) (others : LaidOut rest after.rest sites)
    : LaidOut rest before.rest (site :: sites)

/-- All of the tokens are those of the members and the rest. -/
theorem LaidOut.eq_append {rest tokens : List Token} {sites : List MemberSite}
    (layout : LaidOut rest tokens sites)
    : tokens = sites.flatMap (·.own) ++ rest := by
  induction layout with
  | done => rfl
  | member read own others ih =>
      rw [own, ih, List.flatMap_cons, List.append_assoc]

/-- Whatever steps over members have read is laid out as members. By induction over the steps. -/
theorem laidOut_of_iterateFor {isOpen : List Delimiter}
    {step : List MemberSyntax → Reader (Option (List MemberSyntax))}
    (steps
      : ∀ {found before after result},
          (step found).run before = .ok (result, after)
          → result = none ∧ before = after
            ∨ ∃ written,
                result = some (written :: found)
                ∧ memberSyntax.run before = .ok (written, after))
    {times : Nat} {found result : List MemberSyntax} {before after : Progress}
    (closes : Closes isOpen before.rest)
    (ran : (iterateFor step times found).run before = .ok (result, after))
    : ∃ sites,
        LaidOut after.rest before.rest sites
        ∧ result = (sites.map (·.written)).reverse ++ found := by
  induction times generalizing found before with
  | zero =>
      obtain ⟨rfl, rfl⟩ := (run_pure_eq_ok_iff _ _ _ _).mp ran
      exact ⟨[], .done, rfl⟩
  | succ times ih =>
      obtain ⟨next, middle, stepped, behind⟩ := (run_bind_eq_ok_iff _ _ _ _ _).mp ran
      obtain ⟨rfl, rfl⟩ | ⟨written, rfl, read⟩ := steps stepped
      · obtain ⟨rfl, rfl⟩ := (run_pure_eq_ok_iff _ _ _ _).mp behind
        exact ⟨[], .done, rfl⟩
      · have leads := leads_of_run read
        obtain ⟨own, whole, stands⟩ := memberSyntax_stands closes read
        obtain ⟨sites, others, rfl⟩ := ih (closes.of_leads leads) behind
        refine ⟨⟨written, own, stands⟩ :: sites, .member read whole others, ?_⟩
        simp

theorem laidOut_of_repeated {isOpen : List Delimiter} {before after : Progress}
    {members : List MemberSyntax} (closes : Closes isOpen before.rest)
    (ran : (repeated memberSyntax).run before = .ok (members, after))
    : ∃ sites, LaidOut after.rest before.rest sites ∧ members = sites.map (·.written) := by
  obtain ⟨reversed, middle, iterated, done⟩ := (run_bind_eq_ok_iff _ _ _ _ _).mp ran
  obtain ⟨rfl, rfl⟩ := (run_pure_eq_ok_iff _ _ _ _).mp done
  obtain ⟨_, _, counted, iterated⟩ := (run_bind_eq_ok_iff _ _ _ _ _).mp iterated
  obtain ⟨rfl, rfl⟩ := (run_look_eq_ok_iff _ _ _ _).mp counted
  refine (laidOut_of_iterateFor (fun stepped => ?_) closes iterated).imp fun sites laidOut => ?_
  case refine_2 =>
    obtain ⟨layout, rfl⟩ := laidOut
    exact ⟨layout, by simp⟩
  obtain ⟨-, ended⟩ | ⟨-, goes⟩ := run_if_sees stepped
  · obtain ⟨rfl, rfl⟩ := (run_pure_eq_ok_iff _ _ _ _).mp ended
    exact .inl ⟨rfl, rfl⟩
  · obtain ⟨written, last, read, made⟩ := (run_bind_eq_ok_iff _ _ _ _ _).mp goes
    obtain ⟨rfl, rfl⟩ := (run_pure_eq_ok_iff _ _ _ _).mp made
    exact .inr ⟨written, rfl, read⟩

-----------------------------------------------------------------------------------------
-- Blocks
-----------------------------------------------------------------------------------------

/-- The members of a block stand between its braces, which end it. -/
inductive Block.Encloses (content : List Token) (sites : List MemberSite) : Prop
  | intro {front inside : List Token} {opening closing : Token}
    (whole : content = front ++ opening :: inside) (opens : opening.kind = .opening .brace)
    (layout : LaidOut [closing] inside sites) (closes : closing.kind = .closing .brace)

/-- A block that is read has its members between braces. -/
theorem encloses_of_readAll {content : List Token} (balanced : Balanced content) {found : Block}
    (read : readAll block content = .ok found)
    : ∃ sites, Block.Encloses content sites ∧ found.members = sites.map (·.written) := by
  obtain ⟨after, ran, complete, all⟩ := (readAll_eq_ok_iff _ _ _).mp read
  obtain ⟨start, leads, grouped⟩
      : ∃ start,
          (⟨content, [], none⟩ : Progress).Leads start
          ∧ (group .brace (repeated memberSyntax)).run start = .ok (found.members, after) := by
    simp only [block, run_bind_eq_ok_iff] at ran
    obtain ⟨given, opened, marked, ⟨⟩, started, keyword, first, middle, readFirst, isTrait, next,
      asked, behind⟩ := ran
    have toType := (leads_of_run marked).trans (leads_of_run keyword)
    have toNext := toType.trans ((leads_of_run readFirst).trans (leads_of_run asked))
    cases isTrait with
    | false =>
        simp only [Bool.false_eq_true, if_false, run_bind_eq_ok_iff, run_pure_eq_ok_iff] at behind
        obtain ⟨_, _, ⟨rfl, rfl⟩, members, _, grouped, rfl, rfl⟩ := behind
        exact ⟨next, toNext, grouped⟩
    | true =>
        simp only [if_true, run_bind_eq_ok_iff, run_pure_eq_ok_iff] at behind
        obtain ⟨path, last, readType, members, _, grouped, rfl, rfl⟩ := behind
        exact ⟨last, toNext.trans (leads_of_run readType), grouped⟩
  obtain ⟨opening, closing, inside, middle, whole, opens, read, closes, -, left, closed⟩ :=
    exists_of_run_group grouped complete (balanced.of_leads leads)
  obtain ⟨sites, layout, members⟩ := laidOut_of_repeated closes read
  obtain ⟨front, split⟩ := leads.suffix
  rw [left, all] at layout
  have whole : content = front ++ opening :: inside := split.symm.trans (congrArg _ whole)
  exact ⟨sites, .intro whole (of_decide_eq_true opens) layout closed, members⟩

end NestedSelect.Declaration

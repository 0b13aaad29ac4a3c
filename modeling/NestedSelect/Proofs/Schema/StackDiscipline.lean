import Mathlib.Data.Fintype.Card
import Mathlib.Logic.Relation
import NestedSelect.Proofs.Schema.TargetResolution
/-!
Resolution step by step on one stack. Every call puts the name of its schema on the stack before it
follows any link, and takes it off when it returns; a call that fails leaves the stack as it is.
Such a run comes to an end, because each call uses up a name, and it does what resolution under a
stack of names does: all links of a schema are followed under the same names.
-/

namespace NestedSelect

variable {size : Nat}

-----------------------------------------------------------------------------------------
-- Steps
-----------------------------------------------------------------------------------------

/-- The resolution of one schema, as far as it has come. -/
structure OpenCall (size : Nat) where
  index : Fin size
  /-- What has been taken over so far. -/
  collected : Schema size
  /-- The relations met so far that are not embedded. -/
  own : List (RelationLink size)
  /-- The links that have not been followed yet. -/
  waiting : List (RelationLink size)

namespace OpenCall

/-- A call that has not followed any link yet. -/
def start (catalog : Catalog size) (index : Fin size) : OpenCall size where
  index := index
  collected := { catalog index with fields := [], relations := [] }
  own := []
  waiting := (catalog index).relations

/-- The call goes on behind a link that is not followed. -/
def keep (call : OpenCall size) (link : RelationLink size) : OpenCall size :=
  { call with own := call.own ++ [link] }

/-- The call goes on behind a link whose target has been resolved. -/
def take (call : OpenCall size) (part : Schema size) : OpenCall size :=
  { call with
    collected := {
      call.collected with
      tableName := call.collected.tableName.or part.tableName
      primaryKey := call.collected.primaryKey.or part.primaryKey
      fields := call.collected.fields ++ part.fields
      relations := call.collected.relations ++ part.relations } }

/-- What a call returns that has no links left. -/
def result (catalog : Catalog size) (call : OpenCall size) : Schema size :=
  { call.collected with
    fields := call.collected.fields ++ (catalog call.index).fields
    relations := call.collected.relations ++ call.own }

end OpenCall

/-- A moment of a resolution: what happens next, the calls that wait for it, and the stack. -/
inductive Moment (size : Nat) where
  /-- A schema is about to be resolved. -/
  | entering (index : Fin size) (callers : List (OpenCall size)) (stack : List String)
  /-- A call is about to look at its next link. -/
  | collecting (call : OpenCall size) (callers : List (OpenCall size)) (stack : List String)
  /-- A schema has been resolved. -/
  | returning (resolved : Schema size) (callers : List (OpenCall size)) (stack : List String)
  /-- The calls have been given up. -/
  | failed (error : QueryError) (callers : List (OpenCall size)) (stack : List String)

namespace Moment

/-- The names on the stack, the last one put there in front. -/
def stack : Moment size → List String
  | entering _ _ stack | collecting _ _ stack | returning _ _ stack | failed _ _ stack => stack

/-- The calls that have put their names on the stack and not taken them off. -/
def calls : Moment size → List (OpenCall size)
  | collecting call callers _ => call :: callers
  | entering _ callers _ | returning _ callers _ | failed _ callers _ => callers

/-- What a resolution has come to that is over. -/
def outcome? : Moment size → Option (Except QueryError (Schema size))
  | returning resolved [] _ => some (.ok resolved)
  | failed error _ _ => some (.error error)
  | _ => none

end Moment

namespace Catalog

variable (catalog : Catalog size)

/-- The next moment of a resolution that is not over. -/
def next? : Moment size → Option (Moment size)
  | .entering index callers stack =>
    if (catalog index).name ∈ stack then
      some (.failed (.schema (catalog index).name .embeddingCycle) callers stack)
    else some (.collecting (.start catalog index) callers ((catalog index).name :: stack))
  | .collecting call callers stack =>
    match call.waiting with
    | [] => some (.returning (call.result catalog) callers stack.tail)
    | link :: rest =>
      if link.embed then some (.entering link.target ({ call with waiting := rest } :: callers) stack)
      else some (.collecting ({ call with waiting := rest }.keep link) callers stack)
  | .returning resolved (caller :: callers) stack =>
    some (.collecting (caller.take resolved) callers stack)
  | .returning _ [] _ | .failed .. => none

/-- A resolution goes from one moment to another one in some number of steps. -/
def Runs : Moment size → Moment size → Prop :=
  Relation.ReflTransGen fun before after => catalog.next? before = some after

/-- From a moment on a resolution returns to some callers and a stack, or it fails. -/
def Answers (moment : Moment size) (callers : List (OpenCall size)) (stack : List String)
    (outcome : Except QueryError (Schema size))
    : Prop :=
  match outcome with
  | .ok resolved => catalog.Runs moment (.returning resolved callers stack)
  | .error error => ∃ given left, catalog.Runs moment (.failed error given left)

variable {catalog}

theorem Answers.step {before after : Moment size} (next : catalog.next? before = some after)
    {callers : List (OpenCall size)} {stack : List String}
    {outcome : Except QueryError (Schema size)}
    (answers : catalog.Answers after callers stack outcome)
    : catalog.Answers before callers stack outcome := by
  cases outcome with
  | ok resolved => exact .head next answers
  | error error =>
      obtain ⟨given, left, runs⟩ := answers
      exact ⟨given, left, .head next runs⟩

/-- What follows a call that returns is added to what it does. -/
theorem Answers.bind {moment : Moment size} {inner : List (OpenCall size)}
    {pushed : List String} {outcome : Except QueryError (Schema size)}
    (answers : catalog.Answers moment inner pushed outcome)
    {callers : List (OpenCall size)} {stack : List String}
    {next : Schema size → Except QueryError (Schema size)}
    (behind
      : ∀ resolved,
          catalog.Answers (.returning resolved inner pushed) callers stack (next resolved))
    : catalog.Answers moment callers stack (outcome >>= next) := by
  cases outcome with
  | error error => exact answers
  | ok resolved =>
      change catalog.Answers moment callers stack (next resolved)
      have answersBehind := behind resolved
      cases last : next resolved with
      | ok result =>
          rw [last] at answersBehind
          exact answers.trans answersBehind
      | error error =>
          rw [last] at answersBehind
          obtain ⟨given, left, runs⟩ := answersBehind
          exact ⟨given, left, answers.trans runs⟩

end Catalog

-----------------------------------------------------------------------------------------
-- What a run computes
-----------------------------------------------------------------------------------------

/-- A call that has taken over some schemas, kept some relations and has some links before it. -/
def OpenCall.behind (catalog : Catalog size) (index : Fin size) (embedded : List (Schema size))
    (own waiting : List (RelationLink size))
    : OpenCall size where
  index := index
  collected := {
    (catalog index).withEmbedded embedded with
    fields := embedded.flatMap (·.fields)
    relations := embedded.flatMap (·.relations) }
  own := own
  waiting := waiting

theorem OpenCall.start_eq (catalog : Catalog size) (index : Fin size)
    : OpenCall.start catalog index
        = OpenCall.behind catalog index [] [] (catalog index).relations := by
  simp [start, behind, Schema.withEmbedded]

theorem OpenCall.take_behind (catalog : Catalog size) (index : Fin size)
    (embedded : List (Schema size)) (own waiting : List (RelationLink size)) (part : Schema size)
    : (behind catalog index embedded own waiting).take part
        = behind catalog index (embedded ++ [part]) own waiting := by
  simp only [take, behind, Schema.withEmbedded, ← List.cons_append, List.findSome?_append,
    List.flatMap_append, List.flatMap_singleton]
  simp

namespace Catalog

variable {catalog : Catalog size}

/-- A call follows its links in order. By induction over the links that are left. -/
theorem answers_collecting {stack : List String}
    (each
      : ∀ target callers,
          catalog.Answers (.entering target callers stack) callers stack
            (catalog.resolveUnder stack target))
    (index : Fin size) (callers : List (OpenCall size)) (embedded : List (Schema size))
    (own links : List (RelationLink size))
    : catalog.Answers (.collecting (.behind catalog index embedded own links) callers stack) callers
        stack.tail
        (do
          let parts ← ((links.filter (·.embed)).map (·.target)).mapM (catalog.resolveUnder stack)
          return (OpenCall.behind catalog index (embedded ++ parts)
            (own ++ links.filter (!·.embed)) []).result catalog) := by
  induction links generalizing embedded own with
  | nil =>
      rw [List.filter_nil, List.map_nil, List.mapM_nil]
      change catalog.Answers _ _ _ (.ok _)
      rw [List.append_nil, List.filter_nil, List.append_nil]
      exact .single rfl
  | cons link rest ih =>
      cases follows : link.embed with
      | true =>
          have next
              : catalog.next? (.collecting (.behind catalog index embedded own (link :: rest))
                    callers stack)
                  = some (.entering link.target (.behind catalog index embedded own rest :: callers)
                      stack) := if_pos follows
          refine Answers.step next ?_
          simp only [List.filter_cons, follows, if_true, List.map_cons, List.mapM_cons, bind_assoc,
            pure_bind]
          -- The target is answered to this call, which is on top of its callers by now.
          refine (each link.target _).bind fun part => ?_
          refine Answers.step rfl ?_
          rw [OpenCall.take_behind]
          simpa using ih (embedded ++ [part]) own
      | false =>
          have next
              : catalog.next? (.collecting (.behind catalog index embedded own (link :: rest))
                    callers stack)
                  = some (.collecting (.behind catalog index embedded (own ++ [link]) rest) callers
                      stack) := if_neg (by simp [follows])
          refine Answers.step next ?_
          simpa [List.filter_cons, follows] using ih embedded (own ++ [link])

/-- A resolution does what resolution under the names on its stack does. By induction over the
schemas that are resolved on the way.
-/
theorem answers_entering (stack : List String) (index : Fin size)
    : ∀ callers,
        catalog.Answers (.entering index callers stack) callers stack
          (catalog.resolveUnder stack index) := by
  induction stack, index using Catalog.resolveUnder.induct catalog with
  | case1 stack index cycle =>
      intro callers
      rw [resolveUnder, dif_pos cycle]
      exact ⟨callers, stack, .single (if_pos cycle)⟩
  | case2 stack index fresh ih =>
      intro callers
      rw [resolveUnder, dif_neg fresh]
      have next
          : catalog.next? (.entering index callers stack)
              = some (.collecting (.start catalog index) callers ((catalog index).name :: stack)) :=
        if_neg fresh
      refine Answers.step next ?_
      rw [OpenCall.start_eq]
      exact answers_collecting ih index callers [] [] (catalog index).relations

/-- Where a resolution comes to an end, there is no endless one: it goes on in one way only. -/
theorem acc_of_runs {moment last : Moment size} (runs : catalog.Runs moment last)
    (stopped : catalog.next? last = none)
    : Acc (fun after before => catalog.next? before = some after) moment := by
  induction runs using Relation.ReflTransGen.head_induction_on with
  | refl =>
      refine .intro _ fun after next => ?_
      rw [stopped] at next
      cases next
  | head first _ ih =>
      refine .intro _ fun after next => ?_
      rw [Option.some.inj (next.symm.trans first)]
      exact ih

/-- A resolution that no call waits for comes to an end with the outcome of resolution under the
names on its stack.
-/
theorem exists_last (stack : List String) (index : Fin size)
    : ∃ last,
        catalog.Runs (.entering index [] stack) last
          ∧ catalog.next? last = none
          ∧ last.outcome? = some (catalog.resolveUnder stack index) := by
  have answers
      : catalog.Answers (.entering index [] stack) [] stack (catalog.resolveUnder stack index) :=
    answers_entering stack index []
  cases outcome : catalog.resolveUnder stack index with
  | ok resolved =>
      rw [outcome] at answers
      exact ⟨_, answers, rfl, rfl⟩
  | error error =>
      rw [outcome] at answers
      obtain ⟨callers, left, runs⟩ := answers
      exact ⟨_, runs, rfl, rfl⟩

end Catalog

-----------------------------------------------------------------------------------------
-- What is on the stack
-----------------------------------------------------------------------------------------

namespace Catalog

variable (catalog : Catalog size)

/-- The names that some calls have put on the stack. -/
def pushed (calls : List (OpenCall size)) : List String :=
  calls.map fun call => (catalog call.index).name

/-- How many names of schemas of the catalog are not on a stack. -/
def unseen (stack : List String) : Nat :=
  ((Finset.univ.image fun index => (catalog index).name) \ stack.toFinset).card

/-- Each of some calls has been entered before a moment of a resolution, when its name was not on
the stack. What was on the stack then is what is below its name now.
-/
def Entered (start moment : Moment size) : List (OpenCall size) → Prop
  | [] => True
  | call :: callers =>
    (catalog call.index).name ∉ catalog.pushed callers ++ start.stack
      ∧ catalog.Runs start (.entering call.index callers (catalog.pushed callers ++ start.stack))
      ∧ catalog.Runs (.entering call.index callers (catalog.pushed callers ++ start.stack)) moment
      ∧ Entered start moment callers

/-- At a moment of a resolution the names of the open calls are on the stack, above those that were
there at the start.
-/
structure Stacked (start moment : Moment size) : Prop where
  stack : moment.stack = catalog.pushed moment.calls ++ start.stack
  entered : catalog.Entered start moment moment.calls

variable {catalog}

/-- A name of the catalog that is put on the stack is one name less to be seen. -/
theorem unseen_cons {stack : List String} {index : Fin size}
    (fresh : (catalog index).name ∉ stack)
    : catalog.unseen ((catalog index).name :: stack) + 1 = catalog.unseen stack := by
  unfold unseen
  rw [List.toFinset_cons, Finset.sdiff_insert]
  exact Finset.card_erase_add_one (by simpa using fresh)

/-- Calls that have been entered before a moment have been entered before a later one. -/
theorem Entered.later {start before after : Moment size} (runs : catalog.Runs before after)
    {calls : List (OpenCall size)} (entered : catalog.Entered start before calls)
    : catalog.Entered start after calls := by
  induction calls with
  | nil => trivial
  | cons call callers ih =>
      obtain ⟨fresh, reached, since, others⟩ := entered
      exact ⟨fresh, reached, since.trans runs, ih others⟩

/-- No name is put on the stack twice, nor one that was there at the start. -/
theorem Entered.distinct {start moment : Moment size} {calls : List (OpenCall size)}
    (entered : catalog.Entered start moment calls)
    : (catalog.pushed calls).Nodup ∧ ∀ name ∈ catalog.pushed calls, name ∉ start.stack := by
  induction calls with
  | nil => exact ⟨List.nodup_nil, nofun⟩
  | cons call callers ih =>
      obtain ⟨fresh, -, -, others⟩ := entered
      obtain ⟨distinct, apart⟩ := ih others
      obtain ⟨new, base⟩ := not_or.mp (mt List.mem_append.mpr fresh)
      exact ⟨distinct.cons new, List.forall_mem_cons.mpr ⟨base, apart⟩⟩

/-- Every open call accounts for one name. -/
theorem Entered.counted {start moment : Moment size} {calls : List (OpenCall size)}
    (entered : catalog.Entered start moment calls)
    : catalog.unseen (catalog.pushed calls ++ start.stack) + calls.length
        = catalog.unseen start.stack := by
  induction calls with
  | nil => rfl
  | cons call callers ih =>
      obtain ⟨fresh, -, -, others⟩ := entered
      rw [← ih others, ← unseen_cons fresh, List.length_cons, Nat.add_right_comm]
      rfl

/-- One step puts at most one name on the stack or takes one off, along with its call. -/
theorem Stacked.next {start before after : Moment size} (stacked : catalog.Stacked start before)
    (runs : catalog.Runs start before) (next : catalog.next? before = some after)
    : catalog.Stacked start after := by
  have later := stacked.entered.later (.single next)
  have same := stacked.stack
  cases before with
  | entering index callers stack =>
      by_cases cycle : (catalog index).name ∈ stack
      · obtain rfl := Option.some.inj ((if_pos cycle).symm.trans next)
        exact ⟨same, later⟩
      · obtain rfl := Option.some.inj ((if_neg cycle).symm.trans next)
        have below : stack = catalog.pushed callers ++ start.stack := same
        refine ⟨congrArg ((catalog index).name :: ·) below, below ▸ cycle, ?_, ?_, later⟩
        · exact below ▸ runs
        · exact below ▸ .single next
  | collecting call callers stack =>
      obtain ⟨index, collected, own, waiting⟩ := call
      cases waiting with
      | nil =>
          -- The name on top is that of this call.
          obtain rfl := Option.some.inj next
          exact ⟨congrArg List.tail same, later.2.2.2⟩
      | cons link rest =>
          by_cases follows : link.embed = true
          · obtain rfl := Option.some.inj ((if_pos follows).symm.trans next)
            exact ⟨same, later⟩
          · obtain rfl := Option.some.inj ((if_neg follows).symm.trans next)
            exact ⟨same, later⟩
  | returning resolved callers stack =>
      cases callers with
      | nil => cases next
      | cons caller callers =>
          obtain rfl := Option.some.inj next
          exact ⟨same, later⟩
  | failed error callers stack => cases next

/-- Throughout a resolution the stack holds what it held at the start and the names of the open
calls, by induction over its steps.
-/
theorem stacked_of_runs {index : Fin size} {base : List String} {moment : Moment size}
    (runs : catalog.Runs (.entering index [] base) moment)
    : catalog.Stacked (.entering index [] base) moment := by
  induction runs with
  | refl => exact ⟨rfl, trivial⟩
  | tail earlier next ih => exact ih.next earlier next

-----------------------------------------------------------------------------------------
-- Runs
-----------------------------------------------------------------------------------------

/-- What holds at a moment of a resolution that starts with a schema and a stack. -/
structure Disciplined (catalog : Catalog size) (index : Fin size) (base : List String)
    (moment : Moment size)
    : Prop where
  /-- The names of the open calls are on the stack, above those that were there at the start. -/
  stack : moment.stack = catalog.pushed moment.calls ++ base
  distinct : (catalog.pushed moment.calls).Nodup
  apart : ∀ name ∈ catalog.pushed moment.calls, name ∉ base
  /-- Each open call has used up one name. -/
  counted : catalog.unseen moment.stack + moment.calls.length = catalog.unseen base
  /-- A call for the target of a link is made by a call that is open, under the names that were on
  the stack when that one was entered and its own name, and thus with fewer names to be seen. It is
  answered as resolution under these names says, whatever links have been followed before.
  -/
  nested
    : ∀ target call callers stack,
        moment = .entering target (call :: callers) stack
        → ∃ before,
            stack = (catalog call.index).name :: before
              ∧ catalog.Runs (.entering index [] base) (.entering call.index callers before)
              ∧ catalog.Runs (.entering call.index callers before) moment
              ∧ catalog.unseen stack < catalog.unseen before
              ∧ catalog.Answers moment (call :: callers) stack
                  (catalog.resolveUnder ((catalog call.index).name :: before) target)

/-- Resolution on one stack comes to an end from every schema and every stack, with the outcome of
resolution under the names on the stack. A call for the target of a link always has fewer names to
see, no name is put on the stack that is there already, and a call that returns leaves the stack as
it was when the call was entered.
-/
theorem resolution_keeps_stack (catalog : Catalog size) (index : Fin size) (base : List String)
    : Acc (fun after before => catalog.next? before = some after) (.entering index [] base)
      ∧ (∃ last,
          catalog.Runs (.entering index [] base) last
            ∧ catalog.next? last = none
            ∧ last.outcome? = some (catalog.resolveUnder base index))
      ∧ (∀ resolved left,
          catalog.Runs (.entering index [] base) (.returning resolved [] left) → left = base)
      ∧ ∀ moment,
          catalog.Runs (.entering index [] base) moment
          → catalog.Disciplined index base moment := by
  obtain ⟨last, ends, stopped, outcome⟩ := catalog.exists_last base index
  refine ⟨acc_of_runs ends stopped, ⟨last, ends, stopped, outcome⟩, ?_, ?_⟩
  · intro resolved left runs
    exact (stacked_of_runs runs).stack
  · intro moment runs
    obtain ⟨stack, entered⟩ := stacked_of_runs runs
    obtain ⟨distinct, apart⟩ := entered.distinct
    refine ⟨stack, distinct, apart, stack ▸ entered.counted, ?_⟩
    rintro target call callers pushed rfl
    obtain ⟨fresh, reached, since, -⟩ := entered
    have above : pushed = (catalog call.index).name :: (catalog.pushed callers ++ base) := stack
    refine ⟨_, above, reached, since, ?_, ?_⟩
    · have fewer := unseen_cons fresh
      rw [above]
      exact Nat.lt_of_succ_le fewer.le
    · rw [← above]
      exact answers_entering pushed target (call :: callers)

end Catalog

end NestedSelect

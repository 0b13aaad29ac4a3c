import NestedSelect.Proofs.Statement.Outline
/-!
Frames. Whatever the parts of a draft are spelled as, characters or tokens, an outline spells a
fixed frame with one gap for each inquiry, and filling the outline spells the texts into the gaps.
-/

namespace NestedSelect

variable {α β : Type}

-----------------------------------------------------------------------------------------
-- Weaving
-----------------------------------------------------------------------------------------

/-- A list with the members of another one in the gaps between its own. -/
def weave : List α → List α → List α
  | first :: rest, inner :: more => first :: inner :: weave rest more
  | outer, [] => outer
  | [], inner => inner

@[simp]
theorem weave_cons_cons (first inner : α) (rest more : List α)
    : weave (first :: rest) (inner :: more) = first :: inner :: weave rest more := rfl

@[simp]
theorem weave_nil_right (outer : List α) : weave outer [] = outer := by
  cases outer <;> rfl

theorem map_weave (f : α → β) (outer inner : List α)
    : (weave outer inner).map f = weave (outer.map f) (inner.map f) := by
  induction outer generalizing inner with
  | nil => cases inner <;> simp [weave]
  | cons first rest ih => cases inner <;> simp [ih]

/-- What stands in front of all pieces of a frame. -/
def prepend (front : List β) : List (List β) → List (List β)
  | [] => [front]
  | first :: rest => (front ++ first) :: rest

/-- What is put in front of a frame stands in front of all that is woven with it. -/
theorem flatten_weave_prepend (front first : List β) (rest inner : List (List β))
    : (weave (prepend front (first :: rest)) inner).flatten
        = front ++ (weave (first :: rest) inner).flatten := by
  cases inner <;> simp [prepend]

-----------------------------------------------------------------------------------------
-- Spelling
-----------------------------------------------------------------------------------------

/-- The spelling of all parts of a draft that starts at `depth`. -/
def Draft.spell (spelling : Nat → Draft.Part → List β) (depth : Nat) : Draft → List β
  | [] => []
  | part :: rest => spelling depth part ++ spell spelling (part.depthAfter depth) rest

/-- A draft is written character by character. -/
theorem Draft.toList_write (layout : Layout) (draft : Draft)
    : (draft.write layout).toList
        = draft.spell (fun depth part => (part.write layout depth).toList) 0 := by
  have texts (depth : Nat)
      : (String.join (draft.texts layout depth)).toList
          = draft.spell (fun depth part => (part.write layout depth).toList) depth := by
    induction draft generalizing depth with
    | nil => rfl
    | cons part rest ih =>
        rw [Draft.texts, String.join_cons, String.toList_append, ih, spell]
  exact texts 0

/-- A line break consists of blanks. -/
theorem Draft.mem_lineBreak (layout : Layout) (depth : Nat)
    : ∀ c ∈ (layout.lineBreak depth).toList, c = ' ' ∨ c = '\n' := by
  have blanks (count : Nat) : ∀ c ∈ ("".pushn ' ' count).toList, c = ' ' := by
    induction count with
    | zero => simp [String.pushn_eq_repeat_push, Nat.repeat]
    | succ count ih =>
        intro c inside
        rw [String.pushn_eq_repeat_push, Nat.repeat, String.toList_push,
          ← String.pushn_eq_repeat_push, List.mem_append] at inside
        rcases inside with before | last
        · exact ih c before
        · exact List.mem_singleton.mp last
  intro c inside
  cases layout with
  | compact => exact .inl (by simpa [Layout.lineBreak] using inside)
  | pretty =>
      rw [Layout.lineBreak, String.toList_append, List.mem_append] at inside
      rcases inside with first | blank
      · exact .inr (by simpa using first)
      · exact .inl (blanks _ c blank)

namespace Outline

/-- The spelling of an outline between its inquiries. -/
def frame (spelling : Nat → Draft.Part → List β) (depth : Nat) : Outline → List (List β)
  | [] => [[]]
  | .part part :: rest =>
    prepend (spelling depth part) (frame spelling (part.depthAfter depth) rest)
  | .inquiry _ :: rest => [] :: frame spelling depth rest

/-- A frame has a piece in front of each inquiry and one behind the last. -/
theorem length_frame (spelling : Nat → Draft.Part → List β) (depth : Nat) (outline : Outline)
    : (outline.frame spelling depth).length = outline.inquiries.length + 1 := by
  induction outline generalizing depth with
  | nil => rfl
  | cons item rest ih =>
      cases item with
      | part part =>
          have later := ih (part.depthAfter depth)
          rw [frame, inquiries]
          cases pieces : frame spelling (part.depthAfter depth) rest with
          | nil => simp [pieces] at later
          | cons first others =>
              rw [pieces] at later
              exact later
      | inquiry inquiry => simp [frame, inquiries, ih]

/-- A filled outline spells its frame with the texts in the gaps. By induction over the outline: a
text that is filled in leaves the depth of the lines behind it.
-/
theorem spell_fill (spelling : Nat → Draft.Part → List β) (ofText : String → List β)
    (fixed : ∀ depth text, spelling depth (.text text) = ofText text)
    (depth : Nat) (outline : Outline) (texts : List String)
    (fits : outline.inquiries.length = texts.length)
    : (outline.fill texts).spell spelling depth
        = (weave (outline.frame spelling depth) (texts.map ofText)).flatten := by
  induction outline generalizing depth texts with
  | nil =>
      obtain rfl : texts = [] := by simpa [inquiries] using fits.symm
      rfl
  | cons item rest ih =>
      cases item with
      | part part =>
          have later := ih (part.depthAfter depth) texts fits
          have size := length_frame spelling (part.depthAfter depth) rest
          rw [fill, frame, Draft.spell, later]
          cases pieces : frame spelling (part.depthAfter depth) rest with
          | nil => simp [pieces] at size
          | cons first others => rw [flatten_weave_prepend]
      | inquiry inquiry =>
          cases texts with
          | nil => simp [inquiries] at fits
          | cons text texts =>
              have later := ih depth texts (by simpa [inquiries] using fits)
              rw [fill, frame, Draft.spell, fixed]
              change ofText text ++ Draft.spell spelling depth (fill rest texts) = _
              rw [later]
              simp

end Outline

end NestedSelect

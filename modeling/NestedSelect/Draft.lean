import NestedSelect.Text.Quoted
/-!
A statement before layout. A draft is the list of the parts of a statement in writing order, and
`Draft.write` turns it into text. Only line breaks depend on the layout: a compact statement has
one blank for each, a pretty one starts a new line at the current depth.
-/

namespace NestedSelect

/-- How the line breaks of a statement are written. -/
inductive Layout where
  | compact
  | pretty
deriving DecidableEq, Repr

/-- What a line break does to the depth of the lines from there on. -/
inductive LineShift where
  | keep
  | deeper
  | shallower
deriving DecidableEq, Repr

/-- The depth after a shift. A line at depth zero that goes `shallower` stays there. -/
def LineShift.apply (depth : Nat) : LineShift → Nat
  | .keep => depth
  | .deeper => depth + 1
  | .shallower => depth - 1

/-- The blanks that one level of depth puts in front of a line. -/
def Layout.indentWidth : Nat := 2

/-- A line break in front of a line at `depth`. -/
def Layout.lineBreak (depth : Nat) : Layout → String
  | .compact => " "
  | .pretty => "\n" ++ "".pushn ' ' (indentWidth * depth)

/-- One part of a statement. -/
inductive Draft.Part where
  /-- Text that is copied as it is. -/
  | text (content : String)
  /-- A name, written as a quoted identifier. -/
  | identifier (name : String)
  /-- Text written as a string literal. -/
  | literal (content : String)
  /-- A line break. -/
  | line (shift : LineShift)
deriving DecidableEq, Repr

/-- The parts of a statement in writing order. -/
abbrev Draft := List Draft.Part

namespace Draft

namespace Part

/-- The depth of the lines after a part, where those before it are at `depth`. -/
def depthAfter (depth : Nat) : Part → Nat
  | .line shift => shift.apply depth
  | _ => depth

/-- A part as text. A line break is written for the depth that it leads to. -/
def write (layout : Layout) (depth : Nat) : Part → String
  | .text content => content
  | .identifier name => quoteIdentifier name
  | .literal content => quoteLiteral content
  | .line shift => layout.lineBreak (shift.apply depth)

end Part

/-- A column qualified by the name it is read from. -/
def column (qualifier name : String) : Draft :=
  [.identifier qualifier, .text ".", .identifier name]

/-- The depth after all parts of a draft. -/
def depthAfter (depth : Nat) : Draft → Nat
  | [] => depth
  | part :: rest => depthAfter (part.depthAfter depth) rest

/-- The texts of the parts of a draft that starts at `depth`. -/
def texts (layout : Layout) (depth : Nat) : Draft → List String
  | [] => []
  | part :: rest => part.write layout depth :: texts layout (part.depthAfter depth) rest

/-- A draft as text, from depth zero. -/
def write (layout : Layout) (draft : Draft) : String :=
  String.join (draft.texts layout 0)

/-- The back of a draft is written from the depth that its front leads to. -/
theorem texts_append (layout : Layout) (depth : Nat) (front back : Draft)
    : texts layout depth (front ++ back)
        = texts layout depth front ++ texts layout (depthAfter depth front) back := by
  induction front generalizing depth with
  | nil => rfl
  | cons part rest ih => simp [texts, depthAfter, ih]

/-- The depth behind two drafts in a row is reached by way of the depth behind the front one. -/
theorem depthAfter_append (depth : Nat) (front back : Draft)
    : depthAfter depth (front ++ back) = depthAfter (depthAfter depth front) back := by
  induction front generalizing depth with
  | nil => rfl
  | cons part rest ih => simp [depthAfter, ih]

end Draft

end NestedSelect

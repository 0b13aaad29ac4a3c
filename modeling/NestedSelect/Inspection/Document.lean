import NestedSelect.Text.Escaped
/-!
Inspection text: values spelled out with the names of their types and fields. A document is the
structure of such a text, and it is written either on one line or over indented lines.
-/

namespace NestedSelect.Inspection

/-- The structure of an inspection text. -/
inductive Document where
  /-- A value that is a single word, such as a number or the name of a case. -/
  | word (spelling : String)
  | text (content : String)
  | present (value : Document)
  | list (items : List Document)
  | map (entries : List (String × Document))
  | record (name : String) (fields : List (String × Document))

namespace Document

/-- A flag as a document. -/
def flag (value : Bool) : Document :=
  .word (if value then "true" else "false")

/-- A text that may be absent. -/
def optionalText : Option String → Document
  | none => .word "None"
  | some content => .present (.text content)

/-- A value behind its name. -/
def labelled (name : String) (document : String) : String :=
  name ++ ": " ++ document

mutual

/-- A document on one line. -/
def plain : Document → String
  | .word spelling => spelling
  | .text content => Escaped.quoted content
  | .present value => "Some(" ++ value.plain ++ ")"
  | .list items => "[" ++ ", ".intercalate (plainItems items) ++ "]"
  | .map entries => "\x7b" ++ ", ".intercalate (plainEntries Escaped.quoted entries) ++ "\x7d"
  | .record name fields => name ++ " \x7b " ++ ", ".intercalate (plainEntries id fields) ++ " \x7d"

def plainItems : List Document → List String
  | [] => []
  | item :: rest => item.plain :: plainItems rest

def plainEntries (spell : String → String) : List (String × Document) → List String
  | [] => []
  | (name, value) :: rest => labelled (spell name) value.plain :: plainEntries spell rest

end

/-- The start of a line at a depth, in blanks of four for each level. -/
def lineStart (depth : Nat) : String :=
  "\n" ++ "".pushn ' ' (4 * depth)

/-- Items between brackets, each on a line of its own with a comma at its end. Brackets around
nothing stay on one line.
-/
def block (depth : Nat) (opening closing : String) (items : List String) : String :=
  match items with
  | [] => opening ++ closing
  | _ =>
    opening ++ String.join (items.map fun item => lineStart (depth + 1) ++ item ++ ",")
      ++ lineStart depth ++ closing

mutual

/-- A document over several lines, from a line at `depth` on. -/
def pretty (depth : Nat) : Document → String
  | .word spelling => spelling
  | .text content => Escaped.quoted content
  | .present value => block depth "Some(" ")" [value.pretty (depth + 1)]
  | .list items => block depth "[" "]" (prettyItems (depth + 1) items)
  | .map entries => block depth "\x7b" "\x7d" (prettyEntries (depth + 1) Escaped.quoted entries)
  | .record name fields =>
    block depth (name ++ " \x7b") "\x7d" (prettyEntries (depth + 1) id fields)

def prettyItems (depth : Nat) : List Document → List String
  | [] => []
  | item :: rest => item.pretty depth :: prettyItems depth rest

def prettyEntries (depth : Nat) (spell : String → String)
    : List (String × Document) → List String
  | [] => []
  | (name, value) :: rest =>
    labelled (spell name) (value.pretty depth) :: prettyEntries depth spell rest

end

end Document

end NestedSelect.Inspection

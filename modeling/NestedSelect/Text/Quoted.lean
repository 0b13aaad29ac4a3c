/-!
Quoted SQL text. A quoted text stands between two marks, and a mark inside it is written twice:
`"` marks identifiers and `'` marks string literals. No other character is special.
-/

namespace NestedSelect

namespace Quoted

/-- The characters of a text with each `mark` among them written twice. -/
def double (mark : Char) : List Char → List Char
  | [] => []
  | c :: rest => if c = mark then mark :: mark :: double mark rest else c :: double mark rest

/-- The quoted form: doubled marks inside, one mark at either end. -/
def encode (mark : Char) (text : List Char) : List Char :=
  mark :: (double mark text ++ [mark])

@[simp]
theorem double_nil (mark : Char) : double mark [] = [] := rfl

theorem double_cons (mark c : Char) (rest : List Char)
    : double mark (c :: rest)
        = (if c = mark then [mark, mark] else [c]) ++ double mark rest := by
  by_cases h : c = mark <;> simp [double, h]

end Quoted

/-- `name` as a quoted identifier. -/
def quoteIdentifier (name : String) : String :=
  String.ofList (Quoted.encode '"' name.toList)

/-- A column qualified by the name it is read from. -/
def quoteColumn (qualifier column : String) : String :=
  quoteIdentifier qualifier ++ "." ++ quoteIdentifier column

/-- `content` as a string literal. -/
def quoteLiteral (content : String) : String :=
  String.ofList (Quoted.encode '\'' content.toList)

end NestedSelect

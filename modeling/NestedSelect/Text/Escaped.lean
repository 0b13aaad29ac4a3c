import NestedSelect.Text.Visible
/-!
Text between double quotes, in which what has no visible form of its own is escaped.
-/

namespace NestedSelect.Escaped

/-- The escape by code point, in lower case hexadecimal digits. -/
def code (c : Char) : String :=
  "\\u\x7b" ++ String.ofList (Nat.toDigits 16 c.toNat) ++ "\x7d"

/-- A character inside of quotes. -/
def character (c : Char) : String :=
  if c = '"' then "\\\""
  else if c = '\\' then "\\\\"
  else if c = '\n' then "\\n"
  else if c = '\t' then "\\t"
  else if c = '\r' then "\\r"
  else if c = '\x00' then "\\0"
  else if Visible.isVisible c then c.toString
  else code c

/-- A text between quotes. -/
def quoted (content : String) : String :=
  "\"" ++ String.join (content.toList.map character) ++ "\""

/-- The characters of a string literal. A zero in front of an octal digit takes its longer form,
for otherwise the two would read as one escape.
-/
def literalCharacters : List Char → List String
  | [] => []
  | c :: rest =>
    let isOctal := rest.head?.any fun digit => '0' ≤ digit && digit ≤ '7'
    (if c = '\x00' && isOctal then "\\x00" else character c) :: literalCharacters rest

/-- The string literal that denotes a text. -/
def literal (content : String) : String :=
  "\"" ++ String.join (literalCharacters content.toList) ++ "\""

end NestedSelect.Escaped

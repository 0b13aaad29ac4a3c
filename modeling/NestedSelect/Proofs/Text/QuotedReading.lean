import Mathlib.Data.List.Basic
import NestedSelect.Text.Quoted
/-!
Quoted text read back in front of other text. A doubled mark stands for the mark, and the first
mark that is not doubled ends the text. So a quoted text decides what was quoted and where it ends,
unless another mark follows it at once.
-/

namespace NestedSelect

namespace Quoted

/-- The content of a quoted text behind its opening mark, and what follows the closing one. -/
def readContent (mark : Char) : List Char → Option (List Char × List Char)
  | [] => none
  | c :: rest =>
    if c = mark then
      match rest with
      | [] => some ([], [])
      | next :: behind =>
        if next = mark then
          (readContent mark behind).map fun (content, after) => (mark :: content, after)
        else some ([], next :: behind)
    else (readContent mark rest).map fun (content, after) => (c :: content, after)

/-- The content of a quoted text, and what follows it. -/
def read? (mark : Char) : List Char → Option (List Char × List Char)
  | [] => none
  | c :: rest => if c = mark then readContent mark rest else none

theorem readContent_plain {mark c : Char} (other : c ≠ mark) (rest : List Char)
    : readContent mark (c :: rest)
        = (readContent mark rest).map fun (content, after) => (c :: content, after) := by
  rw [readContent.eq_def]
  exact if_neg other

/-- Doubled text up to a mark that is not doubled is read as the text, by induction over it. -/
theorem readContent_double (mark : Char) (content : List Char) {rest : List Char}
    (ends : rest.head? ≠ some mark)
    : readContent mark (double mark content ++ mark :: rest) = some (content, rest) := by
  induction content with
  | nil =>
      cases rest with
      | nil => simp [readContent]
      | cons next behind =>
          have other : next ≠ mark := fun same => ends (congrArg some same)
          simp [readContent, other]
  | cons c content ih =>
      rw [double_cons]
      by_cases same : c = mark
      · simp [same, readContent, ih]
      · simp [same, readContent_plain, ih]

/-- What is read is doubled text up to a mark that is not doubled, by induction as it is read. -/
theorem of_readContent_eq_some {mark : Char} {text content rest : List Char}
    (read : readContent mark text = some (content, rest))
    : text = double mark content ++ mark :: rest ∧ rest.head? ≠ some mark := by
  induction text using readContent.induct mark generalizing content with
  | case1 => simp [readContent] at read
  | case2 =>
      obtain ⟨rfl, rfl⟩ : [] = content ∧ [] = rest := by simpa [readContent] using read
      simp
  | case3 behind ih =>
      obtain ⟨inner, found, rfl⟩
          : ∃ inner, readContent mark behind = some (inner, rest) ∧ mark :: inner = content := by
        simpa [readContent] using read
      obtain ⟨written, ends⟩ := ih found
      exact ⟨by simp [double_cons, ← written], ends⟩
  | case4 next behind other =>
      obtain ⟨rfl, rfl⟩ : [] = content ∧ next :: behind = rest := by
        simpa [readContent, other] using read
      exact ⟨rfl, by simpa using other⟩
  | case5 c behind other ih =>
      obtain ⟨inner, found, rfl⟩
          : ∃ inner, readContent mark behind = some (inner, rest) ∧ c :: inner = content := by
        simpa [readContent_plain other] using read
      obtain ⟨written, ends⟩ := ih found
      exact ⟨by simp [double_cons, other, ← written], ends⟩

/-- What is read from a text is quoted in it, and no mark follows. Whatever is quoted like that is
read, with exactly what follows it.
-/
theorem read?_eq_some_iff (mark : Char) (text content rest : List Char)
    : read? mark text = some (content, rest)
        ↔ text = encode mark content ++ rest ∧ rest.head? ≠ some mark := by
  have quoted : encode mark content ++ rest = mark :: (double mark content ++ mark :: rest) := by
    simp [encode]
  rw [quoted]
  cases text with
  | nil => simp [read?]
  | cons c behind =>
      rw [read?, Option.ite_none_right_eq_some, List.cons.injEq, and_assoc]
      refine and_congr_right fun _ => ⟨of_readContent_eq_some, ?_⟩
      rintro ⟨rfl, ends⟩
      exact readContent_double mark content ends

/-- A doubled mark right in front of the closing one. -/
example : read? '"' ['"', 'a', '"', '"', '"', '.'] = some (['a', '"'], ['.']) := rfl

end Quoted

/-- The name of a quoted identifier, and what follows it. -/
def readIdentifier? (text : List Char) : Option (String × List Char) :=
  (Quoted.read? '"' text).map fun (name, rest) => (String.ofList name, rest)

/-- The content of a string literal, and what follows it. -/
def readLiteral? (text : List Char) : Option (String × List Char) :=
  (Quoted.read? '\'' text).map fun (content, rest) => (String.ofList content, rest)

/-- The qualifier and the name of a qualified column, and what follows it. -/
def readColumn? (text : List Char) : Option ((String × String) × List Char) := do
  let (qualifier, rest) ← readIdentifier? text
  let (column, rest) ← readIdentifier? (← ['.'].isPrefixOf? rest)
  return ((qualifier, column), rest)

/-- A content that is read as characters is read as the text that they make up. -/
theorem map_ofList_eq_some_iff (read : Option (List Char × List Char)) (content : String)
    (rest : List Char)
    : (read.map fun (characters, after) => (String.ofList characters, after))
          = some (content, rest)
        ↔ read = some (content.toList, rest) := by
  constructor
  · intro named
    obtain ⟨⟨characters, after⟩, found, same⟩ := Option.map_eq_some_iff.mp named
    obtain ⟨rfl, rfl⟩ := Prod.mk.inj same
    rw [found, String.toList_ofList]
  · rintro rfl
    simp

/-- An identifier is read exactly where it has been quoted, unless a mark follows. -/
theorem readIdentifier?_eq_some_iff (text rest : List Char) (name : String)
    : readIdentifier? text = some (name, rest)
        ↔ text = (quoteIdentifier name).toList ++ rest ∧ rest.head? ≠ some '"' := by
  rw [readIdentifier?, map_ofList_eq_some_iff, Quoted.read?_eq_some_iff, quoteIdentifier,
    String.toList_ofList]

/-- A literal is read exactly where it has been quoted, unless a mark follows. -/
theorem readLiteral?_eq_some_iff (text rest : List Char) (content : String)
    : readLiteral? text = some (content, rest)
        ↔ text = (quoteLiteral content).toList ++ rest ∧ rest.head? ≠ some '\'' := by
  rw [readLiteral?, map_ofList_eq_some_iff, Quoted.read?_eq_some_iff, quoteLiteral,
    String.toList_ofList]

theorem toList_quoteColumn (qualifier column : String)
    : (quoteColumn qualifier column).toList
        = (quoteIdentifier qualifier).toList ++ '.' :: (quoteIdentifier column).toList := by
  simp [quoteColumn, String.toList_append]

/-- A column is read exactly where it has been written, unless a mark follows. -/
theorem readColumn?_eq_some_iff (text rest : List Char) (qualifier column : String)
    : readColumn? text = some ((qualifier, column), rest)
        ↔ text = (quoteColumn qualifier column).toList ++ rest ∧ rest.head? ≠ some '"' := by
  simp only [readColumn?, Option.bind_eq_bind, Option.bind_eq_some_iff,
    List.isPrefixOf?_eq_some_iff_append_eq, readIdentifier?_eq_some_iff, Prod.exists,
    Option.pure_def, Option.some.injEq, Prod.mk.injEq, toList_quoteColumn]
  constructor
  · rintro ⟨_, _, ⟨first, _⟩, behind, dot, _, _, ⟨second, ends⟩, ⟨rfl, rfl⟩, rfl⟩
    exact ⟨by rw [first, ← dot, second]; simp, ends⟩
  · rintro ⟨written, ends⟩
    refine ⟨qualifier, '.' :: ((quoteIdentifier column).toList ++ rest), ⟨?_, by simp⟩,
      (quoteIdentifier column).toList ++ rest, List.singleton_append, column, rest, ⟨rfl, ends⟩,
      ⟨rfl, rfl⟩, rfl⟩
    simp [written]

/-- A qualified column decides both of its names. -/
theorem quoteColumn_inj (qualifier column otherQualifier otherColumn : String)
    : quoteColumn qualifier column = quoteColumn otherQualifier otherColumn
        ↔ qualifier = otherQualifier ∧ column = otherColumn := by
  have read (qualifier column : String)
      : readColumn? (quoteColumn qualifier column).toList = some ((qualifier, column), []) :=
    (readColumn?_eq_some_iff _ _ _ _).mpr ⟨(List.append_nil _).symm, by simp⟩
  constructor
  · intro same
    have first := read qualifier column
    rw [same, read otherQualifier otherColumn] at first
    simpa [eq_comm] using first
  · rintro ⟨rfl, rfl⟩
    rfl

end NestedSelect

import NestedSelect.Proofs.Sql.Query
import NestedSelect.Proofs.Statement.NameContainment
/-!
The words of drafts. A draft has the words of its parts as long as no word runs on from one part
into the next: where one part ends with a letter, the next one needs to start with something else.
-/

namespace NestedSelect

open Lexing

namespace Draft

theorem spell_append {β : Type} (spelling : Nat → Part → List β) (depth : Nat) (front back : Draft)
    : (front ++ back).spell spelling depth
        = front.spell spelling depth ++ back.spell spelling (front.depthAfter depth) := by
  induction front generalizing depth with
  | nil => rfl
  | cons part rest ih => simp [spell, depthAfter, ih]

/-- The draft is written with the words where nothing follows. -/
def Reads (draft : Draft) (words : List Word) : Prop :=
  ∀ layout depth, wordsOf (draft.spell (Part.tokens layout) depth) = words

/-- The draft is written with the words, whatever follows. -/
def Ends (draft : Draft) (words : List Word) : Prop :=
  ∀ layout depth, Word.run [] (draft.spell (Part.tokens layout) depth) = (words, [])

/-- The draft is written with the words, whatever follows and whatever stands in front of it. -/
def Apart (draft : Draft) (words : List Word) : Prop :=
  ∀ layout depth pending,
    Word.run pending (draft.spell (Part.tokens layout) depth)
      = (Word.ofLetters pending ++ words, [])

variable {front back : Draft} {words others : List Word}

theorem Ends.reads (ends : Ends front words) : Reads front words := by
  intro layout depth
  rw [wordsOf, ends layout depth]
  exact List.append_nil _

theorem Apart.ends (apart : Apart front words) : Ends front words :=
  fun layout depth => apart layout depth []

theorem Ends.nil : Ends [] [] :=
  fun _ _ => rfl

theorem Ends.append_reads (first : Ends front words) (second : Reads back others)
    : Reads (front ++ back) (words ++ others) := by
  intro layout depth
  have read := second layout (front.depthAfter depth)
  rw [wordsOf] at read
  rw [wordsOf, spell_append, Word.run_append, first layout depth, List.append_assoc, read]

theorem Ends.append (first : Ends front words) (second : Ends back others)
    : Ends (front ++ back) (words ++ others) := by
  intro layout depth
  rw [spell_append, Word.run_append, first layout depth, second layout _]

theorem Reads.append (first : Reads front words) (second : Apart back others)
    : Ends (front ++ back) (words ++ others) := by
  intro layout depth
  have read := first layout depth
  rw [wordsOf] at read
  rw [spell_append, Word.run_append, second layout _ _, ← List.append_assoc, read]

theorem Apart.append (first : Apart front words) (second : Ends back others)
    : Apart (front ++ back) (words ++ others) := by
  intro layout depth pending
  rw [spell_append, Word.run_append, first layout depth pending, second layout _,
    List.append_assoc]

-----------------------------------------------------------------------------------------
-- Single parts
-----------------------------------------------------------------------------------------

/-- The words of copied text, where the next word may follow at once. -/
theorem Reads.text {content : String} (read : wordsOf ((lex content.toList).getD []) = words)
    : Reads [.text content] words := by
  intro layout depth
  simpa [spell, Part.tokens] using read

theorem Ends.text {content : String}
    (read : Word.run [] ((lex content.toList).getD []) = (words, []))
    : Ends [.text content] words := by
  intro layout depth
  simpa [spell, Part.tokens] using read

theorem Apart.text {content : String}
    (read : Word.run [] ((lex content.toList).getD []) = (words, []))
    (opening : ∃ token ∈ ((lex content.toList).getD []).head?, Word.Splits token)
    : Apart [.text content] words := by
  intro layout depth pending
  have same := Word.run_of_splits opening pending
  rw [read] at same
  simpa [spell, Part.tokens] using same

theorem Apart.identifier (name : String)
    : Apart [.identifier name] [.quoted .identifier name] := by
  intro layout depth pending
  simp [spell, Part.tokens, Word.run, Word.step]

theorem Apart.literal (content : String) : Apart [.literal content] [.quoted .literal content] := by
  intro layout depth pending
  simp [spell, Part.tokens, Word.run, Word.step]

/-- Line breaks have no words and keep what is around them apart. -/
theorem Apart.line (shift : LineShift) : Apart [.line shift] [] := by
  intro layout depth pending
  obtain ⟨nonempty, _⟩ := lineBreak_plain layout (shift.apply depth)
  have blank
      : ∀ c ∈ (layout.lineBreak (shift.apply depth)).toList,
          lettered c = false ∧ c.isWhitespace = true := by
    intro c inside
    rcases mem_lineBreak layout _ c inside with rfl | rfl <;> decide
  have opening
      : ∃ token ∈ ((layout.lineBreak (shift.apply depth)).toList.map Token.single).head?,
          Word.Splits token := by
    obtain ⟨c, rest, written⟩ := List.exists_cons_of_ne_nil nonempty
    exact ⟨.single c, by rw [written]; rfl, (blank c (by simp [written])).1⟩
  have same := Word.run_of_splits opening pending
  rw [Word.run_blanks blank] at same
  simpa [spell, Part.tokens] using same

theorem Apart.column (qualifier name : String)
    : Apart (Draft.column qualifier name) (Sql.Expression.column qualifier name).words := by
  have dot : Ends [.text "."] [.mark '.'] := .text (by decide)
  exact (Apart.identifier qualifier).append (dot.append (Apart.identifier name).ends)

end Draft

end NestedSelect

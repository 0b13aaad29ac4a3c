/-!
Positional placeholders in SQL text. A placeholder is a `$` outside of quotes together with the
run of decimal digits after it. Whether a character stands outside of quotes is a matter of
parity alone: the text before it holds an even number of `'` and an even number of `"`.

`scan` cuts a text into plain characters and digit runs, and `renumber` shifts the number of
every run while it keeps every other character.
-/

namespace NestedSelect.Placeholder

/-- Which quote characters have been read an odd number of times. -/
structure Quotes where
  single : Bool := false
  double : Bool := false
deriving DecidableEq, Repr

namespace Quotes

/-- Both quote characters have been read an even number of times. -/
def outside (quotes : Quotes) : Bool :=
  !quotes.single && !quotes.double

/-- The state after one more character. -/
def read (quotes : Quotes) (c : Char) : Quotes :=
  if c = '\'' then { quotes with single := !quotes.single }
  else if c = '"' then { quotes with double := !quotes.double }
  else quotes

end Quotes

/-- A character that is copied, or the digits of a placeholder. The `$` of a placeholder is
itself a plain character.
-/
inductive Piece where
  | plain (c : Char)
  | run (digits : List Char)
deriving DecidableEq, Repr

/-- A finished digit run is a piece unless it is empty: then the `$` before it was plain text. -/
def closeRun : Option (List Char) → List Piece
  | none | some [] => []
  | some digits => [.run digits]

/-- The pieces of a text that follows `quotes`. `open?` holds the digits read so far of the run
after a placeholder's `$`, and is absent where no run may continue.
-/
def scanFrom (quotes : Quotes) (open? : Option (List Char)) : List Char → List Piece
  | [] => closeRun open?
  | c :: rest =>
    match open?, c.isDigit with
    | some digits, true => scanFrom quotes (some (digits ++ [c])) rest
    | _, _ =>
      closeRun open?
        ++ .plain c
          :: scanFrom (quotes.read c) (if c = '$' && quotes.outside then some [] else none) rest

/-- The pieces of a text. -/
def scan (text : List Char) : List Piece :=
  scanFrom {} none text

/-- The number that decimal digits denote, the most significant digit first. -/
def number (digits : List Char) : Nat :=
  digits.foldl (fun n d => 10 * n + (d.toNat - '0'.toNat)) 0

/-- Placeholder numbers are kept below this bound: they fit in 64 bits. -/
def limit : Nat := UInt64.size

/-- The text of one piece once every number has moved up by `offset`. A run that would reach
`limit` is reported by its digits.
-/
def Piece.shift (offset : Nat) : Piece → Except (List Char) (List Char)
  | .plain c => .ok [c]
  | .run digits =>
    if number digits + offset < limit then .ok (Nat.toDigits 10 (number digits + offset))
    else .error digits

/-- Move the numbers of the pieces of a text, left to right, up to the first that does not fit. -/
def shiftAll (offset : Nat) : List Piece → Except (List Char) (List Char)
  | [] => .ok []
  | piece :: rest =>
    match piece.shift offset with
    | .error digits => .error digits
    | .ok front =>
      match shiftAll offset rest with
      | .error digits => .error digits
      | .ok back => .ok (front ++ back)

/-- Add `offset` to the number of every placeholder of `text`, or report the digits of the first
placeholder whose number would not stay below `limit`.
-/
def renumber (text : String) (offset : Nat) : Except String String :=
  match shiftAll offset (scan text.toList) with
  | .ok shifted => .ok (String.ofList shifted)
  | .error digits => .error (String.ofList digits)

end NestedSelect.Placeholder

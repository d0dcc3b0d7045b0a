import Telemetry.Text.Blank

/-!
# Message patterns

A pattern is a text with numbered placeholders. Between single quotes everything is literal, and
two single quotes stand for one. A placeholder runs from a brace to the brace that closes it, with
braces inside counted and quotes ignored; its number is what it holds up to the first comma. A
pattern reads as a list of pieces or, if one placeholder is left open or has no number, as nothing
at all; what the parameters hold is never read again.
-/

namespace Telemetry.Pattern

/-- A part of a pattern that has been read. -/
inductive Piece where
  /-- A character that stands for itself. -/
  | literal (c : Char)
  /-- The place of a parameter, counted from zero. -/
  | parameter (index : Nat)
deriving DecidableEq, Repr

/-- Where in a pattern a reader stands. -/
inductive Position where
  /-- In plain text. -/
  | plain
  /-- Between single quotes. -/
  | quoted
  /-- In a placeholder, behind `inner` further opening braces and the characters `read`. -/
  | placeholder (inner : Nat) (read : List Char)
deriving DecidableEq, Repr

/-- The decimal number that is written in the characters, if they are digits, at least one, and the
number fits into 64 bits. A plus sign may stand in front. -/
def number? (cs : List Char) : Option Nat :=
  let digits : List Char := match cs with
    | '+' :: rest => rest
    | _ => cs
  let value := digits.foldl (fun n c => 10 * n + (c.toNat - '0'.toNat)) 0
  if digits ≠ [] ∧ digits.all Char.isDigit ∧ value < UInt64.size then some value else none

/-- The number of a placeholder: what it holds up to the first comma, without blanks around it. -/
def index? (placeholder : List Char) : Option Nat :=
  number? (Text.trim (placeholder.takeWhile (· ≠ ',')))

/-- Reads a pattern from a position on. -/
def read? : Position → List Char → Option (List Piece)
  | .plain, [] => some []
  | .plain, '\'' :: '\'' :: rest => (read? .plain rest).map (.literal '\'' :: ·)
  | .plain, '\'' :: rest => read? .quoted rest
  | .plain, '{' :: rest => read? (.placeholder 0 []) rest
  | .plain, c :: rest => (read? .plain rest).map (.literal c :: ·)
  | .quoted, [] => some []
  | .quoted, '\'' :: '\'' :: rest => (read? .quoted rest).map (.literal '\'' :: ·)
  | .quoted, '\'' :: rest => read? .plain rest
  | .quoted, c :: rest => (read? .quoted rest).map (.literal c :: ·)
  | .placeholder _ _, [] => none
  | .placeholder inner read, '{' :: rest => read? (.placeholder (inner + 1) (read ++ ['{'])) rest
  | .placeholder 0 read, '}' :: rest => do
    let index ← index? read
    let pieces ← read? .plain rest
    return .parameter index :: pieces
  | .placeholder (inner + 1) read, '}' :: rest =>
    read? (.placeholder inner (read ++ ['}'])) rest
  | .placeholder inner read, c :: rest => read? (.placeholder inner (read ++ [c])) rest

/-- Whether an opening brace is followed by a digit anywhere, quotes or not. A text without such a
place is taken for a plain message. -/
def hasPlaceholder : List Char → Bool
  | '{' :: c :: rest => c.isDigit || hasPlaceholder (c :: rest)
  | _ :: rest => hasPlaceholder rest
  | [] => false

/-- What a piece stands for. A place without a parameter stays visible. -/
def Piece.render (parameters : List String) : Piece → List Char
  | .literal c => [c]
  | .parameter index =>
    match parameters[index]? with
    | some text => text.toList
    | none => '{' :: (toString index).toList ++ ['}']

end Telemetry.Pattern

namespace Telemetry

/-- Puts parameters into a pattern. The pattern comes back unchanged if there are no parameters, if
nothing in it looks like a placeholder, or if it does not read. -/
def formatMessage (pattern : String) (parameters : List String) : String :=
  if parameters.isEmpty || !Pattern.hasPlaceholder pattern.toList then pattern
  else match Pattern.read? .plain pattern.toList with
    | some pieces => String.ofList (pieces.flatMap (Pattern.Piece.render parameters))
    | none => pattern

end Telemetry

import Reckon.Token.Basic
import Reckon.Text.Blank

set_option autoImplicit false

namespace Reckon.Token

def operatorChars : List Char := ['+', '-', '*', '/', '%', '(', ')']

def isOperatorChar (c : Char) : Bool := operatorChars.contains c

def isNumberChar (c : Char) : Bool := c.isDigit || c == '.'

-- Characters that end a malformed token.
def isSeparator (c : Char) : Bool := Text.isBlank c || isOperatorChar c

-- A number is digits alone, or one point with digits on both sides.
def numberKind? (run : List Char) : Option Kind :=
  match run.dropWhile Char.isDigit with
  | [] => some .integer
  | _ :: part => if part ≠ [] ∧ part.all Char.isDigit then some .float else none

structure Lexeme where
  kind : Kind
  text : List Char
  rest : List Char

-- Nothing is refused here: malformed tokens are for the grammar to reject.
def malformedLexeme (c : Char) (rest : List Char) : Lexeme :=
  ⟨.malformed, c :: rest.takeWhile (!isSeparator ·), rest.dropWhile (!isSeparator ·)⟩

def lexeme (c : Char) (rest : List Char) : Lexeme :=
  if c.isDigit then
    match numberKind? (c :: rest.takeWhile isNumberChar) with
    | some kind => ⟨kind, c :: rest.takeWhile isNumberChar, rest.dropWhile isNumberChar⟩
    | none => malformedLexeme c rest
  else if isOperatorChar c then ⟨.operator, [c], rest⟩
  else malformedLexeme c rest

theorem lexeme_rest_length (c : Char) (rest : List Char) :
    (lexeme c rest).rest.length ≤ rest.length := by
  have numbers := (rest.dropWhile_suffix isNumberChar).length_le
  have others := (rest.dropWhile_suffix (!isSeparator ·)).length_le
  unfold lexeme malformedLexeme
  split
  · split <;> assumption
  · split
    · exact Nat.le_refl _
    · assumption

/-- The tokens of a text whose first character stands at `pos`; the last one is the end mark. -/
def scanFrom (pos : Nat) (text : List Char) : List Token :=
  match text with
  | [] => [⟨.eof, "", pos⟩]
  | c :: rest =>
      if Text.isBlank c then scanFrom (pos + 1) rest
      else
        let next := lexeme c rest
        ⟨next.kind, String.ofList next.text, pos⟩ :: scanFrom (pos + next.text.length) next.rest
termination_by text.length
decreasing_by
  · simp
  · have shorter := lexeme_rest_length c rest
    simp only [List.length_cons]
    omega

def scan (source : String) : List Token := scanFrom 0 source.toList

end Reckon.Token

import Reckon.Json.Reader
import Reckon.Toml.Basic

set_option autoImplicit false

namespace Reckon.Toml

def isBlank (c : Char) : Bool := c == ' ' || c == '\t'

def isBlankOrNewline (c : Char) : Bool := isBlank c || c == '\n'

def skipBlank (text : List Char) : List Char := text.dropWhile isBlank

def isIllegal (multiline : Bool) (c : Char) : Bool :=
  (c.toNat < 0x20 || c.toNat == 0x7F) && c != '\t' && !(multiline && c == '\n')

def escapes : List (Char × Char) :=
  [('b', '\x08'), ('t', '\t'), ('n', '\n'), ('f', '\x0c'), ('r', '\r'), ('"', '"'), ('\\', '\\')]

def hexEscape (size : Nat) (text : List Char) : Read (List Char) :=
  let digits := text.take size
  match Json.hexValue? digits with
  | some code =>
      if digits.length ≠ size then fail .invalidHex text
      else if (0xD800 ≤ code ∧ code < 0xE000) ∨ 0x110000 ≤ code then
        fail .notScalar (text.drop size)
      else .ok ([Char.ofNat code], text.drop size)
  | none => fail .invalidHex text

-- After a backslash at the end of a line, all white space up to the next text.
def lineEscape (text : List Char) : Read (List Char) :=
  match skipBlank text with
  | [] => .ok ([], [])
  | '\n' :: rest => .ok ([], rest.dropWhile isBlankOrNewline)
  | rest => fail .unescapedBackslash rest

def escape (multiline : Bool) : List Char → Read (List Char)
  | [] => fail .unescapedBackslash []
  | c :: rest =>
      if multiline && isBlankOrNewline c then lineEscape (c :: rest)
      else if c = 'u' then hexEscape 4 rest
      else if c = 'U' then hexEscape 8 rest
      else match escapes.lookup c with
      | some char => .ok ([char], rest)
      | none => fail .unescapedBackslash rest

def basicChars (multiline : Bool) : Nat → List Char → List Char → Read String
  | 0, text, _ => fail .unterminated text
  | fuel + 1, text, done =>
      match text with
      | [] => fail .unterminated []
      | '\\' :: rest =>
          match escape multiline rest with
          | .ok (chars, rest) => basicChars multiline fuel rest (chars ++ done)
          | .error fault => .error fault
      | '"' :: rest =>
          if multiline then
            match rest with
            | '"' :: '"' :: after => .ok (String.ofList done.reverse, after)
            | _ => basicChars multiline fuel rest ('"' :: done)
          else .ok (String.ofList done.reverse, rest)
      | c :: rest =>
          if isIllegal multiline c then fail (.illegalChar c) text
          else basicChars multiline fuel rest (c :: done)

def basicString (text : List Char) : Read String := basicChars false (text.length + 1) text []

def splitAtMark (mark : List Char) : List Char → Option (List Char × List Char)
  | [] => none
  | c :: rest =>
      if mark.isPrefixOf (c :: rest) then some ([], (c :: rest).drop mark.length)
      else (splitAtMark mark rest).map fun (before, after) => (c :: before, after)

def literalChars (multiline : Bool) (mark : List Char) (text : List Char) : Read String :=
  match splitAtMark mark text with
  | none => fail (.expected (String.ofList mark)) []
  | some (chars, rest) =>
      match chars.find? (isIllegal multiline) with
      | some c => fail (.foundInvalid c) (text.dropWhile (!isIllegal multiline ·))
      | none => .ok (String.ofList chars, rest)

def literalString (text : List Char) : Read String := literalChars false ['\''] text

-- A new line right after the opening quotes does not count.
def dropFirstNewline : List Char → List Char
  | '\n' :: rest => rest
  | text => text

-- Up to two quotes right before the closing ones belong to the string.
def extraQuotes (quote : Char) (text : String) (rest : List Char) : String × List Char :=
  let extra := min 2 (rest.takeWhile (· == quote)).length
  (text ++ String.ofList (List.replicate extra quote), rest.drop extra)

def basicBlock (text : List Char) : Read String :=
  let text := dropFirstNewline text
  match basicChars true (text.length + 1) text [] with
  | .ok (s, rest) => .ok (extraQuotes '"' s rest)
  | .error fault => .error fault

def literalBlock (text : List Char) : Read String :=
  match literalChars true ['\'', '\'', '\''] (dropFirstNewline text) with
  | .ok (s, rest) => .ok (extraQuotes '\'' s rest)
  | .error fault => .error fault

end Reckon.Toml

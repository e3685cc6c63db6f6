import Reckon.Toml.Document
import Reckon.Toml.Quotation
import Reckon.Toml.Scalar

set_option autoImplicit false

namespace Reckon.Toml

def isBareChar (c : Char) : Bool := c.isAlphanum || c == '-' || c == '_'

def skipComment : List Char → Except Fault (List Char)
  | '#' :: rest =>
      let comment := rest.takeWhile (· != '\n')
      match comment.find? (isIllegal false) with
      | some c => fail (.foundInvalid c) (rest.dropWhile (!isIllegal false ·))
      | none => .ok (rest.dropWhile (· != '\n'))
  | text => .ok text

-- Every loop takes at least one character from the text, so its length is fuel enough.
def skipBetween : Nat → List Char → Except Fault (List Char)
  | 0, text => .ok text
  | fuel + 1, text =>
      match text.dropWhile isBlankOrNewline with
      | '#' :: rest =>
          match skipComment ('#' :: rest) with
          | .ok rest => skipBetween fuel rest
          | .error fault => .error fault
      | rest => .ok rest

def keyPart (text : List Char) : Read String :=
  match text with
  | '\'' :: rest => literalString rest
  | '"' :: rest => basicString rest
  | c :: _ =>
      if isBareChar c then .ok (String.ofList (text.takeWhile isBareChar), text.dropWhile isBareChar)
      else fail .invalidKey text
  | [] => fail .invalidKey []

def keyParts : Nat → List Char → List String → Read Key
  | 0, text, _ => fail .invalidKey text
  | fuel + 1, text, done =>
      match keyPart text with
      | .error fault => .error fault
      | .ok (part, rest) =>
          match skipBlank rest with
          | '.' :: rest => keyParts fuel (skipBlank rest) (part :: done)
          | rest => .ok ((part :: done).reverse, rest)

def key (text : List Char) : Read Key := keyParts (text.length + 1) text []

def scalar (text : List Char) : Read Value :=
  match text with
  | '"' :: '"' :: '"' :: rest => (basicBlock rest).map fun (s, rest) => (.str s, rest)
  | '"' :: rest => (basicString rest).map fun (s, rest) => (.str s, rest)
  | '\'' :: '\'' :: '\'' :: rest => (literalBlock rest).map fun (s, rest) => (.str s, rest)
  | '\'' :: rest => (literalString rest).map fun (s, rest) => (.str s, rest)
  | 't' :: 'r' :: 'u' :: 'e' :: rest => .ok (.bool true, rest)
  | 'f' :: 'a' :: 'l' :: 's' :: 'e' :: rest => .ok (.bool false, rest)
  | _ =>
      match moment? text with
      | some read => read
      | none =>
          match number? text with
          | some read => read
          | none =>
              match special? text with
              | some found => .ok found
              | none => fail .invalidValue text

def keyEquals (text : List Char) : Read Key :=
  match key text with
  | .error fault => .error fault
  | .ok (name, '=' :: rest) => .ok (name, skipBlank rest)
  | .ok (_, rest) => fail .expectedEquals rest

mutual

def value : Nat → List Char → Read Value
  | 0, text => fail .invalidValue text
  | fuel + 1, text =>
      match text with
      | '[' :: rest => items fuel rest []
      | '\x7b' :: rest =>
          match skipBlank rest with
          | '\x7d' :: rest => .ok (.table [], rest)
          | rest => inlineEntries fuel rest [] []
      | _ => scalar text

def items : Nat → List Char → List Value → Read Value
  | 0, text, _ => fail .unclosedArray text
  | fuel + 1, text, done =>
      match skipBetween text.length text with
      | .error fault => .error fault
      | .ok (']' :: rest) => .ok (.array done.reverse, rest)
      | .ok text =>
          match value fuel text with
          | .error fault => .error fault
          | .ok (item, rest) =>
              match skipBetween rest.length rest with
              | .error fault => .error fault
              | .ok (']' :: rest) => .ok (.array (item :: done).reverse, rest)
              | .ok (',' :: rest) => items fuel rest (item :: done)
              | .ok rest => fail .unclosedArray rest

def inlineEntries : Nat → List Char → Table → List Mark → Read Value
  | 0, text, _, _ => fail .unclosedTable text
  | fuel + 1, text, table, marks =>
      match keyEquals text with
      | .error fault => .error fault
      | .ok (name, rest) =>
          match value fuel rest with
          | .error fault => .error fault
          | .ok (item, rest) =>
              match Document.addInline marks name item table with
              | .error problem => fail problem rest
              | .ok table =>
                  match skipBlank rest with
                  | '\x7d' :: rest => .ok (.table table, rest)
                  | ',' :: rest =>
                      let marks := if Document.isClosed item then ⟨name, .closed, true⟩ :: marks
                        else marks
                      inlineEntries fuel (skipBlank rest) table marks
                  | rest => fail .unclosedTable rest

end

def statement (document : Document) (text : List Char) : Read Document :=
  let placed (result : Except Problem Document) (rest : List Char) : Read Document :=
    match result with
    | .ok document => .ok (document, rest)
    | .error problem => fail problem rest
  match text with
  | '[' :: '[' :: rest =>
      match key (skipBlank rest) with
      | .error fault => .error fault
      | .ok (name, rest) =>
          match placed (document.settle.declareItem name) rest with
          | .ok (document, ']' :: ']' :: rest) => .ok (document, skipBlank rest)
          | .ok (_, rest) => fail .expectedArrayEnd rest
          | .error fault => .error fault
  | '[' :: rest =>
      match key (skipBlank rest) with
      | .error fault => .error fault
      | .ok (name, rest) =>
          match placed (document.settle.declareTable name) rest with
          | .ok (document, ']' :: rest) => .ok (document, skipBlank rest)
          | .ok (_, rest) => fail .expectedTableEnd rest
          | .error fault => .error fault
  | c :: _ =>
      if isBareChar c || c == '"' || c == '\'' then
        match keyEquals text with
        | .error fault => .error fault
        | .ok (name, rest) =>
            match value (rest.length + 1) rest with
            | .error fault => .error fault
            | .ok (item, rest) =>
                (placed (document.addEntry name item) rest).map fun (document, rest) =>
                  (document, skipBlank rest)
      else if c == '#' || c == '\n' then .ok (document, text)
      else fail .invalidStatement text
  | [] => .ok (document, [])

def statements : Nat → Document → List Char → Except Fault Document
  | 0, document, _ => .ok document
  | fuel + 1, document, text =>
      match statement document (skipBlank text) with
      | .error fault => .error fault
      | .ok (document, rest) =>
          match skipComment rest with
          | .error fault => .error fault
          | .ok [] => .ok document
          | .ok ('\n' :: rest) => statements fuel document rest
          | .ok rest => fail .expectedLineEnd rest

inductive Place where
  | within (line column : Nat)
  | endOfDocument
deriving DecidableEq

def Place.display : Place → String
  | .within line column => "line " ++ line.repr ++ ", column " ++ column.repr
  | .endOfDocument => "end of document"

def placeOf (text rest : List Char) : Place :=
  if rest.isEmpty then .endOfDocument
  else
    let before := text.take (text.length - rest.length)
    .within (before.count '\n' + 1) ((before.reverse.takeWhile (· != '\n')).length + 1)

inductive Error where
  | invalid (problem : Problem) (place : Place)
  -- A whole number of too many digits; such a text may still be a valid document.
  | oversized (digits : Nat)
deriving DecidableEq

def Error.message : Error → String
  | .invalid problem place => problem.message ++ " (at " ++ place.display ++ ")"
  | .oversized digits =>
      "Exceeds the limit (" ++ maxDigits.repr ++ " digits) for integer string conversion: value has " ++
        digits.repr ++ " digits; use sys.set_int_max_str_digits() to increase the limit"

def parse (text : String) : Except Error Table :=
  let chars := text.toList
  match statements (chars.length + 1) {} chars with
  | .ok document => .ok document.root
  | .error (.invalid problem rest) => .error (.invalid problem (placeOf chars rest))
  | .error (.oversized digits) => .error (.oversized digits)

end Reckon.Toml

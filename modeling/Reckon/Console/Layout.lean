import Reckon.Console.Emoji
import Reckon.Text.Width

set_option autoImplicit false

namespace Reckon.Console

-- Bell, backspace, vertical tab, form feed and carriage return are not shown.
def isDropped (c : Char) : Bool :=
  c.toNat == 7 || c.toNat == 8 || c.toNat == 11 || c.toNat == 12 || c.toNat == 13

def spaces (count : Nat) : List Char := List.replicate count ' '

def tabSize : Nat := 8

def tabFill (column : Nat) : Nat := (tabSize - column % tabSize) % tabSize

-- Makes each tab a space and fills up with more to a multiple of the tab size. The text up to a tab
-- is measured together with that space.
def expandTabs (line : List Char) : List Char := go line 0 [] []
where
  go : List Char → Nat → List Char → List Char → List Char
    | [], _, part, done => (part ++ done).reverse
    | c :: rest, column, part, done =>
        if c = '\t' then
          let reached := column + Text.width (' ' :: part).reverse
          go rest (reached + tabFill reached) [] (spaces (tabFill reached + 1) ++ part ++ done)
        else go rest column (c :: part) done

-- The words of a line, each with the blanks after it; blanks in front belong to the first.
def words (line : List Char) : List (List Char) := go line [] false []
where
  go : List Char → List Char → Bool → List (List Char) → List (List Char)
    | [], current, seen, done => if seen then (current.reverse :: done).reverse else done.reverse
    | c :: rest, current, seen, done =>
        let ended := seen && (current.head?.map Text.isBlank).getD false
        if Text.isBlank c then go rest (c :: current) seen done
        else if ended then go rest [c] true (current.reverse :: done)
        else go rest (c :: current) true done

def trimEnd (text : List Char) : List Char := (text.reverse.dropWhile Text.isBlank).reverse

def fold (width : Nat) (word : List Char) : List (List Char) := go word [] 0 []
where
  go : List Char → List Char → Nat → List (List Char) → List (List Char)
    | [], current, _, done => (current.reverse :: done).reverse
    | c :: rest, current, used, done =>
        let size := Text.charWidth c
        if used + size ≤ width then go rest (c :: current) (used + size) done
        else go rest [c] size (current.reverse :: done)

-- Where a line is broken so far, in reverse, how many characters are placed, and how many cells the
-- last piece takes.
structure Filling where
  breaks : List Nat := []
  placed : Nat := 0
  used : Nat := 0

def Filling.breakAt (filling : Filling) (start : Nat) : List Nat :=
  if start = 0 then filling.breaks else start :: filling.breaks

def placePiece (filling : Filling) (piece : List Char) : Filling :=
  { breaks := filling.breakAt filling.placed
    placed := filling.placed + piece.length
    used := Text.width piece }

def placeWord (width : Nat) (filling : Filling) (word : List Char) : Filling :=
  let size := Text.width (trimEnd word)
  if filling.used + size ≤ width then
    { filling with
      placed := filling.placed + word.length
      used := filling.used + Text.width word }
  else if width < size then (fold width word).foldl placePiece filling
  else placePiece filling word

def breaks (width : Nat) (line : List Char) : List Nat :=
  ((words line).foldl (placeWord width) {}).breaks.reverse

def cutAt {α : Type} (start : Nat) : List Nat → List α → List (List α)
  | [], items => [items]
  | place :: places, items =>
      items.take (place - start) :: cutAt place places (items.drop (place - start))

-- Drops blanks at the end of a line that is longer than `width`, as many as are too many.
def dropExcessBlanks (width : Nat) (line : List Char) : List Char :=
  let blanks := (line.reverse.takeWhile Text.isBlank).length
  line.take (line.length - min blanks (line.length - width))

-- A character that is cut in half leaves a space.
def crop (width : Nat) (line : List Char) : List Char :=
  if Text.width line ≤ width then line
  else match fold width line with
  | first :: _ => first ++ spaces (width - Text.width first)
  | [] => []

def wrapLine (width : Nat) (line : List Char) : List (List Char) :=
  let line := expandTabs line
  (cutAt 0 (breaks width line) line).map fun piece => crop width (dropExcessBlanks width piece)

def lines (text : List Char) : List (List Char) := go text [] []
where
  go : List Char → List Char → List (List Char) → List (List Char)
    | [], current, done => (current.reverse :: done).reverse
    | c :: rest, current, done =>
        if c = '\n' then go rest [] (current.reverse :: done) else go rest (c :: current) done

def layout (width : Nat) (text : String) : String :=
  let shown := (showPictographs text.toList).filter fun c => !isDropped c
  "\n".intercalate (((lines shown).flatMap (wrapLine width)).map String.ofList)

def print (width : Nat) (text : String) : String := layout width text ++ "\n"

end Reckon.Console

import Reckon.Console.Layout
import Reckon.Token.Basic

set_option autoImplicit false

namespace Reckon.Console

inductive Align where
  | left
  | right
deriving DecidableEq

structure Column where
  heading : String
  align : Align

def cellWidth (text : String) : Nat := Text.width text.toList

def columnWidths (columns : List Column) (rows : List (List String)) : List Nat :=
  let headings := columns.map fun column => cellWidth column.heading
  rows.foldl (fun widths row => List.zipWith max widths (row.map cellWidth)) headings

def total (widths : List Nat) : Nat := widths.foldl (· + ·) 0

def widest (widths : List Nat) : Nat := widths.foldl max 0

-- The nearest whole number to a quotient; of two, the even one.
def roundedQuotient (dividend divisor : Nat) : Nat :=
  let quotient := dividend / divisor
  let twice := 2 * (dividend % divisor)
  if divisor < twice ∨ twice = divisor ∧ quotient % 2 = 1 then quotient + 1 else quotient

-- Takes the excess in even shares from the `count` columns of the width `size`, at most `most` from each.
def takeShares (size most : Nat) : Nat → Nat → List Nat → List Nat
  | _, _, [] => []
  | excess, count, width :: widths =>
      if width = size then
        let share := min most (roundedQuotient excess count)
        (width - share) :: takeShares size most (excess - share) (count - 1) widths
      else width :: takeShares size most excess count widths

-- Narrows the widest columns, but not below the next ones.
def narrow (limit : Nat) (widths : List Nat) : List Nat :=
  let excess := total widths - limit
  let size := widest widths
  let next := widest (widths.filter (· ≠ size))
  takeShares size (min excess (size - next)) excess (widths.count size) widths

-- Each round ends the excess or makes one more column as narrow as the next.
def fit (limit : Nat) (widths : List Nat) : List Nat :=
  Nat.repeat (narrow limit) widths.length (widths.map (min limit))

def blanks (count : Nat) : String := String.ofList (spaces count)

-- There are no blanks inside a cell that it could be broken at, so what is too wide is cut off.
def shorten (width : Nat) (text : String) : String :=
  if cellWidth text ≤ width then text
  else String.ofList (crop (width - 1) text.toList) ++ "…"

def pad (column : Column) (width : Nat) (text : String) : String :=
  if width ≤ 2 then blanks width
  else
    let shown := shorten (width - 2) text
    let fill := blanks (width - 2 - cellWidth shown)
    match column.align with
    | .left => " " ++ shown ++ fill ++ " "
    | .right => " " ++ fill ++ shown ++ " "

def padRow : List Column → List Nat → List String → List String
  | column :: columns, width :: widths, cell :: cells =>
      pad column width cell :: padRow columns widths cells
  | _, _, _ => []

def rule (first line between last : String) (widths : List Nat) : String :=
  let bar (width : Nat) : String := String.join (List.replicate width line)
  first ++ between.intercalate (widths.map bar) ++ last

def row (edge : String) (cells : List String) : String :=
  edge ++ edge.intercalate cells ++ edge

def centre (width : Nat) (text : String) : String :=
  let left := (width - cellWidth text) / 2
  blanks left ++ text ++ blanks (width - left - cellWidth text)

def tableLines (width : Nat) (heading : String) (columns : List Column) (rows : List (List String)) :
    List String :=
  let frame := columns.length + 1
  let widths := fit (width - frame) ((columnWidths columns rows).map (· + 2))
  let across := total widths + frame
  let title := (wrapLine across heading.toList).map fun line => centre across (String.ofList line)
  title ++
  [rule "┏" "━" "┳" "┓" widths, row "┃" (padRow columns widths (columns.map Column.heading)),
    rule "┡" "━" "╇" "┩" widths] ++
  rows.map (fun cells => row "│" (padRow columns widths cells)) ++
  [rule "└" "─" "┴" "┘" widths]

def tokenColumns : List Column :=
  [⟨"#", .right⟩, ⟨"Kind", .left⟩, ⟨"Source", .left⟩, ⟨"Position", .right⟩]

def tokenRow (index : Nat) (token : Token) : List String :=
  [index.repr, token.kind.name, Text.quoted token.text, toString token.pos]

-- The frame alone can be wider than the console.
def tokenTable (width : Nat) (tokens : List Token) : String :=
  let lines := tableLines width "Tokens" tokenColumns (tokens.mapIdx tokenRow)
  String.join (lines.map fun line => String.ofList (crop width line.toList) ++ "\n")

end Reckon.Console

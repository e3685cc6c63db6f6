import Reckon.Toml.Basic

set_option autoImplicit false

namespace Reckon.Toml

def replace (name : String) (value : Value) (table : Table) : Table :=
  table.map fun entry => if entry.1 == name then (name, value) else entry

/-- Changes the table at a path; tables that are missing are made. With `throughArrays`, an array on
the way stands for its last item. -/
def update (throughArrays : Bool) (change : Table → Except Problem Table) :
    Key → Table → Except Problem Table
  | [], table => change table
  | name :: path, table =>
      match table.lookup name with
      | none => (update throughArrays change path []).map fun inner =>
          table ++ [(name, .table inner)]
      | some (.table inner) => (update throughArrays change path inner).map fun inner =>
          replace name (.table inner) table
      | some (.array items) =>
          match items.getLast?, throughArrays with
          | some (.table inner), true => (update throughArrays change path inner).map fun inner =>
              replace name (.array (items.dropLast ++ [.table inner])) table
          | _, _ => .error .overwrite
      | some _ => .error .overwrite

def insertNew (taken : Problem) (name : String) (value : Value) (table : Table) :
    Except Problem Table :=
  match table.lookup name with
  | some _ => .error taken
  | none => .ok (table ++ [(name, value)])

def appendTable (name : String) (table : Table) : Except Problem Table :=
  match table.lookup name with
  | none => .ok (table ++ [(name, .array [.table []])])
  | some (.array items) => .ok (replace name (.array (items ++ [.table []])) table)
  | some _ => .error .overwrite

inductive MarkKind where
  | declared
  | closed
deriving DecidableEq

structure Mark where
  path : Key
  kind : MarkKind
  -- Whether the mark also holds for all below the path.
  deep : Bool
deriving DecidableEq

def isMarked (marks : List Mark) (kind : MarkKind) (path : Key) : Bool :=
  marks.any fun mark =>
    mark.kind == kind && (mark.path == path || (mark.deep && mark.path.isPrefixOf path))

def unmark (marks : List Mark) (path : Key) : List Mark :=
  marks.filter fun mark => !path.isPrefixOf mark.path

structure Document where
  root : Table := []
  marks : List Mark := []
  -- Tables made by dotted names, which are declared from the next header on.
  pending : List Key := []
  header : Key := []

namespace Document

def settle (document : Document) : Document :=
  { document with
    marks := document.pending.map (⟨·, .declared, false⟩) ++ document.marks
    pending := [] }

def declareTable (key : Key) (document : Document) : Except Problem Document :=
  if isMarked document.marks .declared key || isMarked document.marks .closed key then
    .error (.declaredTwice key)
  else (update true .ok key document.root).map fun root =>
    { document with root, marks := ⟨key, .declared, false⟩ :: document.marks, header := key }

def declareItem (key : Key) (document : Document) : Except Problem Document :=
  if isMarked document.marks .closed key then .error (.immutable key)
  else
    match key.getLast? with
    | none => .error .overwrite
    | some name => (update true (appendTable name) key.dropLast document.root).map fun root =>
        { document with
          root
          marks := ⟨key, .declared, false⟩ :: unmark document.marks key
          header := key }

def isClosed : Value → Bool
  | .array _ | .table _ => true
  | _ => false

def addEntry (key : Key) (value : Value) (document : Document) : Except Problem Document :=
  let above := (List.range (key.length - 1)).map fun n => document.header ++ key.take (n + 1)
  match above.find? (isMarked document.marks .declared) with
  | some path => .error (.redefined path)
  | none =>
      let parent := document.header ++ key.dropLast
      if isMarked document.marks .closed parent then .error (.immutable parent)
      else
        match key.getLast? with
        | none => .error .overwrite
        | some name =>
            (update true (insertNew .overwrite name value) parent document.root).map fun root =>
              { document with
                root
                pending := above ++ document.pending
                marks := if isClosed value then
                    ⟨document.header ++ key, .closed, true⟩ :: document.marks
                  else document.marks }

-- The marks are those of the entries before.
def addInline (marks : List Mark) (key : Key) (value : Value) (table : Table) :
    Except Problem Table :=
  if isMarked marks .closed key then .error (.immutable key)
  else
    match key.getLast? with
    | none => .error .overwrite
    | some name => update false (insertNew (.duplicateName name) name value) key.dropLast table

end Document

end Reckon.Toml

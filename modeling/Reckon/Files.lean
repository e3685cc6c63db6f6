import Reckon.Text.Quoted

set_option autoImplicit false

namespace Reckon.Files

structure Path where
  absolute : Bool
  names : List String
deriving DecidableEq

namespace Path

def ofString (text : String) : Path :=
  ⟨text.toList.head? == some '/', (text.splitOn "/").filter fun name => name ≠ "" && name ≠ "."⟩

def display (path : Path) : String :=
  let names := "/".intercalate path.names
  if path.absolute then "/" ++ names else if path.names.isEmpty then "." else names

def append (path : Path) (name : String) : Path := ⟨path.absolute, path.names ++ [name]⟩

-- Whether every name is two dots. Such a place is a directory that is always there.
def onlyDots (path : Path) : Bool := path.names.all (· == "..")

-- Whether a name contains the null character, which no path can be opened with.
def hasNull (path : Path) : Bool := path.names.any (·.toList.contains '\x00')

-- The directory above a place. Above the root is the root; above the working directory, the way up
-- is kept.
def parent (place : Path) : Path :=
  if place.onlyDots then if place.absolute then place else place.append ".."
  else ⟨place.absolute, place.names.dropLast⟩

def enter (place : Path) (name : String) : Path :=
  if name = ".." then place.parent else place.append name

def start (path : Path) : Path := ⟨path.absolute, []⟩

end Path

inductive Entry where
  | file (bytes : List UInt8)
  | directory

-- Entries by their places; of two at one place, the later one counts.
abbrev Tree := List (Path × Entry)

inductive Fault where
  | notFound
  | notDirectory
  | isDirectory
  | nameTooLong
deriving DecidableEq

def Fault.message : Fault → String
  | .notFound => "[Errno 2] No such file or directory"
  | .notDirectory => "[Errno 20] Not a directory"
  | .isDirectory => "[Errno 21] Is a directory"
  | .nameTooLong => "[Errno 36] File name too long"

def entry? (tree : Tree) (place : Path) : Option Entry :=
  if place.onlyDots then some .directory else tree.reverse.lookup place

def maxNameSize : Nat := 255

def follow (tree : Tree) (place : Path) : List String → Except Fault Entry
  | [] => .ok .directory
  | name :: names =>
      if maxNameSize < name.utf8ByteSize then .error .nameTooLong
      else match entry? tree (place.enter name) with
      | none => .error .notFound
      | some (.file bytes) => if names.isEmpty then .ok (.file bytes) else .error .notDirectory
      | some .directory => follow tree (place.enter name) names

def find (tree : Tree) (path : Path) : Except Fault Entry := follow tree path.start path.names

def read (tree : Tree) (path : Path) : Except Fault (List UInt8) :=
  match find tree path with
  | .ok (.file bytes) => .ok bytes
  | .ok .directory => .error .isDirectory
  | .error fault => .error fault

def isFile (tree : Tree) (path : Path) : Bool :=
  match find tree path with
  | .ok (.file _) => true
  | _ => false

end Reckon.Files

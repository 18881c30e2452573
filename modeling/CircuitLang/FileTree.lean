import CircuitLang.Diagnostic

/-! Files and directories below one directory, and reading a text by its path.

A path is followed component by component. An empty component and `.` stay where
they are and `..` goes up, but each of them only from a directory: a slash behind
the name of a file leads nowhere. A path that begins with a slash or goes above the
root of the tree is outside it, where there are directories to go up to and nothing
that has a name. Names and paths have a greatest length in bytes: a path is measured
before it is followed, and a name when it is looked up. -/
namespace CircuitLang

/-- What stands at a place of a tree. -/
inductive FileTree.Entry where
  | file (bytes : ByteArray)
  | directory

/-- Files and directories by their components. The directories on the way to an
entry need no entry of their own. -/
structure FileTree where
  entries : List (List String × FileTree.Entry)

namespace FileTree

/-- The greatest length of a name, in bytes. -/
def maxName : Nat := 255

/-- The greatest length of a path, in bytes. -/
def maxPath : Nat := 4095

/-- The tree of some entries, by their paths from its root. -/
def ofPaths (entries : List (String × Entry)) : FileTree :=
  ⟨entries.map fun (path, entry) =>
    ((path.splitOn "/").filter fun name => name ≠ "" ∧ name ≠ ".", entry)⟩

/-- What stands at a place: an entry, or a directory on the way to one. -/
def get? (tree : FileTree) (place : List String) : Option Entry :=
  match tree.entries.lookup place with
  | some entry => some entry
  | none =>
    if place.isEmpty || tree.entries.any fun (path, _) => place.isPrefixOf path then some .directory
    else none

/-- Where a path has led to: a place of the tree, or a directory outside it. -/
inductive Location where
  | inside (place : List String)
  | outside

namespace Location

def content? (tree : FileTree) : Location → Option Entry
  | inside place => tree.get? place
  | outside => some .directory

def up : Location → Location
  | inside [] => outside
  | inside place => inside place.dropLast
  | outside => outside

/-- The location one name below, if there can be anything. -/
def down : Location → String → Except ReadError Location
  | location, name =>
    if maxName < name.utf8ByteSize then .error .nameTooLong
    else
      match location with
      | inside place => .ok (inside (place ++ [name]))
      | outside => .error .notFound

/-- The location one component on, from a directory. -/
def step (location : Location) (name : String) : Except ReadError Location :=
  if name = "" ∨ name = "." then .ok location
  else if name = ".." then .ok location.up
  else location.down name

end Location

/-- Follows components from a location. -/
def follow (tree : FileTree) (location : Location) : List String → Except ReadError Location
  | [] => .ok location
  | name :: rest =>
    match location.content? tree with
    | none => .error .notFound
    | some (.file _) => .error .notDirectory
    | some .directory => do follow tree (← location.step name) rest

/-- The location a path leads to from the root of the tree. -/
def locate (tree : FileTree) (path : Path) : Except ReadError Location :=
  if maxPath < path.toString.utf8ByteSize then .error .nameTooLong
  else
    match path.toString.splitOn "/" with
    | "" :: names => follow tree .outside names
    | names => follow tree (.inside []) names

/-- Reads the file at a path as text. -/
def read (tree : FileTree) (path : Path) : Except ReadError String := do
  match (← tree.locate path).content? tree with
  | none => .error .notFound
  | some .directory => .error .isDirectory
  | some (.file bytes) =>
    match String.fromUTF8? bytes with
    | none => .error .invalidText
    | some text => .ok text

end FileTree

end CircuitLang

/-! Paths of files, as text.

A path ends in slashes and `.` components that name nothing of their own; what is
left is a directory and a last component, and that component is the file name
unless it is empty, `.` or `..`. The extension is what follows the last dot of the
file name, provided something stands before that dot. The text is read from its
end, so the definitions work on the reversed list. -/
namespace CircuitLang

structure Path where
  chars : List Char
  deriving DecidableEq, Repr

namespace Path

def ofString (text : String) : Path :=
  ⟨text.toList⟩

def toString (p : Path) : String :=
  String.ofList p.chars

/-- A reversed path without the slashes and `.` components it ends in. -/
def dropTail : List Char → List Char
  | '/' :: rest => dropTail rest
  | '.' :: '/' :: rest => dropTail rest
  | rest => rest

/-- The reversed path up to the end of its last component. -/
def reversedBody (p : Path) : List Char :=
  dropTail p.chars.reverse

/-- All that stands before the last component: empty, or ending in a slash. -/
def directory (p : Path) : List Char :=
  (p.reversedBody.dropWhile (· ≠ '/')).reverse

def lastComponent (p : Path) : List Char :=
  (p.reversedBody.takeWhile (· ≠ '/')).reverse

/-- The last component, if it names a file. -/
def fileName? (p : Path) : Option (List Char) :=
  if p.lastComponent ∈ [[], ['.'], ['.', '.']] then none else some p.lastComponent

/-- A file name cut at its last dot, if there is something before that dot. The
first part is the stem. -/
def splitName (name : List Char) : List Char × Option (List Char) :=
  match name.reverse.dropWhile (· ≠ '.') with
  | '.' :: c :: stem => ((c :: stem).reverse, some (name.reverse.takeWhile (· ≠ '.')).reverse)
  | _ => (name, none)

def extension? (p : Path) : Option (List Char) :=
  p.fileName?.bind fun name => (splitName name).2

def hasExtension (p : Path) (ext : String) : Bool :=
  p.extension? == some ext.toList

/-- Puts an extension behind the stem of the file name, in place of all that
follows the stem. A path without a file name stays as it is. -/
def setExtension (p : Path) (ext : String) : Path :=
  match p.fileName? with
  | none => p
  | some name => ⟨p.directory ++ (splitName name).1 ++ '.' :: ext.toList⟩

/-- Drops the last `n` characters. -/
def dropLast (p : Path) (n : Nat) : Path :=
  ⟨p.chars.take (p.chars.length - n)⟩

/-- Exchanges the extension: first as many characters as the old one has are cut
from the end of the path, then the new one is put behind the stem of the rest. -/
def withExtension (p : Path) (ext : String) : Path :=
  (p.dropLast (p.extension?.getD []).length).setExtension ext

end Path

end CircuitLang

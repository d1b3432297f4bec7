import KeaGauge.Settings.Source
/-!
# File trees

A file system held in memory: directories, and files with their bytes. A path
is walked component by component; every component but the last has to be a
directory, and so has the last one with a slash or a single point behind it.
-/

namespace KeaGauge.Scripted

open Settings (Files ReadFault)

/-- The files of a tree, and directories that need not hold any. Both are
known by their components. -/
structure Tree where
  directories : List (List String)
  files : List (List String × List UInt8)

namespace Tree

/-- The components of a path; one that is empty or a single point stays where
it is. -/
def components (path : String) : List String :=
  (path.splitOn "/").filter fun c => c ≠ "" ∧ c ≠ "."

/-- The tree of the given files, below a directory that exists. -/
def ofFiles (root : String) (files : List (String × List UInt8)) : Tree :=
  ⟨[components root], files.map fun (path, bytes) => (components (root ++ "/" ++ path), bytes)⟩

/-- The bytes of a file. -/
def file? (t : Tree) (place : List String) : Option (List UInt8) := t.files.lookup place

/-- Whether there is a directory at a place. -/
def isDirectory (t : Tree) (place : List String) : Bool :=
  t.directories.any (place.isPrefixOf ·)
    || t.files.any fun (other, _) => place.isPrefixOf other && other ≠ place

/-- How many bytes a name may have. -/
def maxName : Nat := 255

/-- How many bytes a path may have. -/
def maxPath : Nat := 4095

/-- The place that components lead to, starting from a directory. -/
def walk (t : Tree) : (place : List String) → List String → Except ReadFault (List String)
  | place, [] => .ok place
  | place, c :: rest =>
    if t.isDirectory place then
      if maxName < c.utf8ByteSize then .error .tooLong
      else t.walk (if c = ".." then place.dropLast else place ++ [c]) rest
    else if (t.file? place).isSome then .error .notDirectory
    else .error .notFound

/-- What is found at a place. -/
def read (t : Tree) (place : List String) (asDirectory : Bool) : Except ReadFault (List UInt8) :=
  match t.file? place with
  | some bytes => if asDirectory then .error .notDirectory else .ok bytes
  | none => .error (if t.isDirectory place then .isDirectory else .notFound)

/-- Whether a path can only lead to a directory. -/
def asksDirectory (path : String) : Bool :=
  (path.splitOn "/").getLast?.any fun c => c = "" ∨ c = "."

/-- **The tree as a file system.** -/
def toFiles (t : Tree) : Files := fun path =>
  if path = "" then .error .notFound
  else if maxPath < path.utf8ByteSize then .error .tooLong
  else
    match t.walk [] (components path) with
    | .error fault => .error fault
    | .ok place => t.read place (asksDirectory path)

end Tree

end KeaGauge.Scripted

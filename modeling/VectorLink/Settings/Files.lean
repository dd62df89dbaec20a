import VectorLink.Fault

/-! Files as far as settings need them: what a path leads to. -/

set_option autoImplicit false

namespace VectorLink

inductive FileNode where
  | file (bytes : List UInt8)
  | directory
  /-- What is there and cannot be read. -/
  | barred (cause : IoFault)
  deriving DecidableEq, Repr

abbrev Files := String → Except IoFault FileNode

namespace Files

def has (files : Files) (path : String) : Bool := (files path).toBool

def readText (files : Files) (path : String) : Except IoFault String :=
  match files path with
  | .error cause => .error cause
  | .ok .directory => .error .isDirectory
  | .ok (.barred cause) => .error cause
  | .ok (.file bytes) =>
    match String.fromUTF8? ⟨bytes.toArray⟩ with
    | some text => .ok text
    | none => .error .notUtf8

def join (directory path : String) : String :=
  if directory.toList.getLast? = some '/' then directory ++ path else directory ++ "/" ++ path

def isAbsolute (path : String) : Bool := path.toList.head? == some '/'

theorem join_join (directory rest : String) {name : String}
    (last : ∃ char ∈ name.toList.getLast?, char ≠ '/') :
    join (join directory name) rest = join directory (name ++ "/" ++ rest) := by
  obtain ⟨char, last, other⟩ := last
  have unmarked (front : String) : (front ++ name).toList.getLast? ≠ some '/' := by
    rw [String.toList_append, List.getLast?_append, last]
    simpa using other
  unfold join
  split <;> rw [if_neg (unmarked _)] <;> simp only [String.append_assoc]

end Files

/-- Files held in memory. A path is given by its parts, the root's being none; whatever has
something below it is a directory. -/
structure FileTree where
  current : List String
  entries : List (List String × FileNode)
  deriving Repr

namespace FileTree

def parts (path : String) : List String := path.splitOn "/"

def at? (tree : FileTree) (place : List String) : Option FileNode :=
  match tree.entries.lookup place with
  | some node => some node
  | none =>
    if place.isPrefixOf tree.current || tree.entries.any fun entry => place.isPrefixOf entry.1 then
      some .directory
    else none

/-- Follows the parts of a path from a place. Every part but the last has to be a directory, and so
has the last if an empty part or a dot follows. -/
def follow (tree : FileTree) (place : List String) : List String → Except IoFault FileNode
  | [] => match tree.at? place with
    | some node => .ok node
    | none => .error .noSuchFile
  | part :: rest =>
    match tree.at? place with
    | none => .error .noSuchFile
    | some (.file _) | some (.barred _) => .error .notDirectory
    | some .directory =>
      if part = "" ∨ part = "." then follow tree place rest
      else if part = ".." then follow tree place.dropLast rest
      else if 255 < part.utf8ByteSize then .error .nameTooLong
      else follow tree (place ++ [part]) rest

def look (tree : FileTree) : Files := fun path =>
  if path.contains '\x00' then .error .nulInPath
  else if path.isEmpty then .error .noSuchFile
  else if 4096 ≤ path.utf8ByteSize then .error .nameTooLong
  else follow tree (if Files.isAbsolute path then [] else tree.current) (parts path)

end FileTree

end VectorLink

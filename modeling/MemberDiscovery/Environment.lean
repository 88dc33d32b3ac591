import MemberDiscovery.Table
import MemberDiscovery.Text.Split

/-! # Environments

Variables and files as a process finds them. A file tree holds what is below the working directory;
nothing is found elsewhere.
-/

namespace MemberDiscovery

abbrev Environment := String → Option String

/-- What a process finds out about files: whether a path leads to a regular file, and the text of a
file that can be read. -/
structure FileSystem where
  isFile : String → Bool
  text? : String → Option String

/-- What a path leads to. -/
inductive FileEntry where
  | file (content : ByteArray)
  | directory
  deriving Inhabited

/-- Files and directories below the working directory, by their paths without dots. -/
abbrev FileTree := Table FileEntry

namespace FileTree

def parts (path : String) : List String :=
  Text.splitAtChar '/' path

/-- The entry at a path without dots. The working directory is a directory. -/
def entryAt? (tree : FileTree) (path : List String) : Option FileEntry :=
  if path.isEmpty then some .directory else tree.get? (String.intercalate "/" path)

/-- Goes along the parts of a path, starting at an entry. Everything but the last part has to be a
directory, and the way out of the working directory leads nowhere. -/
def walk? (tree : FileTree) (here : List String) : List String → Option FileEntry
  | [] => tree.entryAt? here
  | part :: rest =>
    match tree.entryAt? here with
    | some .directory =>
      if part = "" ∨ part = "." then walk? tree here rest
      else if part = ".." then
        if here.isEmpty then none else walk? tree here.dropLast rest
      else walk? tree (here ++ [part]) rest
    | _ => none

def find? (tree : FileTree) (path : String) : Option FileEntry :=
  if path = "" ∨ path.toList.head? = some '/' then none else tree.walk? [] (parts path)

def isFile (tree : FileTree) (path : String) : Bool :=
  match tree.find? path with
  | some (.file _) => true
  | _ => false

def text? (tree : FileTree) (path : String) : Option String :=
  match tree.find? path with
  | some (.file content) => String.fromUTF8? content
  | _ => none

def pathsTo (sofar : List String) : List String → List (List String)
  | [] => []
  | part :: rest => (sofar ++ [part]) :: pathsTo (sofar ++ [part]) rest

def add (tree : FileTree) (path : String) (entry : FileEntry) : FileTree :=
  let names := (parts path).filter fun part => part ≠ "" && part ≠ "."
  let tree := (pathsTo [] names.dropLast).foldl
    (fun (tree : FileTree) above => tree.insert (String.intercalate "/" above) .directory) tree
  tree.insert (String.intercalate "/" names) entry

/-- What a process finds out about a tree. -/
def system (tree : FileTree) : FileSystem := ⟨tree.isFile, tree.text?⟩

instance : Coe FileTree FileSystem := ⟨system⟩

end FileTree

end MemberDiscovery

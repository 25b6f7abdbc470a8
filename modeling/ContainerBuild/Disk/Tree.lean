import ContainerBuild.Path

/-! # Trees of files

Directories and regular files, without links. A location is the list of the names that lead to it
from the root, and entries of a directory are sorted by name.
-/

namespace ContainerBuild

/-- A directory or a regular file. -/
inductive Tree where
  /-- A file with its content. -/
  | file (content : Bytes)
  /-- A directory with its entries. -/
  | directory (entries : List (Bytes × Tree))
  deriving Inhabited

/-- The names that lead from the root to a directory or file. -/
abbrev Location := List Bytes

namespace Tree

/-- An empty directory. -/
def empty : Tree := directory []

/-- Whether this is a directory. -/
def isDirectory : Tree → Bool
  | directory _ => true
  | file _ => false

/-- The entry of a name, if this is a directory that has one. -/
def child? (t : Tree) (name : Bytes) : Option Tree :=
  match t with
  | directory entries => entries.lookup name
  | file _ => none

/-- The names of the entries. -/
def names : Tree → List Bytes
  | directory entries => entries.map (·.1)
  | file _ => []

/-- What is at a location. -/
def at? (t : Tree) : Location → Option Tree
  | [] => some t
  | name :: rest => (t.child? name).bind fun c => at? c rest

/-- Puts an entry at its place. An entry of that name is replaced. -/
def insertEntry (name : Bytes) (t : Tree) : List (Bytes × Tree) → List (Bytes × Tree)
  | [] => [(name, t)]
  | entry :: rest =>
    if entry.1 = name then (name, t) :: rest
    else if Path.bytesBefore name entry.1 then (name, t) :: entry :: rest
    else entry :: insertEntry name t rest

/-- The tree with another one at a location, if the directory that holds it exists. -/
def put (t : Tree) (new : Tree) : Location → Tree
  | [] => new
  | name :: rest =>
    match t with
    | file content => file content
    | directory entries =>
      match entries.lookup name, rest with
      | some c, rest => directory (insertEntry name (c.put new rest) entries)
      | none, [] => directory (insertEntry name new entries)
      | none, _ :: _ => directory entries

mutual

/-- Everything below the tree with its location, directories before their entries. -/
def descendants (here : Location) : Tree → List (Location × Tree)
  | file _ => []
  | directory entries => descendantsOfAll here entries

/-- The entries and everything below them. -/
def descendantsOfAll (here : Location) : List (Bytes × Tree) → List (Location × Tree)
  | [] => []
  | (name, t) :: rest =>
    (here ++ [name], t) :: descendants (here ++ [name]) t ++ descendantsOfAll here rest

end

end Tree

end ContainerBuild

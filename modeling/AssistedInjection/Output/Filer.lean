import AssistedInjection.Output.FileTree
import AssistedInjection.Rounds.Session

/-!
Where generated files go: into a directory tree, or into memory as far as there is room. A failed
write names the path it failed at.
-/

namespace AssistedInjection.Output

open Source Rounds

/-- A write that failed at a path. -/
structure WriteError where
  path : String
  reason : String
deriving DecidableEq

/-- The wording of an error. -/
def WriteError.message (e : WriteError) : String :=
  "failed to write `" ++ e.path ++ "`: " ++ e.reason

/-- A directory tree with the files written so far and the source that each was generated from. -/
structure Filer where
  root : String
  tree : FileTree
  dependencies : List (String × Option String)
deriving DecidableEq

namespace Filer

/-- Writes into a tree below a root and nothing so far. -/
def ofTree (root : String) (tree : FileTree) : Filer := ⟨root, tree, []⟩

/-- Writes a file into the directory of its package, which is made first. -/
def write : Sink Filer WriteError := fun file filer =>
  let path := pathFor filer.root file
  match filer.tree.makeDirectories (parent path) with
  | (tree, false) => (.error ⟨parent path, "cannot make the directory"⟩, { filer with tree })
  | (tree, true) =>
    match tree.write path file.content with
    | none => (.error ⟨path, "cannot write the file"⟩, { filer with tree })
    | some tree =>
      (.ok (), { filer with tree, dependencies := filer.dependencies ++ [(path, file.origin)] })

end Filer

/-- Files kept in memory. -/
structure Shelf where
  files : List GeneratedFile
  /-- How many more there is room for; without a number there is no limit. -/
  room : Option Nat
deriving DecidableEq

/-- Keeps a file if there is room. -/
def Shelf.write : Sink Shelf WriteError := fun file shelf =>
  if shelf.room = some 0 then (.error ⟨file.fileName, "disk full"⟩, shelf)
  else (.ok (), ⟨shelf.files ++ [file], shelf.room.map (· - 1)⟩)

end AssistedInjection.Output

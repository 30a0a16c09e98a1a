import AssistedInjection.Order.Insertion
import AssistedInjection.Output.Path

/-!
A tree of directories and regular files. A place in it is the list of names that leads there from
the top.

Directories are made from left to right along a path, and every component has to be entered before
the next one counts, two dots included. So `a/file/..` cannot be made although it leads to `a`, and
what was made before an obstacle stays.
-/

namespace AssistedInjection.Output

/-- The directories, the top aside, and the regular files with their contents. -/
structure FileTree where
  directories : List (List String)
  files : List (List String × String)
deriving DecidableEq

namespace FileTree

/-- Only the top. -/
def empty : FileTree := ⟨[], []⟩

/-- The content of a regular file. -/
def contentOf? (t : FileTree) (place : List String) : Option String := t.files.lookup place

/-- Whether a regular file is at a place. -/
def isFile (t : FileTree) (place : List String) : Bool := (t.contentOf? place).isSome

/-- Whether a directory is at a place; at the top there always is one. -/
def isDirectory (t : FileTree) (place : List String) : Bool :=
  place.isEmpty || t.directories.contains place

/-- The tree with a directory one component beyond a place, unless a regular file is in the way or
the name is too long. -/
def enter (t : FileTree) (place : List String) (component : String) : Option FileTree :=
  let next := follow place component
  if t.isDirectory next then some t
  else if t.isFile next || nameLimit < component.utf8ByteSize then none
  else some { t with directories := t.directories ++ [next] }

/-- Makes directories along some components, and says whether the last one was reached. -/
def enterAll (t : FileTree) (place : List String) : List String → FileTree × Bool
  | [] => (t, true)
  | component :: rest =>
    match t.enter place component with
    | none => (t, false)
    | some t => enterAll t (follow place component) rest

/-- Makes the directories of a path that are not there yet, and says whether all of them are. -/
def makeDirectories (t : FileTree) (path : String) : FileTree × Bool :=
  if isUsable path then t.enterAll [] (components path) else (t, false)

/-- Whether a regular file can be at the place of a path, where it may be already. -/
def admits (t : FileTree) (path : String) : Bool :=
  isUsable path && ((placeOf path).getLastD "").utf8ByteSize ≤ nameLimit &&
    !t.isDirectory (placeOf path) && t.isDirectory (placeOf path).dropLast

/-- Sets the content of a file, new or not, in a directory that is there. -/
def write (t : FileTree) (path content : String) : Option FileTree :=
  if t.admits path then
    some { t with files := t.files.filter (·.1 ≠ placeOf path) ++ [(placeOf path, content)] }
  else none

/-- The regular files below a place with the names that lead from there to them, each directory's
entries by name. -/
def listing (t : FileTree) (top : List String) : List (List String × String) :=
  Order.sortBy (fun a b => compare a.1 b.1 != .gt)
    ((t.files.filter (top.isPrefixOf ·.1)).map fun (place, content) =>
      (place.drop top.length, content))

end FileTree

end AssistedInjection.Output

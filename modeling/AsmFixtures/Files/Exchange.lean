import AsmFixtures.Files.Tree

/-! Exchange with a file system outside. A tree takes up what is found there along a
path, and after a run it tells what has to be made there. -/

namespace AsmFixtures

namespace Path

def openings (path : String) : List String :=
  let names := Text.split '/' path
  (List.range names.length).map fun i => Text.join "/" (names.take (i + 1))

end Path

namespace Place

def descend (place : Place) (name : String) : Place :=
  if name = "" || name = "." then place
  else if name = ".." then place.parent
  else place ++ [name]

def ofPath (path : String) : Place := (Text.split '/' path).foldl descend (start path)

end Place

inductive Finding
  | directory
  | file (text : String)
deriving DecidableEq

namespace FileTree

def takeUp (t : FileTree) (path : String) : Finding → FileTree
  | .directory => t.addDirectory (Place.ofPath path)
  | .file text => t.put (Place.ofPath path) text

/-- The directories that another tree does not have, those above others first. -/
def newDirectories (t before : FileTree) : List String :=
  (t.directories.filter fun place => ! before.isDirectory place).map Place.text

def changedFiles (t before : FileTree) : List (String × String) :=
  (t.files.filter fun (place, text) => before.text? place ≠ some text).map
    fun (place, text) => (place.text, text)

def newFiles (t before : FileTree) : List (String × String) :=
  (t.files.filter fun (place, _) => place.isInside && ! before.isFile place).map
    fun (place, text) => (place.text, text)

end FileTree

end AsmFixtures

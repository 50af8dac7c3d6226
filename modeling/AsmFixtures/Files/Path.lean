import AsmFixtures.Text.Pieces

/-! File paths as texts: components with slashes between them. A path that opens with a
slash starts at the root, any other in the working directory. -/

namespace AsmFixtures.Path

def isAbsolute (path : String) : Bool := Text.startsWith path "/"

def endsInSlash (path : String) : Bool := path.toList.getLast? == some '/'

def join (directory path : String) : String :=
  if isAbsolute path then path
  else if directory.isEmpty || endsInSlash directory then directory ++ path
  else directory ++ "/" ++ path

def dropEndSlashes (path : List Char) : List Char :=
  (path.reverse.dropWhile (· = '/')).reverse

/-- What stands in front of the last slash and what stands behind it. The slashes between
the two are dropped, unless nothing else stands in front. -/
def cutLast (path : List Char) : List Char × List Char :=
  let last := (path.reverse.takeWhile (· ≠ '/')).reverse
  let front := (path.reverse.dropWhile (· ≠ '/')).reverse
  if front.all (· = '/') then (front, last) else (dropEndSlashes front, last)

end AsmFixtures.Path

import AsmFixtures.Files.Path
import AsmFixtures.Text.Quoted

/-! A tree of text files, as the working directory of a run. A place in it is given by the
names from the working directory down to it; the directories above are there too but
hold nothing. A path is followed name by name, and a missing or unfit name on the way
ends the attempt with the reason. -/

namespace AsmFixtures

inductive FileFault
  | absent
  | occupied
  | notDirectory
  | isDirectory
  | nameTooLong
  | nullByte
deriving DecidableEq

structure FileError where
  fault : FileFault
  path : String
deriving DecidableEq

namespace FileFault

/-- The number and the text of the system error; a null byte is refused before. -/
def systemError? : FileFault → Option (Nat × String)
  | absent => some (2, "No such file or directory")
  | occupied => some (17, "File exists")
  | notDirectory => some (20, "Not a directory")
  | isDirectory => some (21, "Is a directory")
  | nameTooLong => some (36, "File name too long")
  | nullByte => none

end FileFault

def FileError.message (e : FileError) : String :=
  match e.fault.systemError? with
  | some (number, text) => "[Errno " ++ toString number ++ "] " ++ text ++ ": " ++ Text.quote e.path
  | none => "embedded null byte"

abbrev Place := List String

namespace Place

def workingDirectory : Place := []

def root : Place := ["/"]

def parent (place : Place) : Place :=
  if place = root then root
  else if place.all (· = "..") then place ++ [".."]
  else place.dropLast

/-- The working directory, what lies above it, and the root. -/
def isPermanent (place : Place) : Bool := place.all (· = "..") || place = root

def isInside (place : Place) : Bool := ! place.isEmpty && place.head? ≠ some ".." &&
  place.head? ≠ some "/"

def start (path : String) : Place := if Path.isAbsolute path then root else workingDirectory

def text : Place → String
  | "/" :: names => "/" ++ Text.join "/" names
  | names => Text.join "/" names

def ancestors (place : Place) : List Place :=
  (List.range (place.length - 1)).map fun i => place.take (i + 1)

end Place

structure FileTree where
  directories : List Place := []
  files : List (Place × String) := []

namespace FileTree

def isDirectory (t : FileTree) (place : Place) : Bool :=
  place.isPermanent || t.directories.contains place

def text? (t : FileTree) (place : Place) : Option String := t.files.lookup place

def isFile (t : FileTree) (place : Place) : Bool := (t.text? place).isSome

def nameLimit : Nat := 255

def pathLimit : Nat := 4095

def isDots (name : String) : Bool := name = "" || name = "." || name = ".."

def enter (t : FileTree) (place : Place) (name : String) : Except FileFault Place :=
  if name = "" || name = "." then .ok place
  else if name = ".." then .ok place.parent
  else if nameLimit < name.utf8ByteSize then .error .nameTooLong
  else if t.isDirectory (place ++ [name]) then .ok (place ++ [name])
  else if t.isFile (place ++ [name]) then .error .notDirectory
  else .error .absent

def walk (t : FileTree) (place : Place) (names : List String) : Except FileFault Place :=
  names.foldlM t.enter place

def examine (path : String) : Except FileFault Unit :=
  if path.toList.contains '\x00' then .error .nullByte
  else if path.isEmpty then .error .absent
  else if pathLimit < path.utf8ByteSize then .error .nameTooLong
  else .ok ()

/-- The directory that a path leads through, and the last component of the path. -/
def approach (t : FileTree) (path : String) : Except FileFault (Place × String) := do
  examine path
  let names := Text.split '/' path
  let place ← t.walk (Place.start path) names.dropLast
  return (place, names.getLastD "")

def find? (t : FileTree) (path : String) : Except FileFault (Place × Option String) := do
  let (place, name) ← t.approach path
  if isDots name then return (← t.enter place name, none)
  else if nameLimit < name.utf8ByteSize then throw .nameTooLong
  else if t.isDirectory (place ++ [name]) then return (place ++ [name], none)
  else
    match t.text? (place ++ [name]) with
    | some text => return (place ++ [name], some text)
    | none => throw .absent

def hasPath (t : FileTree) (path : String) : Bool := (t.find? path).toBool

def hasDirectory (t : FileTree) (path : String) : Bool :=
  match t.find? path with
  | .ok (_, none) => true
  | _ => false

def read? (t : FileTree) (path : String) : Except FileError String :=
  match t.find? path with
  | .ok (_, some text) => .ok text
  | .ok (_, none) => .error ⟨.isDirectory, path⟩
  | .error fault => .error ⟨fault, path⟩

def put (t : FileTree) (place : Place) (text : String) : FileTree :=
  { t with files := t.files.filter (·.1 ≠ place) ++ [(place, text)] }

def addDirectory (t : FileTree) (place : Place) : FileTree :=
  { t with directories := t.directories ++ [place] }

/-- A slash at the end of a path asks for a directory. None is made, so what is wrong is the way to
the last name or, if there is nothing wrong with that, the demand. -/
def slashFault (t : FileTree) (path : String) : FileFault :=
  let trimmed := String.ofList (Path.dropEndSlashes path.toList)
  match examine path, t.approach trimmed with
  | .error fault, _ => fault
  | .ok (), .error fault => if trimmed.isEmpty then .isDirectory else fault
  | .ok (), .ok _ => .isDirectory

def target? (t : FileTree) (path : String) : Except FileFault Place :=
  if Path.endsInSlash path then .error (t.slashFault path)
  else do
    let (place, name) ← t.approach path
    if isDots name then .error .isDirectory
    else if nameLimit < name.utf8ByteSize then .error .nameTooLong
    else if t.isDirectory (place ++ [name]) then .error .isDirectory
    else return place ++ [name]

def write? (t : FileTree) (path text : String) : Except FileError FileTree :=
  match t.target? path with
  | .ok place => .ok (t.put place text)
  | .error fault => .error ⟨fault, path⟩

/-- One new directory; slashes at the end of its path do not count. -/
def makeDirectory? (t : FileTree) (path : String) : Except FileError FileTree :=
  let trimmed := String.ofList (Path.dropEndSlashes path.toList)
  match examine path, t.approach trimmed with
  | .error fault, _ => .error ⟨fault, path⟩
  | .ok (), .error fault => .error ⟨if trimmed.isEmpty then .occupied else fault, path⟩
  | .ok (), .ok (place, name) =>
    if isDots name then .error ⟨.occupied, path⟩
    else if nameLimit < name.utf8ByteSize then .error ⟨.nameTooLong, path⟩
    else if t.isDirectory (place ++ [name]) || t.isFile (place ++ [name]) then
      .error ⟨.occupied, path⟩
    else .ok (t.addDirectory (place ++ [name]))

def ofFiles (files : List (String × String)) : FileTree :=
  let placed := files.map fun (path, text) =>
    ((Text.split '/' path).filter fun name => ! isDots name, text)
  { directories := (placed.flatMap fun (place, _) => place.ancestors).eraseDups
    files := placed }

end FileTree

/-- Work on a file tree; what was done before a failure stays done. -/
abbrev FileWork := ExceptT FileError (StateM FileTree)

namespace FileWork

def change (f : FileTree → Except FileError FileTree) : FileWork Unit := do
  match f (← get) with
  | .ok t => set t
  | .error e => throw e

def write (path text : String) : FileWork Unit := change (·.write? path text)

def frontAndLast (path : List Char) : List Char × List Char :=
  match Path.cutLast path with
  | (front, []) => Path.cutLast front
  | parts => parts

/-- A directory and all that it lies in, as far as they are not there yet. The first
argument bounds the number of components. -/
def ensureDirectoryAtMost : Nat → List Char → FileWork Unit
  | 0, _ => return ()
  | fuel + 1, path => do
    let (front, last) := frontAndLast path
    let frontMissing := ! front.isEmpty && ! last.isEmpty &&
      ! (← get).hasPath (String.ofList front)
    if frontMissing then
      tryCatch (ensureDirectoryAtMost fuel front) fun e =>
        if e.fault = .occupied then return () else throw e
    if frontMissing && last = ['.'] then return ()
    else
      tryCatch (change (·.makeDirectory? (String.ofList path))) fun e => do
        if (← get).hasDirectory (String.ofList path) then return () else throw e

def ensureDirectory (path : String) : FileWork Unit :=
  ensureDirectoryAtMost (path.length + 1) path.toList

def runOn {α : Type} (work : FileWork α) (t : FileTree) : Except FileError α × FileTree :=
  (work.run).run t

end FileWork

end AsmFixtures

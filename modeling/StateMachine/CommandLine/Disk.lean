import StateMachine.Document.Literal

/-!
# Files and directories

A tree of directories and files, and what reading, writing and making
directories do to it. Places in the tree are given by paths. A path is walked
step by step, and every step starts in a directory: a name leads into it, `.`
stays and `..` leads to the directory above. The tree has surroundings, which
hold directories to walk through but no files: those above its top, and the
root that a path with a slash in front starts from.
-/

namespace StateMachine

/-- Why an operation on files fails, and the path it fails at. -/
inductive FileError
  | notFound (path : String)
  | alreadyThere (path : String)
  | notDirectory (path : String)
  | isDirectory (path : String)
  | nameTooLong (path : String)
  | denied (path : String)
  /-- Any other failure, with its number and wording. -/
  | other (number : Nat) (wording : String) (path : String)

namespace FileError

/-- The path an operation fails at. -/
def path : FileError → String
  | .notFound p => p
  | .alreadyThere p => p
  | .notDirectory p => p
  | .isDirectory p => p
  | .nameTooLong p => p
  | .denied p => p
  | .other _ _ p => p

/-- The number and the wording of an error. -/
def cause : FileError → String
  | .notFound _ => "[Errno 2] No such file or directory"
  | .alreadyThere _ => "[Errno 17] File exists"
  | .notDirectory _ => "[Errno 20] Not a directory"
  | .isDirectory _ => "[Errno 21] Is a directory"
  | .nameTooLong _ => "[Errno 36] File name too long"
  | .denied _ => "[Errno 13] Permission denied"
  | .other number wording _ => "[Errno " ++ toString number ++ "] " ++ wording

/-- The wording of an error. -/
def message (e : FileError) : String :=
  e.cause ++ ": " ++ Text.quoted e.path

end FileError

namespace Path

/-- The names between the slashes of a path. -/
def names : List Char → List (List Char)
  | [] => [[]]
  | c :: cs =>
    match names cs with
    | [] => [[c]]
    | n :: ns => if c = '/' then [] :: n :: ns else (c :: n) :: ns

/-- The steps of a path: the names between its slashes, without empty ones. -/
def steps (path : String) : List String :=
  ((names path.toList).filter fun n => !n.isEmpty).map String.ofList

/-- The name of the directory above. -/
def above : String := ".."

/-- The root of all paths. -/
def root : String := "/"

/-- Where a path starts: at the top of the tree, or at the root. -/
def origin (path : String) : List String :=
  if path.toList.head? = some '/' then [root] else []

/-- The way to the directory above. The root has none above it; above the top of
    the tree are its surroundings. -/
def up (way : List String) : List String :=
  if way = [root] then way
  else if way.all (· == above) then way ++ [above]
  else way.dropLast

/-- Does the way lead to the surroundings of the tree? -/
def isOutside (way : List String) : Bool :=
  way.head?.any fun n => n == above || n == root

/-- Does the path end with a slash? -/
def endsOpen (path : String) : Bool :=
  path.toList.getLast? = some '/'

/-- Does the path hold the character zero? -/
def holdsZero (path : String) : Bool :=
  path.toList.any fun c => c.toNat == 0

/-- A path split at its last slash; the slashes before it are dropped, unless
    there is nothing else. -/
def split (path : String) : String × String :=
  match Text.cutLast? "/" path with
  | none => ("", path)
  | some (head, tail) =>
    let bare := Text.onChars (Text.dropEndWhile (· == '/')) head
    (if bare.isEmpty then head ++ "/" else bare, tail)

/-- The last name of a path. -/
def baseName (path : String) : String :=
  (split path).2

/-- The path of a name below a directory; a path from the root stays as it is. -/
def join (directory name : String) : String :=
  if name.toList.head? = some '/' then name
  else if directory.isEmpty || endsOpen directory then directory ++ name
  else directory ++ "/" ++ name

end Path

/-- What is at a place. -/
inductive DiskEntry
  | directory
  | file (content : List UInt8)

/-- A tree of directories and files. -/
structure Disk where
  entries : List (List String × DiskEntry) := []

namespace Disk

/-- What is at a place. -/
def at? (d : Disk) (way : List String) : Option DiskEntry :=
  if way = [Path.root] || way.all (· == Path.above) then some .directory else d.entries.lookup way

/-- The longest a name may be, in bytes. -/
def longestName : Nat := 255

/-- The least number of bytes that is too long for a path. -/
def tooLongPath : Nat := 4096

/-- Goes a step from a place. Something need not be where it leads to, but a
    directory must be where it starts. -/
def step (d : Disk) (path : String) (way : List String) (name : String) :
    Except FileError (List String) :=
  match d.at? way with
  | none => .error (.notFound path)
  | some (.file _) => .error (.notDirectory path)
  | some .directory =>
    if name = "." then .ok way
    else if name = Path.above then .ok (Path.up way)
    else if longestName < name.utf8ByteSize then .error (.nameTooLong path)
    else .ok (way ++ [name])

/-- The place a path leads to. -/
def locate (d : Disk) (path : String) : Except FileError (List String) :=
  if path.isEmpty then .error (.notFound path)
  else if tooLongPath ≤ path.utf8ByteSize then .error (.nameTooLong path)
  else (Path.steps path).foldlM (d.step path) (Path.origin path)

/-- What a path leads to. A path that ends with a slash leads to no file. -/
def find (d : Disk) (path : String) : Except FileError DiskEntry := do
  let way ← d.locate path
  match d.at? way with
  | none => throw (.notFound path)
  | some .directory => return .directory
  | some (.file content) =>
    if Path.endsOpen path then throw (.notDirectory path) else return .file content

/-- Is something there? -/
def holds (d : Disk) (path : String) : Bool :=
  (d.find path).toOption.isSome

/-- Is it a directory? -/
def isDirectory (d : Disk) (path : String) : Bool :=
  match d.find path with
  | .ok .directory => true
  | _ => false

/-- Is it a file? -/
def isFile (d : Disk) (path : String) : Bool :=
  match d.find path with
  | .ok (.file _) => true
  | _ => false

/-- The tree with something at a place. -/
def put (d : Disk) (way : List String) (e : DiskEntry) : Disk :=
  ⟨d.entries.filter (fun x => x.1 != way) ++ [(way, e)]⟩

/-- The content of a file. -/
def read (d : Disk) (path : String) : Except FileError (List UInt8) := do
  match ← d.find path with
  | .file content => return content
  | .directory => throw (.isDirectory path)

/-- Writes a file. -/
def write (d : Disk) (path : String) (content : String) : Except FileError Disk := do
  let way ← d.locate path
  if Path.endsOpen path || d.isDirectory path then throw (.isDirectory path)
  return d.put way (.file content.toUTF8.toList)

/-- Makes a directory. -/
def makeDirectory (d : Disk) (path : String) : Except FileError Disk := do
  let way ← d.locate path
  if (d.at? way).isSome then throw (.alreadyThere path)
  return d.put way .directory

/-- Makes a directory unless it is there. -/
def ensureDirectory (d : Disk) (path : String) : Except FileError Disk :=
  match d.makeDirectory path with
  | .ok d => .ok d
  | .error e => if d.isDirectory path then .ok d else .error e

/-- The directory above a path, and the last name, a slash at the end aside. -/
def splitAbove (path : String) : String × String :=
  let (head, tail) := Path.split path
  if tail.isEmpty then Path.split head else (head, tail)

/-- What an operation made of a tree, and the fault that ended it. What was done
    before the fault stays done. -/
structure Outcome where
  disk : Disk
  fault : Option FileError := none

/-- The outcome of an operation that does nothing where it fails. -/
def outcome (d : Disk) (r : Except FileError Disk) : Outcome :=
  match r with
  | .ok d => { disk := d }
  | .error e => { disk := d, fault := some e }

/-- Makes a directory and those above it that are missing; `fuel` bounds their
    number. -/
def makeDirectoriesWithin : Nat → Disk → String → Outcome
  | 0, d, path => d.outcome (d.ensureDirectory path)
  | fuel + 1, d, path =>
    let (head, tail) := splitAbove path
    if head.isEmpty || tail.isEmpty || d.holds head then d.outcome (d.ensureDirectory path)
    else
      let made := makeDirectoriesWithin fuel d head
      match made.fault with
      | some (.alreadyThere _) | none =>
        if tail = "." then { disk := made.disk }
        else made.disk.outcome (made.disk.ensureDirectory path)
      | some _ => made

/-- Makes a directory and those above it that are missing. -/
def makeDirectories (d : Disk) (path : String) : Outcome :=
  makeDirectoriesWithin path.length d path

/-- The tree with a directory and all above it, whatever is there. -/
def addDirectory (d : Disk) (path : String) : Disk :=
  let way := Path.steps path
  (List.range (way.length + 1)).foldl (fun d n =>
    if (d.at? (way.take n)).isSome then d else d.put (way.take n) .directory) d

/-- The tree with a file, and the directories above it. -/
def addFile (d : Disk) (path : String) (content : List UInt8) : Disk :=
  (d.addDirectory (Path.split path).1).put (Path.steps path) (.file content)

/-- The files of a tree, by the ways to them; those in its surroundings do not
    belong to it. -/
def files (d : Disk) : List (List String × List UInt8) :=
  d.entries.filterMap fun e =>
    match e.2 with
    | .file content => if Path.isOutside e.1 then none else some (e.1, content)
    | .directory => none

end Disk
end StateMachine

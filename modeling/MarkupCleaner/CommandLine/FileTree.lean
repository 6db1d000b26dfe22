import MarkupCleaner.CommandLine.Host

/-!
# Files in memory

Directories and files that are kept in memory, for runs that touch no disk. A run works in a directory
of its own; around it there is no more than a root with a few places that are always there.
-/

namespace MarkupCleaner

/-- The names of the directories from the root to a place, and its own name. -/
abbrev Place := List (List Char)

/-- What is at a place. -/
inductive FileEntry where
  | directory
  | file (bytes : List UInt8)
deriving DecidableEq, Repr

/-- Directories and files by their places, and the place of the working directory. -/
structure FileTree where
  here : Place
  entries : List (Place × FileEntry)
deriving DecidableEq, Repr

namespace FileTree

/-- What is at a place, if anything is. -/
def entry? (tree : FileTree) (place : Place) : Option FileEntry := tree.entries.lookup place

/-- The tree with something at a place where nothing is yet. -/
def add (tree : FileTree) (place : Place) (entry : FileEntry) : FileTree :=
  if (tree.entry? place).isSome then tree
  else { tree with entries := tree.entries ++ [(place, entry)] }

/-- The tree with a file and the directories that it lies in, given by its steps from the working
    directory. -/
def addFile (tree : FileTree) (steps : Place) (bytes : List UInt8) : FileTree :=
  let directories := (List.range' 1 (steps.length - 1)).map steps.take
  (directories.foldl (fun tree steps => tree.add (tree.here ++ steps) .directory) tree).add
    (tree.here ++ steps) (.file bytes)

/-- A tree with an empty working directory. -/
def empty : FileTree :=
  let temporary : Place := ["tmp".toList]
  let devices : Place := ["dev".toList]
  let here := temporary ++ ["run".toList]
  { here
    entries :=
      [([], .directory), (temporary, .directory), (devices, .directory),
       (devices ++ ["null".toList], .file []), (here, .directory)] }

/-- The tree with files at the given paths below the working directory. -/
def ofList (files : List (String × List UInt8)) : FileTree :=
  files.foldl (fun tree (path, bytes) => tree.addFile (FilePlace.steps path.toList) bytes) empty

/-- The number of bytes that a name may have. -/
def nameLimit : Nat := 255

/-- The least number of bytes that a path cannot have. -/
def pathLimit : Nat := 4096

/-- Why a path leads nowhere. -/
inductive Obstacle where
  | missing
  | noDirectory
  | tooLong
deriving DecidableEq, Repr

/-- The fault that an obstacle comes to. -/
def Obstacle.fault (path : String) : Obstacle → FileFault
  | missing => .missing path
  | noDirectory => .noDirectory path
  | tooLong => .tooLong path

/-- Whether a name is too long. -/
def isLongName (name : List Char) : Bool := nameLimit < (String.ofList name).utf8ByteSize

/-- The place one step further on. -/
def step (tree : FileTree) (place : Place) (name : List Char) : Except Obstacle Place :=
  match tree.entry? place with
  | none => .error .missing
  | some (.file _) => .error .noDirectory
  | some .directory =>
    if name = FilePlace.back then .ok place.dropLast
    else if isLongName name then .error .tooLong
    else if (tree.entry? (place ++ [name])).isSome then .ok (place ++ [name])
    else .error .missing

/-- The place that a path starts from. -/
def start (tree : FileTree) (root : List Char) : Place := if root.isEmpty then tree.here else []

/-- The place that some steps lead to. -/
def walk (tree : FileTree) (root : List Char) (steps : List (List Char)) : Except Obstacle Place :=
  steps.foldlM tree.step (tree.start root)

/-- Refuses a text that cannot be a path, or is too long for one. -/
def checkPath (path : String) : Except FileFault Unit :=
  if path.toList.contains '\x00' then .error .nullByte
  else if pathLimit ≤ path.utf8ByteSize then .error (.tooLong path)
  else .ok ()

/-- What is at a path. -/
def find (tree : FileTree) (path : String) : Except FileFault (Option FileEntry) := do
  checkPath path
  let place ← (tree.walk (FilePlace.root path.toList) (FilePlace.steps path.toList)).mapError
    (Obstacle.fault path)
  return tree.entry? place

/-- The bytes of the file at a path. -/
def read (tree : FileTree) (path : String) : Except FileFault (List UInt8) := do
  match ← tree.find path with
  | some (.file bytes) => return bytes
  | some .directory => throw (.isDirectory path)
  | none => throw (.missing path)

/-- Makes a directory by its last step, after the others. -/
def makeDirectory (tree : FileTree) (root : List Char) (steps : List (List Char)) :
    Except FileFault FileTree := do
  let path := FilePlace.path root steps
  checkPath path
  match steps.getLast? with
  | none => throw (.alreadyThere path)
  | some name =>
    let outer ← (tree.walk root steps.dropLast).mapError (Obstacle.fault path)
    match tree.entry? outer with
    | some .directory =>
      if name = FilePlace.back then throw (.alreadyThere path)
      else if isLongName name then throw (.tooLong path)
      else if (tree.entry? (outer ++ [name])).isSome then throw (.alreadyThere path)
      else return tree.add (outer ++ [name]) .directory
    | _ => throw (.noDirectory path)

/-- Makes a directory unless it is there. -/
def requireDirectory (tree : FileTree) (root : List Char) (steps : List (List Char)) :
    Except FileFault FileTree :=
  match tree.makeDirectory root steps with
  | .ok tree => .ok tree
  | .error fault =>
    match tree.find (FilePlace.path root steps) with
    | .ok (some .directory) => .ok tree
    | _ => .error fault

/-- Makes a directory and those that it lies in, unless they are there. The steps are given with the
    last one first. -/
def makeDirectories (tree : FileTree) (root : List Char) :
    List (List Char) → Except FileFault FileTree
  | [] => tree.requireDirectory root []
  | step :: outer =>
    let steps := (step :: outer).reverse
    match tree.requireDirectory root steps with
    | .ok tree => .ok tree
    | .error (.missing _) => do
      (← tree.makeDirectories root outer).requireDirectory root steps
    | .error fault => .error fault

/-- Makes the directory at a path and those that it lies in. -/
def makePath (tree : FileTree) (path : String) : Except FileFault FileTree :=
  tree.makeDirectories (FilePlace.root path.toList) (FilePlace.steps path.toList).reverse

/-- Makes an empty file at a settled path unless there is a file, and the directories that it lies
    in. -/
def createFile (tree : FileTree) (path : String) : Except FileFault FileTree := do
  let tree ← tree.makePath (FilePlace.directory path)
  match tree.find path with
  | .ok (some (.file _)) => return tree
  | .ok (some .directory) => throw (.isDirectory path)
  | .ok none => throw (.missing path)
  | .error (.missing _) =>
    let steps := FilePlace.steps path.toList
    let outer ← (tree.walk (FilePlace.root path.toList) steps.dropLast).mapError
      (Obstacle.fault path)
    return tree.add (outer ++ steps.getLast?.toList) (.file [])
  | .error fault => throw fault

/-- Changes the tree, unless that is refused. -/
def update (change : FileTree → Except FileFault FileTree) : StateM FileTree (Except FileFault Unit) :=
  fun tree =>
    match change tree with
    | .ok changed => (.ok (), changed)
    | .error fault => (.error fault, tree)

end FileTree

/-- The surroundings of a run that touches no disk: its variables and input, and what becomes of the
    formatter. -/
def Host.ofMemory (environment : List (String × String)) (input : String)
    (outcome : Formatter.Outcome) : Host (StateM FileTree) where
  environment := return environment
  readFile path := return (← get).read path
  makeDirectories path := FileTree.update fun tree => tree.makePath path
  createFile path := FileTree.update fun tree => tree.createFile path
  readInput := return .ok input
  runFormatter _ _ _ := return outcome

end MarkupCleaner

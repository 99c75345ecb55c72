import HubDispatch.CommandLine.Storage

/-!
# Files in memory

A tree of files and directories with a working directory in it, as a storage for trying the program
out. A path is walked name by name, and every name but the last must lead to a directory; so two
dots lead back only from a directory that is there. The trouble met first is the one reported.
-/

namespace HubDispatch

/-- A path as it is written: names between slashes, from the root or from the working directory. -/
structure FilePath where
  absolute : Bool
  names : List String
  /-- A slash at the end: only a directory can be meant. -/
  slash : Bool
  deriving DecidableEq, Repr

namespace FilePath

/-- A path has fewer bytes than this. -/
def sizeLimit : Nat := 4096

/-- The most bytes that a name has. -/
def longestName : Nat := 255

/-- The path that a text spells. -/
def ofText (s : String) : Except FileTrouble FilePath :=
  if s.toList.contains '\x00' then .error .nullCharacter
  else if s.isEmpty then .error .noSuchFile
  else if sizeLimit ≤ s.utf8ByteSize then .error .nameTooLong
  else .ok ⟨s.startsWith "/", (s.splitOn "/").filter (· ≠ ""), s.endsWith "/"⟩

/-- The directories above, the nearest first, in the plainest spelling. -/
def above (p : FilePath) : List FilePath :=
  let names := p.names.filter (· ≠ ".")
  (List.range names.length).tail.reverse.map fun n =>
    { p with names := names.take n, slash := false }

end FilePath

/-- A place in a tree: the names that lead there from the root. -/
abbrev Place := List String

/-- What stands at a place. -/
inductive FileNode where
  | directory
  | file (content : List UInt8)
  deriving DecidableEq, Repr

/-- What stands where, and the place that paths without a slash in front begin at. The root is a
directory. -/
structure FileTree where
  nodes : List (Place × FileNode)
  working : Place

namespace FileTree

/-- What stands at a place. -/
def node? (t : FileTree) (place : Place) : Option FileNode :=
  if place.isEmpty then some .directory else t.nodes.lookup place

/-- A node put at a place, instead of what stood there. -/
def put (t : FileTree) (place : Place) (node : FileNode) : FileTree :=
  { t with nodes := (t.nodes.filter (·.1 ≠ place)) ++ [(place, node)] }

/-- A directory at a place and at those above it. -/
def withDirectories (t : FileTree) (place : Place) : FileTree :=
  (List.range place.length).foldl (fun t n =>
    let above := place.take (n + 1)
    if (t.node? above).isSome then t else t.put above .directory) t

/-- What stands in the root of every system. -/
def rootNames : List String :=
  ["bin", "dev", "etc", "home", "lib", "opt", "proc", "root", "run", "sys", "tmp", "usr", "var"]

/-- A system with nothing in it but a working directory and the null device. -/
def bare : FileTree :=
  let working : Place := ["tmp", "work"]
  let t : FileTree := ⟨rootNames.map fun name => ([name], .directory), working⟩
  (t.withDirectories working).put ["dev", "null"] (.file [])

/-- A working directory with some files in it. -/
def ofFiles (files : List (String × String)) : FileTree :=
  files.foldl (fun t (name, text) =>
    let place := bare.working ++ (name.splitOn "/").filter (· ≠ "")
    (t.withDirectories place.dropLast).put place (.file text.toUTF8.data.toList)) bare

/-- The name of something in a directory, if it is not too long. -/
def child (place : Place) (name : String) : Except FileTrouble Place :=
  if FilePath.longestName < name.utf8ByteSize then .error .nameTooLong else .ok (place ++ [name])

/-- One or two dots. -/
def isDots (name : String) : Bool := name = "." || name = ".."

/-- The directory that a name leads to from a directory. -/
def enter (t : FileTree) (place : Place) (name : String) : Except FileTrouble Place := do
  if name = "." then return place
  if name = ".." then return place.dropLast
  let place ← child place name
  match t.node? place with
  | some .directory => return place
  | some (.file _) => throw .notADirectory
  | none => throw .noSuchFile

/-- The directory that all names of a path but the last lead to. -/
def walk (t : FileTree) (p : FilePath) : Except FileTrouble Place :=
  p.names.dropLast.foldlM t.enter (if p.absolute then [] else t.working)

/-- What a path leads to, and where it stands. -/
def find (t : FileTree) (p : FilePath) : Except FileTrouble (Place × FileNode) := do
  let place ← t.walk p
  match p.names.getLast? with
  | none => return (place, .directory)
  | some name =>
    if isDots name then return (← t.enter place name, .directory)
    let place ← child place name
    match t.node? place with
    | none => throw .noSuchFile
    | some .directory => return (place, .directory)
    | some (.file content) =>
      if p.slash then throw .notADirectory else return (place, .file content)

def isDirectory (t : FileTree) (p : FilePath) : Bool :=
  match t.find p with
  | .ok (_, .directory) => true
  | _ => false

/-- The bytes of a file. A directory can be opened, but not read. -/
def read (t : FileTree) (name : String) : Except ReadTrouble (List UInt8) :=
  match FilePath.ofText name >>= t.find with
  | .ok (_, .file content) => .ok content
  | .ok (_, .directory) => .error (.cannotRead FileTrouble.isADirectory.message)
  | .error trouble => .error (.cannotOpen trouble.message)

/-- A directory in one that is there. -/
def makeOne (t : FileTree) (p : FilePath) : Except FileTrouble FileTree := do
  let place ← t.walk p
  match p.names.getLast? with
  | none => throw .fileExists
  | some name =>
    if isDots name then throw .fileExists
    let place ← child place name
    if (t.node? place).isSome then throw .fileExists
    return t.put place .directory

/-- The first of some directories, each after the next one if that is missing. One that is there
already is well; else what was made on the way stays. -/
def makeFrom (t : FileTree) : List FilePath → Except FileTrouble Unit × FileTree
  | [] => (.ok (), t)
  | p :: above =>
    match t.makeOne p with
    | .ok t => (.ok (), t)
    | .error .noSuchFile =>
      match t.makeFrom above with
      | (.error trouble, t) => (.error trouble, t)
      | (.ok (), t) =>
        match t.makeOne p with
        | .ok t => (.ok (), t)
        | .error trouble => (settled t p trouble, t)
    | .error trouble => (settled t p trouble, t)
where
  /-- Trouble with making a directory that is there is none. -/
  settled (t : FileTree) (p : FilePath) (trouble : FileTrouble) : Except FileTrouble Unit :=
    if t.isDirectory p then .ok () else .error trouble

/-- A directory and those above it. -/
def makeDirectory (t : FileTree) (name : String) : Except FileTrouble Unit × FileTree :=
  if name.isEmpty then (.ok (), t)
  else
    match FilePath.ofText name with
    | .ok p => t.makeFrom (p :: p.above)
    | .error trouble => (.error trouble, t)

/-- The place of a file to be written. -/
def filePlace (t : FileTree) (name : String) : Except FileTrouble Place := do
  let p ← FilePath.ofText name
  let place ← t.walk p
  match p.names.getLast? with
  | none => throw .isADirectory
  | some name =>
    if isDots name || p.slash then throw .isADirectory
    let place ← child place name
    if t.node? place = some .directory then throw .isADirectory
    return place

def create (t : FileTree) (name : String) : Except FileTrouble Unit × FileTree :=
  match t.filePlace name with
  | .ok place => (.ok (), t.put place (.file []))
  | .error trouble => (.error trouble, t)

def append (t : FileTree) (name : String) (bytes : List UInt8) : FileTree :=
  match FilePath.ofText name >>= t.find with
  | .ok (place, .file content) => t.put place (.file (content ++ bytes))
  | _ => t

/-- The files below the working directory, by their paths from there. -/
def files (t : FileTree) : List (String × List UInt8) :=
  t.nodes.filterMap fun (place, node) =>
    match node with
    | .directory => none
    | .file content =>
      if t.working.isPrefixOf place then
        some (String.intercalate "/" (place.drop t.working.length), content)
      else none

instance : Storage (StateM FileTree) where
  read name := fun t => (t.read name, t)
  makeDirectory name := fun t =>
    let (result, t) := t.makeDirectory name
    (result.mapError FileTrouble.message, t)
  create name := fun t =>
    let (result, t) := t.create name
    (result.mapError FileTrouble.message, t)
  append name bytes := fun t => ((), t.append name bytes)

end FileTree
end HubDispatch

import HostNet.Errno
import HostNet.Fault
import HostNet.Text.Bytes
/-!
Files by path: what kernel parameters are read from and written to, and a tree of files that
refuses paths as the operating system does.
-/
namespace HostNet

/-- Files with state `φ`. -/
structure Files (φ : Type) where
  read : String → φ → Except IoCause (List UInt8)
  write : String → List UInt8 → φ → Except IoCause φ

/-- A path below a directory: a slash comes between, unless the directory is empty or ends in one.
An absolute path replaces the directory. -/
def joinPath (directory path : String) : String :=
  if path.toList.head? = some '/' then path
  else if directory.isEmpty || directory.toList.getLast? = some '/' then directory ++ path
  else directory ++ "/" ++ path

/-- What stands at a path. -/
inductive Entry where
  | file (content : List UInt8)
  | directory
deriving DecidableEq, Repr

/-- A tree of files, by the components of their paths from the root. Every directory above an
entry is there too. -/
structure FileTree where
  entries : List (List String × Entry)
deriving DecidableEq, Repr

namespace FileTree

/-- The longest component of a path, in bytes. -/
def componentLimit : Nat := 255

/-- The longest path, in bytes. -/
def pathLimit : Nat := 4095

/-- The parts of a path around its slashes. -/
def splitPath : List Char → List (List Char)
  | [] => [[]]
  | '/' :: rest => [] :: splitPath rest
  | c :: rest =>
    match splitPath rest with
    | [] => [[c]]
    | part :: parts => (c :: part) :: parts

/-- The components of a path; a slash more or less between two makes no difference. -/
def components (path : String) : List String :=
  (splitPath path.toList).filterMap fun part =>
    if part.isEmpty then none else some (String.ofList part)

def entry? (tree : FileTree) (path : List String) : Option Entry :=
  match tree.entries.lookup path with
  | some entry => some entry
  | none =>
    if path.isEmpty || tree.entries.any (fun entry => path.isPrefixOf entry.1) then
      some .directory
    else none

def follow (done : List String) (component : String) : List String :=
  if component = "." then done
  else if component = ".." then done.dropLast
  else done ++ [component]

/-- The path that the components lead to. Every one but the last must name a directory and none be
too long: the first violation decides. -/
def walk (tree : FileTree) :
    (done : List String) → (todo : List String) → Except IoCause (List String)
  | done, [] => .ok done
  | done, component :: rest =>
    match tree.entry? done with
    | none => .error (.os Errno.noEntry)
    | some (.file _) => .error (.os Errno.notDirectory)
    | some .directory =>
      if componentLimit < (Text.toBytes component).length then .error (.os Errno.nameTooLong)
      else tree.walk (follow done component) rest

/-- The place a path leads to, where its last component may be missing. -/
def resolve (tree : FileTree) (path : String) : Except IoCause (List String) :=
  if path.toList.contains '\x00' then .error .nulInName
  else if path.isEmpty then .error (.os Errno.noEntry)
  else if pathLimit < (Text.toBytes path).length then .error (.os Errno.nameTooLong)
  else tree.walk [] (components path)

/-- The path ends in a slash, so it wants a directory. -/
def wantsDirectory (path : String) : Bool :=
  path.toList.getLast? == some '/'

def read (path : String) (tree : FileTree) : Except IoCause (List UInt8) := do
  let found ← tree.resolve path
  match tree.entry? found with
  | none => throw (.os Errno.noEntry)
  | some .directory => throw (.os Errno.isDirectory)
  | some (.file content) =>
    if wantsDirectory path then throw (.os Errno.notDirectory) else return content

/-- The entries with another content at a path, which goes to the end if it is new. -/
def put (path : List String) (content : List UInt8) :
    List (List String × Entry) → List (List String × Entry)
  | [] => [(path, .file content)]
  | (p, entry) :: rest =>
    if p = path then (p, .file content) :: rest else (p, entry) :: put path content rest

def write (path : String) (content : List UInt8) (tree : FileTree) : Except IoCause FileTree := do
  let found ← tree.resolve path
  match tree.entry? found with
  | some .directory => throw (.os Errno.isDirectory)
  | some (.file _) =>
    if wantsDirectory path then throw (.os Errno.notDirectory)
    else return ⟨put found content tree.entries⟩
  | none =>
    if wantsDirectory path then throw (.os Errno.isDirectory)
    else return ⟨put found content tree.entries⟩

def files : Files FileTree :=
  ⟨read, write⟩

end FileTree

end HostNet

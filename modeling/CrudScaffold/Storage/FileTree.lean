import CrudScaffold.Entries
import CrudScaffold.Path

/-!
# File trees

The files and directories that a run can see, as a map from locations to nodes. A location is a list of names from
the root; paths are resolved to locations name by name, so that every name but the last has to be a directory.
-/

namespace CrudScaffold

/-- Why an operation on files is refused. -/
inductive FileError
  | notFound
  | busy
  | alreadyExists
  | notDirectory
  | isDirectory
  | nameTooLong
  /-- A path holds a null character; no operation is tried with it. -/
  | nullCharacter
  deriving DecidableEq, Repr

namespace FileError

/-- The system's number and words for a refusal. -/
def code? : FileError → Option (Nat × String)
  | notFound => some (2, "No such file or directory")
  | busy => some (16, "Device or resource busy")
  | alreadyExists => some (17, "File exists")
  | notDirectory => some (20, "Not a directory")
  | isDirectory => some (21, "Is a directory")
  | nameTooLong => some (36, "File name too long")
  | nullCharacter => none

def message (e : FileError) : String :=
  match e.code? with
  | some (number, words) => "[Errno " ++ toString number ++ "] " ++ words
  | none => "embedded null byte"

end FileError

abbrev Location := List String

inductive Node
  | file (content : ByteArray)
  | directory

instance : DecidableEq Node
  | .directory, .directory => isTrue rfl
  | .file _, .directory | .directory, .file _ => isFalse nofun
  | .file a, .file b =>
    if h : a.data = b.data then isTrue (congrArg Node.file (ByteArray.ext h))
    else isFalse fun e => h (congrArg ByteArray.data (Node.file.inj e))

structure FileTree where
  /-- The directory that paths without a root start from. It and the directories above it always exist. -/
  home : Location
  nodes : Entries Location Node

namespace FileTree

def node? (t : FileTree) (l : Location) : Option Node :=
  if l.isPrefixOf t.home then some .directory else t.nodes.get? l

def put (t : FileTree) (l : Location) (n : Node) : FileTree :=
  { t with nodes := t.nodes.put l n }

def erase (t : FileTree) (l : Location) : FileTree :=
  { t with nodes := t.nodes.erase l }

/-! ### Resolving paths -/

/-- The longest name and the longest path, in bytes. -/
def maxNameSize : Nat := 255
def maxPathSize : Nat := 4095

/-- The location of a name in a directory. -/
def step (t : FileTree) (directory : Location) (name : String) : Except FileError Location :=
  match t.node? directory with
  | none => .error .notFound
  | some (.file _) => .error .notDirectory
  | some .directory =>
    if name = ".." then .ok directory.dropLast
    else if maxNameSize < name.utf8ByteSize then .error .nameTooLong
    else .ok (directory ++ [name])

def start (t : FileTree) : Anchor → Location
  | .here => t.home
  | .root | .doubleRoot => []

/-- The location that a path leads to. Everything above it exists; the location itself need not. -/
def locate (t : FileTree) (p : Path) : Except FileError Location :=
  if p.text.toList.contains '\x00' then .error .nullCharacter
  else if maxPathSize < p.text.utf8ByteSize then .error .nameTooLong
  else p.components.foldlM t.step (t.start p.anchor)

/-- What a path leads to. -/
def lookup (t : FileTree) (p : Path) : Except FileError Node :=
  (t.locate p).bind fun l =>
    match t.node? l with
    | some n => .ok n
    | none => .error .notFound

/-- Whether an answer about what is not there is no. A path that is too long is reported instead. -/
def probe (t : FileTree) (p : Path) (holds : Node → Bool) : Except FileError Bool :=
  match t.lookup p with
  | .ok n => .ok (holds n)
  | .error .notFound | .error .notDirectory | .error .nullCharacter => .ok false
  | .error e => .error e

end FileTree

end CrudScaffold

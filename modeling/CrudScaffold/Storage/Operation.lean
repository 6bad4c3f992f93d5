import CrudScaffold.Storage.FileTree

/-!
# Operations on file trees

The operations that files are read and written with. What an operation did before it was refused stays done.

* `ensureDirectory` makes a directory and the missing directories above it;
* `replace` writes a new file beside the old one and then puts it in its place, so that the old content is never
  half overwritten;
* `overwrite` writes a file in place.
-/

namespace CrudScaffold

/-- An operation on a file tree. The tree is kept when the operation is refused. -/
abbrev Storage := ExceptT FileError (StateM FileTree)

namespace Storage

/-- Asks the tree a question. -/
def ask {α : Type} (question : FileTree → Except FileError α) : Storage α := do
  match question (← getThe FileTree) with
  | .ok a => return a
  | .error e => throw e

def locate (p : Path) : Storage Location :=
  ask (·.locate p)

/-- Whether there is something at the path. -/
def exists? (p : Path) : Storage Bool :=
  ask (·.probe p fun _ => true)

def isFile (p : Path) : Storage Bool :=
  ask (·.probe p (· ≠ .directory))

def isDirectory (p : Path) : Storage Bool :=
  ask (·.probe p (· = .directory))

def read (p : Path) : Storage ByteArray := do
  match ← ask (·.lookup p) with
  | .file content => return content
  | .directory => throw .isDirectory

/-! ### Directories -/

/-- Makes one directory, in a directory that exists. -/
def makeDirectory (p : Path) : Storage Unit := do
  let l ← locate p
  if ((← getThe FileTree).node? l).isSome then throw .alreadyExists
  modifyThe FileTree (·.put l .directory)

/-- Makes one directory, unless it is there already. -/
def makeDirectoryOnce (p : Path) : Storage Unit :=
  tryCatch (makeDirectory p) fun e => do
    if e = .notFound ∨ e = .nullCharacter then throw e
    unless ← isDirectory p do throw e

/-- Makes a directory and those above it that are missing. The fuel bounds the number of components. -/
def ensureUpTo : Nat → Path → Storage Unit
  | 0, p => makeDirectoryOnce p
  | fuel + 1, p => tryCatch (makeDirectoryOnce p) fun e => do
    if e ≠ .notFound ∨ p.components.isEmpty then throw e
    ensureUpTo fuel p.parent
    makeDirectoryOnce p

def ensureDirectory (p : Path) : Storage Unit :=
  ensureUpTo p.components.length p

/-! ### Files -/

/-- The name of a temporary file; the number tells apart several of them. -/
def temporaryName (name : String) (number : Nat) : String :=
  let digits := Nat.toDigits 10 number
  "." ++ name ++ "." ++ .ofList (List.replicate (8 - digits.length) '0' ++ digits) ++ ".tmp"

/-- The location of one temporary file beside a path, unless something stands there. -/
def freeLocation? (t : FileTree) (p : Path) (number : Nat) : Option (Except FileError Location) :=
  match t.locate (p.parent.join ⟨.here, [temporaryName p.name number]⟩) with
  | .ok l => if (t.node? l).isNone then some (.ok l) else none
  | .error e => some (.error e)

/-- The location of the first temporary file that can be made. More are tried than can be taken. -/
def temporaryLocation (t : FileTree) (p : Path) : Except FileError Location :=
  ((List.range (t.nodes.length + 2)).findSome? (freeLocation? t p)).getD (.error .alreadyExists)

/-- Writes a file under a temporary name that is not in use. -/
def writeTemporary (p : Path) (content : ByteArray) : Storage Location := do
  let l ← ask (temporaryLocation · p)
  modifyThe FileTree (·.put l (.file content))
  return l

/-- Moves a file to a path, over the file that is there. -/
def rename (old : Location) (p : Path) : Storage Unit := do
  let l ← locate p
  if p.components.isEmpty ∨ p.name = ".." then throw .busy
  let tree ← getThe FileTree
  if tree.node? l = some .directory then throw .isDirectory
  match tree.node? old with
  | some n => set ((tree.erase old).put l n)
  | none => throw .notFound

/-- Puts a new file with the given content in the place of the file at the path. Nothing else is left behind. -/
def replace (p : Path) (content : ByteArray) : Storage Unit := do
  let temporary ← writeTemporary p content
  tryCatch (rename temporary p) fun e => do
    modifyThe FileTree (·.erase temporary)
    throw e

/-- Writes a file in place. -/
def overwrite (p : Path) (content : ByteArray) : Storage Unit := do
  let l ← locate p
  if p.components.isEmpty ∨ (← getThe FileTree).node? l = some .directory then throw .isDirectory
  modifyThe FileTree (·.put l (.file content))

end Storage

end CrudScaffold

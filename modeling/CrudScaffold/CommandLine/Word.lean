import CrudScaffold.CommandLine.Switch
import CrudScaffold.Identifier
import CrudScaffold.Text.Quoted

/-!
# Words of the command line

What a single word means: a text, a switch, or something that looks like a switch and is none. A text may be
attached to a switch, several letters may share one hyphen, and a long spelling may be cut short when only one
switch is left.
-/

namespace CrudScaffold.CommandLine

/-- Why a command line is refused. -/
inductive Refusal
  /-- A spelling that is cut too short. -/
  | ambiguous (word : String) (spellings : List String)
  | missingText (s : Switch)
  /-- A text is attached to a switch that takes none. -/
  | unwantedText (s : Switch) (text : String)
  | missingModel
  | unrecognized (words : List String)
  deriving DecidableEq, Repr

def Refusal.message : Refusal → String
  | ambiguous word spellings => "ambiguous option: " ++ word ++ " could match " ++ ", ".intercalate spellings
  | missingText s => "argument " ++ s.label ++ ": expected one argument"
  | unwantedText s text => "argument " ++ s.label ++ ": ignored explicit argument " ++ Text.quoted text
  | missingModel => "the following arguments are required: model"
  | unrecognized words => "unrecognized arguments: " ++ " ".intercalate words

/-- What stands in the same word after a switch. An equals sign between them is not a part of it. -/
inductive Attachment
  | nothing
  /-- After a letter: a text, or more letters. -/
  | joined (rest : List Char)
  /-- After a long spelling: a text. -/
  | assigned (text : String)
  deriving DecidableEq, Repr

inductive Word
  | text (s : String)
  /-- Two hyphens; all words after them are texts. -/
  | separator
  | switch (s : Switch) (attachment : Attachment)
  | unknown (s : String)
  deriving DecidableEq, Repr

namespace Word

/-- A minus sign and digits, perhaps with a decimal point. -/
def isNegativeNumber (s : String) : Bool :=
  match withoutFinalBreak s.toList with
  | '-' :: rest =>
    match rest.dropWhile Text.isDecimalDigit with
    | [] => !rest.isEmpty
    | '.' :: fraction => !fraction.isEmpty && fraction.all Text.isDecimalDigit
    | _ => false
  | _ => false

/-- A word that begins with a hyphen and is no spelling of a switch. -/
private def unspelled (s : String) : Word :=
  if isNegativeNumber s || s.toList.contains ' ' then .text s else .unknown s

/-- The part of a word before its first equals sign, and the rest after it. -/
def assignment (cs : List Char) : List Char × Option (List Char) :=
  (cs.takeWhile (· != '='),
    match cs.dropWhile (· != '=') with
    | [] => none
    | _ :: value => some value)

/-- A word that begins with two hyphens. Any beginning of a long spelling will do if there is only one such. -/
private def long (s : String) : Except Refusal Word :=
  let (head, value) := assignment s.toList
  let head := String.ofList head
  let attachment := match value with
    | some value => Attachment.assigned (.ofList value)
    | none => .nothing
  match Switch.ofSpelling? head with
  | some w => .ok (.switch w attachment)
  | none =>
    match Switch.completions head with
    | [] => .ok (unspelled s)
    | [(_, w)] => .ok (.switch w attachment)
    | several => .error (.ambiguous s (several.map Prod.fst))

/-- A word that begins with one hyphen. -/
private def short (letter : Char) (rest : List Char) : Word :=
  match Switch.ofSpelling? (Switch.ofLetter letter), rest with
  | some w, [] => .switch w .nothing
  | some w, '=' :: value => .switch w (.joined value)
  | some w, _ => .switch w (.joined rest)
  | none, _ => unspelled (.ofList ('-' :: letter :: rest))

/-- What a word means when no separator stands before it. -/
def ofText (s : String) : Except Refusal Word :=
  if s = "--" then .ok .separator
  else
    match s.toList with
    | '-' :: '-' :: _ => long s
    | '-' :: letter :: rest => .ok (short letter rest)
    | _ => .ok (.text s)

/-- What the words of a command line mean. -/
def ofTexts : List String → Except Refusal (List Word)
  | [] => .ok []
  | s :: rest => do
    match ← ofText s with
    | .separator => return .separator :: rest.map .text
    | word => return word :: (← ofTexts rest)

end Word

/-! ### Letters that share a hyphen -/

/-- The switches of one word. -/
structure Cluster where
  /-- The switches that have what they need, with their texts. -/
  uses : List (Switch × Option String)
  /-- The last switch, if it needs the next word. -/
  wanting : Option Switch

namespace Cluster

def single (s : Switch) (text : Option String) : Cluster :=
  ⟨[(s, text)], none⟩

def push (s : Switch) (c : Cluster) : Cluster :=
  { c with uses := (s, none) :: c.uses }

/-- A switch that ends its word. -/
def last (s : Switch) : Cluster :=
  if s.takesText then ⟨[], some s⟩ else single s none

/-- A switch with what stands after its letter. -/
private def ofLetters (s : Switch) (rest : List Char) : Except Refusal Cluster :=
  if s.takesText then .ok (single s (some (.ofList rest)))
  else
    match rest with
    | [] => .error (.unwantedText s "")
    | letter :: more =>
      match Switch.ofSpelling? (Switch.ofLetter letter) with
      | none => .error (.unwantedText s (.ofList rest))
      | some next => (if more.isEmpty then .ok (last next) else ofLetters next more).map (push s)

/-- The switches of a word that begins with the given one. -/
def ofSwitch (s : Switch) (attachment : Attachment) : Except Refusal Cluster :=
  match attachment with
  | .nothing => .ok (last s)
  | .assigned text => if s.takesText then .ok (single s (some text)) else .error (.unwantedText s text)
  | .joined rest => ofLetters s rest

end Cluster

end CrudScaffold.CommandLine

import CrudScaffold.Choice

/-!
# Switches

The options of the command line, their spellings, and which of them take a text.
-/

namespace CrudScaffold.CommandLine

inductive Switch
  | help
  | version
  /-- Asks for one of the choices. -/
  | choose (c : Choice)
  /-- Names the group that files are written for. -/
  | group
  /-- Names the directory that files are written below. -/
  | root
  /-- Names the namespace that modules are imported from. -/
  | application
  /-- Names the file that the settings are read from. -/
  | settings
  | verbose
  | quiet
  deriving DecidableEq, Repr

namespace Switch

/-- All switches, in the order in which they are listed. -/
def all : List Switch :=
  [.help, .version] ++ Choice.options.map .choose ++ [.group, .root, .application, .settings, .verbose, .quiet]

/-- The letter that a choice can be asked for by. -/
def letter? : Choice → Option Char
  | .controller => some 'c'
  | .factory => some 'f'
  | .filter => some 'F'
  | .test => some 't'
  | .migration => some 'm'
  | .seeder => some 's'
  | .resource => some 'r'
  | .request => some 'R'
  | _ => none

def ofLetter (c : Char) : String :=
  .ofList ['-', c]

def spellings : Switch → List String
  | help => ["-h", "--help"]
  | version => ["--version"]
  | choose c => (letter? c).toList.map ofLetter ++ ["--" ++ c.name]
  | group => ["-g", "--group"]
  | root => ["--plugin"]
  | application => ["--namespace"]
  | settings => ["--config"]
  | verbose => ["-v", "--verbose"]
  | quiet => ["-q", "--quiet"]

/-- What a switch is called in messages. -/
def label (s : Switch) : String :=
  "/".intercalate s.spellings

/-- Whether the switch is followed by a text. -/
def takesText : Switch → Bool
  | group | root | application | settings => true
  | help | version | choose _ | verbose | quiet => false

/-- Every spelling of every switch. -/
def spelled : List (String × Switch) :=
  all.flatMap fun s => s.spellings.map fun spelling => (spelling, s)

def ofSpelling? (spelling : String) : Option Switch :=
  spelled.lookup spelling

/-- The spellings that begin with the given text. -/
def completions (head : String) : List (String × Switch) :=
  spelled.filter fun e => Text.startsWith head e.1

end Switch

end CrudScaffold.CommandLine

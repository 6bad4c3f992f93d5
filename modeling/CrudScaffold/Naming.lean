import CrudScaffold.Text.Case
import CrudScaffold.Text.Blank

/-!
# Names

The forms that one name takes in the generated code: the words it is made of, joined in snake, kebab, title or
pascal case, the plural of its last word, and a namespace as a dotted module path.
-/

namespace CrudScaffold.Naming

/-- Whether a new word starts at `c`, which stands between `before` and `after`: a capital starts one after a small
letter or a digit, and the last capital of a run starts one when a small letter follows. -/
def startsWord (before c : Char) (after : Option Char) : Bool :=
  c.isUpper && (before.isLower || before.isDigit || (before.isUpper && after.any Char.isLower))

/-- The pieces between the characters that are no letters or digits, cut where a word starts. The first piece is
the one that the text begins with; pieces may be empty. -/
def pieces : List Char → List (List Char)
  | [] => [[]]
  | c :: rest =>
    let later := pieces rest
    if !c.isAlphanum then [] :: later
    else if rest.head?.any fun d => startsWord c d rest.tail.head? then [c] :: later
    else
      match later with
      | piece :: others => (c :: piece) :: others
      | [] => [[c]]

/-- The words of a name, in lower case. -/
def words (cs : List Char) : List (List Char) :=
  ((pieces cs).filter (!·.isEmpty)).map (·.map Char.toLower)

def joined (separator : List Char) (parts : List (List Char)) : List Char :=
  separator.intercalate parts

def snakeChars (cs : List Char) : List Char :=
  joined ['_'] (words cs)

/-- A word with its first letter in upper case. -/
def capital : List Char → List Char
  | [] => []
  | c :: rest => c.toUpper :: rest

/-- The words joined by underscores. -/
def snake (name : String) : String :=
  .ofList (snakeChars name.toList)

/-- The words joined by hyphens. -/
def kebab (name : String) : String :=
  .ofList (joined ['-'] (words name.toList))

/-- The words with capitals, joined by spaces. -/
def title (name : String) : String :=
  .ofList (joined [' '] ((words name.toList).map capital))

/-- The words with capitals, joined without anything between them. -/
def pascal (name : String) : String :=
  .ofList ((words name.toList).map capital).flatten

/-- The name with its first character in upper case. -/
def upperFirst (name : String) : String :=
  .ofList (Text.upperFirst name.toList)

/-! ### Plurals -/

/-- Nouns whose plural follows no ending rule. -/
def irregularPlurals : List (String × String) :=
  [("person", "people"), ("child", "children"), ("man", "men"), ("woman", "women"), ("mouse", "mice"),
    ("datum", "data"), ("index", "indices"), ("matrix", "matrices"), ("axis", "axes"), ("analysis", "analyses"),
    ("status", "statuses"), ("address", "addresses")]

/-- The text up to and with its last underscore, and what follows it. -/
def splitLast (cs : List Char) : List Char × List Char :=
  ((cs.reverse.dropWhile (· != '_')).reverse, (cs.reverse.takeWhile (· != '_')).reverse)

def isVowel (c : Char) : Bool :=
  ['a', 'e', 'i', 'o', 'u'].contains c

/-- A name that ends with `word`, with this word in the plural; `front` is what stands before it. The rules look at the
word in lower case, and take from and add to the end of the whole name. -/
def pluralAfter (front word : List Char) : List Char :=
  let name := front ++ word
  let low := Text.lower word
  let ends (tail : String) : Bool := tail.toList.isSuffixOf low
  let afterConsonant : Bool := word.length > 1 && low.dropLast.getLast?.any (!isVowel ·)
  match irregularPlurals.lookup (String.ofList low) with
  | some plural => front ++ if word.head?.any Char.isUpper then Text.upperFirst plural.toList else plural.toList
  | none =>
    if ends "sh" || ends "ch" || ends "x" || ends "z" || ends "ss" then name ++ ['e', 's']
    else if ends "s" then name
    else if ends "y" && afterConsonant then name.dropLast ++ ['i', 'e', 's']
    else if ends "fe" then name.dropLast.dropLast ++ ['v', 'e', 's']
    else if ends "f" && !ends "ff" then name.dropLast ++ ['v', 'e', 's']
    else if ends "o" && afterConsonant then name ++ ['e', 's']
    else name ++ ['s']

def pluralChars (cs : List Char) : List Char :=
  if cs.isEmpty then [] else pluralAfter (splitLast cs).1 (splitLast cs).2

/-- The name with its last word in the plural; what stands before the last underscore is kept. -/
def plural (name : String) : String :=
  .ofList (pluralChars name.toList)

/-! ### Module paths -/

def isPathSeparator (c : Char) : Bool :=
  c == '.' || c == '/' || c == '\\'

/-- The texts between the characters that satisfy `cut`. -/
def splitAt (cut : Char → Bool) : List Char → List (List Char)
  | [] => [[]]
  | c :: rest =>
    if cut c then [] :: splitAt cut rest
    else
      match splitAt cut rest with
      | piece :: others => (c :: piece) :: others
      | [] => [[c]]

/-- A namespace written with dots, slashes or backslashes as snake-case segments joined by dots. -/
def modulePath (path : String) : String :=
  .ofList (joined ['.'] (((splitAt isPathSeparator path.toList).map snakeChars).filter (!·.isEmpty)))

end CrudScaffold.Naming

import CrudScaffold.Entries
import CrudScaffold.Yaml.Error
import CrudScaffold.Yaml.Tag
import CrudScaffold.Yaml.Token

/-!
# Node graphs

The nodes of a document, by number: a node that has an anchor can be a part of several others, and of itself.
`Graph.ofTokens` reads one document from tokens.
-/

namespace CrudScaffold.Yaml

inductive Content
  | scalar (text : List Text.Symbol)
  | sequence (items : List Nat)
  | mapping (entries : List (Nat × Nat))
  deriving Repr

structure Node where
  tag : Tag
  content : Content
  deriving Repr

structure Graph where
  nodes : Array Node
  /-- The node of the document, unless the text holds none. -/
  root : Option Nat
  deriving Repr

/-- What is known while tokens are read. -/
structure Builder where
  tokens : List Token
  /-- What is wrong with the text after the last token. -/
  ending : Option Error
  nodes : Array Node
  anchors : Entries String Nat
  /-- What the handles of tags stand for. -/
  handles : Entries String String

abbrev Build := StateT Builder (Except Error)

namespace Build

/-- The next token; there is none at the end of the text. -/
private def peek : Build (Option Token) := do
  let b ← get
  match b.tokens, b.ending with
  | t :: _, _ => return some t
  | [], some e => throw e
  | [], none => return none

private def skip : Build Unit :=
  modify fun b => { b with tokens := b.tokens.tail }

/-- Whether the next token is the given one; it is read then. -/
private def accept (t : Token) : Build Bool := do
  if (← peek) = some t then
    skip
    return true
  else return false

private def expect (t : Token) : Build Unit := do
  unless ← accept t do throw .malformed

/-- Whether one of the given tokens comes next. -/
private def isNext (ts : List Token) : Build Bool := do
  return (← peek).any ts.contains

private def addNode (n : Node) : Build Nat :=
  modifyGet fun b => (b.nodes.size, { b with nodes := b.nodes.push n })

/-- Gives a node its content when its parts have been read. -/
private def fill (id : Nat) (content : Content) : Build Unit :=
  modify fun b => { b with nodes := b.nodes.modify id fun n => { n with content := content } }

private def empty : Build Nat :=
  addNode ⟨.null, .scalar []⟩

/-! ### Properties of nodes -/

structure Properties where
  anchor : Option String
  /-- The full name of the tag. -/
  tag : Option String

/-- Whether the tag leaves it to the form of the node what it stands for. -/
private def Properties.isUntagged (p : Properties) : Bool :=
  p.tag.all (· == "!")

/-- A tag as it is written: a handle, unless the name is written in full, and the rest of the name. -/
private abbrev WrittenTag := Option String × String

private def tagName (tag : WrittenTag) : Build String := do
  match tag with
  | (none, suffix) => return suffix
  | (some handle, suffix) =>
    match (← get).handles.get? handle with
    | some expansion => return expansion ++ suffix
    | none => throw .malformed

private def anchor? : Build (Option String) := do
  match ← peek with
  | some (.anchor name) =>
    skip
    return some name
  | _ => return none

private def tag? : Build (Option WrittenTag) := do
  match ← peek with
  | some (.tag handle suffix) =>
    skip
    return some (handle, suffix)
  | _ => return none

/-- Reads an anchor and a tag, in either order. The handle of the tag is looked up when both have been read. -/
private def properties : Build Properties := do
  match ← anchor? with
  | some name =>
    let tag ← tag?
    return ⟨some name, ← tag.mapM tagName⟩
  | none =>
    match ← tag? with
    | none => return ⟨none, none⟩
    | some tag =>
      let anchor ← anchor?
      return ⟨anchor, some (← tagName tag)⟩

private def nameNode (p : Properties) (id : Nat) : Build Unit := do
  match p.anchor with
  | none => return
  | some name =>
    if ((← get).anchors.get? name).isSome then throw .malformed
    modify fun b => { b with anchors := b.anchors.put name id }

private def scalar (p : Properties) (text : List Text.Symbol) (plain : Bool) : Build Nat := do
  let tag := match p.tag with
    | none => if plain then Tag.ofText text else .text
    | some name => if name = "!" then Tag.ofText text else Tag.ofName name
  let id ← addNode ⟨tag, .scalar text⟩
  nameNode p id
  return id

/-- A collection whose parts `read` reads; its anchor can be used in them. -/
private def collection (p : Properties) (tag : Tag) (read : Build Content) : Build Nat := do
  let untagged := p.isUntagged
  let tag := if untagged then tag else (p.tag.map Tag.ofName).getD tag
  -- Until its parts are known, the kind of the node is.
  let id ← addNode ⟨tag, if (← isNext [.flowMappingStart, .blockMappingStart]) then .mapping [] else .sequence []⟩
  nameNode p id
  fill id (← read)
  return id

/-! ### Nodes -/

/-- Where a node stands. -/
inductive Place
  | flow
  | block
  /-- The value of a mapping in block style, where a sequence needs no indentation. -/
  | mappingValue
  deriving DecidableEq

mutual

/-- Reads a node. The fuel bounds the number of steps, here and below. -/
private def node (place : Place) : Nat → Build Nat
  | 0 => throw .malformed
  | fuel + 1 => do
    match ← peek with
    | some (.alias name) =>
      skip
      match (← get).anchors.get? name with
      | some id => return id
      | none => throw .malformed
    | _ =>
      let p ← properties
      match ← peek, place with
      | some .blockEntry, .mappingValue => collection p .sequence (indentlessItems fuel)
      | some (.scalar text plain), _ =>
        skip
        scalar p text plain
      | some .flowSequenceStart, _ => collection p .sequence (skip *> flowItems fuel true)
      | some .flowMappingStart, _ => collection p .mapping (skip *> flowEntries fuel true)
      | some .blockSequenceStart, .block | some .blockSequenceStart, .mappingValue =>
        collection p .sequence (skip *> blockItems fuel)
      | some .blockMappingStart, .block | some .blockMappingStart, .mappingValue =>
        collection p .mapping (skip *> blockEntries fuel)
      | _, _ => if p.anchor.isSome || p.tag.isSome then scalar p [] p.isUntagged else throw .malformed

/-- Reads a node, or an empty one when one of the given tokens comes next. -/
private def nodeUnless (ends : List Token) (place : Place) : Nat → Build Nat
  | 0 => throw .malformed
  | fuel + 1 => do if ← isNext ends then empty else node place fuel

private def blockItems : Nat → Build Content
  | 0 => throw .malformed
  | fuel + 1 => do
    if ← accept .blockEntry then
      let item ← nodeUnless [.blockEntry, .blockEnd] .block fuel
      prependItem item (← blockItems fuel)
    else
      expect .blockEnd
      return .sequence []

private def indentlessItems : Nat → Build Content
  | 0 => throw .malformed
  | fuel + 1 => do
    if ← accept .blockEntry then
      let item ← nodeUnless [.blockEntry, .key, .value, .blockEnd] .block fuel
      prependItem item (← indentlessItems fuel)
    else return .sequence []

private def blockEntries : Nat → Build Content
  | 0 => throw .malformed
  | fuel + 1 => do
    if ← accept .key then
      let key ← nodeUnless [.key, .value, .blockEnd] .mappingValue fuel
      let value ← if ← accept .value then nodeUnless [.key, .value, .blockEnd] .mappingValue fuel else empty
      prependEntry key value (← blockEntries fuel)
    else
      expect .blockEnd
      return .mapping []

private def flowItems : Nat → Bool → Build Content
  | 0, _ => throw .malformed
  | fuel + 1, first => do
    if ← accept .flowSequenceEnd then return .sequence []
    unless first do expect .flowEntry
    if ← accept .flowSequenceEnd then return .sequence []
    let item ← if ← accept .key then onlyEntry fuel else node .flow fuel
    prependItem item (← flowItems fuel false)

/-- Reads an entry of a mapping that stands for itself in a sequence. -/
private def onlyEntry : Nat → Build Nat
  | 0 => throw .malformed
  | fuel + 1 => do
    let id ← addNode ⟨.mapping, .mapping []⟩
    let key ← nodeUnless [.value, .flowEntry, .flowSequenceEnd] .flow fuel
    let value ← if ← accept .value then nodeUnless [.flowEntry, .flowSequenceEnd] .flow fuel else empty
    fill id (.mapping [(key, value)])
    return id

private def flowEntries : Nat → Bool → Build Content
  | 0, _ => throw .malformed
  | fuel + 1, first => do
    if ← accept .flowMappingEnd then return .mapping []
    unless first do expect .flowEntry
    if ← accept .flowMappingEnd then return .mapping []
    if ← accept .key then
      let key ← nodeUnless [.value, .flowEntry, .flowMappingEnd] .flow fuel
      let value ← if ← accept .value then nodeUnless [.flowEntry, .flowMappingEnd] .flow fuel else empty
      prependEntry key value (← flowEntries fuel false)
    else
      let key ← node .flow fuel
      prependEntry key (← empty) (← flowEntries fuel false)

private def prependItem (item : Nat) : Content → Build Content
  | .sequence items => return .sequence (item :: items)
  | _ => throw .malformed

private def prependEntry (key value : Nat) : Content → Build Content
  | .mapping entries => return .mapping ((key, value) :: entries)
  | _ => throw .malformed

end

/-! ### Documents -/

/-- The handles that need no directive. -/
def standardHandles : Entries String String :=
  [("!", "!"), ("!!", Tag.standardPrefix)]

/-- Reads the directives of a document. -/
private def directives (versioned : Bool) (handles : Entries String String) : Nat → Build Unit
  | 0 => throw .malformed
  | fuel + 1 => do
    match ← peek with
    | some (.directive (.version major)) =>
      if versioned ∨ major ≠ 1 then throw .malformed
      skip
      directives true handles fuel
    | some (.directive (.tag handle expansion)) =>
      if (handles.get? handle).isSome then throw .malformed
      skip
      directives versioned (handles.put handle expansion) fuel
    | some (.directive .other) =>
      skip
      directives versioned handles fuel
    | _ => modify fun b => { b with handles := handles ++ standardHandles }

private def skipEnds : Nat → Build Unit
  | 0 => pure ()
  | fuel + 1 => do if ← accept .documentEnd then skipEnds fuel

/-- Reads the one document of a text. -/
private def document : Build (Option Nat) := do
  let fuel := 8 * (← get).tokens.length + 16
  let isDirective : Token → Bool
    | .directive _ => true
    | _ => false
  match ← peek with
  | none => return none
  | some t =>
    let root ←
      if isDirective t || t = .documentStart then do
        directives false [] fuel
        expect .documentStart
        match ← peek with
        | none => empty
        | some t =>
          if isDirective t || t = .documentStart || t = .documentEnd then empty else node .block fuel
      else node .block fuel
    skipEnds fuel
    if (← peek).isSome then
      -- A second document is too many, but its directives are read to see that it starts.
      directives false [] fuel
      let _ ← peek
      throw .malformed
    return some root

end Build

/-- The document that tokens form. -/
def Graph.ofTokens (tokens : List Token) (ending : Option Error) : Except Error Graph := do
  let (root, b) ← Build.document.run ⟨tokens, ending, #[], [], Build.standardHandles⟩
  return ⟨b.nodes, root⟩

end CrudScaffold.Yaml

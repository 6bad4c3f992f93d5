import CrudScaffold.Text.LineBreak
import CrudScaffold.Value
import CrudScaffold.Yaml.Graph
import CrudScaffold.Yaml.ScalarValue
import CrudScaffold.Yaml.TokenList

/-!
# Documents

A document is a node graph in which merges have been carried out and every node has a meaning. `Document.read` reads
one from a text, or finds out why the text holds none; `Document.value` is its value.
-/

namespace CrudScaffold.Yaml

/-- What a node has turned out to be. -/
inductive Meaning
  | scalar (s : Scalar)
  | collection

structure Document where
  nodes : Array Node
  /-- The meanings of the nodes that have been met. -/
  meanings : Array (Option Meaning)
  /-- The collections that have been met, in order. -/
  collections : Array Nat
  root : Option Nat

/-! ### Resolving a node graph -/

private abbrev Resolve := StateT Document (Except Error)

namespace Resolve

private def node (id : Nat) : Resolve Node := do
  return (← get).nodes[id]?.getD ⟨.null, .scalar []⟩

private def tag (id : Nat) : Resolve Tag := do
  return (← node id).tag

private def changeNode (id : Nat) (change : Node → Node) : Resolve Unit :=
  modify fun d => { d with nodes := d.nodes.modify id change }

private def means (id : Nat) (m : Meaning) : Resolve Unit :=
  modify fun d => { d with meanings := d.meanings.setIfInBounds id (some m) }

/-- The entries of a mapping; other nodes have none. -/
private def entries (id : Nat) : Resolve (List (Nat × Nat)) := do
  match (← node id).content with
  | .mapping entries => return entries
  | _ => return []

private def setEntries (id : Nat) (entries : List (Nat × Nat)) : Resolve Unit :=
  changeNode id fun n => { n with content := .mapping entries }

/-! ### Merges -/

/-- The first entry with a merge key: the node that it takes entries from, and the other entries. -/
private def splitMerge : List (Nat × Nat) → Resolve (Option (Nat × List (Nat × Nat)))
  | [] => return none
  | (key, value) :: rest => do
    if (← tag key) = .merge then return some (value, rest)
    return (← splitMerge rest).map fun p => (p.1, (key, value) :: p.2)

/-- A key for the value of a mapping is a text where it stands among other keys. -/
private def nameDefaultValue (key : Nat) : Resolve Unit := do
  if (← tag key) = .defaultValue then changeNode key fun n => { n with tag := .text }

mutual

/-- Carries out the merges of a mapping: the entries that are taken over come first. The fuel bounds the number of
merge keys, which are used up. -/
private def merge : Nat → Nat → Resolve Unit
  | 0, _ => return
  | fuel + 1, id => do
    match ← splitMerge (← entries id) with
    | none => (← entries id).forM fun e => nameDefaultValue e.1
    | some (source, others) =>
      setEntries id others
      let taken ← mergedEntries fuel source
      merge fuel id
      setEntries id (taken ++ (← entries id))

/-- The entries that a merge key takes over: those of a mapping, or those of several, the last one first. -/
private def mergedEntries : Nat → Nat → Resolve (List (Nat × Nat))
  | 0, _ => return []
  | fuel + 1, source => do
    match (← node source).content with
    | .mapping _ =>
      merge fuel source
      entries source
    | .sequence items =>
      let taken ← items.mapM fun item => do
        match (← node item).content with
        | .mapping _ =>
          merge fuel item
          entries item
        | _ => throw .malformed
      return taken.reverse.flatten
    | .scalar _ => throw .malformed

end

/-! ### Scalars -/

/-- The text of a node for a scalar. A mapping can name the value that stands for it. -/
private def scalarText : Nat → Nat → Resolve (List Text.Symbol)
  | 0, _ => throw .malformed
  | fuel + 1, id => do
    match (← node id).content with
    | .scalar text => return text
    | .sequence _ => throw .malformed
    | .mapping entries =>
      for (key, value) in entries do
        if (← tag key) = .defaultValue then return ← scalarText fuel value
      throw .malformed

private def scalar (id : Nat) : Resolve Scalar := do
  let n ← node id
  let text ← scalarText ((← get).nodes.size + 1) id
  match n.tag, n.content with
  | .timestamp, .mapping _ => throw .timestampOfMapping
  | tag, _ => tag.valueOf text id

/-! ### Nodes -/

/-- Finds out the meaning of a node. The parts of a collection come later. -/
private def visit (id : Nat) : Resolve Unit := do
  if ((← get).meanings[id]?.bind (·)).isSome then return
  if (← tag id).isCollection then
    means id .collection
    modify fun d => { d with collections := d.collections.push id }
  else
    means id (.scalar (← scalar id))

private def visitKey (id : Nat) : Resolve Unit := do
  visit id
  if (← tag id).isCollection then throw .malformed

private def visitPair (id : Nat) : Resolve Unit := do
  match ← entries id with
  | [(key, value)] =>
    visit key
    visit value
  | _ => throw .malformed

/-- Visits the parts of a collection in a document with so many keys. -/
private def visitParts (keys id : Nat) : Resolve Unit := do
  let n ← node id
  match n.tag, n.content with
  | .sequence, .sequence items => items.forM visit
  | .mapping, .mapping _ | .set, .mapping _ =>
    merge (2 * keys + 2) id
    (← entries id).forM fun e => do
      visitKey e.1
      visit e.2
  | .orderedMapping, .sequence items | .pairs, .sequence items => items.forM visitPair
  | _, _ => throw .malformed

/-- Visits the parts of all collections from the given one on, also of those that are met on the way. -/
private def visitCollections (keys : Nat) : Nat → Nat → Resolve Unit
  | 0, _ => return
  | fuel + 1, next => do
    match (← get).collections[next]? with
    | none => return
    | some id =>
      visitParts keys id
      visitCollections keys fuel (next + 1)

end Resolve

/-- The number of keys in the mappings of a graph. -/
def Graph.keyCount (g : Graph) : Nat :=
  g.nodes.foldl (fun n node =>
    match node.content with
    | .mapping entries => n + entries.length
    | _ => n) 0

namespace Document

/-- The document of a node graph. Nodes close to the root are visited first, so that what is wrong with them is
reported. -/
def ofGraph (g : Graph) : Except Error Document :=
  let unresolved : Document := ⟨g.nodes, Array.replicate g.nodes.size none, #[], g.root⟩
  match g.root with
  | none => .ok unresolved
  | some id =>
    let all := Resolve.visit id *> Resolve.visitCollections g.keyCount (g.nodes.size + 1) 0
    (all.run unresolved).map Prod.snd

/-- The characters that a document may hold. -/
def isAllowed (c : Char) : Bool :=
  let n := c.toNat
  n == 0x09 || n == 0x0A || n == 0x0D || (0x20 ≤ n && n ≤ 0x7E) || n == 0x85 || (0xA0 ≤ n && n ≤ 0xFFFD) ||
    0x10000 ≤ n

/-- The document of a text. -/
def read (text : String) : Except Error Document := do
  if !text.toList.all isAllowed then throw .malformed
  let (tokens, ending) := scan (.ofList (Text.withLineFeeds text.toList))
  ofGraph (← Graph.ofTokens tokens ending)

/-! ### Values -/

private def node (d : Document) (id : Nat) : Node :=
  d.nodes[id]?.getD ⟨.null, .scalar []⟩

private def scalar (d : Document) (id : Nat) : Scalar :=
  match d.meanings[id]? with
  | some (some (.scalar s)) => s
  | _ => .null

private def entries (d : Document) (id : Nat) : List (Nat × Nat) :=
  match (d.node id).content with
  | .mapping entries => entries
  | _ => []

private def items (d : Document) (id : Nat) : List Nat :=
  match (d.node id).content with
  | .sequence items => items
  | _ => []

/-- What stands under each key of a mapping: the first place and the last value count. -/
private def keyed (d : Document) (id : Nat) : List (Scalar × Nat) :=
  (d.entries id).foldl (fun es e => Value.putKey (d.scalar e.1) e.2 es) []

/-- A value of which the parts are nodes. -/
inductive Shape
  | scalar (s : Scalar)
  | list (items : List Nat)
  | pairs (entries : List (Nat × Nat))
  | set (members : List Scalar)
  | mapping (entries : List (Scalar × Nat))

def shape (d : Document) (id : Nat) : Shape :=
  match (d.node id).tag with
  | .sequence => .list (d.items id)
  | .mapping => .mapping (d.keyed id)
  | .set => .set ((d.keyed id).map Prod.fst)
  | .orderedMapping | .pairs => .pairs ((d.items id).flatMap d.entries)
  | _ => .scalar (d.scalar id)

/-- The value of a shape, given those of its parts. -/
def Shape.value (part : Nat → Value) : Shape → Value
  | scalar s => .scalar s
  | list items => .list (items.map part)
  | pairs entries => .list (entries.map fun e => .pair (part e.1) (part e.2))
  | set members => .set members
  | mapping entries => .mapping (entries.map fun e => (e.1, part e.2))

/-- The values of all nodes, with their parts down to a depth; what is further down counts as null. A node has one
value wherever it occurs. -/
def values (shapes : Array Shape) : Nat → Array Value
  | 0 => #[]
  | depth + 1 =>
    let parts := values shapes depth
    shapes.map (Shape.value fun part => parts[part]?.getD .null)

/-- The value of the document. A document can be a part of itself, so that its value is read to a depth only. -/
def value (d : Document) (depth : Nat) : Value :=
  match d.root with
  | some id => (values (Array.ofFn fun id : Fin d.nodes.size => d.shape id) depth)[id]?.getD .null
  | none => .null

end Document

end CrudScaffold.Yaml

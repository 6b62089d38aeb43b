import ScopeSearch.Yaml.Node
import ScopeSearch.Yaml.ScalarValue

/-!
# The values of YAML documents

The nodes of a document become values level by level: a collection is begun where it stands, and its
parts follow when everything around it has been begun.  A node becomes one value, however many
aliases stand for it.  Of two faults the one that is met first in this order counts.

A mapping may take over the entries of others by merging; its own entries come after them and win.
Merging changes a mapping for good, also where another node merges it later.  The key of an entry
has to be a value that can be compared, and of entries with the same key the last one counts, in the
place of the first.

Last the values are put together, those of nodes that were completed first being first.  Where a
collection holds itself, this is done again and again, and each time one more level of it is
unrolled.
-/

set_option autoImplicit false

namespace ScopeSearch.Yaml

namespace Node

/-- The tag of a node. -/
def tag : Node → Tag
  | scalar t _ => t
  | sequence t _ => t
  | mapping t _ => t

/-- A node with another tag. -/
def withTag (t : Tag) : Node → Node
  | scalar _ s => scalar t s
  | sequence _ items => sequence t items
  | mapping _ entries => mapping t entries

/-- The entries of a mapping. -/
def entries : Node → List (Nat × Nat)
  | mapping _ entries => entries
  | _ => []

/-- A mapping with other entries. -/
def withEntries (entries : List (Nat × Nat)) : Node → Node
  | mapping t _ => mapping t entries
  | n => n

end Node

/-- The nodes with a tag have a value with parts, or a value that no other is equal to. -/
def Tag.isCollection (t : Tag) : Bool :=
  t == .sequence || t == .mapping || t == .set || t == .orderedPairs || t == .pairs

/-- The nodes with a tag have a value that a text is read for. -/
def Tag.isScalar (t : Tag) : Bool :=
  !t.isCollection && t != .merge && t != .default && t != .unknown

/-- The key of an entry: a value, and the node that it comes from.  The value that is not a number
and is written with a point comes from no node. -/
structure Key where
  value : Value
  origin : Option Nat

/-- Two keys are the same: their values are, or it is one value that is not a number. -/
def Key.same (a b : Key) : Bool :=
  match a.value, b.value with
  | .float .nan, .float .nan => a.origin == b.origin
  | v, w => v == w

instance : BEq Key := ⟨Key.same⟩

/-- What a node has become; the parts of collections are given by number. -/
inductive Content where
  | plain (v : Value)
  | list (items : List Nat)
  | pairs (items : List (Nat × Nat))
  | map (entries : List (Value × Nat))
  | set (items : List Value)

/-- The state of the making of values: the nodes, what has become of them, and the collections that
have been begun and have no parts yet, the last first. -/
structure Builder where
  nodes : Array Node
  contents : Array (Option Content)
  begun : List Nat := []

namespace Builder

/-- A node by number. -/
def node (b : Builder) (n : Nat) : Node :=
  b.nodes.getD n .missing

/-- The tag of a node. -/
def tag (b : Builder) (n : Nat) : Tag :=
  (b.node n).tag

/-- The entries of a mapping. -/
def entries (b : Builder) (n : Nat) : List (Nat × Nat) :=
  (b.node n).entries

/-- What a node has become, if anything. -/
def content? (b : Builder) (n : Nat) : Option Content :=
  b.contents.getD n none

/-- Another node in place of one. -/
def withNode (b : Builder) (n : Nat) (node : Node) : Builder :=
  { b with nodes := b.nodes.setIfInBounds n node }

/-- Other entries for a mapping. -/
def withEntries (b : Builder) (n : Nat) (entries : List (Nat × Nat)) : Builder :=
  b.withNode n ((b.node n).withEntries entries)

/-- Settles what a node has become. -/
def withContent (b : Builder) (n : Nat) (c : Content) : Builder :=
  { b with contents := b.contents.setIfInBounds n (some c) }

/-! ## Scalars -/

/-- The text of a node that is read as a scalar: that of a mapping is the text under the indicator
for a default value. -/
def scalarText (b : Builder) : Nat → Nat → Read String
  | 0, _ => .error .tooDeep
  | depth + 1, n =>
    match b.node n with
    | .scalar _ s => .ok s
    | .sequence _ _ => .error .malformed
    | .mapping _ entries =>
      match entries.find? fun e => b.tag e.1 == .default with
      | some (_, v) => b.scalarText depth v
      | none => .error .malformed

/-- A moment is read from the text of a scalar only. -/
def refuseMomentMapping : Node → Read Unit
  | .mapping .timestamp _ => .error .momentMapping
  | _ => .ok ()

/-- The text of a node; a chain of default values without an end has none. -/
def text (b : Builder) (n : Nat) : Read String :=
  b.scalarText (b.nodes.size + 1) n

/-- The value of a node whose tag is that of a scalar. -/
def scalar (b : Builder) (n : Nat) : Read Value := do
  unless (b.tag n).isScalar do throw .malformed
  let text ← b.text n
  refuseMomentMapping (b.node n)
  scalarValue (b.tag n) text

/-! ## Merging -/

/-- The first of some entries whose key is the indicator for merging: its value, and the others. -/
def splitMerge (b : Builder) : List (Nat × Nat) → Option (Nat × List (Nat × Nat))
  | [] => none
  | (k, v) :: rest =>
    if b.tag k = .merge then some (v, rest)
    else (b.splitMerge rest).map fun (found, others) => (found, (k, v) :: others)

/-- The keys that are the indicator for a default value are ordinary texts in a mapping. -/
def withTextKeys (b : Builder) (entries : List (Nat × Nat)) : Builder :=
  entries.foldl (fun b e =>
    if b.tag e.1 = .default then b.withNode e.1 ((b.node e.1).withTag .text) else b) b

mutual

/-- Puts the entries that a mapping takes over in front of its own.  Every level removes an
indicator for merging, so their number bounds the depth. -/
def flatten : Nat → Nat → Builder → Read Builder
  | 0, _, _ => .error .malformed
  | depth + 1, n, b =>
    match b.splitMerge (b.entries n) with
    | none => .ok (b.withTextKeys (b.entries n))
    | some (source, others) => do
      let (taken, b) ← take depth source (b.withEntries n others)
      let b ← flatten depth n b
      return b.withEntries n (taken ++ b.entries n)

/-- The entries of a mapping, or of the mappings of a sequence, the last of which comes first. -/
def take : Nat → Nat → Builder → Read (List (Nat × Nat) × Builder)
  | 0, _, _ => .error .malformed
  | depth + 1, source, b =>
    match b.node source with
    | .scalar _ _ => .error .malformed
    | .mapping _ _ => do
      let b ← flatten depth source b
      return (b.entries source, b)
    | .sequence _ items => takeAll depth items b

/-- The entries of mappings, those of the last one first. -/
def takeAll : Nat → List Nat → Builder → Read (List (Nat × Nat) × Builder)
  | _, [], b => .ok ([], b)
  | 0, _, _ => .error .malformed
  | depth + 1, n :: rest, b =>
    match b.node n with
    | .mapping _ _ => do
      let b ← flatten depth n b
      let taken := b.entries n
      let (others, b) ← takeAll depth rest b
      return (others ++ taken, b)
    | _ => .error .malformed

end

/-- A bound for the depth of merging: the nodes and the parts of all collections together. -/
def mergeDepth (b : Builder) : Nat :=
  b.nodes.foldl (fun n node => n + 3 + match node with
    | .scalar _ _ => 0
    | .sequence _ items => items.length
    | .mapping _ entries => entries.length) 3

/-! ## Level by level -/

/-- Begins the value of a node: a collection is without parts at first. -/
def begin (b : Builder) (n : Nat) : Read Builder :=
  if (b.content? n).isSome then .ok b
  else if (b.tag n).isCollection then .ok { b.withContent n (.list []) with begun := n :: b.begun }
  else do return b.withContent n (.plain (← b.scalar n))

/-- The key that a node is, unless it cannot be one. -/
def key (b : Builder) (n : Nat) : Read Key :=
  match b.content? n with
  | some (.plain v) =>
    let isPointed := b.tag n = .float ∧ (b.text n).toOption.any isPointedNan
    .ok { value := v, origin := if isPointed then none else some n }
  | _ => .error .malformed

/-- Begins the values of entries. -/
def beginEntries (b : Builder) : List (Nat × Nat) → Read (List (Key × Nat) × Builder)
  | [] => .ok ([], b)
  | (k, v) :: rest => do
    let b ← b.begin k
    let key ← b.key k
    let b ← b.begin v
    let (others, b) ← b.beginEntries rest
    return ((key, v) :: others, b)

/-- Begins the values of single entries, each in a mapping of its own. -/
def beginPairs (b : Builder) : List Nat → Read (List (Nat × Nat) × Builder)
  | [] => .ok ([], b)
  | n :: rest =>
    match b.node n with
    | .mapping _ [(k, v)] => do
      let b ← b.begin k
      let b ← b.begin v
      let (others, b) ← b.beginPairs rest
      return ((k, v) :: others, b)
    | _ => .error .malformed

/-- The entries of a mapping, the last of a key, in the place of the first. -/
def mapping (b : Builder) (n : Nat) : Read (List (Key × Nat) × Builder) := do
  let b ← flatten b.mergeDepth n b
  let (entries, b) ← b.beginEntries (b.entries n)
  return (KeyedList.ofPairs entries, b)

/-- Gives a collection its parts. -/
def fill (b : Builder) (n : Nat) : Read Builder :=
  match b.node n with
  | .sequence .sequence items => do
    return (← items.foldlM begin b).withContent n (.list items)
  | .sequence .orderedPairs items => do
    let (pairs, b) ← b.beginPairs items
    return b.withContent n (.pairs pairs)
  | .sequence .pairs items => do
    let (pairs, b) ← b.beginPairs items
    return b.withContent n (.pairs pairs)
  | .mapping .mapping _ => do
    let (entries, b) ← b.mapping n
    return b.withContent n (.map (entries.map fun e => (e.1.value, e.2)))
  | .mapping .set _ => do
    let (entries, b) ← b.mapping n
    return b.withContent n (.set (entries.map fun e => e.1.value))
  | _ => .error .malformed

/-- Gives the collections that have been begun their parts, and those begun by that, until none is
left; every node is begun once, so the number of nodes bounds the number of levels. -/
def fillLevels : Nat → Builder → Read Builder
  | 0, b => .ok b
  | levels + 1, b =>
    if b.begun.isEmpty then .ok b
    else do fillLevels levels (← b.begun.reverse.foldlM fill { b with begun := [] })

/-- What the nodes of a document become. -/
def ofDocument (d : Document) : Read Builder := do
  let b : Builder := { nodes := d.nodes, contents := d.nodes.map fun _ => none }
  fillLevels (d.nodes.size + 1) (← b.begin d.root)

end Builder

/-! ## Putting values together -/

namespace Content

/-- The numbers of the parts of a value. -/
def parts : Content → List Nat
  | plain _ => []
  | list items => items
  | pairs items => items.flatMap fun p => [p.1, p.2]
  | map entries => entries.map Prod.snd
  | set _ => []

/-- The value of a node, the values of its parts being known; `mark` marks the collections that
belong to it. -/
def assemble (mark : Nat → Value → Value) (value : Nat → Value) : Content → Value
  | plain v => v
  | list items => mark 0 (.list (items.map value))
  | pairs items =>
    mark 0 (.list ((items.zipIdx 1).map fun (p, i) => mark i (.tuple [value p.1, value p.2])))
  | map entries => mark 0 (.map (entries.map fun e => (e.1, value e.2)))
  | set items => .set items

end Content

/-- The values of nodes by number. -/
abbrev Values := Array Value

/-- The number of levels that are looked at: the file, its resources, a description, its fields,
groups of scopes, their entries, and one more. -/
def levelsLookedAt : Nat := 8

namespace Builder

/-- The number of parts of collections that are not put together before the collection; where none
is, no collection holds itself. -/
def selfReferences (b : Builder) (completed : List Nat) : Nat :=
  (completed.foldl (fun (seen, count) n =>
    let parts := ((b.content? n).map Content.parts).getD []
    let missing := parts.filter fun p => !seen.getD p false
    (seen.setIfInBounds n true, count + missing.length))
    (b.nodes.map fun _ => false, 0)).2

/-- Puts the values together once, in order. -/
def assembleOnce (b : Builder) (completed : List Nat) (isCyclic : Bool) (values : Values) :
    Values :=
  completed.foldl (fun values n =>
    match b.content? n with
    | none => values
    | some c =>
      let mark := fun part v => if isCyclic then Value.marked (n, part) v else v
      values.setIfInBounds n (c.assemble mark fun p => values.getD p .null)) values

/-- The value of a node, the values being put together a number of times. -/
def assembled (b : Builder) (completed : List Nat) (root : Nat) : Value :=
  let references := b.selfReferences completed
  let isCyclic := references != 0
  let rounds := if isCyclic then references + levelsLookedAt else 1
  let values := rounds.repeat (b.assembleOnce completed isCyclic) (b.nodes.map fun _ => .null)
  values.getD root .null

end Builder

/-- The value of a document, whose texts are made of characters. -/
def Document.value (d : Document) : Read Value := do
  return (← Builder.ofDocument d).assembled d.completed d.root

/-- What becomes of a document with half of a pair of surrogates in it.  One that is not YAML is
malformed as any other, and of the texts of one that is at least one is no text here. -/
def Document.refusal (d : Document) : ReadError :=
  match d.value with
  | .error .malformed => .malformed
  | _ => .surrogate

/-- The value of a text, null if it holds no document. -/
def valueOfText (s : String) : Read Value := do
  match ← Document.ofText s with
  | none => return .null
  | some d => if d.metSurrogate then throw d.refusal else d.value

end ScopeSearch.Yaml

import ScopeSearch.KeyedList
import ScopeSearch.Yaml.Tag
import ScopeSearch.Yaml.Token.Lexer

/-!
# YAML nodes

A document consists of scalars, sequences and mappings, each with a tag.  They are numbered in the
order in which they begin, and collections refer to their parts by number.  A node may have a name,
and an alias stands for the node with its name, which may still be incomplete, so a collection may
hold itself.  The parts of collections may be missing and then are empty scalars.
-/

set_option autoImplicit false

namespace ScopeSearch.Yaml

/-- A part of a document; collections refer to other parts by number. -/
inductive Node where
  | scalar (tag : Tag) (text : String)
  | sequence (tag : Tag) (items : List Nat)
  | mapping (tag : Tag) (entries : List (Nat × Nat))

/-- A node that is not written. -/
def Node.missing : Node :=
  .scalar .null ""

instance : Inhabited Node := ⟨.missing⟩

/-- The nodes of a document, the numbers of the nodes in the order in which they were completed, the
number of the outermost node, and whether an escape in it names half of a pair of surrogates. -/
structure Document where
  nodes : Array Node
  completed : List Nat
  root : Nat
  metSurrogate : Bool

/-- The state of the reading of nodes: the tokens that are left, the spaces of tags by handle, the
nodes that have begun, those that are complete, the last first, the numbers of nodes by name, and
the number of collections around the next node. -/
structure NodeReader where
  tokens : TokenList
  spaces : KeyedList String String
  nodes : Array Node := #[]
  completed : List Nat := []
  named : KeyedList String Nat := []
  depth : Nat := 0

/-- The tag and the name in front of a node. -/
structure Properties where
  name : Option String := none
  tag : Option TagMark := none

namespace NodeReader

/-- The greatest number of collections around a node. -/
def greatestDepth : Nat := 485

/-- The next token, none at the end. -/
def peek (r : NodeReader) : Read (Option Token) :=
  match r.tokens.known, r.tokens.fault with
  | t :: _, _ => .ok (some t)
  | [], some e => .error e
  | [], none => .ok none

/-- The next token is one of a list. -/
def sees (r : NodeReader) (expected : List Token) : Read Bool :=
  r.peek.map fun t => t.any expected.contains

/-- The state behind the next token. -/
def advance (r : NodeReader) : NodeReader :=
  { r with tokens := { r.tokens with known := r.tokens.known.drop 1 } }

/-- The state behind the next token, which has to be a given one. -/
def expect (r : NodeReader) (t : Token) : Read NodeReader := do
  if ← r.sees [t] then return r.advance else throw .malformed

/-- The name of the next node, if it stands here. -/
def anchorName (r : NodeReader) : Read (Option String × NodeReader) := do
  match ← r.peek with
  | some (.anchor name) => return (some name, r.advance)
  | _ => return (none, r)

/-- The tag of the next node, if it stands here. -/
def tagMark (r : NodeReader) : Read (Option TagMark × NodeReader) := do
  match ← r.peek with
  | some (.tag mark) => return (some mark, r.advance)
  | _ => return (none, r)

/-- The properties of the next node, in either order. -/
def properties (r : NodeReader) : Read (Properties × NodeReader) := do
  let (name, r) ← r.anchorName
  let (tag, r) ← r.tagMark
  if name.isSome || tag.isNone then return ({ name, tag }, r)
  let (name, r) ← r.anchorName
  return ({ name, tag }, r)

/-- The full name of a tag. -/
def tagName (r : NodeReader) (mark : TagMark) : Read String :=
  match mark.handle with
  | none => .ok mark.suffix
  | some handle =>
    match r.spaces.find? handle with
    | some space => .ok (space ++ mark.suffix)
    | none => .error .malformed

/-- The tag of a node, none when its kind or its text decides. -/
def explicitTag (r : NodeReader) (p : Properties) : Read (Option Tag) :=
  match p.tag with
  | none => .ok none
  | some mark => do
    let name ← r.tagName mark
    return if name = "!" then none else some (Tag.ofName name)

/-- The tag of a scalar: quotes make it text unless it carries a mark. -/
def scalarTag (explicit : Option Tag) (p : Properties) (text : String) (isPlain : Bool) : Tag :=
  explicit.getD (if isPlain || p.tag.isSome then Tag.ofText text else .text)

/-- The number of the node that an alias stands for. -/
def aliased (r : NodeReader) (name : String) : Read Nat :=
  match r.named.find? name with
  | some number => .ok number
  | none => .error .malformed

/-- Begins a node, which may have a name that no other node has. -/
def begin (r : NodeReader) (p : Properties) (node : Node) : Read (Nat × NodeReader) :=
  let number := r.nodes.size
  let begun := { r with nodes := r.nodes.push node }
  match p.name with
  | none => .ok (number, begun)
  | some name =>
    if r.named.has name then .error .malformed
    else .ok (number, { begun with named := r.named.put name number })

/-- Begins a collection: its parts are one level deeper. -/
def beginCollection (r : NodeReader) (p : Properties) (node : Node) :
    Read (Nat × NodeReader) := do
  let (number, r) ← r.begin p node
  return (number, { r with depth := r.depth + 1 })

/-- Completes a node. -/
def complete (r : NodeReader) (number : Nat) (node : Node) : NodeReader :=
  { r with nodes := r.nodes.setIfInBounds number node, completed := number :: r.completed }

/-- Completes a collection. -/
def completeCollection (r : NodeReader) (number : Nat) (node : Node) : NodeReader :=
  { r.complete number node with depth := r.depth - 1 }

/-- A node without parts. -/
def leaf (r : NodeReader) (p : Properties) (node : Node) : Read (Nat × NodeReader) := do
  let (number, r) ← r.begin p node
  return (number, r.complete number node)

/-- A node that is not written. -/
def missing (r : NodeReader) : Read (Nat × NodeReader) :=
  r.leaf {} .missing

mutual

/-- The next node.  Block collections begin only where `inBlock` holds, and a sequence without
indentation of its own only where `isEntry` holds. -/
def node : Nat → Bool → Bool → NodeReader → Read (Nat × NodeReader)
  | 0, _, _, _ => .error .malformed
  | fuel + 1, inBlock, isEntry, r => do
    if greatestDepth < r.depth then throw .tooDeep
    match ← r.peek with
    | some (.alias name) => return (← r.aliased name, r.advance)
    | _ =>
      let (p, r) ← r.properties
      let tag ← r.explicitTag p
      content fuel inBlock isEntry p tag r

/-- The next node behind its properties. -/
def content : Nat → Bool → Bool → Properties → Option Tag → NodeReader →
    Read (Nat × NodeReader)
  | 0, _, _, _, _, _ => .error .malformed
  | fuel + 1, inBlock, isEntry, p, tag, r => do
    let sequenceOf := fun items => Node.sequence (tag.getD .sequence) items
    let mappingOf := fun entries => Node.mapping (tag.getD .mapping) entries
    let opened := r.advance
    match ← r.peek with
    | some (.scalar text isPlain) =>
      opened.leaf p (.scalar (scalarTag tag p text isPlain) text)
    | some .flowSequenceStart =>
      let (number, r) ← opened.beginCollection p (sequenceOf [])
      let (items, r) ← flowItems fuel true r
      return (number, r.completeCollection number (sequenceOf items))
    | some .flowMappingStart =>
      let (number, r) ← opened.beginCollection p (mappingOf [])
      let (entries, r) ← flowEntries fuel true r
      return (number, r.completeCollection number (mappingOf entries))
    | t =>
      if t = some .blockEntry ∧ isEntry then
        let (number, r) ← r.beginCollection p (sequenceOf [])
        let (items, r) ← blockItems fuel false r
        return (number, r.completeCollection number (sequenceOf items))
      else if t = some .blockSequenceStart ∧ inBlock then
        let (number, r) ← opened.beginCollection p (sequenceOf [])
        let (items, r) ← blockItems fuel true r
        return (number, r.completeCollection number (sequenceOf items))
      else if t = some .blockMappingStart ∧ inBlock then
        let (number, r) ← opened.beginCollection p (mappingOf [])
        let (entries, r) ← blockEntries fuel r
        return (number, r.completeCollection number (mappingOf entries))
      else if p.name.isSome || p.tag.isSome then r.leaf p (.scalar (tag.getD .null) "")
      else throw .malformed

/-- The elements of a block sequence.  One that is not `indented` ends in front of the next entry
of the mapping that holds it. -/
def blockItems : Nat → Bool → NodeReader → Read (List Nat × NodeReader)
  | 0, _, _ => .error .malformed
  | fuel + 1, indented, r => do
    if ← r.sees [.blockEntry] then
      let after : List Token :=
        if indented then [.blockEntry, .blockEnd] else [.blockEntry, .key, .value, .blockEnd]
      let (item, r) ← optionalNode fuel true false after r.advance
      let (items, r) ← blockItems fuel indented r
      return (item :: items, r)
    else if indented then return ([], ← r.expect .blockEnd)
    else return ([], r)

/-- The entries of a block mapping. -/
def blockEntries : Nat → NodeReader → Read (List (Nat × Nat) × NodeReader)
  | 0, _ => .error .malformed
  | fuel + 1, r => do
    if ← r.sees [.key] then
      let after : List Token := [.key, .value, .blockEnd]
      let (key, r) ← optionalNode fuel true true after r.advance
      let (value, r) ← optionalValue fuel true after r
      let (entries, r) ← blockEntries fuel r
      return ((key, value) :: entries, r)
    else return ([], ← r.expect .blockEnd)

/-- The elements of a flow sequence; a key makes an element a mapping with one entry. -/
def flowItems : Nat → Bool → NodeReader → Read (List Nat × NodeReader)
  | 0, _, _ => .error .malformed
  | fuel + 1, isFirst, r => do
    if ← r.sees [.flowSequenceEnd] then return ([], r.advance)
    let r ← if isFirst then pure r else r.expect .flowEntry
    if ← r.sees [.key] then
      if greatestDepth < r.depth then throw .tooDeep
      let after : List Token := [.flowEntry, .flowSequenceEnd]
      let (number, r) ← r.advance.beginCollection {} (.mapping .mapping [])
      let (key, r) ← optionalNode fuel false false (.value :: after) r
      let (value, r) ← optionalValue fuel false after r
      let r := r.completeCollection number (.mapping .mapping [(key, value)])
      let (items, r) ← flowItems fuel false r
      return (number :: items, r)
    else if ← r.sees [.flowSequenceEnd] then return ([], r.advance)
    else
      let (item, r) ← node fuel false false r
      let (items, r) ← flowItems fuel false r
      return (item :: items, r)

/-- The entries of a flow mapping; a node without an indicator is a key without a value. -/
def flowEntries : Nat → Bool → NodeReader → Read (List (Nat × Nat) × NodeReader)
  | 0, _, _ => .error .malformed
  | fuel + 1, isFirst, r => do
    if ← r.sees [.flowMappingEnd] then return ([], r.advance)
    let r ← if isFirst then pure r else r.expect .flowEntry
    if ← r.sees [.key] then
      let after : List Token := [.flowEntry, .flowMappingEnd]
      let (key, r) ← optionalNode fuel false false (.value :: after) r.advance
      let (value, r) ← optionalValue fuel false after r
      let (entries, r) ← flowEntries fuel false r
      return ((key, value) :: entries, r)
    else if ← r.sees [.flowMappingEnd] then return ([], r.advance)
    else
      let (key, r) ← node fuel false false r
      let (value, r) ← r.missing
      let (entries, r) ← flowEntries fuel false r
      return ((key, value) :: entries, r)

/-- The value of an entry, if an indicator announces one. -/
def optionalValue : Nat → Bool → List Token → NodeReader → Read (Nat × NodeReader)
  | 0, _, _, _ => .error .malformed
  | fuel + 1, inBlock, after, r => do
    if ← r.sees [.value] then optionalNode fuel inBlock inBlock after r.advance
    else r.missing

/-- The next node, unless a token follows that cannot begin one here. -/
def optionalNode : Nat → Bool → Bool → List Token → NodeReader → Read (Nat × NodeReader)
  | 0, _, _, _, _ => .error .malformed
  | fuel + 1, inBlock, isEntry, after, r => do
    if ← r.sees after then r.missing
    else node fuel inBlock isEntry r

end

/-- The directives in front of a document: at most one version, which is a first one, and at most
one space for each handle.  They stay until the document begins. -/
def directives (version : Bool) (spaces : KeyedList String String) :
    List Token → Read (KeyedList String String × List Token)
  | .directive (.version major _) :: rest =>
    if version || major ≠ 1 then .error .malformed else directives true spaces rest
  | .directive (.tagSpace handle space) :: rest =>
    if spaces.has handle then .error .malformed
    else directives version (spaces.put handle space) rest
  | .directive (.other _) :: rest => directives version spaces rest
  | tokens => .ok (spaces, tokens)

/-- The spaces that handles stand for where a document does not say otherwise. -/
def standardSpaces : KeyedList String String :=
  [("!", "!"), ("!!", tagSpace)]

/-- The spaces of handles in a document: its own, and the standard ones for other handles. -/
def withStandardSpaces (spaces : KeyedList String String) : KeyedList String String :=
  spaces ++ standardSpaces

/-- The state behind the directives and the mark that announce a document. -/
def announced (r : NodeReader) : Read NodeReader := do
  let (spaces, known) ← directives false [] r.tokens.known
  let tokens := { r.tokens with known }
  { r with tokens, spaces := withStandardSpaces spaces }.expect .documentStart

/-- The content of an announced document is missing. -/
def lacksContent (r : NodeReader) : Read Bool :=
  r.peek.map fun
    | none => true
    | some (.directive _) => true
    | some t => t == .documentStart || t == .documentEnd

/-- The state behind marks of the end of a document. -/
def skipDocumentEnds (r : NodeReader) : NodeReader :=
  { r with tokens := { r.tokens with known := r.tokens.known.dropWhile (· == .documentEnd) } }

/-- Nothing follows a document but marks of its end; a second document is announced in vain. -/
def finish (r : NodeReader) : Read Unit := do
  let r := r.skipDocumentEnds
  if (← r.peek).isSome then
    let _ ← r.announced
    throw .malformed

/-- The number of the outermost node.  No more than five steps go by without taking a token, so the
number of tokens bounds the number of steps. -/
def outermost (r : NodeReader) : Read (Nat × NodeReader) := do
  let steps := 5 * r.tokens.known.length + 16
  match ← r.peek with
  | some (.directive _) | some .documentStart =>
    let r ← r.announced
    if ← r.lacksContent then r.missing else node steps true false r
  | _ => node steps true false r

/-- The only document of the tokens, if there is one. -/
def document (tokens : TokenList) : Read (Option Document) := do
  let r : NodeReader := { tokens, spaces := standardSpaces }
  if (← r.peek).isNone then return none
  let (root, r) ← r.outermost
  r.finish
  return some
    { nodes := r.nodes, completed := r.completed.reverse, root,
      metSurrogate := tokens.metSurrogate }

end NodeReader

/-- The only document of a text, if there is one. -/
def Document.ofText (s : String) : Read (Option Document) :=
  NodeReader.document (.ofText s)

end ScopeSearch.Yaml

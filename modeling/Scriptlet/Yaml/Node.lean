import Scriptlet.Yaml.Lexeme
import Scriptlet.Yaml.Tag

/-!
# Scriptlet.Yaml.Node — the tree that a document denotes

Readers of nodes take lexemes one by one.  They are bounded by a number; four times the number of
lexemes is enough, as no lexeme is passed by more than four readers.

A node with an anchor can be referred to from then on, also from inside of itself.  So a reference
holds the number of the anchor, and the document keeps the nodes by these numbers.
-/

namespace Scriptlet.Yaml

/-- A node: its line, its tag and its content. -/
inductive Node where
  | scalar (line : Nat) (tag : Text) (text : List Char)
  | sequence (line : Nat) (tag : Text) (items : List Node)
  | mapping (line : Nat) (tag : Text) (entries : List (Node × Node))
  /-- A reference to the node with an anchor: the name and the number of the anchor. -/
  | reference (line : Nat) (name : Text) (anchor : Nat)

namespace Node

def line : Node → Nat
  | scalar line _ _ => line
  | sequence line _ _ => line
  | mapping line _ _ => line
  | reference line _ _ => line

/-- The tag; a reference has none. -/
def tag : Node → Text
  | scalar _ tag _ => tag
  | sequence _ tag _ => tag
  | mapping _ tag _ => tag
  | reference _ _ _ => []

/-- The text of a scalar and the name in a reference; a collection has none. -/
def text : Node → Text
  | scalar _ _ text => Text.ofChars text
  | reference _ name _ => name
  | _ => []

/-- A scalar that is not written at all. -/
def empty (line : Nat) : Node := scalar line Tag.null.name []

end Node

/-- The root of a document and the nodes with anchors. -/
structure Document where
  root : Node
  anchored : List (Nat × Node)
  /-- No path from the root has more nodes than this unless it has one of them twice. -/
  size : Nat

/-- The state of the reading of a document. -/
structure Reading where
  lexemes : List Lexeme
  /-- What the handles of tags stand for. -/
  handles : List (Text × Text)
  /-- The anchors so far with their numbers, the last one first. -/
  anchors : List (Text × Nat)
  anchored : List (Nat × Node)

/-- What reads some of the lexemes. -/
abbrev Reader := StateT Reading (Except Malformed)

namespace Reader

/-- The current lexeme. -/
def peek : Reader Lexeme := do
  match (← get).lexemes with
  | [] => throw ⟨⟩
  | l :: _ => return l

/-- Pass over the current lexeme. -/
def skip : Reader Unit := modify fun r => { r with lexemes := r.lexemes.tail }

/-- Whether the current lexeme is one of the kinds listed. -/
def follows (kinds : List Kind) : Reader Bool := do
  return kinds.contains (← peek).kind

/-- Pass over the current lexeme if it is of the given kind. -/
def skipIf (kind : Kind) : Reader Bool := do
  if (← peek).kind = kind then
    skip
    return true
  else return false

/-! ### Properties -/

/-- The name of a tag, in short for the standard ones. -/
def tagName (written : WrittenTag) : Reader Text := do
  if written.handle = [] then return Tag.short written.suffix
  match (← get).handles.lookup written.handle with
  | some stem => return Tag.short (stem ++ written.suffix)
  | none => throw ⟨⟩

/-- What is written in front of the content of a node. -/
structure Properties where
  anchor : Option Text
  tag : Option Text

/-- The tag at the current place, if there is one. -/
def tag? : Reader (Option Text) := do
  match (← peek).kind with
  | .tag written =>
    skip
    return some (← tagName written)
  | _ => return none

/-- The anchor at the current place, if there is one. -/
def anchor? : Reader (Option Text) := do
  match (← peek).kind with
  | .anchor name =>
    skip
    return some name
  | _ => return none

/-- An anchor and a tag in either order. -/
def properties : Reader Properties := do
  match ← anchor? with
  | some name => return ⟨some name, ← tag?⟩
  | none =>
    match ← tag? with
    | some name => return ⟨← anchor?, some name⟩
    | none => return ⟨none, none⟩

/-- The number for a new anchor, which can be referred to from now on. -/
def register (name : Text) : Reader Nat := do
  let r ← get
  let number := r.anchors.length
  set { r with anchors := (name, number) :: r.anchors }
  return number

/-- Keep the node of an anchor. -/
def keep (number : Nat) (n : Node) : Reader Unit :=
  modify fun r => { r with anchored := (number, n) :: r.anchored }

/-- The tag of a node: the written one, unless it is the empty tag, and else the given one. -/
def tagOr (standard : Text) (written : Option Text) : Text :=
  match written with
  | some name => if name = utf8 "!" then standard else name
  | none => standard

/-! ### Nodes -/

mutual

/-- A node.  `block` says whether it may be a structure made by indentation, and `indentless`
whether it may be a sequence whose marks stand in the column of the key above. -/
def node (block indentless : Bool) : Nat → Reader Node
  | 0 => throw ⟨⟩
  | n + 1 => do
    let l ← peek
    match l.kind with
    | .reference name =>
      skip
      match (← get).anchors.lookup name with
      | some number => return .reference l.line name number
      | none => throw ⟨⟩
    | _ =>
      let p ← properties
      match p.anchor with
      | none => content block indentless n p l.line
      | some name =>
        let number ← register name
        let node ← content block indentless n p l.line
        keep number node
        return node

/-- The content of a node after its properties. -/
def content (block indentless : Bool) : Nat → Properties → (line : Nat) → Reader Node
  | 0, _, _ => throw ⟨⟩
  | n + 1, p, line => do
    let seqTag := tagOr Tag.sequence p.tag
    let mapTag := tagOr Tag.mapping p.tag
    match (← peek).kind with
    | .scalar text quoted =>
      skip
      let looks := if quoted then Tag.str else Tag.ofPlain text
      return .scalar line (tagOr looks.name p.tag) text
    | .flowSequenceStart =>
      skip
      return .sequence line seqTag (← flowItems n true)
    | .flowMappingStart =>
      skip
      return .mapping line mapTag (← flowEntries n true)
    | kind =>
      if indentless ∧ kind = .blockEntry then return .sequence line seqTag (← indentlessItems n)
      else if block ∧ kind = .blockSequenceStart then
        skip
        return .sequence line seqTag (← blockItems n)
      else if block ∧ kind = .blockMappingStart then
        skip
        return .mapping line mapTag (← blockEntries n)
      else if p.anchor.isSome || p.tag.isSome then
        return .scalar line (tagOr Tag.null.name p.tag) []
      else throw ⟨⟩

/-- A node, or an empty scalar if one of the listed kinds follows. -/
def nodeUnless (kinds : List Kind) (block indentless : Bool) : Nat → (line : Nat) → Reader Node
  | 0, _ => throw ⟨⟩
  | n + 1, line => do
    if ← follows kinds then return .empty line else node block indentless n

/-- The items of a sequence made by indentation. -/
def blockItems : Nat → Reader (List Node)
  | 0 => throw ⟨⟩
  | n + 1 => do
    let l ← peek
    skip
    match l.kind with
    | .blockEnd => return []
    | .blockEntry =>
      let item ← nodeUnless [.blockEntry, .blockEnd] true false n l.line
      return item :: (← blockItems n)
    | _ => throw ⟨⟩

/-- The items of a sequence in the column of the key above. -/
def indentlessItems : Nat → Reader (List Node)
  | 0 => throw ⟨⟩
  | n + 1 => do
    let l ← peek
    if ← skipIf .blockEntry then
      let item ← nodeUnless [.blockEntry, .key, .value, .blockEnd] true false n l.line
      return item :: (← indentlessItems n)
    else return []

/-- The entries of a mapping made by indentation. -/
def blockEntries : Nat → Reader (List (Node × Node))
  | 0 => throw ⟨⟩
  | n + 1 => do
    let l ← peek
    skip
    match l.kind with
    | .blockEnd => return []
    | .key =>
      let key ← nodeUnless [.key, .value, .blockEnd] true true n l.line
      let value ← blockValue n
      return (key, value) :: (← blockEntries n)
    | _ => throw ⟨⟩

/-- The value after a key of a mapping made by indentation. -/
def blockValue : Nat → Reader Node
  | 0 => throw ⟨⟩
  | n + 1 => do
    let l ← peek
    if ← skipIf .value then nodeUnless [.key, .value, .blockEnd] true true n l.line
    else return .empty l.line

/-- The items of a sequence in brackets; `first` says whether none has been read yet. -/
def flowItems : Nat → (first : Bool) → Reader (List Node)
  | 0, _ => throw ⟨⟩
  | n + 1, first => do
    if ← skipIf .flowSequenceEnd then return []
    if !first && !(← skipIf .flowEntry) then throw ⟨⟩
    let l ← peek
    match l.kind with
    | .flowSequenceEnd =>
      skip
      return []
    | .key =>
      skip
      let key ← flowItemKey n
      let value ← flowValue [.flowEntry, .flowSequenceEnd] n
      let item := Node.mapping l.line Tag.mapping [(key, value)]
      return item :: (← flowItems n false)
    | _ =>
      let item ← node false false n
      return item :: (← flowItems n false)

/-- The key of a pair that is an item of a sequence in brackets.  What follows an empty key is
passed over. -/
def flowItemKey : Nat → Reader Node
  | 0 => throw ⟨⟩
  | n + 1 => do
    let l ← peek
    if ← follows [.value, .flowEntry, .flowSequenceEnd] then
      skip
      return .empty l.line
    else node false false n

/-- The entries of a mapping in braces; `first` says whether none has been read yet. -/
def flowEntries : Nat → (first : Bool) → Reader (List (Node × Node))
  | 0, _ => throw ⟨⟩
  | n + 1, first => do
    if ← skipIf .flowMappingEnd then return []
    if !first && !(← skipIf .flowEntry) then throw ⟨⟩
    match (← peek).kind with
    | .flowMappingEnd =>
      skip
      return []
    | .key =>
      skip
      let key ← nodeUnless [.value, .flowEntry, .flowMappingEnd] false false n (← peek).line
      let value ← flowValue [.flowEntry, .flowMappingEnd] n
      return (key, value) :: (← flowEntries n false)
    | _ =>
      let key ← node false false n
      let value := Node.empty (← peek).line
      return (key, value) :: (← flowEntries n false)

/-- The value after a key in brackets or braces, empty before one of the listed kinds. -/
def flowValue (kinds : List Kind) : Nat → Reader Node
  | 0 => throw ⟨⟩
  | n + 1 => do
    let l ← peek
    if ← skipIf .value then nodeUnless kinds false false n l.line
    else return .empty l.line

end

/-! ### Documents -/

/-- The handles that every document knows. -/
def standardHandles : List (Text × Text) := [(utf8 "!", utf8 "!"), (utf8 "!!", Tag.standard)]

/-- Take up the directives at the current place; there must be one version at most, and one meaning
for a handle. -/
def directives : Nat → (versioned : Bool) → Reader Unit
  | 0, _ => throw ⟨⟩
  | n + 1, versioned => do
    match (← peek).kind with
    | .directive (.version major minor) =>
      if versioned || major != 1 || minor != 1 then throw ⟨⟩
      skip
      directives n true
    | .directive (.tagHandle handle stem) =>
      let r ← get
      if (r.handles.lookup handle).isSome then throw ⟨⟩
      set { r with handles := (handle, stem) :: r.handles }
      skip
      directives n versioned
    | _ => modify fun r => { r with handles := r.handles ++ standardHandles }

/-- Whether the current lexeme begins a document that is marked as such. -/
def atMarkedDocument : Reader Bool := do
  match (← peek).kind with
  | .directive _ => return true
  | .documentStart => return true
  | _ => return false

/-- The root of the first document, unless there is none.  The lexeme after it is looked at. -/
def root? : Reader (Option Node) := do
  skip
  let count := (← get).lexemes.length
  let bound := 4 * count + 4
  if (← peek).kind = .streamEnd then return none
  let marked ← atMarkedDocument
  directives (count + 1) false
  let root ←
    if marked then do
      if !(← skipIf .documentStart) then throw ⟨⟩
      let l ← peek
      if (← atMarkedDocument) || l.kind = .documentEnd || l.kind = .streamEnd then
        pure (Node.empty l.line)
      else node true false bound
    else node true false bound
  let _ ← peek
  return some root

end Reader

/-- The first document in a text. -/
def Document.parse (t : Text) : Except Malformed (Option Document) := do
  let ls := lexemes (Source.ofBytes t)
  let (root, r) ← Reader.root? ⟨ls, [], [], []⟩
  return root.map fun root => { root, anchored := r.anchored, size := ls.length }

end Scriptlet.Yaml

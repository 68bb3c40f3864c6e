import Scriptlet.Host.Files
import Scriptlet.Settings.Basic
import Scriptlet.Yaml.Node

/-!
# Scriptlet.Settings.Decode — settings from a file

The file holds a mapping with any of three keys, all of whose values are text.  Other mappings can
be merged into it; they count where it says nothing itself.  Everything that does not fit is
reported together, unless the document cannot be read at all.
-/

namespace Scriptlet

open Yaml (Document Node Malformed Tag)

/-- A part of a settings file that does not fit. -/
inductive TypeFault where
  /-- A node that should be something else, described by `target`. -/
  | mismatch (line : Nat) (tag text : Text) (target : String)
  | unknownField (line : Nat) (name : Text)
  | duplicateKey (line : Nat) (name : Text) (firstLine : Nat)
  /-- A field that different keys name. -/
  | repeatedField (line : Nat) (name : Text)
  deriving DecidableEq, Repr

namespace TypeFault

/-- The text of a scalar in a complaint: the start of it if it is long. -/
def excerpt (text : Text) : Text :=
  let mark := [0x60]
  utf8 " " ++ mark ++ (if 10 < text.length then text.take 7 ++ utf8 "..." else text) ++ mark

/-- Whether a tag is that of a collection. -/
def isCollection (tag : Text) : Bool := tag == Tag.sequence || tag == Tag.mapping

/-- The complaint about a part.  Lines are counted from one. -/
def message : TypeFault → Text
  | mismatch line tag text target =>
    utf8 "line " ++ Text.ofNat (line + 1) ++ utf8 ": cannot unmarshal " ++ tag ++
      (if isCollection tag then [] else excerpt text) ++ utf8 " into " ++ utf8 target
  | unknownField line name =>
    utf8 "line " ++ Text.ofNat (line + 1) ++ utf8 ": field " ++ name ++
      utf8 " not found in type config.file"
  | duplicateKey line name firstLine =>
    utf8 "line " ++ Text.ofNat (line + 1) ++ utf8 ": mapping key " ++ name.quote ++
      utf8 " already defined at line " ++ Text.ofNat (firstLine + 1)
  | repeatedField line name =>
    utf8 "line " ++ Text.ofNat (line + 1) ++ utf8 ": field " ++ name ++
      utf8 " already set in type config.file"

end TypeFault

/-- Why there are no settings. -/
inductive SettingsError where
  | unreadable (path : Text) (fault : FileFault)
  /-- The document cannot be read. -/
  | malformed
  /-- Parts of the document do not fit. -/
  | mistyped (faults : List TypeFault)
  | setting (error : SettingError)
  deriving DecidableEq, Repr

/-- The complaint about settings. -/
def SettingsError.message : SettingsError → Text
  | unreadable path .directory =>
    utf8 "config: parse: yaml: input error: " ++ FileFault.directory.message path
  | unreadable path fault => utf8 "config: open " ++ path ++ utf8 ": " ++ fault.message path
  | malformed => utf8 "config: parse: yaml: malformed document"
  | mistyped faults =>
    utf8 "config: parse: yaml: unmarshal errors:\n  " ++
      Text.join (utf8 "\n  ") (faults.map TypeFault.message)
  | setting error => error.message

/-- The fields of a settings file, empty where the file says nothing. -/
structure RawSettings where
  returnMode : Text
  prompt : Text
  mode : Text
  deriving DecidableEq, Repr

namespace RawSettings

def blank : RawSettings := ⟨[], [], []⟩

/-- The settings with the field of the given name set, if there is such a field. -/
def set? (s : RawSettings) (name : Text) : Option (Text → RawSettings) :=
  if name = utf8 "return_mode" then some fun t => { s with returnMode := t }
  else if name = utf8 "prompt" then some fun t => { s with prompt := t }
  else if name = utf8 "mode" then some fun t => { s with mode := t }
  else none

/-! ### Faults of nodes -/

/-- The complaint that a node is not what it should be. -/
def mismatch (n : Node) (target : String) : TypeFault := .mismatch n.line n.tag n.text target

/-- Whether two nodes count as the same key. -/
def sameKey : Node → Node → Bool
  | .scalar _ _ s, .scalar _ _ t => s == t
  | .sequence .., .sequence .. => true
  | .mapping .., .mapping .. => true
  | .reference _ s _, .reference _ t _ => s == t
  | _, _ => false

/-- The keys that occur again, each with its first place. -/
def duplicates : List (Node × Node) → List TypeFault
  | [] => []
  | (k, _) :: entries =>
    (entries.filter fun (k', _) => sameKey k k').map
      (fun (k', _) => .duplicateKey k'.line k'.text k.line) ++ duplicates entries

/-- The faults of a mapping where something else should be. -/
def misplacedMapping (n : Node) (entries : List (Node × Node)) (target : String) : List TypeFault :=
  match duplicates entries with
  | [] => [mismatch n target]
  | faults => faults

/-! ### Texts -/

/-- The node that a node stands for: a reference stands for the node with the anchor. -/
def follow (d : Document) : Node → Except Malformed Node
  | .reference _ _ anchor =>
    match d.anchored.lookup anchor with
    | some n => .ok n
    | none => .error ⟨⟩
  | n => .ok n

/-- The value of a scalar. -/
def valueOf (tag : Text) (text : List Char) : Except Malformed Tag.Value :=
  match Tag.value? tag text with
  | some v => .ok v
  | none => .error ⟨⟩

/-- The text of a node that should be a scalar: none if it is null, or the faults it has instead. -/
def textOf (d : Document) (n : Node) :
    Except Malformed (Except (List TypeFault) (Option Text)) := do
  match ← follow d n with
  | .scalar _ tag text =>
    match ← valueOf tag text with
    | .null => return .ok none
    | .text t => return .ok (some t)
    | .typed t => return .ok (some t)
  | .sequence line tag items => return .error [mismatch (.sequence line tag items) "string"]
  | .mapping line tag entries =>
    return .error (misplacedMapping (.mapping line tag entries) entries "string")
  | .reference .. => throw ⟨⟩

/-! ### Mappings -/

/-- The state of the decoding. -/
structure Decoding where
  settings : RawSettings := blank
  faults : List TypeFault := []
  /-- While mappings are merged: the names that are taken. -/
  taken : Option (List Text) := none

/-- Note faults. -/
def Decoding.report (s : Decoding) (faults : List TypeFault) : Decoding :=
  { s with faults := s.faults ++ faults }

/-- Take up an entry whose key is the name of a field, unless the name is taken.  `named` has the
names of the mapping so far. -/
def addField (d : Document) (s : Decoding) (named : List Text) (key : Node) (name : Text)
    (value : Node) : Except Malformed Decoding := do
  if s.taken.any (·.contains name) then return s
  let s := { s with taken := s.taken.map (name :: ·) }
  match s.settings.set? name with
  | none => return s.report [.unknownField key.line name]
  | some set =>
    if named.contains name then return s.report [.repeatedField key.line name]
    match ← textOf d value with
    | .error faults => return s.report faults
    | .ok none => return s
    | .ok (some text) => return { s with settings := set text }

/-- Whether a key asks for another mapping to be merged in. -/
def isMerge : Node → Bool
  | .scalar _ tag text => tag == Tag.merge.name && text == "<<".toList
  | _ => false

/-- Take up the entries of a mapping, except for those that ask for a merge.  An entry without a key
says nothing. -/
def addEntries (d : Document) : Decoding → (named : List Text) → List (Node × Node) →
    Except Malformed Decoding
  | s, _, [] => .ok s
  | s, named, (key, value) :: entries =>
    if isMerge key then addEntries d s named entries
    else do
      match ← textOf d key with
      | .error faults => addEntries d (s.report faults) named entries
      | .ok none => addEntries d s named entries
      | .ok (some name) =>
        let s ← addField d s named key name value
        addEntries d s (name :: named) entries

/-- The name that a key takes from merged mappings, and the faults of a key that cannot have one. -/
def takenBy (d : Document) (key : Node) : Except Malformed (List Text × List TypeFault) := do
  match ← follow d key with
  | .scalar _ tag text =>
    match ← valueOf tag text with
    | .text t => return ([t], [])
    | _ => return ([], [])
  | .mapping _ _ entries => return ([], duplicates entries)
  | _ => return ([], [])

mutual

/-- Take up a mapping: first its own entries, then what it merges in. -/
def addMapping (d : Document) : Nat → Decoding → List (Node × Node) → Except Malformed Decoding
  | 0, _, _ => .error ⟨⟩
  | n + 1, s, entries =>
    match duplicates entries with
    | [] => do
      let s ← addEntries d s [] entries
      match entries.find? fun (key, _) => isMerge key with
      | none => return s
      | some (_, source) =>
        match s.taken with
        | some _ => addMerge d n s source
        | none =>
          let keys ← entries.mapM fun (key, _) => takenBy d key
          let s := s.report (keys.flatMap (·.2))
          let s ← addMerge d n { s with taken := some (keys.flatMap (·.1)) } source
          return { s with taken := none }
    | faults => .ok (s.report faults)

/-- Merge in a mapping or all mappings of a sequence. -/
def addMerge (d : Document) : Nat → Decoding → Node → Except Malformed Decoding
  | 0, _, _ => .error ⟨⟩
  | n + 1, s, .sequence _ _ items => items.foldlM (addMerged d n) s
  | n + 1, s, source => addMerged d n s source

/-- Merge in a mapping. -/
def addMerged (d : Document) : Nat → Decoding → Node → Except Malformed Decoding
  | 0, _, _ => .error ⟨⟩
  | n + 1, s, source => do
    match ← follow d source with
    | .mapping _ _ entries => addMapping d n s entries
    | _ => throw ⟨⟩

end

/-- The fields of a document. -/
def ofDocument (d : Document) : Except Malformed Decoding :=
  let target := "config.file"
  match d.root with
  | .mapping _ _ entries => addMapping d (3 * d.size + 3) {} entries
  | .scalar _ tag text => do
    match ← valueOf tag text with
    | .null => return {}
    | _ => return { faults := [mismatch d.root target] }
  | root => .ok { faults := [mismatch root target] }

end RawSettings

namespace Settings

/-- The standard settings with what a file says. -/
def ofRaw (raw : RawSettings) : Except SettingError Settings := do
  let s ← standard.setReturnMode raw.returnMode
  let s := if raw.prompt = [] then s else { s with prompt := raw.prompt }
  s.setFrontEnd raw.mode

/-- The settings in the text of a file. -/
def decode (file : Text) : Except SettingsError Settings :=
  match Document.parse file with
  | .error _ => .error .malformed
  | .ok none => .ok standard
  | .ok (some d) =>
    match RawSettings.ofDocument d with
    | .error _ => .error .malformed
    | .ok ⟨raw, [], _⟩ => (ofRaw raw).mapError .setting
    | .ok ⟨_, faults, _⟩ => .error (.mistyped faults)

/-- The settings in a file. -/
def load (files : FileSystem) (path : Text) : Except SettingsError Settings :=
  match files path with
  | .error fault => .error (.unreadable path fault)
  | .ok text => decode text

end Settings

end Scriptlet

import Changeset.Yaml.Tag
import Changeset.Yaml.Token

/-!
# Nodes

The tree of a text that holds one document. An alias stands for the node of its
anchor; inside that node itself it is a node that comes again.
-/

namespace Changeset.Yaml

inductive Node where
  | scalar (tag : Tag) (text : List Char)
  | sequence (tag : Tag) (items : List Node)
  | mapping (tag : Tag) (entries : List (Node × Node))
  /-- The collection that this node is inside of. -/
  | again (isMap : Bool)
  deriving Repr, Inhabited

namespace Node

def tag? : Node → Option Tag
  | .scalar tag _ | .sequence tag _ | .mapping tag _ => some tag
  | .again _ => none

def withTag (tag : Tag) : Node → Node
  | .scalar _ text => .scalar tag text
  | .sequence _ ns => .sequence tag ns
  | .mapping _ es => .mapping tag es
  | .again isMap => .again isMap

/-- A node that an anchor names; `none` as long as it is being read. -/
structure Anchored where
  name : List Char
  isMap : Bool
  node : Option Node

structure Source where
  tokens : List Token
  anchors : List Anchored
  handles : List (List Char × List Char)

abbrev Read := Except Fault (Node × Source)

namespace Source

def defaultHandles : List (List Char × List Char) :=
  [(['!'], ['!']), (['!', '!'], Tag.standard.toList)]

def head? (s : Source) : Option Token := s.tokens.head?

def tail (s : Source) : Source := { s with tokens := s.tokens.tail }

def starts (s : Source) (ts : List Token) : Bool := s.head?.any ts.contains

def anchored? (s : Source) (name : List Char) : Option Anchored :=
  s.anchors.find? (·.name == name)

/-- Names a node; a name can be given once. -/
def declare (s : Source) (name : Option (List Char)) (isMap : Bool) (node : Option Node) :
    Except Fault Source :=
  match name with
  | none => .ok s
  | some name =>
    if (s.anchored? name).isSome then .error .malformed
    else .ok { s with anchors := ⟨name, isMap, node⟩ :: s.anchors }

def complete (s : Source) (name : Option (List Char)) (node : Node) : Source :=
  match name with
  | none => s
  | some name => { s with
      anchors := s.anchors.map fun a => if a.name == name then { a with node := some node } else a }

end Source

structure Properties where
  anchor : Option (List Char)
  tag : Option (List Char)

namespace Properties

def isNone (p : Properties) : Bool := p.anchor.isNone && p.tag.isNone

/-- A tag that leaves the type open. -/
def isOpen (p : Properties) : Bool :=
  match p.tag with
  | none => true
  | some t => t == ['!']

def scalarTag (p : Properties) (text : List Char) (plain : Bool) : Tag :=
  match p.tag with
  | none => if plain then Tag.ofPlain text else .text
  | some t => if t == ['!'] then Tag.ofPlain text else Tag.ofName t

def collectionTag (p : Properties) (usual : Tag) : Tag :=
  match p.tag with
  | none => usual
  | some t => if t == ['!'] then usual else Tag.ofName t

def tagName (s : Source) (handle : Option (List Char)) (suffix : List Char) :
    Except Fault (List Char) :=
  match handle with
  | none => .ok suffix
  | some h =>
    match s.handles.lookup h with
    | none => .error .malformed
    | some lead => .ok (lead ++ suffix)

def read (s : Source) : Except Fault (Properties × Source) :=
  match s.tokens with
  | .anchor a :: .tag h suffix :: rest => do
    .ok (⟨some a, some (← tagName s h suffix)⟩, { s with tokens := rest })
  | .tag h suffix :: .anchor a :: rest => do
    .ok (⟨some a, some (← tagName s h suffix)⟩, { s with tokens := rest })
  | .anchor a :: rest => .ok (⟨some a, none⟩, { s with tokens := rest })
  | .tag h suffix :: rest => do
    .ok (⟨none, some (← tagName s h suffix)⟩, { s with tokens := rest })
  | _ => .ok (⟨none, none⟩, s)

end Properties

def empty : Node := .scalar .null []

def aliased (s : Source) (name : List Char) : Read :=
  match s.anchored? name with
  | none => .error .malformed
  | some a => .ok (a.node.getD (.again a.isMap), s.tail)

inductive Place where
  | flow
  | block
  /-- A block where a sequence needs no indentation. -/
  | member
  deriving DecidableEq, Repr

def Place.inBlock (p : Place) : Bool := p != .flow

abbrev Items := Except Fault (List Node × Source)

abbrev Entries := Except Fault (List (Node × Node) × Source)

def collect {α : Type} (p : Properties) (isMap : Bool) (make : List α → Node) (s : Source)
    (items : Source → Except Fault (List α × Source)) : Read := do
  let s ← s.declare p.anchor isMap none
  let (xs, s) ← items s
  let node := make xs
  .ok (node, s.complete p.anchor node)

def blank (s : Source) : Read := .ok (empty, s)

/-- Properties without a node are those of an empty scalar. -/
def bare (p : Properties) (s : Source) : Read :=
  if p.isNone then .error .malformed
  else do
    let n := Node.scalar (p.scalarTag [] true) []
    let s ← s.declare p.anchor false (some n)
    .ok (n, s)

mutual

def node (place : Place) : Nat → Source → Read
  | 0, _ => .error .malformed
  | fuel + 1, s =>
    match s.head? with
    | some (.alias name) => aliased s name
    | _ => do
      let (p, s) ← Properties.read s
      let sequence := Node.sequence (p.collectionTag .sequence)
      let mapping := Node.mapping (p.collectionTag .mapping)
      match s.head? with
      | some (.scalar text plain) => do
        let n := Node.scalar (p.scalarTag text plain) text
        let s ← s.declare p.anchor false (some n)
        .ok (n, s.tail)
      | some .openSequence => collect p false sequence s.tail (flowItems true fuel)
      | some .openMapping => collect p true mapping s.tail (flowEntries true fuel)
      | some .entry =>
        if place == .member then collect p false sequence s (looseItems fuel)
        else bare p s
      | some .blockSequence =>
        if place.inBlock then collect p false sequence s.tail (blockItems fuel) else bare p s
      | some .blockMapping =>
        if place.inBlock then collect p true mapping s.tail (blockEntries fuel) else bare p s
      | _ => bare p s

def nodeUnless (place : Place) (ends : List Token) : Nat → Source → Read
  | 0, _ => .error .malformed
  | fuel + 1, s => if s.starts ends then blank s else node place fuel s

def blockItems : Nat → Source → Items
  | 0, _ => .error .malformed
  | fuel + 1, s =>
    match s.head? with
    | some .entry => do
      let (n, s) ← nodeUnless .block [.entry, .blockEnd] fuel s.tail
      let (ns, s) ← blockItems fuel s
      .ok (n :: ns, s)
    | some .blockEnd => .ok ([], s.tail)
    | _ => .error .malformed

def looseItems : Nat → Source → Items
  | 0, _ => .error .malformed
  | fuel + 1, s =>
    match s.head? with
    | some .entry => do
      let (n, s) ← nodeUnless .block [.entry, .key, .value, .blockEnd] fuel s.tail
      let (ns, s) ← looseItems fuel s
      .ok (n :: ns, s)
    | _ => .ok ([], s)

def blockEntries : Nat → Source → Entries
  | 0, _ => .error .malformed
  | fuel + 1, s =>
    match s.head? with
    | some .key => do
      let (k, s) ← nodeUnless .member [.key, .value, .blockEnd] fuel s.tail
      let (v, s) ←
        if s.starts [.value] then nodeUnless .member [.key, .value, .blockEnd] fuel s.tail
        else blank s
      let (es, s) ← blockEntries fuel s
      .ok ((k, v) :: es, s)
    | some .blockEnd => .ok ([], s.tail)
    | _ => .error .malformed

/-- The items of a sequence in brackets; a key makes a mapping of one entry. -/
def flowItems (first : Bool) : Nat → Source → Items
  | 0, _ => .error .malformed
  | fuel + 1, s =>
    if s.starts [.closeSequence] then .ok ([], s.tail)
    else if !first && !s.starts [.separator] then .error .malformed
    else do
      let s := if first then s else s.tail
      if s.starts [.closeSequence] then .ok ([], s.tail)
      else
        let ends := [Token.separator, .closeSequence]
        let (n, s) ←
          if s.starts [.key] then do
            let (k, s) ← nodeUnless .flow (.value :: ends) fuel s.tail
            let (v, s) ← if s.starts [.value] then nodeUnless .flow ends fuel s.tail else blank s
            Except.ok (Node.mapping .mapping [(k, v)], s)
          else node .flow fuel s
        let (ns, s) ← flowItems false fuel s
        .ok (n :: ns, s)

def flowEntries (first : Bool) : Nat → Source → Entries
  | 0, _ => .error .malformed
  | fuel + 1, s =>
    if s.starts [.closeMapping] then .ok ([], s.tail)
    else if !first && !s.starts [.separator] then .error .malformed
    else do
      let s := if first then s else s.tail
      if s.starts [.closeMapping] then .ok ([], s.tail)
      else
        let ends := [Token.separator, .closeMapping]
        let (e, s) ←
          if s.starts [.key] then do
            let (k, s) ← nodeUnless .flow (.value :: ends) fuel s.tail
            let (v, s) ← if s.starts [.value] then nodeUnless .flow ends fuel s.tail else blank s
            Except.ok ((k, v), s)
          else do
            let (k, s) ← node .flow fuel s
            .ok ((k, empty), s)
        let (es, s) ← flowEntries false fuel s
        .ok (e :: es, s)

end

/-! ## Documents -/

/-- The directives before a document: a version of the first kind, and handles, each once. -/
def directives (versioned : Bool) (handles : List (List Char × List Char)) :
    List Token → Except Fault (List (List Char × List Char) × List Token)
  | .version major _ :: ts =>
    if versioned || major.dropWhile (· == '0') != ['1'] then .error .malformed
    else directives true handles ts
  | .tagHandle h lead :: ts =>
    if (handles.lookup h).isSome then .error .malformed
    else directives versioned ((h, lead) :: handles) ts
  | .otherDirective :: ts => directives versioned handles ts
  | ts => .ok (handles, ts)

def explicit (fuel : Nat) (ts : List Token) : Except Fault (Option (Node × List Token)) := do
  let ts := ts.dropWhile (· == .documentEnd)
  if ts.isEmpty then .ok none
  else do
    let (handles, ts) ← directives false [] ts
    match ts with
    | .documentStart :: ts => do
      let s : Source := ⟨ts, [], handles ++ Source.defaultHandles⟩
      let isEmpty := match s.head? with
        | none | some .documentStart | some .documentEnd | some (.version _ _)
        | some (.tagHandle _ _) | some .otherDirective => true
        | _ => false
      let (n, s) ← if isEmpty then blank s else node .block fuel s
      .ok (some (n, s.tokens))
    | _ => .error .malformed

def beginsImplicit : List Token → Bool
  | [] | .documentStart :: _ | .version _ _ :: _ | .tagHandle _ _ :: _ | .otherDirective :: _ => false
  | _ => true

/-- The root of the only document of a text; an empty text has none. -/
def ofTokens (ts : List Token) : Except Fault (Option Node) := do
  let fuel := 4 * ts.length + 8
  let first ←
    if beginsImplicit ts then do
      let (n, s) ← node .block fuel ⟨ts, [], Source.defaultHandles⟩
      Except.ok (some (n, s.tokens))
    else explicit fuel ts
  match first with
  | none => .ok none
  | some (n, ts) => do
    match ← explicit fuel ts with
    | none => .ok (some n)
    | some _ => .error .malformed

end Node

end Changeset.Yaml

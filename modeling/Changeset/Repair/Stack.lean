import Changeset.Repair.Tree

/-!
# Stacks

Several readings of a text are followed at once. Each is a stack of states with
the trees between them; stacks share what they have in common, so a node can
have more than one link down, and taking trees off can give several stacks.
-/

namespace Changeset.Repair

/-- A tree and the node below it; there is no tree where a repair begins. -/
structure Link where
  tree : Option Tree
  node : Nat

structure StackNode where
  state : Nat
  place : Place
  price : Nat
  /-- How much has been read up to here. -/
  count : Nat
  weight : Int
  links : List Link

structure Depth where
  place : Place
  depth : Nat
  state : Nat

inductive Status where
  | active
  | paused (token : Tree)
  | halted

structure Version where
  node : Nat
  /-- How much had been read when the last repair began. -/
  base : Nat
  status : Status
  summary : Option (List Depth)

structure Stack where
  nodes : Array StackNode
  versions : Array Version

/-- Trees taken off, and the reading that is left. -/
structure Slice where
  version : Nat
  trees : List Tree

namespace Stack

def maxLinks : Nat := 8
def maxWays : Nat := 64

def emptyNode : StackNode := ⟨0, .ofText [], 0, 0, 0, []⟩

def emptyVersion : Version := ⟨0, 0, .halted, none⟩

def new (s : List Char) : Stack :=
  ⟨#[⟨Machine.startState, .ofText s, 0, 0, 0, []⟩], #[⟨0, 0, .active, none⟩]⟩

variable (k : Stack)

def nodeAt (i : Nat) : StackNode := (k.nodes[i]?).getD emptyNode

def versionAt (v : Nat) : Version := (k.versions[v]?).getD emptyVersion

def top (v : Nat) : StackNode := k.nodeAt (k.versionAt v).node

def size : Nat := k.versions.size

def state (v : Nat) : Nat := (k.top v).state

def place (v : Nat) : Place := (k.top v).place

def weight (v : Nat) : Int := (k.top v).weight

def isActive (v : Nat) : Bool :=
  match (k.versionAt v).status with
  | .active => true
  | _ => false

def isPaused (v : Nat) : Bool :=
  match (k.versionAt v).status with
  | .paused _ => true
  | _ => false

def isHalted (v : Nat) : Bool :=
  match (k.versionAt v).status with
  | .halted => true
  | _ => false

def haltedCount : Nat := (k.versions.filter fun v =>
  match v.status with
  | .halted => true
  | _ => false).size

def progress (v : Nat) : Nat := (k.top v).count - (k.versionAt v).base

def price (v : Nat) : Nat :=
  let n := k.top v
  let open_ := n.state == Machine.brokenState &&
    ((n.links.head?.map fun l => l.tree.isNone).getD false)
  n.price + (if k.isPaused v || open_ then recoveryPrice else 0)

/-! ## Versions -/

def update (v : Nat) (f : Version → Version) : Stack :=
  { k with versions := k.versions.modify v f }

/-- Less cannot have been read than when the repair began. -/
def settleBase (v : Nat) : Stack :=
  let count := (k.top v).count
  k.update v fun w => { w with base := min w.base count }

def halt (v : Nat) : Stack := k.update v fun w => { w with status := .halted }

def pause (v : Nat) (token : Tree) : Stack :=
  let count := (k.top v).count
  k.update v fun w => { w with status := .paused token, base := count }

def remove (v : Nat) : Stack := { k with versions := k.versions.eraseIdxIfInBounds v }

def addVersion (like node : Nat) : Stack :=
  { k with versions := k.versions.push ⟨node, (k.versionAt like).base, .active, none⟩ }

def copy (v : Nat) : Stack :=
  { k with versions := k.versions.push { k.versionAt v with summary := none } }

def renumber (v w : Nat) : Stack :=
  if v == w then k
  else
    let moved := k.versionAt v
    let moved := { moved with summary := moved.summary <|> (k.versionAt w).summary }
    { k with versions := (k.versions.setIfInBounds w moved).eraseIdxIfInBounds v }

def swap (v w : Nat) : Stack :=
  let a := k.versionAt v
  let b := k.versionAt w
  { k with versions := (k.versions.setIfInBounds v b).setIfInBounds w a }

/-! ## Putting trees on -/

def push (v : Nat) (tree : Option Tree) (state : Nat) : Stack :=
  let below := (k.versionAt v).node
  let n := k.nodeAt below
  let node : StackNode := match tree with
    | none => { n with state, links := [⟨none, below⟩] }
    | some t => {
        state
        place := t.tag.stop
        price := n.price + t.tag.price
        count := n.count + t.count
        weight := n.weight + t.tag.weight
        links := [⟨tree, below⟩] }
  let fresh := k.nodes.size
  { nodes := k.nodes.push node
    versions := k.versions.modify v fun w =>
      { w with node := fresh, base := if tree.isNone then node.count else w.base } }

def pushAll (v : Nat) (trees : List Tree) (state : Nat) : Stack :=
  trees.foldl (fun k t => k.push v (some t) state) k

/-! ## Joining -/

def sameTree (a b : Option Tree) : Bool :=
  match a, b with
  | none, none => true
  | some a, some b => a.same b
  | _, _ => false

def joinable (a b : StackNode) : Bool :=
  a.state == b.state && a.place.octets == b.place.octets && a.price == b.price

def treeWeight (t : Option Tree) : Int := (t.map fun t => t.tag.weight).getD 0

inductive Joint where
  | known
  | heavier (i : Nat)
  /-- The nodes below can be joined. -/
  | below (node : Nat)
  | new

def joint (node : StackNode) (l : Link) : List Link → Nat → Joint
  | [], _ => .new
  | e :: es, i =>
    if sameTree e.tree l.tree then
      if e.node == l.node then
        if treeWeight l.tree > treeWeight e.tree then .heavier i else .known
      else if joinable (k.nodeAt e.node) (k.nodeAt l.node) then .below e.node
      else joint node l es (i + 1)
    else joint node l es (i + 1)

def addLink : Nat → Nat → Link → Stack → Stack
  | 0, _, _, k => k
  | fuel + 1, i, l, k =>
    if l.node == i then k
    else
      let n := k.nodeAt i
      let under := k.nodeAt l.node
      let weight := under.weight + treeWeight l.tree
      match k.joint n l n.links 0 with
      | .known => k
      | .heavier j =>
        { k with nodes := k.nodes.modify i fun n =>
          { n with links := n.links.set j l, weight := weight } }
      | .below j =>
        let k := under.links.foldl (fun k m => addLink fuel j m k) k
        { k with nodes := k.nodes.modify i fun n => { n with weight := max n.weight weight } }
      | .new =>
        if n.links.length ≥ maxLinks then k
        else
          let count := under.count + (l.tree.map Tree.count).getD 0
          { k with nodes := k.nodes.modify i fun n =>
            { n with
              links := n.links ++ [l]
              count := max n.count count
              weight := max n.weight weight } }

def canMerge (v w : Nat) : Bool :=
  k.isActive v && k.isActive w && joinable (k.top v) (k.top w)

def merge (v w : Nat) : Option Stack :=
  if !k.canMerge v w then none
  else
    let i := (k.versionAt v).node
    let k := (k.top w).links.foldl (fun k l => addLink 32 i l k) k
    let k := if k.state v == Machine.brokenState then
        let count := (k.top v).count
        k.update v fun x => { x with base := count }
      else k
    some (k.remove w)

/-! ## Taking trees off -/

structure Way where
  node : Nat
  trees : List Tree
  count : Nat

inductive Verdict where
  | goOn | take | drop

structure Search (σ : Type) where
  memory : σ
  done : List (Nat × List Tree)

def Way.follow (w : Way) (l : Link) : Way :=
  match l.tree with
  | none => ⟨l.node, w.trees, w.count + 1⟩
  | some t => ⟨l.node, t :: w.trees, if t.tag.extra then w.count else w.count + 1⟩

/-- One step of every way; `room` is how many more ways there can be. -/
def stepWays {σ : Type} (verdict : σ → Way → Verdict × σ) (ways : List Way) (memory : σ) :
    List Way × List (Nat × List Tree) × σ :=
  let step := fun (acc : List Way × List Way × List (Nat × List Tree) × σ × Nat) (w : Way) =>
    let (kept, added, found, memory, total) := acc
    let (v, memory) := verdict memory w
    let links := (k.nodeAt w.node).links
    match v with
    | .take => (kept, added, found ++ [(w.node, w.trees)], memory, total - 1)
    | .drop => (kept, added, found, memory, total - 1)
    | .goOn =>
      match links with
      | [] => (kept, added, found, memory, total - 1)
      | l :: more =>
        let more := more.take (maxWays - total)
        (kept ++ [w.follow l], added ++ more.map w.follow, found, memory, total + more.length)
  let (kept, added, found, memory, _) := ways.foldl step ([], [], [], memory, ways.length)
  (kept ++ added, found, memory)

def searchWays {σ : Type} (verdict : σ → Way → Verdict × σ) :
    Nat → List Way → σ → List (Nat × List Tree) → List (Nat × List Tree) × σ
  | 0, _, memory, found => (found, memory)
  | fuel + 1, ways, memory, found =>
    if ways.isEmpty then (found, memory)
    else
      let (ways, more, memory) := k.stepWays verdict ways memory
      searchWays verdict fuel ways memory (found ++ more)

def search {σ : Type} (v : Nat) (verdict : σ → Way → Verdict × σ) (memory : σ) :
    List (Nat × List Tree) × σ :=
  k.searchWays verdict (k.nodes.size + 1) [⟨(k.versionAt v).node, [], 0⟩] memory []

/-- Results that end at the same node belong to one version. -/
def addSlice (like : Nat) (slices : List Slice) (node : Nat) (trees : List Tree) (k : Stack) :
    List Slice × Stack :=
  match slices.reverse.find? fun s => (k.versionAt s.version).node == node with
  | some s =>
    let before := slices.takeWhile fun t => t.version != s.version
    let same := (slices.dropWhile fun t => t.version != s.version).takeWhile
      fun t => t.version == s.version
    let after := (slices.dropWhile fun t => t.version != s.version).dropWhile
      fun t => t.version == s.version
    (before ++ same ++ [⟨s.version, trees⟩] ++ after, k)
  | none => (slices ++ [⟨k.size, trees⟩], k.addVersion like node)

def popWith {σ : Type} (v : Nat) (verdict : σ → Way → Verdict × σ) (memory : σ) :
    List Slice × Stack :=
  (k.search v verdict memory).1.foldl (fun (slices, k) (node, trees) =>
    addSlice v slices node trees k) ([], k)

/-- Takes off `count` trees and the extras above them. -/
def popCount (v count : Nat) : List Slice × Stack :=
  k.popWith v (fun _ w => (if w.count == count then .take else .goOn, ())) ()

def popAll (v : Nat) : List Slice × Stack :=
  k.popWith v (fun _ w => (if (k.nodeAt w.node).links.isEmpty then .take else .goOn, ())) ()

def popBroken (v : Nat) : Option (List Tree × Stack) :=
  if (k.top v).links.any fun l => (l.tree.map Tree.isBroken).getD false then
    let (slices, k) := k.popWith v (fun (found : Bool) w =>
      match w.trees with
      | [] => (.goOn, found)
      | t :: _ => if !found && t.isBroken then (.take, true) else (.drop, found)) false
    slices.head?.map fun s => (s.trees, k.renumber s.version v)
  else none

def maxDepth : Nat := 16

/-- The states down a stack, the upper ones first. -/
def summarize (v : Nat) : List Depth :=
  (k.search v (fun (seen : List Depth) w =>
    if w.count > maxDepth then (.drop, seen)
    else
      let n := k.nodeAt w.node
      if (seen.takeWhile fun d => !(d.depth < w.count)).any fun d =>
          d.depth == w.count && d.state == n.state then (.goOn, seen)
      else (.goOn, ⟨n.place, w.count, n.state⟩ :: seen)) []).2.reverse

def recordSummary (v : Nat) : Stack :=
  let summary := k.summarize v
  k.update v fun w => { w with summary := some summary }

/-- Whether something of the text has been read since the last repair. -/
def hasMoved (v : Nat) : Bool :=
  let rec go (base : Nat) : Nat → Nat → Bool
    | 0, _ => false
    | fuel + 1, i =>
      let n := k.nodeAt i
      match n.links with
      | [] => false
      | l :: _ =>
        match l.tree with
        | none => false
        | some t =>
          if t.octets > 0 then true
          else if n.count > base && t.tag.price == 0 then go base fuel l.node
          else false
  (k.top v).price == 0 || go (k.versionAt v).base 64 (k.versionAt v).node

end Stack

end Changeset.Repair

import Changeset.Repair.Token

/-!
# Trees

What has been read, with the price of what had to be skipped or put in. A tree
keeps only what repairs ask of it: where it begins and ends, its parts, how much
of it is seen, and whether it is broken or missing.
-/

namespace Changeset.Repair

def recoveryPrice : Nat := 500
def missingPrice : Nat := 110
def skippedTreePrice : Nat := 100
def skippedOctetPrice : Nat := 1
def skippedRowPrice : Nat := 30

structure Fault where
  missing : Option String
  place : Place

inductive TreeKind where
  | symbol (i : Nat)
  | broken
  /-- A skipped token, in a row of them. -/
  | skipped
  deriving DecidableEq

structure TreeTag where
  kind : TreeKind
  /-- Where the white space before it begins. -/
  opening : Place
  start : Place
  stop : Place
  /-- It can stand anywhere and is no part of a form. -/
  extra : Bool
  missing : Bool
  visible : Bool
  price : Nat
  weight : Int
  shown : Nat
  /-- How many parts of parts are seen. -/
  depth : Nat
  /-- The name of a missing token that is seen. -/
  label : Option String

inductive Tree where
  | node (tag : TreeTag) (parts : List Tree)

namespace Tree

def tag : Tree → TreeTag
  | node tag _ => tag

def parts : Tree → List Tree
  | node _ parts => parts

def withExtra (t : Tree) : Tree := node { t.tag with extra := true } t.parts

def octets (t : Tree) : Nat := t.tag.stop.octets - t.tag.opening.octets

def rows (t : Tree) : Nat := t.tag.stop.row - t.tag.opening.row

def count (t : Tree) : Nat :=
  t.tag.depth + (if t.tag.visible then 1 else 0) + (if t.tag.kind == .skipped then 1 else 0)

def isBroken (t : Tree) : Bool := t.tag.kind == .broken

/-! ## Faults -/

/-- What is wrong at the tree itself, apart from its parts. -/
def fault? (t : Tree) : Option Fault :=
  if t.tag.missing then t.tag.label.map fun name => ⟨some name, t.tag.start⟩
  else if t.isBroken then some ⟨none, t.tag.start⟩
  else none

mutual

def hasError : Tree → Bool
  | node tag parts => (node tag parts).fault?.isSome || anyHasError parts

def anyHasError : List Tree → Bool
  | [] => false
  | t :: ts => t.hasError || anyHasError ts

end

/-! ## Building trees -/

def ofToken (n : Net) (k : Token) : Tree :=
  let shared : TreeTag := {
    kind := .broken, opening := k.opening, start := k.start, stop := k.stop, extra := false
    missing := false, visible := true, price := 0, weight := 0, shown := 0, depth := 0
    label := none }
  match k.symbol with
  | none => node shared []
  | some i => node { shared with
      kind := .symbol i
      extra := i == 0
      visible := i != 0 && !(n.terminalAt i).isHidden } []

def absent (n : Net) (i : Nat) (p : Place) : Tree :=
  node {
    kind := .symbol i, opening := p, start := p, stop := p, extra := false, missing := true
    visible := !(n.terminalAt i).isHidden, price := missingPrice + recoveryPrice, weight := 0
    shown := 0, depth := 0
    label := if (n.terminalAt i).isHidden then none else some (n.terminalAt i).name } []

def skippingPrice (t : Tree) : Nat :=
  if t.tag.extra || (t.isBroken && t.parts.isEmpty) then 0
  else if t.tag.visible then skippedTreePrice
  else skippedTreePrice * t.tag.shown

/-- A tree of parts; `p` is its place if there are none. -/
def ofParts (kind : TreeKind) (visible : Bool) (weight : Int) (p : Place) (ts : List Tree) : Tree :=
  let opening := (ts.head?.map fun t => t.tag.opening).getD p
  let start := (ts.head?.map fun t => t.tag.start).getD p
  let stop := (ts.getLast?.map fun t => t.tag.stop).getD p
  let faulty := kind == .broken || kind == .skipped
  let price := ts.foldl (fun sum t =>
    sum + (if t.tag.kind == .skipped then 0 else t.tag.price) +
      (if faulty then t.skippingPrice else 0)) 0
  let price := if faulty then
      price + recoveryPrice + skippedOctetPrice * (stop.octets - start.octets) +
        skippedRowPrice * (stop.row - start.row)
    else price
  node {
    kind, opening, start, stop, extra := false, missing := false, visible, price
    weight := ts.foldl (fun sum t => sum + t.tag.weight) weight
    shown := ts.foldl (fun sum t => sum + (if t.tag.visible then 1 else t.tag.shown)) 0
    depth := ts.foldl (fun sum t => sum + t.tag.depth + (if t.tag.visible then 1 else 0)) 0
    label := none } ts

def broken (p : Place) (ts : List Tree) : Tree := ofParts .broken true 0 p ts

def skipped (p : Place) (ts : List Tree) : Tree := ofParts .skipped false 0 p ts

def splitExtras (ts : List Tree) : List Tree × List Tree :=
  let extras := (ts.reverse.takeWhile fun t => t.tag.extra).reverse
  (ts.take (ts.length - extras.length), extras)

/-! ## Names of missing tokens -/

/-- The names under which the parts of a form can be shown that ends at a spot. -/
def labelsTo (n : Net) (form last : Nat) (symbols : List Nat) : List (List Nat) :=
  let starts := n.startsOf (n.formAt form).phrase
  let forward := symbols.foldl (fun (reached : List (List Nat)) symbol =>
    let from_ := match reached with
      | [] => starts
      | spots :: _ => Net.distinct (spots.flatMap fun i => (n.spotAt i).next)
    (from_.filter fun i => (n.spotAt i).symbol == symbol) :: reached) []
  (forward.foldl (fun (kept : List (List Nat)) spots =>
    match kept with
    | [] => [spots.filter (· == last)]
    | later :: _ =>
      (spots.filter fun i => (n.spotAt i).next.any later.contains) :: kept) [])

/-- Missing tokens among the parts take the names that the form gives them. -/
def nameMissing (n : Net) (r : Reduction) (ts : List Tree) : List Tree :=
  if ts.all (fun t => !t.tag.missing) then ts
  else
    let symbols := ts.filterMap fun t =>
      if t.tag.extra then none
      else match t.tag.kind with
        | .symbol i => some i
        | _ => none
    let rec go : List Tree → List (List Nat) → List Tree
      | [], _ => []
      | t :: ts, spots =>
        if t.tag.extra then t :: go ts spots
        else
          let label := (spots.head?.getD []).findSome? fun i => (n.spotAt i).label
          let t := match t.tag.missing, label, t.tag.label with
            | true, some name, some _ => node { t.tag with label := some name } t.parts
            | _, _, _ => t
          t :: go ts spots.tail
    go ts (labelsTo n r.form r.spot symbols)

def ofReduction (n : Net) (isVisible : Nat → Bool) (r : Reduction) (p : Place) (ts : List Tree) :
    Tree :=
  ofParts (.symbol r.phrase) (isVisible r.phrase) (n.formAt r.form).weight p (nameMissing n r ts)

/-! ## Choosing between trees -/

/-- Whether `b` is taken and not `a`: the cheaper one, the weightier one, a later broken one. -/
def prefers (a b : Tree) : Bool :=
  if b.tag.price < a.tag.price then true
  else if a.tag.price < b.tag.price then false
  else if b.tag.weight > a.tag.weight then true
  else if a.tag.weight > b.tag.weight then false
  else a.tag.price > 0

/-- Whether two trees can stand for each other. -/
def same (a b : Tree) : Bool :=
  a.tag.kind == b.tag.kind &&
    ((a.tag.price > 0 && b.tag.price > 0) ||
      (a.tag.opening.octets == b.tag.opening.octets && a.tag.start.octets == b.tag.start.octets &&
        a.tag.stop.octets == b.tag.stop.octets && a.parts.length == b.parts.length &&
        a.tag.extra == b.tag.extra))

end Tree

end Changeset.Repair

import Std.Data.HashMap
import Changeset.Repair.Net

/-!
# Machines

A machine reads symbols and knows in each state what can come next. Its states
are sets of spots that have been reached, each with the number of symbols read
in its form and the terminals that can follow the form. They are made when they
are first reached.
-/

namespace Changeset.Repair

/-- A spot that has been reached. -/
structure Item where
  spot : Nat
  count : Nat
  /-- The terminals that can follow the form. -/
  ahead : Nat
  deriving DecidableEq, Hashable

/-- A phrase that can be complete in a state. -/
structure Reduction where
  phrase : Nat
  count : Nat
  ahead : Nat
  form : Nat
  spot : Nat

structure State where
  kernel : List Item
  moves : Std.HashMap Nat (List Item)
  reductions : List Reduction
  valid : Nat
  /-- Words that are reserved are no names here. -/
  reserving : Bool

inductive Action where
  /-- Read it and go to a state; unless a repetition has to be complete before. -/
  | shift (state : Nat) (postponed : Bool)
  | pass
  | reduce (r : Reduction)
  | accept
  | skip

structure Machine where
  net : Net
  description : Description
  states : Array State
  index : Std.HashMap (List Item) Nat
  targets : Std.HashMap (Nat × Nat) Nat

namespace Item

def before (a b : Item) : Bool := a.spot < b.spot || (a.spot == b.spot && a.count < b.count)

/-- Puts an item into its place; terminals ahead are joined for the same item. -/
def insert (i : Item) : List Item → List Item
  | [] => [i]
  | j :: js =>
    if i.before j then i :: j :: js
    else if i.spot == j.spot && i.count == j.count then
      ⟨j.spot, j.count, i.ahead ||| j.ahead⟩ :: js
    else j :: insert i js

end Item

namespace Net

variable (n : Net)

def spotAt (i : Nat) : Spot := (n.spots[i]?).getD ⟨0, none, false, 0, [], false⟩

def formAt (i : Nat) : FormTag := (n.forms[i]?).getD ⟨0, .none, .none, 0, false⟩

def formOf (spot : Nat) : FormTag := n.formAt (n.spotAt spot).form

def isTerminal (symbol : Nat) : Bool := symbol < n.terminals.size

def startsOf (phrase : Nat) : List Nat := (n.starts[phrase - n.terminals.size]?).getD []

def leadsFrom (phrase : Nat) : List Lead := (n.leads[phrase - n.terminals.size]?).getD []

def beginsWith (symbol : Nat) : Nat := (n.begins[symbol]?).getD 0

def afterSpot (spot : Nat) : Nat := (n.after[spot]?).getD 0

def terminalAt (i : Nat) : Terminal := (n.terminals[i]?).getD .finish

def numberOf (t : Terminal) : Nat := n.terminals.toList.idxOf t

def following (spot ahead : Nat) : Nat :=
  n.afterSpot spot ||| (if (n.spotAt spot).last then ahead else 0)

/-! ## States -/

structure Opened where
  ahead : Array (Option Nat)
  waiting : List Nat

def Opened.add (o : Opened) (i ahead : Nat) : Opened :=
  match (o.ahead[i]?).getD none with
  | some known =>
    if known ||| ahead == known then o
    else ⟨o.ahead.setIfInBounds i (some (known ||| ahead)), i :: o.waiting⟩
  | none => ⟨o.ahead.setIfInBounds i (some ahead), i :: o.waiting⟩

def spread : Nat → Opened → Opened
  | 0, o => o
  | fuel + 1, o =>
    match o.waiting with
    | [] => o
    | i :: waiting =>
      let ahead := ((o.ahead[i]?).getD none).getD 0
      spread fuel ((n.leadsFrom (i + n.terminals.size)).foldl (fun o l =>
        o.add (l.phrase - n.terminals.size) (l.after ||| (if l.unbounded then ahead else 0)))
        ⟨o.ahead, waiting⟩)

def opened (kernel : List Item) : Opened :=
  let empty : Opened := ⟨(List.replicate n.phraseCount none).toArray, []⟩
  n.spread (n.phraseCount * 256) (kernel.foldl (fun o i =>
    (n.spotAt i.spot).next.foldl (fun o q =>
      let symbol := (n.spotAt q).symbol
      if n.isTerminal symbol then o
      else o.add (symbol - n.terminals.size) (n.following q i.ahead)) o) empty)

def move (moves : Std.HashMap Nat (List Item)) (symbol : Nat) (i : Item) :
    Std.HashMap Nat (List Item) :=
  moves.insert symbol (i.insert (moves.getD symbol []))

def insertReduction (r : Reduction) : List Reduction → List Reduction
  | [] => [r]
  | q :: qs =>
    if r.count < q.count || (r.count == q.count && r.phrase < q.phrase) then r :: q :: qs
    else if r.count == q.count && r.phrase == q.phrase &&
        (n.formAt r.form).rank == (n.formAt q.form).rank &&
        (n.formAt r.form).side == (n.formAt q.form).side &&
        (n.formAt r.form).weight == (n.formAt q.form).weight then
      { q with ahead := q.ahead ||| r.ahead } :: qs
    else q :: insertReduction r qs

def reductionsOf (kernel : List Item) : List Reduction :=
  kernel.foldl (fun rs i =>
    let s := n.spotAt i.spot
    if s.last then n.insertReduction ⟨(n.formAt s.form).phrase, i.count, i.ahead, s.form, i.spot⟩ rs
    else rs) []

def stateOf (kernel : List Item) : State :=
  let o := n.opened kernel
  let moves := kernel.foldl (fun moves i => (n.spotAt i.spot).next.foldl (fun moves q =>
    move moves (n.spotAt q).symbol ⟨q, i.count + 1, i.ahead⟩) moves) {}
  let moves := o.ahead.toList.zipIdx.foldl (fun moves (ahead, p) =>
    match ahead with
    | none => moves
    | some ahead => (n.startsOf (p + n.terminals.size)).foldl (fun moves q =>
      move moves (n.spotAt q).symbol ⟨q, 1, ahead⟩) moves) moves
  let reductions := n.reductionsOf kernel
  let shifted := moves.fold (fun all symbol _ =>
    if n.isTerminal symbol then all ||| bit symbol else all) 0
  let words := moves.getD 1 []
  { kernel
    moves
    reductions
    valid := reductions.foldl (fun all r => all ||| r.ahead) shifted
    reserving := words.all (fun i => !(n.spotAt i.spot).free) &&
      (!words.isEmpty || reductions.any fun r => r.ahead.testBit 1) }

end Net

namespace Strength

def covers (terminals : Nat) (s : Strength) (rank : Rank) (phrases : List Nat) : Bool :=
  match s with
  | .rank name => rank == .named name
  | .phrase p => phrases.contains (terminals + p.ctorIdx)

/-- Goes through an ordering until both sides have been seen. -/
def compareIn (terminals : Nat) (leftRank : Rank) (left : List Nat) (rightRank : Rank)
    (right : List Nat) : List Strength → Bool → Bool → Option Ordering
  | [], _, _ => none
  | s :: ss, seenLeft, seenRight =>
    if s.covers terminals leftRank left then
      if seenRight then some .lt
      else compareIn terminals leftRank left rightRank right ss true seenRight
    else if s.covers terminals rightRank right then
      if seenLeft then some .gt
      else compareIn terminals leftRank left rightRank right ss seenLeft true
    else compareIn terminals leftRank left rightRank right ss seenLeft seenRight

def compare (d : Description) (terminals : Nat) (leftRank : Rank) (left : List Nat)
    (rightRank : Rank) (right : List Nat) : Ordering :=
  let byName := (d.strengths.findSome? fun ss =>
    compareIn terminals leftRank left rightRank right ss false false).getD .eq
  match leftRank, rightRank with
  | .level l, .level r => if l != 0 || r != 0 then Ord.compare l r else byName
  | .level l, .none => if l != 0 then Ord.compare l 0 else byName
  | .none, .level r => if r != 0 then Ord.compare 0 r else byName
  | _, _ => byName

end Strength

namespace Machine

variable (m : Machine)

/-! ## Choosing among actions -/

structure Candidates where
  chosen : List Reduction := []
  rank : Rank := .none
  phrases : List Nat := []
  left : Bool := false
  right : Bool := false
  neither : Bool := false

def Candidates.add (c : Candidates) (r : Reduction) (tag : FormTag) : Candidates where
  chosen := c.chosen ++ [r]
  rank := tag.rank
  phrases := if c.phrases.contains r.phrase then c.phrases else c.phrases ++ [r.phrase]
  left := c.left || tag.side == .left
  right := c.right || tag.side == .right
  neither := c.neither || tag.side == .none

def compareRanks (leftRank : Rank) (left : List Nat) (rightRank : Rank) (right : List Nat) :
    Ordering :=
  Strength.compare m.description m.net.terminals.size leftRank left rightRank right

def candidates (s : State) (t : Nat) : Candidates :=
  s.reductions.foldl (fun c r =>
    if !r.ahead.testBit t then c
    else
      let tag := m.net.formAt r.form
      if c.chosen.isEmpty then c.add r tag
      else match m.compareRanks tag.rank [r.phrase] c.rank c.phrases with
        | .gt => Candidates.add {} r tag
        | .eq => c.add r tag
        | .lt => c) {}

def goingOn (s : State) (t : Nat) : List Item :=
  s.kernel.filter fun i => i.count > 0 && (m.net.spotAt i.spot).next.any fun q =>
    (m.net.beginsWith (m.net.spotAt q).symbol).testBit t

/-- What becomes of reading on where a phrase could be complete as well. -/
inductive Choice where
  | both | shiftOnly | reduceOnly
  | repetition

def choose (s : State) (t : Nat) (c : Candidates) : Choice :=
  let on := m.goingOn s t
  let tags := on.map (fun i => m.net.formOf i.spot) ++
    (s.reductions.filter fun r => r.ahead.testBit t).map fun r => m.net.formAt r.form
  let repeating := match tags with
    | [] => false
    | g :: gs => g.repeated && gs.all fun h => h.phrase == g.phrase
  if repeating then .repetition
  else
    let orders := on.map fun i =>
      let g := m.net.formOf i.spot
      m.compareRanks g.rank [g.phrase] c.rank c.phrases
    let more := orders.contains .gt
    let less := orders.contains .lt
    if more && !less then .shiftOnly
    else if less && !more then .reduceOnly
    else if !less && !more then
      if c.left && !c.neither && !c.right then .reduceOnly
      else if c.right && !c.neither && !c.left then .shiftOnly
      else .both
    else .both

def isPassing (t : Nat) : Bool :=
  match m.net.terminalAt t with
  | .comment | .markupComment => true
  | _ => false

def brokenState : Nat := 0

def startState : Nat := 1

def emptyState : State := ⟨[], {}, [], 0, false⟩

def stateAt (i : Nat) : State := (m.states[i]?).getD emptyState

def new (d : Description) : Machine :=
  let net := Net.ofDescription d
  let start := net.stateOf [⟨net.entry, 0, 1⟩]
  -- a program can be empty
  { net
    description := d
    states := #[emptyState, { start with
      reductions := [⟨net.terminals.size, 0, 1, 0, net.entry⟩], valid := start.valid ||| 1 }]
    index := {}
    targets := {} }

def target (s symbol : Nat) : Option Nat × Machine :=
  match m.targets.get? (s, symbol) with
  | some t => (some t, m)
  | none =>
    match (m.stateAt s).moves.get? symbol with
    | none => (none, m)
    | some kernel =>
      match m.index.get? kernel with
      | some t => (some t, { m with targets := m.targets.insert (s, symbol) t })
      | none =>
        let t := m.states.size
        (some t, { m with
          states := m.states.push (m.net.stateOf kernel)
          index := m.index.insert kernel t
          targets := m.targets.insert (s, symbol) t })

structure Resolution where
  reductions : List Reduction
  shifts : Bool
  /-- It is read on only after the reductions. -/
  postponed : Bool

def resolve (s : State) (t : Nat) : Resolution :=
  let c := m.candidates s t
  if !s.moves.contains t then ⟨c.chosen, false, false⟩
  else if c.chosen.isEmpty then ⟨[], true, false⟩
  else match m.choose s t c with
    | .both => ⟨c.chosen, true, false⟩
    | .shiftOnly => ⟨[], true, false⟩
    | .reduceOnly => ⟨c.chosen, false, false⟩
    | .repetition => ⟨c.chosen, true, true⟩

def actions (s t : Nat) : List Action × Machine :=
  if s == brokenState then (if m.isPassing t then [.pass] else [.skip], m)
  else
    let r := m.resolve (m.stateAt s) t
    let reduces := r.reductions.map fun r =>
      if r.phrase == m.net.top then Action.accept else .reduce r
    if r.shifts then
      match m.target s t with
      | (none, m) => (reduces, m)
      | (some next, m) => (reduces ++ [.shift next r.postponed], m)
    else if reduces.isEmpty && m.isPassing t then ([.pass], m)
    else (reduces, m)

def hasActions (s t : Nat) : Bool :=
  s == brokenState || m.isPassing t ||
    let r := m.resolve (m.stateAt s) t
    r.shifts || !r.reductions.isEmpty

/-- Whether something has to be complete before the terminal `t`. -/
def reduces (s t : Nat) : Bool :=
  s != brokenState && !(m.resolve (m.stateAt s) t).reductions.isEmpty

end Machine

end Changeset.Repair

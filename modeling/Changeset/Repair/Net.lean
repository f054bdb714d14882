import Changeset.Repair.Term

/-!
# Nets

A grammar is laid out as a net of spots: each place in a form where a symbol
stands, with the spots that can follow it. Symbols are numbered, terminals
first, then phrases, then the repetitions, which are phrases of their own. Sets
of terminals are numbers, one bit for each terminal.
-/

namespace Changeset.Repair

/-- A place in a form where a symbol stands. -/
structure Spot where
  symbol : Nat
  label : Option String
  /-- No word is reserved here. -/
  free : Bool
  form : Nat
  next : List Nat := []
  last : Bool := false

structure FormTag where
  phrase : Nat
  rank : Rank
  side : Side
  weight : Int
  repeated : Bool

/-- What leads from a phrase to one that can begin it. -/
structure Lead where
  phrase : Nat
  after : Nat
  /-- Whatever can follow the phrase itself can follow there as well. -/
  unbounded : Bool

structure Net where
  terminals : Array Terminal
  phraseCount : Nat
  spots : Array Spot
  forms : Array FormTag
  /-- The spots that can come first, by phrase. -/
  starts : Array (List Nat)
  /-- The terminals that can come first, by symbol. -/
  begins : Array Nat
  after : Array Nat
  leads : Array (List Lead)
  entry : Nat
  /-- What a program in that place would be part of; it is the last phrase. -/
  top : Nat

namespace Net

def bit (t : Nat) : Nat := 1 <<< t

/-! ## Terms without inline phrases -/

def expand (d : Description) : Nat → Term → Term
  | 0, t => t
  | depth + 1, t =>
    match t with
    | .phrase p =>
      match d.meaning p with
      | .inline u => expand d depth u
      | .leaf a => .token a
      | _ => t
    | .seq a b => .seq (expand d depth a) (expand d depth b)
    | .alt a b => .alt (expand d depth a) (expand d depth b)
    | .many1 a => .many1 (expand d depth a)
    | .called name a => .called name (expand d depth a)
    | .free a => .free (expand d depth a)
    | t => t

def expanded (d : Description) (t : Term) : Term := expand d 64 t

/-! ## The symbols of a grammar -/

def grammarPhrases : Nat := Phrase.typeName.ctorIdx + 1

def phrases : List Phrase := (List.range grammarPhrases).map Phrase.ofNat

def bodies : Meaning → List Term
  | .forms fs => fs.map Form.body
  | .inline t => [t]
  | .leaf t => [.token t]
  | .absent => []

def tokensOf : Term → List Terminal
  | .token t => [t]
  | .seq a b | .alt a b => tokensOf a ++ tokensOf b
  | .many1 a | .called _ a | .free a => tokensOf a
  | _ => []

def repeatsOf : Term → List Term
  | .seq a b | .alt a b => repeatsOf a ++ repeatsOf b
  | .many1 a => repeatsOf a ++ [a]
  | .called _ a | .free a => repeatsOf a
  | _ => []

def distinct {α : Type} [BEq α] (xs : List α) : List α :=
  (xs.foldl (fun seen x => if seen.contains x then seen else x :: seen) []).reverse

/-- All terminals in the order in which a missing one is looked for. -/
def terminalsOf (d : Description) : List Terminal :=
  let all := phrases.flatMap fun p => (bodies (d.meaning p)).flatMap tokensOf
  distinct ([.finish, .word] ++ all.filter (fun t => !t.isContextual) ++ d.contextual)

def repeatsIn (d : Description) : List Term :=
  distinct (phrases.flatMap fun p =>
    match d.meaning p with
    | .forms fs => fs.flatMap fun f => repeatsOf (expanded d f.body)
    | _ => [])

structure Symbols where
  terminals : List Terminal
  repeats : List Term

namespace Symbols

def ofTerminal (y : Symbols) (t : Terminal) : Nat := y.terminals.idxOf t

def ofPhrase (y : Symbols) (p : Phrase) : Nat := y.terminals.length + p.ctorIdx

def ofRepeat (y : Symbols) (body : Term) : Nat :=
  y.terminals.length + grammarPhrases + y.repeats.idxOf body

end Symbols

/-! ## Laying out forms -/

structure Piece where
  first : List Nat
  last : List Nat
  empty : Bool

def union (xs ys : List Nat) : List Nat := xs ++ ys.filter fun y => !xs.contains y

def link (spots : Array Spot) (last first : List Nat) : Array Spot :=
  last.foldl (fun spots i => spots.modify i fun s => { s with next := union s.next first }) spots

def lay (y : Symbols) (form : Nat) (label : Option String) (free : Bool) :
    Term → Array Spot → Piece × Array Spot
  | .token t, spots =>
    (⟨[spots.size], [spots.size], false⟩,
      spots.push { symbol := y.ofTerminal t, label, free, form })
  | .phrase p, spots =>
    (⟨[spots.size], [spots.size], false⟩, spots.push { symbol := y.ofPhrase p, label, free, form })
  | .many1 body, spots =>
    (⟨[spots.size], [spots.size], false⟩,
      spots.push { symbol := y.ofRepeat body, label, free, form })
  | .empty, spots => (⟨[], [], true⟩, spots)
  | .seq a b, spots =>
    let (p, spots) := lay y form label free a spots
    let (q, spots) := lay y form label free b spots
    (⟨if p.empty then union p.first q.first else p.first,
      if q.empty then union p.last q.last else q.last, p.empty && q.empty⟩,
      link spots p.last q.first)
  | .alt a b, spots =>
    let (p, spots) := lay y form label free a spots
    let (q, spots) := lay y form label free b spots
    (⟨union p.first q.first, union p.last q.last, p.empty || q.empty⟩, spots)
  | .called name a, spots => lay y form (some name) free a spots
  | .free a, spots => lay y form label true a spots

structure Layout where
  spots : Array Spot := #[]
  forms : Array FormTag := #[]
  starts : Array (List Nat)

def Layout.add (y : Symbols) (o : Layout) (tag : FormTag) (body : Term) : Layout :=
  let (p, spots) := lay y o.forms.size none false body o.spots
  let spots := p.last.foldl (fun spots i => spots.modify i fun s => { s with last := true }) spots
  { spots
    forms := o.forms.push tag
    starts := o.starts.modify (tag.phrase - y.terminals.length) (union · p.first) }

def layout (d : Description) (y : Symbols) : Layout :=
  let empty : Layout :=
    { starts := (List.replicate (grammarPhrases + y.repeats.length) []).toArray }
  let written := phrases.foldl (fun o p =>
    match d.meaning p with
    | .forms fs => fs.foldl (fun o f =>
        o.add y ⟨y.ofPhrase p, f.rank, f.side, f.weight, false⟩ (expanded d f.body)) o
    | _ => o) empty
  y.repeats.foldl (fun o body =>
    let tag : FormTag := ⟨y.ofRepeat body, .none, .none, 0, true⟩
    (o.add y tag (.seq (.many1 body) (.many1 body))).add y tag body) written

/-! ## What can come first, and what can follow -/

/-- One round: the terminals that phrases begin with, given what is known of them. -/
def growBegins (o : Layout) (terminals : Nat) (begins : Array Nat) : Array Nat :=
  o.starts.zipIdx.foldl (fun begins (starts, i) =>
    let all := starts.foldl (fun all s => all ||| begins[(o.spots[s]?.map Spot.symbol).getD 0]?.getD 0)
      (begins[terminals + i]?.getD 0)
    begins.setIfInBounds (terminals + i) all) begins

def settle (grow : Array Nat → Array Nat) : Nat → Array Nat → Array Nat
  | 0, xs => xs
  | fuel + 1, xs =>
    let ys := grow xs
    if ys == xs then xs else settle grow fuel ys

def beginsOf (o : Layout) (terminals : Nat) : Array Nat :=
  let first := (List.range (terminals + o.starts.size)).map fun i =>
    if i < terminals then bit i else 0
  settle (growBegins o terminals) (o.starts.size + 1) first.toArray

def afterOf (o : Layout) (begins : Array Nat) : Array Nat :=
  o.spots.map fun s =>
    s.next.foldl (fun all i => all ||| begins[(o.spots[i]?.map Spot.symbol).getD 0]?.getD 0) 0

def addLead (leads : List Lead) (phrase after : Nat) (unbounded : Bool) : List Lead :=
  match leads with
  | [] => [⟨phrase, after, unbounded⟩]
  | l :: ls =>
    if l.phrase == phrase then ⟨phrase, l.after ||| after, l.unbounded || unbounded⟩ :: ls
    else l :: addLead ls phrase after unbounded

def leadsOf (o : Layout) (terminals : Nat) (after : Array Nat) : Array (List Lead) :=
  o.starts.map fun starts => starts.foldl (fun leads i =>
    match o.spots[i]? with
    | none => leads
    | some s =>
      if s.symbol < terminals then leads
      else addLead leads s.symbol (after[i]?.getD 0) s.last) []

/-- Puts a program into a phrase that nothing else is made of. -/
def enclose (y : Symbols) (o : Layout) : Layout :=
  let form := o.forms.size
  { spots := (o.spots.push {
        symbol := y.terminals.length + o.starts.size
        label := none
        free := false
        form
        next := [o.spots.size + 1] }).push {
        symbol := y.ofPhrase .program
        label := none
        free := false
        form
        last := true }
    forms := o.forms.push ⟨y.terminals.length + o.starts.size, .none, .none, 0, false⟩
    starts := o.starts.push [] }

def ofDescription (d : Description) : Net :=
  let y : Symbols := ⟨terminalsOf d, repeatsIn d⟩
  let written := layout d y
  let o := enclose y written
  let begins := beginsOf o y.terminals.length
  let after := afterOf o begins
  { terminals := y.terminals.toArray
    phraseCount := o.starts.size
    spots := o.spots
    forms := o.forms
    starts := o.starts
    begins
    after
    leads := leadsOf o y.terminals.length after
    entry := written.spots.size
    top := y.terminals.length + written.starts.size }

end Net

end Changeset.Repair

import Changeset.Repair.Stack

/-!
# Repairs

A text is read on all stacks that its beginning allows. Where none of them can
go on, a token is put in, or tokens are skipped up to one that some state
further down can use. Repairs have a price; the readings are compared by it, and
the cheapest that reaches the end is the result.
-/

namespace Changeset.Repair

structure Session where
  grammar : Grammar
  machine : Machine
  stack : Stack
  finished : Option Tree
  accepted : Nat
  isVisible : Nat → Bool

abbrev Work := StateM Session

namespace Work

/-- How many readings are kept, and how many more there can be for a while. -/
def maxVersions : Nat := 6
def overflow : Nat := 4

/-- From which difference on a cheaper reading drives out another. -/
def maxDifference : Nat := 18 * skippedTreePrice

def stack : Work Stack := do
  let s ← get
  pure s.stack

def onStack (f : Stack → Stack) : Work Unit := modify fun s => { s with stack := f s.stack }

def machine : Work Machine := do
  let s ← get
  pure s.machine

def target (state symbol : Nat) : Work (Option Nat) := modifyGet fun s =>
  let (t, m) := s.machine.target state symbol
  (t, { s with machine := m })

def actions (state symbol : Nat) : Work (List Action) := modifyGet fun s =>
  let (a, m) := s.machine.actions state symbol
  (a, { s with machine := m })

def symbolOf (t : Tree) : Option Nat :=
  match t.tag.kind with
  | .symbol i => some i
  | _ => none

/-! ## Reductions -/

/-- Goes on with a stack on which versions have been joined, if they could be. -/
def join : Option Stack → Work Bool
  | some k => do
    onStack fun _ => k
    pure true
  | none => pure false

def joinEarlier (v w : Nat) (candidates : List Nat) : Work Bool := do
  let k ← stack
  join (candidates.findSome? fun j => if j == v then none else k.merge j w)

/-- The parts and the extras that make the best tree of several slices. -/
def bestParts (build : List Tree → Tree) : List (List Tree) → List Tree × List Tree
  | [] => ([], [])
  | first :: others => others.foldl (fun best trees =>
      let next := Tree.splitExtras trees
      if Tree.prefers (build best.1) (build next.1) then next else best) (Tree.splitExtras first)

/-- Completes a phrase on one of the versions that taking its parts off has left. -/
def complete (v w : Nat) (r : Reduction) (slices : List (List Tree)) : Work Bool := do
  let s ← get
  let k := s.stack
  let net := s.machine.net
  let place := k.place w
  let plain := fun ts => Tree.ofParts (.symbol r.phrase) (s.isVisible r.phrase) 0 place ts
  let (parts, extras) := bestParts plain slices
  let next ← target (k.state w) r.phrase
  let state := next.getD Machine.brokenState
  onStack fun k => (k.push w (some (Tree.ofReduction net s.isVisible r place parts)) state).pushAll w
    extras state
  joinEarlier v w (List.range w)

def completeAll (v limit : Nat) (r : Reduction) : Nat → List Slice → Nat → Work Unit
  | 0, _, _ => pure ()
  | _, [], _ => pure ()
  | fuel + 1, s :: rest, removed => do
    let same := (rest.takeWhile fun t => t.version == s.version).map Slice.trees
    let rest := rest.dropWhile fun t => t.version == s.version
    let w := s.version - removed
    if w > limit then do
      onStack fun k => k.remove w
      completeAll v limit r fuel rest (removed + 1)
    else do
      let joined ← complete v w r (s.trees :: same)
      completeAll v limit r fuel rest (if joined then removed + 1 else removed)

def reduce (v : Nat) (r : Reduction) : Work (Option Nat) := do
  let k ← stack
  let before := k.size
  let limit := maxVersions + overflow + k.haltedCount
  let (slices, k) := k.popCount v r.count
  onStack fun _ => k
  completeAll v limit r (slices.length + 1) slices 0
  let k ← stack
  pure (if k.size > before then some before else none)

/-! ## Comparing readings -/

structure Standing where
  price : Nat
  count : Nat
  weight : Int
  broken : Bool

inductive Verdict where
  | takeLeft | preferLeft | none | preferRight | takeRight

def standing (k : Stack) (v : Nat) : Standing where
  price := k.price v + (if k.isPaused v then skippedTreePrice else 0)
  count := k.progress v
  weight := k.weight v
  broken := k.isPaused v || k.state v == Machine.brokenState

def compare (a b : Standing) : Verdict :=
  if !a.broken && b.broken then
    if a.price < b.price then .takeLeft else .preferLeft
  else if a.broken && !b.broken then
    if b.price < a.price then .takeRight else .preferRight
  else if a.price < b.price then
    if (b.price - a.price) * (1 + a.count) > maxDifference then .takeLeft else .preferLeft
  else if b.price < a.price then
    if (a.price - b.price) * (1 + b.count) > maxDifference then .takeRight else .preferRight
  else if a.weight > b.weight then .preferLeft
  else if b.weight > a.weight then .preferRight
  else .none

/-- Whether some other reading is as far and better than `v` would be at this price. -/
def betterExists (v : Nat) (broken : Bool) (price : Nat) : Work Bool := do
  let s ← get
  let k := s.stack
  let finished := (s.finished.map fun t => decide (t.tag.price ≤ price)).getD false
  let own : Standing := ⟨price, k.progress v, k.weight v, broken⟩
  pure (finished || (List.range k.size).any fun i =>
    if i == v || !k.isActive i || (k.place i).octets < (k.place v).octets then false
    else match compare own (standing k i) with
      | .takeRight => true
      | .preferRight => k.canMerge i v
      | _ => false)

/-! ## Ends -/

def accept (v : Nat) (token : Tree) : Work Unit := do
  onStack fun k => k.push v (some token) Machine.startState
  let k ← stack
  let (slices, k) := k.popAll v
  for s in slices do
    let rest := s.trees.reverse.dropWhile fun t => t.tag.extra
    match rest with
    | [] => pure ()
    | root :: below =>
      let extras := (s.trees.reverse.takeWhile fun t => t.tag.extra).reverse
      let tree := Tree.ofParts root.tag.kind true root.tag.weight (k.place v)
        (below.reverse ++ root.parts ++ extras)
      modify fun s => { s with
        accepted := s.accepted + 1
        finished := match s.finished with
          | none => some tree
          | some t => if t.prefers tree then some tree else some t }
  let first := (slices.head?.map Slice.version).getD k.size
  onStack fun _ => (k.remove first).halt v

/-! ## Skipping -/

/-- Goes back to a state `depth` trees down and puts what stood above into a broken tree. -/
def goBackTo (v depth goal : Nat) : Work Bool := do
  let k ← stack
  let (slices, k) := k.popCount v depth
  onStack fun _ => k
  let mut previous : Option Nat := none
  for s in slices do
    if previous == some s.version then pure ()
    else do
      let k ← stack
      if k.state s.version != goal then onStack fun k => k.halt s.version
      else do
        let (trees, k) := match k.popBroken s.version with
          | some (broken, k) => ((broken.flatMap Tree.parts) ++ s.trees, k)
          | none => (s.trees, k)
        let (trees, extras) := Tree.splitExtras trees
        let place := k.place s.version
        let k := if trees.isEmpty then k
          else k.push s.version (some (Tree.broken place trees).withExtra) goal
        onStack fun _ => k.pushAll s.version extras goal
        previous := some s.version
  pure previous.isSome

def goBack (v : Nat) (token : Tree) (before : Nat) : List Depth → Work Bool
  | [] => pure false
  | d :: ds => do
    let k ← stack
    let place := k.place v
    if d.state == Machine.brokenState || d.place.octets == place.octets then
      goBack v token before ds
    else if (List.range before).any fun j =>
        k.state j == d.state && (k.place j).octets == place.octets then
      goBack v token before ds
    else do
      let price := k.price v + d.depth * skippedTreePrice +
        (place.octets - d.place.octets) * skippedOctetPrice +
        (place.row - d.place.row) * skippedRowPrice
      let better ← betterExists v false price
      if better then pure false
      else do
        let m ← machine
        let usable := match symbolOf token with
          | some i => m.hasActions d.state i
          | none => false
        if usable then do
          let done ← goBackTo v (if k.progress v > 0 then d.depth + 1 else d.depth) d.state
          if done then pure true else goBack v token before ds
        else goBack v token before ds

def removeHalted (first : Nat) : Work Unit := onStack fun k =>
  { k with versions := (k.versions.toList.take first ++
      (k.versions.toList.drop first).filter fun v =>
        match v.status with
        | .active => true
        | _ => false).toArray }

/-- Skips a token: wraps it, together with those that have just been skipped. -/
def skipToken (v : Nat) (token : Tree) : Work Unit := do
  let m ← machine
  let token := match symbolOf token with
    | some i => if m.isPassing i then token.withExtra else token
    | none => token
  let k ← stack
  let wrapped := Tree.skipped token.tag.start [token]
  if k.progress v > 0 then do
    let (slices, k) := k.popCount v 1
    match slices with
    | [] => onStack fun _ => k.push v (some wrapped) Machine.brokenState
    | s :: _ =>
      let k := { k with versions := k.versions.take (s.version + 1) }
      let k := k.renumber s.version v
      onStack fun _ => k.push v (some (Tree.skipped token.tag.start (s.trees ++ [wrapped])))
        Machine.brokenState
  else onStack fun k => k.push v (some wrapped) Machine.brokenState

def recover (v : Nat) (token : Tree) : Work Unit := do
  let k ← stack
  let before := k.size
  let price := k.price v
  onStack fun k => k.settleBase v
  let found ← match (k.versionAt v).summary with
    | some summary => if token.isBroken then pure false else goBack v token before summary
    | none => pure false
  removeHalted before
  let k ← stack
  if symbolOf token == some 0 then do
    onStack fun k => k.push v (some (Tree.broken (k.place v) [])) Machine.startState
    accept v token
  else if found && k.size > maxVersions then onStack fun k => k.halt v
  else do
    let better ← betterExists v false (price + skippedTreePrice + token.octets * skippedOctetPrice +
      token.rows * skippedRowPrice)
    if better then onStack fun k => k.halt v
    else skipToken v token

/-! ## Putting in -/

def joinWithin (first v : Nat) : Work Bool := do
  let k ← stack
  join (((List.range v).drop first).findSome? fun j => k.merge j v)

def possible (m : Machine) (state : Nat) (only : Option Nat) : List Reduction × Bool :=
  let s := m.stateAt state
  let terminals := match only with
    | some t => [t]
    | none => (List.range m.net.terminals.size).drop 1
  terminals.foldl (fun (rs, shifts) t =>
    let r := m.resolve s t
    (r.reductions.foldl (fun rs r =>
      if r.phrase == m.net.top || rs.any fun q => q.phrase == r.phrase && q.count == r.count then rs
      else rs ++ [r]) rs,
      shifts || (r.shifts && !r.postponed))) ([], false)

/--
Completes on the version `first`, and on what comes of it, whatever can be
complete before the token `only`, or before any. Says whether the token can be
read then.
-/
def completePossible (start : Nat) (only : Option Nat) (initial : Nat) :
    Nat → Nat → Nat → Bool → Work Bool
  | 0, _, _, usable => pure usable
  | fuel + 1, v, round, usable => do
    let k ← stack
    let count := k.size
    if v ≥ count then pure usable
    else do
      let joined ← joinWithin initial v
      if joined then completePossible start only initial fuel v (round + 1) usable
      else do
        let m ← machine
        let (reductions, shifts) := possible m (k.state v) only
        let mut last : Option Nat := none
        for r in reductions do
          let made ← reduce v r
          last := made
        let next := if v == start then count else v + 1
        if shifts then completePossible start only initial fuel next (round + 1) true
        else match last with
          | some w =>
            if round < maxVersions then do
              onStack fun k => k.renumber w v
              completePossible start only initial fuel v (round + 1) usable
            else do
              if only.isSome then onStack fun k => k.remove v
              completePossible start only initial fuel next (round + 1) usable
          | none => do
            if only.isSome then onStack fun k => k.remove v
            completePossible start only initial fuel next (round + 1) usable

def completeEverything (v : Nat) (only : Option Nat) : Work Bool := do
  let k ← stack
  completePossible v only k.size 400 v 0 false

def putIn (v : Nat) (token : Tree) (symbol : Nat) : List Nat → Work Bool
  | [] => pure false
  | t :: ts => do
    let k ← stack
    let m ← machine
    let state := k.state v
    let r := m.resolve (m.stateAt state) t
    if !r.shifts then putIn v token symbol ts
    else
      let next ← target state t
      match next with
      | none => putIn v token symbol ts
      | some next => do
        let m ← machine
        if next == state || !m.reduces next symbol then putIn v token symbol ts
        else do
          let k ← stack
          let w := k.size
          let place := k.place v
          onStack fun k => (k.copy v).push w (some (Tree.absent m.net t place)) next
          let usable ← completeEverything w (if symbol == 0 then none else some symbol)
          if usable then pure true else putIn v token symbol ts

def breakOff (first previous count : Nat) (token : Tree) : Nat → Nat → Bool → Work Unit
  | 0, _, _ => pure ()
  | fuel + 1, v, inserted =>
    if v ≥ count then pure ()
    else do
      let m ← machine
      let inserted ← if inserted then pure true
        else match symbolOf token with
          | some symbol => putIn v token symbol ((List.range m.net.terminals.size).drop 1)
          | none => pure false
      onStack fun k => k.push v none Machine.brokenState
      breakOff first previous count token fuel (if v == first then previous else v + 1) inserted

def repair (v : Nat) (token : Tree) : Work Unit := do
  let k ← stack
  let previous := k.size
  let _ ← completeEverything v none
  let k ← stack
  let count := k.size
  breakOff v previous count token (count + 1) v false
  for _ in List.range (count - previous) do
    let k ← stack
    let _ ← join (k.merge v previous)
  onStack fun k => k.recordSummary v
  recover v token

/-! ## Reading on -/

inductive Outcome where
  | done
  | reduced (version : Option Nat)
  | nothing

def perform (v : Nat) (token : Tree) : List Action → Outcome → Work Outcome
  | [], o => pure o
  | a :: rest, o =>
    match a with
    | .shift state postponed =>
      if postponed then perform v token rest o
      else do
        onStack fun k => k.push v (some token) state
        pure .done
    | .pass => do
      onStack fun k => k.push v (some token.withExtra) (k.state v)
      pure .done
    | .reduce r => do
      let made ← reduce v r
      let kept := match o with
        | .reduced w => w
        | _ => none
      perform v token rest (.reduced (made <|> kept))
    | .accept => do
      accept v token
      pure .done
    | .skip => do
      recover v token
      pure .done

def reserves (s : State) (m : Machine) (i : Nat) : Bool :=
  s.reserving && m.description.reserved.contains (m.net.terminalAt i).name

def act (v : Nat) (token : Tree) (keyword : Bool) : Nat → Nat → Work Unit
  | 0, _ => onStack fun k => k.halt v
  | fuel + 1, symbol => do
    let k ← stack
    let state := k.state v
    let choices ← actions state symbol
    let outcome ← perform v token choices .nothing
    match outcome with
    | .done => pure ()
    | .reduced (some w) => do
      onStack fun k => k.renumber w v
      act v token keyword fuel symbol
    | .reduced none => onStack fun k => k.halt v
    | .nothing => do
      let m ← machine
      let asWord ← if keyword && symbol != 1 && !reserves (m.stateAt state) m symbol then
          actions state 1
        else pure []
      if !asWord.isEmpty then
        act v (.node { token.tag with kind := .symbol 1 } []) keyword fuel 1
      else if state == Machine.brokenState then recover v token
      else onStack fun k => k.pause v token

def advance (v : Nat) : Work Unit := do
  let s ← get
  let k := s.stack
  let token := s.machine.next s.grammar (k.state v) (k.place v) (k.hasMoved v)
  let tree := Tree.ofToken s.machine.net token
  match token.symbol with
  | some symbol => act v tree token.keyword 1000 symbol
  | none =>
    if k.state v == Machine.brokenState then recover v tree
    else onStack fun k => k.pause v tree

/-- Reads on the version `v` until it is ahead; `last` is how far any has come. -/
def advanceWhile (v : Nat) : Nat → Nat → Work Nat
  | 0, last => pure last
  | fuel + 1, last => do
    let k ← stack
    if !k.isActive v then pure last
    else do
      advance v
      let k ← stack
      let position := (k.place v).octets
      if position > last || (v > 0 && position == last) then pure position
      else advanceWhile v fuel last

def advanceAll : Nat → Nat → Nat → Work Nat
  | 0, _, last => pure last
  | fuel + 1, v, last => do
    let k ← stack
    if v ≥ k.size then pure last
    else do
      let last ← advanceWhile v 1000 last
      advanceAll fuel (v + 1) last

/-! ## Thinning out -/

def compareWith (s : Standing) : Nat → Nat → Nat → Work Nat
  | 0, i, _ => pure i
  | fuel + 1, i, j =>
    if j ≥ i then pure (i + 1)
    else do
      let k ← stack
      match compare (standing k j) s with
      | .takeLeft => do
        onStack fun k => k.remove i
        pure i
      | .preferLeft | .none => do
        let joined ← join (k.merge j i)
        if joined then pure i else compareWith s fuel i (j + 1)
      | .preferRight => do
        let joined ← join (k.merge j i)
        if joined then pure i
        else do
          onStack fun k => k.swap i j
          compareWith s fuel i (j + 1)
      | .takeRight => do
        onStack fun k => k.remove j
        compareWith s fuel (i - 1) j

/-- Removes what has ended and what is beaten; gives the lowest price of a sound reading. -/
def thin : Nat → Nat → Option Nat → Work (Option Nat)
  | 0, _, least => pure least
  | fuel + 1, i, least => do
    let k ← stack
    if i ≥ k.size then pure least
    else if k.isHalted i then do
      onStack fun k => k.remove i
      thin fuel i least
    else do
      onStack fun k => k.settleBase i
      let k ← stack
      let s := standing k i
      let least := if s.broken then least
        else match least with
          | some p => some (min p s.price)
          | none => some s.price
      let next ← compareWith s 64 i 0
      thin fuel next least

/-- Repairs the first version that is paused, if none before it can go on; drops the others. -/
def resume : Nat → Nat → Bool → Option Nat → Work (Option Nat)
  | 0, _, _, least => pure least
  | fuel + 1, i, going, least => do
    let s ← get
    let k := s.stack
    if i ≥ k.size then pure least
    else match (k.versionAt i).status with
      | .paused token =>
        if !going && s.accepted < maxVersions then do
          let price := k.price i
          onStack fun k => k.update i fun v => { v with status := .active }
          let count := k.size
          repair i token
          -- what the repair has added is not looked at in this round
          let rest := count - (i + 1)
          resumeRest rest (i + 1)
          pure (some price)
        else do
          onStack fun k => k.remove i
          resume fuel i going least
      | _ => resume fuel (i + 1) true least
where
  resumeRest : Nat → Nat → Work Unit
    | 0, _ => pure ()
    | fuel + 1, i => do
      let k ← stack
      if i ≥ k.size then pure ()
      else if k.isPaused i then do
        onStack fun k => k.remove i
        resumeRest fuel i
      else resumeRest fuel (i + 1)

def condense : Work (Option Nat) := do
  let least ← thin 1000 0 none
  onStack fun k => { k with versions := k.versions.take maxVersions }
  resume 64 0 false least

/-- Reads until a finished tree is the cheapest, or nothing is left to read. -/
def run : Nat → Nat → Work Unit
  | 0, _ => pure ()
  | fuel + 1, last => do
    let last ← advanceAll 64 0 last
    let least ← condense
    let s ← get
    let exceeded := match s.finished, least with
      | some t, some p => t.tag.price < p
      | some _, none => true
      | none, _ => false
    if exceeded || s.stack.size == 0 then pure ()
    else run fuel last

end Work

end Changeset.Repair

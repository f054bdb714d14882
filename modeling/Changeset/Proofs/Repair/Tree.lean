import Changeset.Proofs.Text.Place
import Changeset.Repair.Tree

/-!
# Trees of a text

The nodes of a tree in document order are the tree itself and then those of its
parts. Something is wrong with a tree exactly if it is wrong with one of them
(`hasError_iff`).

A tree is one of a text if all its nodes start and stop at places of the text
(`Tree.IsIn`). Tokens are, and so is whatever is made of such trees.
-/

namespace Changeset.Repair

open Script (isBlank isSpace)

namespace Tree

-- ---------------------------------------------------------------------------
-- Nodes in document order
-- ---------------------------------------------------------------------------

mutual

def nodes : Tree → List Tree
  | node tag parts => node tag parts :: nodesIn parts

def nodesIn : List Tree → List Tree
  | [] => []
  | t :: ts => t.nodes ++ nodesIn ts

end

theorem mem_nodes_self (t : Tree) : t ∈ t.nodes := by
  cases t with
  | node tag parts => exact List.mem_cons_self

theorem nodesIn_append (ts us : List Tree) : nodesIn (ts ++ us) = nodesIn ts ++ nodesIn us := by
  induction ts with
  | nil => rfl
  | cons t ts ih => rw [List.cons_append, nodesIn, ih, nodesIn, List.append_assoc]

mutual

theorem hasError_iff (t : Tree) : t.hasError = true ↔ ∃ n ∈ t.nodes, n.fault? ≠ none := by
  cases t with
  | node tag parts =>
    rw [hasError, nodes, Bool.or_eq_true, anyHasError_iff parts, Option.isSome_iff_ne_none]
    simp

theorem anyHasError_iff (ts : List Tree) :
    anyHasError ts = true ↔ ∃ n ∈ nodesIn ts, n.fault? ≠ none := by
  cases ts with
  | nil => simp [anyHasError, nodesIn]
  | cons t ts =>
    rw [anyHasError, nodesIn, Bool.or_eq_true, hasError_iff t, anyHasError_iff ts]
    simp [or_and_right, exists_or]

end

theorem place_of_fault? {t : Tree} {f : Fault} (h : t.fault? = some f) : f.place = t.tag.start := by
  unfold fault? at h
  split at h
  · obtain ⟨_, _, rfl⟩ := Option.map_eq_some_iff.mp h
    rfl
  split at h
  · cases h
    rfl
  · cases h

theorem mem_nodesIn {n : Tree} {ts : List Tree} : n ∈ nodesIn ts ↔ ∃ t ∈ ts, n ∈ t.nodes := by
  induction ts with
  | nil => simp [nodesIn]
  | cons t ts ih => simp [nodesIn, ih]

end Tree

-- ---------------------------------------------------------------------------
-- Trees of a text
-- ---------------------------------------------------------------------------

variable {s : List Char}

structure TreeTag.IsIn (g : TreeTag) (s : List Char) : Prop where
  start : g.start.IsIn s
  stop : g.stop.IsIn s

namespace Tree

def IsIn (t : Tree) (s : List Char) : Prop := ∀ n ∈ t.nodes, n.tag.IsIn s

def AllIn (ts : List Tree) (s : List Char) : Prop := ∀ t ∈ ts, t.IsIn s

theorem isIn_node {tag : TreeTag} {parts : List Tree} :
    (node tag parts).IsIn s ↔ tag.IsIn s ∧ AllIn parts s := by
  simp only [IsIn, AllIn, nodes, List.forall_mem_cons, mem_nodesIn]
  refine and_congr Iff.rfl ⟨fun h t ht n hn => h n ⟨t, ht, hn⟩, ?_⟩
  rintro h n ⟨t, ht, hn⟩
  exact h t ht n hn

variable {t : Tree} {ts us : List Tree} {p : Place} {n : Net}

theorem IsIn.tag (h : t.IsIn s) : t.tag.IsIn s := h t t.mem_nodes_self

theorem IsIn.parts (h : t.IsIn s) : AllIn t.parts s := by
  cases t with
  | node tag parts => exact (isIn_node.mp h).2

theorem IsIn.withTag (h : t.IsIn s) {tag : TreeTag} (htag : tag.IsIn s) :
    (node tag t.parts).IsIn s :=
  isIn_node.mpr ⟨htag, h.parts⟩

theorem IsIn.withExtra (h : t.IsIn s) : t.withExtra.IsIn s := h.withTag ⟨h.tag.start, h.tag.stop⟩

theorem allIn_nil : AllIn [] s := List.forall_mem_nil _

theorem allIn_cons : AllIn (t :: ts) s ↔ t.IsIn s ∧ AllIn ts s := List.forall_mem_cons

theorem allIn_append : AllIn (ts ++ us) s ↔ AllIn ts s ∧ AllIn us s := List.forall_mem_append

theorem AllIn.mono (h : AllIn ts s) (hus : us ⊆ ts) : AllIn us s := fun t ht => h t (hus ht)

theorem allIn_splitExtras (h : AllIn ts s) :
    AllIn (splitExtras ts).1 s ∧ AllIn (splitExtras ts).2 s := by
  refine ⟨h.mono (List.take_subset _ _), h.mono fun t ht => ?_⟩
  exact List.mem_reverse.mp ((List.takeWhile_sublist _).subset (List.mem_reverse.mp ht))

-- ---------------------------------------------------------------------------
-- What is made of trees
-- ---------------------------------------------------------------------------

theorem isIn_absent (i : Nat) (hp : p.IsIn s) : (absent n i p).IsIn s :=
  isIn_node.mpr ⟨⟨hp, hp⟩, allIn_nil⟩

theorem isIn_ofParts {kind : TreeKind} {visible : Bool} {weight : Int} (hp : p.IsIn s)
    (h : AllIn ts s) : (ofParts kind visible weight p ts).IsIn s := by
  refine isIn_node.mpr ⟨⟨?_, ?_⟩, h⟩
  · cases ts with
    | nil => exact hp
    | cons t ts => exact (allIn_cons.mp h).1.tag.start
  · cases hlast : ts.getLast? with
    | none => simpa [hlast] using hp
    | some t => simpa [hlast] using (h t (List.mem_of_getLast? hlast)).tag.stop

theorem isIn_broken (hp : p.IsIn s) (h : AllIn ts s) : (broken p ts).IsIn s := isIn_ofParts hp h

theorem isIn_skipped (hp : p.IsIn s) (h : AllIn ts s) : (skipped p ts).IsIn s := isIn_ofParts hp h

theorem allIn_nameMissing_go (h : AllIn ts s) (spots : List (List Nat)) :
    AllIn (nameMissing.go n ts spots) s := by
  induction ts generalizing spots with
  | nil => exact allIn_nil
  | cons t ts ih =>
    obtain ⟨ht, hts⟩ := allIn_cons.mp h
    rw [nameMissing.go]
    split
    · exact allIn_cons.mpr ⟨ht, ih hts spots⟩
    · refine allIn_cons.mpr ⟨?_, ih hts spots.tail⟩
      split
      · exact ht.withTag ⟨ht.tag.start, ht.tag.stop⟩
      · exact ht

theorem isIn_ofReduction {isVisible : Nat → Bool} {r : Reduction} (hp : p.IsIn s)
    (h : AllIn ts s) : (ofReduction n isVisible r p ts).IsIn s := by
  refine isIn_ofParts hp ?_
  rw [nameMissing]
  split
  · exact h
  · exact allIn_nameMissing_go h _

end Tree

-- ---------------------------------------------------------------------------
-- Tokens
-- ---------------------------------------------------------------------------

structure Token.IsIn (k : Token) (s : List Char) : Prop where
  start : k.start.IsIn s
  stop : k.stop.IsIn s

theorem Tree.isIn_ofToken {k : Token} (h : k.IsIn s) (n : Net) : (ofToken n k).IsIn s := by
  unfold ofToken
  split
  · exact isIn_node.mpr ⟨⟨h.start, h.stop⟩, allIn_nil⟩
  · exact isIn_node.mpr ⟨⟨h.start, h.stop⟩, allIn_nil⟩

namespace Machine

variable {m : Machine} {p q : Place}

theorem isIn_match? {w : Wanted} (hp : p.IsIn s) : ∀ x ∈ m.match? w p, x.1.IsIn s := by
  intro x hx
  unfold match? at hx
  extract_lets attached strong q at hx
  split at hx
  · cases hx
    exact hp
  split at hx
  · cases hx
    exact hp.skip isBlank
  · obtain ⟨_, _, rfl⟩ := Option.map_eq_some_iff.mp hx
    exact hp

theorem isIn_leftOver (fuel : Nat) (hp : p.IsIn s) : (m.leftOver fuel p).IsIn s := by
  induction fuel generalizing p with
  | zero => exact hp
  | succ fuel ih =>
    rw [leftOver]
    split
    · exact hp
    · exact ih hp.step

theorem isIn_token {st : State} {broken : Bool} {i n : Nat} (hq : q.IsIn s) :
    (m.token p q st broken i n).IsIn s := by
  unfold token
  split <;> exact ⟨hq, hq.advance n⟩

/-- The kind, the start and the length of a token, if there is one: it starts in the text. -/
def StartsIn (o : Option (Terminal × Place × Nat)) (s : List Char) : Prop := ∀ x ∈ o, x.2.1.IsIn s

section
variable {o o' : Option (Terminal × Place × Nat)} {t : Terminal} {n : Nat}

theorem startsIn_none : StartsIn none s := nofun

theorem startsIn_some (hp : p.IsIn s) : StartsIn (some (t, p, n)) s := by
  rintro _ ⟨⟩
  exact hp

theorem startsIn_map (hp : p.IsIn s) (lengths : Option Nat) :
    StartsIn (lengths.map fun n => (t, p, n)) s := by
  cases lengths with
  | none => exact startsIn_none
  | some n => exact startsIn_some hp

theorem StartsIn.ite {c : Prop} [Decidable c] (h : StartsIn o s) (h' : StartsIn o' s) :
    StartsIn (if c then o else o') s := by
  split
  · exact h
  · exact h'

end

/-- Whatever the place decides on starts at the place or behind the spaces there. -/
theorem startsIn_contextual {g : Grammar} {st : State} (hp : p.IsIn s) :
    StartsIn (m.contextual g st p) s := by
  have hskip := hp.skip isSpace
  unfold contextual
  extract_lets wants ending q choice text mark
  have hchoice : StartsIn choice s := (startsIn_some hskip).ite startsIn_none
  have htext : StartsIn text s := (startsIn_map hp _).ite startsIn_none
  have hmark : StartsIn mark s := startsIn_none.ite (startsIn_map hskip _)
  clear_value choice text mark
  refine StartsIn.ite (startsIn_none.ite ?_) ?_
  · split
    · exact startsIn_some hp
    · exact startsIn_none
  cases g with
  | javascript =>
    cases text with
    | some x => exact htext
    | none =>
      refine StartsIn.ite ?_ (hchoice.ite hmark)
      exact (startsIn_some hp).ite (hchoice.ite startsIn_none)
  | typescript | tsx =>
    refine StartsIn.ite ((startsIn_some hp).ite (hchoice.ite startsIn_none)) (hchoice.ite ?_)
    cases mark with
    | some x => exact hmark
    | none => exact htext

theorem isIn_next {g : Grammar} {i : Nat} {moved : Bool} (hp : p.IsIn s) :
    (m.next g i p moved).IsIn s := by
  unfold next
  extract_lets st broken decided usual q
  have hdecided : StartsIn decided s := by
    refine startsIn_none.ite ?_
    split
    · rename_i hsome
      exact startsIn_none.ite (startsIn_some (startsIn_contextual hp _ hsome))
    · exact startsIn_none
  have husual : ∀ x ∈ usual, x.1.IsIn s := by
    simp only [usual]
    split
    · exact nofun
    · exact isIn_match? hp
  clear_value decided usual
  cases decided with
  | some x => exact ⟨hdecided x rfl, (hdecided x rfl).advance _⟩
  | none =>
    cases usual with
    | some x => exact isIn_token (husual x rfl)
    | none =>
      simp only
      split
      · rename_i hsome
        exact isIn_token (isIn_match? hp _ hsome)
      · exact ⟨hp.skip isBlank, isIn_leftOver _ (hp.skip isBlank).step⟩

end Machine

end Changeset.Repair

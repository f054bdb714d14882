import Changeset.Proofs.Repair.Stack
import Changeset.Repair.Session

/-!
# Sessions on a text

A session is one on a text if its stack is one of the text and its finished tree
is a tree of the text. Each operation of a session keeps it one (`Keeps`), and so
does the whole run (`keeps_run`).
-/

namespace Changeset.Repair

open Changeset.Repair.Tree (AllIn)

variable {s : List Char}

structure Session.IsIn (w : Session) (s : List Char) : Prop where
  stack : w.stack.IsIn s
  finished : ∀ t ∈ w.finished, t.IsIn s

namespace Work

variable {α β : Type} {m : Work α} {f : α → Work β} {Q : α → Prop} {R : β → Prop}

/-- On a session of the text `m` gives a value with `Q` and leaves a session of the text. -/
def Yields (s : List Char) (m : Work α) (Q : α → Prop) : Prop :=
  ∀ w : Session, w.IsIn s → Q (m w).1 ∧ (m w).2.IsIn s

def Keeps (s : List Char) (m : Work α) : Prop := Yields s m fun _ => True

-- ---------------------------------------------------------------------------
-- Putting operations together
-- ---------------------------------------------------------------------------

theorem Yields.pure {a : α} (ha : Q a) : Yields s (Pure.pure a) Q := fun _ hw => ⟨ha, hw⟩

theorem Yields.bind (hm : Yields s m Q) (hf : ∀ a, Q a → Yields s (f a) R) :
    Yields s (m >>= f) R := by
  intro w hw
  obtain ⟨ha, hw'⟩ := hm w hw
  exact hf _ ha _ hw'

theorem Keeps.pure (a : α) : Keeps s (Pure.pure a : Work α) := Yields.pure trivial

theorem Keeps.bind (hm : Keeps s m) (hf : ∀ a, Keeps s (f a)) : Keeps s (m >>= f) :=
  Yields.bind hm fun a _ => hf a

theorem Keeps.ite {c : Prop} [Decidable c] {m' : Work α} (h : Keeps s m) (h' : Keeps s m') :
    Keeps s (if c then m else m') := by
  split
  · exact h
  · exact h'

theorem Keeps.forIn {xs : List α} {f : α → β → Work (ForInStep β)}
    (hf : ∀ x ∈ xs, ∀ b, Keeps s (f x b)) (b : β) : Keeps s (forIn xs b f) := by
  induction xs generalizing b with
  | nil => exact Keeps.pure b
  | cons x xs ih =>
    rw [List.forIn_cons]
    refine (hf x List.mem_cons_self b).bind fun r => ?_
    cases r with
    | done b => exact Keeps.pure b
    | yield b => exact ih (fun y hy => hf y (List.mem_cons_of_mem x hy)) b

-- ---------------------------------------------------------------------------
-- Reading and changing the session
-- ---------------------------------------------------------------------------

theorem yields_get : Yields s get fun w : Session => w.IsIn s := fun _ hw => ⟨hw, hw⟩

theorem yields_stack : Yields s stack fun k => k.IsIn s := fun _ hw => ⟨hw.stack, hw⟩

theorem keeps_stack_bind {f : Stack → Work α} (hf : ∀ k, k.IsIn s → Keeps s (f k)) :
    Keeps s (stack >>= f) := yields_stack.bind hf

theorem keeps_modify {f : Session → Session} (hf : ∀ w, w.IsIn s → (f w).IsIn s) :
    Keeps s (modify f) := fun w hw => ⟨trivial, hf w hw⟩

theorem keeps_onStack {f : Stack → Stack} (hf : ∀ k, k.IsIn s → (f k).IsIn s) :
    Keeps s (onStack f) := keeps_modify fun _ hw => ⟨hf _ hw.stack, hw.finished⟩

theorem keeps_setStack {k : Stack} (hk : k.IsIn s) : Keeps s (onStack fun _ => k) :=
  keeps_onStack fun _ _ => hk

theorem keeps_machine : Keeps s machine := fun _ hw => ⟨trivial, hw⟩

theorem keeps_target (state symbol : Nat) : Keeps s (target state symbol) :=
  fun _ hw => ⟨trivial, hw.stack, hw.finished⟩

theorem keeps_actions (state symbol : Nat) : Keeps s (actions state symbol) :=
  fun _ hw => ⟨trivial, hw.stack, hw.finished⟩

theorem keeps_halt (v : Nat) : Keeps s (onStack fun k => k.halt v) :=
  keeps_onStack fun _ hk => hk.halt v

theorem keeps_remove (v : Nat) : Keeps s (onStack fun k => k.remove v) :=
  keeps_onStack fun _ hk => hk.remove v

theorem keeps_renumber (v w : Nat) : Keeps s (onStack fun k => k.renumber v w) :=
  keeps_onStack fun _ hk => hk.renumber v w

theorem keeps_pause (v : Nat) {token : Tree} (ht : token.IsIn s) :
    Keeps s (onStack fun k => k.pause v token) :=
  keeps_onStack fun _ hk => hk.pause v ht

theorem keeps_push (v : Nat) {t : Tree} (ht : t.IsIn s) (state : Nat) :
    Keeps s (onStack fun k => k.push v (some t) state) :=
  keeps_onStack fun _ hk => hk.pushTree v ht state

-- ---------------------------------------------------------------------------
-- Reductions
-- ---------------------------------------------------------------------------

theorem keeps_join {o : Option Stack} (h : ∀ j ∈ o, j.IsIn s) : Keeps s (join o) := by
  cases o with
  | some j => exact (keeps_setStack (h j rfl)).bind fun _ => Keeps.pure true
  | none => exact Keeps.pure false

theorem keeps_joinEarlier (v w : Nat) (candidates : List Nat) :
    Keeps s (joinEarlier v w candidates) := by
  refine keeps_stack_bind fun k hk => keeps_join fun j hj => ?_
  obtain ⟨i, -, hi⟩ := List.exists_of_findSome?_eq_some hj
  split at hi
  · cases hi
  · exact hk.merge j hi

theorem allIn_bestParts (build : List Tree → Tree) {slices : List (List Tree)}
    (h : ∀ ts ∈ slices, AllIn ts s) :
    AllIn (bestParts build slices).1 s ∧ AllIn (bestParts build slices).2 s := by
  cases slices with
  | nil => exact ⟨Tree.allIn_nil, Tree.allIn_nil⟩
  | cons first others =>
    obtain ⟨hfirst, hothers⟩ := List.forall_mem_cons.mp h
    refine List.foldlRecOn
      (motive := fun best : List Tree × List Tree => AllIn best.1 s ∧ AllIn best.2 s) others _
      (Tree.allIn_splitExtras hfirst) fun best hbest trees htrees => ?_
    dsimp only
    split
    · exact Tree.allIn_splitExtras (hothers trees htrees)
    · exact hbest

theorem keeps_complete (v w : Nat) (r : Reduction) {slices : List (List Tree)}
    (h : ∀ ts ∈ slices, AllIn ts s) : Keeps s (complete v w r slices) := by
  unfold complete
  refine yields_get.bind fun x hx => ?_
  extract_lets k net place plain
  obtain ⟨hparts, hextras⟩ := allIn_bestParts plain h
  split
  rename_i parts extras hbest
  rw [hbest] at hparts hextras
  refine (keeps_target _ _).bind fun next => ?_
  extract_lets state
  refine Keeps.bind (keeps_onStack fun j hj => ?_) fun _ => keeps_joinEarlier v w _
  exact (hj.pushTree w (Tree.isIn_ofReduction (hx.stack.place w) hparts) state).pushAll w hextras state

theorem keeps_completeAll (v limit : Nat) (r : Reduction) (fuel : Nat) {slices : List Slice}
    (h : ∀ x ∈ slices, AllIn x.trees s) (removed : Nat) :
    Keeps s (completeAll v limit r fuel slices removed) := by
  induction fuel generalizing slices removed with
  | zero => exact Keeps.pure ()
  | succ fuel ih =>
    cases slices with
    | nil => exact Keeps.pure ()
    | cons x rest =>
      rw [completeAll]
      obtain ⟨hx, hrest⟩ := List.forall_mem_cons.mp h
      have hothers : ∀ y ∈ rest.dropWhile fun t => t.version == x.version, AllIn y.trees s :=
        fun y hy => hrest y ((List.dropWhile_sublist _).subset hy)
      split
      · exact (keeps_remove _).bind fun _ => ih hothers _
      · refine Keeps.bind (keeps_complete v _ r (List.forall_mem_cons.mpr ⟨hx, ?_⟩)) ?_
        · exact List.forall_mem_map.mpr fun y hy => hrest y ((List.takeWhile_sublist _).subset hy)
        · exact fun _ => ih hothers _

theorem keeps_reduce (v : Nat) (r : Reduction) : Keeps s (reduce v r) := by
  unfold reduce
  refine keeps_stack_bind fun k hk => ?_
  extract_lets before limit
  split
  rename_i slices j hpop
  have hj : Stack.Popped (slices, j) s := hpop ▸ hk.popCount v r.count
  refine (keeps_setStack hj.stack).bind fun _ => ?_
  refine (keeps_completeAll v limit r _ hj.slices 0).bind fun _ => ?_
  exact keeps_stack_bind fun _ _ => Keeps.pure _

-- ---------------------------------------------------------------------------
-- Ends and skipping
-- ---------------------------------------------------------------------------

theorem keeps_betterExists (v : Nat) (broken : Bool) (price : Nat) :
    Keeps s (betterExists v broken price) := fun _ hw => ⟨trivial, hw⟩

theorem isIn_finish {w : Session} (hw : w.IsIn s) {t : Tree} (ht : t.IsIn s) (n : Nat) :
    Session.IsIn { w with
      accepted := n
      finished := match w.finished with
        | none => some t
        | some u => if u.prefers t then some t else some u } s := by
  refine ⟨hw.stack, ?_⟩
  dsimp only
  have hself : ∀ u ∈ some t, u.IsIn s := by
    rintro _ ⟨⟩
    exact ht
  split
  · exact hself
  · rename_i u hu
    split
    · exact hself
    · exact hu ▸ hw.finished

theorem keeps_accept (v : Nat) {token : Tree} (ht : token.IsIn s) : Keeps s (accept v token) := by
  unfold accept
  refine (keeps_push v ht _).bind fun _ => ?_
  refine keeps_stack_bind fun k hk => ?_
  split
  rename_i slices j hpop
  have hj : Stack.Popped (slices, j) s := hpop ▸ hk.popAll v
  refine Keeps.bind (Keeps.forIn (fun x hx _ => ?_) _) fun _ => ?_
  -- The last tree that is no extra becomes the root, with all others as its parts.
  · have hx : AllIn x.trees.reverse s := (hj.slices x hx).mono fun _ => List.mem_reverse.mp
    extract_lets rest extras
    have hrest : AllIn rest s := hx.mono (List.dropWhile_sublist _).subset
    have hextras : AllIn extras s := hx.mono fun t ht =>
      (List.takeWhile_sublist _).subset (List.mem_reverse.mp ht)
    clear_value rest extras
    cases rest with
    | nil => exact Keeps.pure _
    | cons root below =>
      obtain ⟨hroot, hbelow⟩ := Tree.allIn_cons.mp hrest
      have hparts : AllIn (below.reverse ++ root.parts ++ extras) s :=
        Tree.allIn_append.mpr ⟨Tree.allIn_append.mpr
          ⟨hbelow.mono fun _ => List.mem_reverse.mp, hroot.parts⟩, hextras⟩
      refine Keeps.bind (keeps_modify fun w hw => ?_) fun _ => Keeps.pure _
      exact isIn_finish hw (Tree.isIn_ofParts (hj.stack.place v) hparts) _
  · exact keeps_setStack ((hj.stack.remove _).halt v)

theorem keeps_goBackTo (v depth goal : Nat) : Keeps s (goBackTo v depth goal) := by
  unfold goBackTo
  refine keeps_stack_bind fun k hk => ?_
  split
  rename_i slices j hpop
  have hj : Stack.Popped (slices, j) s := hpop ▸ hk.popCount v depth
  refine (keeps_setStack hj.stack).bind fun _ => ?_
  refine Keeps.bind (Keeps.forIn (fun x hx last => ?_) _) fun last => Keeps.pure _
  dsimp only
  refine Keeps.ite (Keeps.pure _) ?_
  refine keeps_stack_bind fun k hk => ?_
  refine Keeps.ite ((keeps_halt _).bind fun _ => Keeps.pure _) ?_
  have hx := hj.slices x hx
  split
  · rename_i broken k' hbroken
    obtain ⟨hparts, hk'⟩ := hk.popBroken x.version _ hbroken
    have hall : AllIn (broken.flatMap Tree.parts ++ x.trees) s :=
      Tree.allIn_append.mpr ⟨List.forall_mem_flatMap.mpr fun t ht => (hparts t ht).parts, hx⟩
    exact (keeps_setStack (hk'.pushBroken _ hall _)).bind fun _ => Keeps.pure _
  · exact (keeps_setStack (hk.pushBroken _ hx _)).bind fun _ => Keeps.pure _

theorem keeps_goBack (v : Nat) (token : Tree) (before : Nat) (ds : List Depth) :
    Keeps s (goBack v token before ds) := by
  induction ds with
  | nil => exact Keeps.pure false
  | cons d ds ih =>
    rw [goBack]
    refine keeps_stack_bind fun k hk => ?_
    refine Keeps.ite ih ?_
    refine Keeps.ite ih ?_
    refine (keeps_betterExists _ _ _).bind fun better => ?_
    refine Keeps.ite (Keeps.pure false) ?_
    refine keeps_machine.bind fun m => ?_
    refine Keeps.ite ?_ ih
    refine (keeps_goBackTo _ _ _).bind fun done => ?_
    exact Keeps.ite (Keeps.pure true) ih

theorem keeps_removeHalted (first : Nat) : Keeps s (removeHalted first) := by
  refine keeps_onStack fun k hk => hk.keepVersions fun v hv => ?_
  rcases List.mem_append.mp hv with hv | hv
  · exact List.mem_of_mem_take hv
  · exact List.mem_of_mem_drop (List.mem_filter.mp hv).1

theorem keeps_skipToken (v : Nat) {token : Tree} (ht : token.IsIn s) :
    Keeps s (skipToken v token) := by
  unfold skipToken
  refine keeps_machine.bind fun m => ?_
  extract_lets read
  have hread : read.IsIn s := by
    simp only [read]
    split
    · split
      · exact ht.withExtra
      · exact ht
    · exact ht
  have hwrap : ∀ {ts}, AllIn ts s → (Tree.skipped read.tag.start ts).IsIn s := fun hts =>
    Tree.isIn_skipped hread.tag.start hts
  have hsingle : AllIn [read] s := List.forall_mem_singleton.mpr hread
  clear_value read
  refine keeps_stack_bind fun k hk => ?_
  extract_lets
  refine Keeps.ite ?_ (keeps_push v (hwrap hsingle) _)
  split
  rename_i slices j hpop
  have hj : Stack.Popped (slices, j) s := hpop ▸ hk.popCount v 1
  split
  · exact keeps_setStack (hj.stack.pushTree v (hwrap hsingle) _)
  · rename_i x xs
    refine keeps_setStack (((hj.stack.takeVersions _).renumber _ _).pushTree v (hwrap ?_) _)
    refine Tree.allIn_append.mpr ⟨hj.slices x List.mem_cons_self, ?_⟩
    exact List.forall_mem_singleton.mpr (hwrap hsingle)

theorem keeps_recover (v : Nat) {token : Tree} (ht : token.IsIn s) : Keeps s (recover v token) := by
  unfold recover
  refine keeps_stack_bind fun k hk => ?_
  refine Keeps.bind (keeps_onStack fun _ hj => hj.settleBase v) fun _ => ?_
  extract_lets rest
  -- What is done whether or not a state further down can go on.
  have hrest : ∀ found, Keeps s (rest found) := by
    intro found
    simp only [rest]
    refine (keeps_removeHalted _).bind fun _ => ?_
    refine keeps_stack_bind fun k hk => ?_
    refine Keeps.ite ?_ ?_
    · refine Keeps.bind (keeps_onStack fun j hj => ?_) fun _ => keeps_accept v ht
      exact hj.pushTree v (Tree.isIn_broken (hj.place v) Tree.allIn_nil) _
    · refine Keeps.ite (keeps_halt v) ?_
      refine (keeps_betterExists _ _ _).bind fun _ => ?_
      exact Keeps.ite (keeps_halt v) (keeps_skipToken v ht)
  split
  · refine Keeps.ite ((Keeps.pure false).bind hrest) ?_
    exact (keeps_goBack _ _ _ _).bind hrest
  · exact (Keeps.pure false).bind hrest

-- ---------------------------------------------------------------------------
-- Putting in
-- ---------------------------------------------------------------------------

theorem keeps_joinWithin (first v : Nat) : Keeps s (joinWithin first v) := by
  refine keeps_stack_bind fun k hk => keeps_join fun j hj => ?_
  obtain ⟨i, -, hi⟩ := List.exists_of_findSome?_eq_some hj
  exact hk.merge j hi

theorem keeps_completePossible (start : Nat) (only : Option Nat) (initial fuel v round : Nat)
    (usable : Bool) : Keeps s (completePossible start only initial fuel v round usable) := by
  induction fuel generalizing v round usable with
  | zero => exact Keeps.pure usable
  | succ fuel ih =>
    rw [completePossible]
    refine keeps_stack_bind fun k hk => ?_
    extract_lets count last next
    have hnext : ∀ v usable, Keeps s
        (completePossible start only initial fuel v (round + 1) usable) := fun v => ih v _
    have hdrop : Keeps s (if only.isSome then do
          onStack fun k => k.remove v
          completePossible start only initial fuel next (round + 1) usable
        else completePossible start only initial fuel next (round + 1) usable) :=
      Keeps.ite ((keeps_remove v).bind fun _ => hnext _ _) (hnext _ _)
    refine Keeps.ite (Keeps.pure usable) ?_
    refine (keeps_joinWithin _ _).bind fun joined => ?_
    refine Keeps.ite (hnext _ _) ?_
    refine keeps_machine.bind fun m => ?_
    split
    refine Keeps.bind (Keeps.forIn (fun r _ _ => ?_) _) fun last => ?_
    · exact (keeps_reduce v r).bind fun _ => Keeps.pure _
    refine Keeps.ite (hnext _ _) ?_
    split
    · exact Keeps.ite ((keeps_renumber _ v).bind fun _ => hnext _ _) hdrop
    · exact hdrop

theorem keeps_completeEverything (v : Nat) (only : Option Nat) :
    Keeps s (completeEverything v only) :=
  keeps_stack_bind fun _ _ => keeps_completePossible _ _ _ _ _ _ _

theorem keeps_putIn (v : Nat) (token : Tree) (symbol : Nat) (ts : List Nat) :
    Keeps s (putIn v token symbol ts) := by
  induction ts with
  | nil => exact Keeps.pure false
  | cons t ts ih =>
    rw [putIn]
    refine keeps_stack_bind fun k hk => ?_
    refine keeps_machine.bind fun m => ?_
    extract_lets state r
    refine Keeps.ite ih ?_
    refine (keeps_target state t).bind fun next => ?_
    split
    · exact ih
    refine keeps_machine.bind fun m => ?_
    refine Keeps.ite ih ?_
    refine keeps_stack_bind fun k hk => ?_
    extract_lets w place
    refine Keeps.bind (keeps_onStack fun j hj => ?_) fun _ => ?_
    · exact (hj.copy v).pushTree w (Tree.isIn_absent t (hk.place v)) _
    · refine (keeps_completeEverything w _).bind fun usable => ?_
      exact Keeps.ite (Keeps.pure true) ih

theorem keeps_breakOff (first previous count : Nat) (token : Tree) (fuel v : Nat)
    (inserted : Bool) : Keeps s (breakOff first previous count token fuel v inserted) := by
  induction fuel generalizing v inserted with
  | zero => exact Keeps.pure ()
  | succ fuel ih =>
    rw [breakOff]
    refine Keeps.ite (Keeps.pure ()) ?_
    refine keeps_machine.bind fun m => ?_
    extract_lets rest
    have hrest : ∀ inserted, Keeps s (rest inserted) := fun _ =>
      Keeps.bind (keeps_onStack fun j hj => hj.push v (by simp) _) fun _ => ih _ _
    refine Keeps.ite ((Keeps.pure true).bind hrest) ?_
    split
    · exact (keeps_putIn _ _ _ _).bind hrest
    · exact (Keeps.pure false).bind hrest

theorem keeps_repair (v : Nat) {token : Tree} (ht : token.IsIn s) : Keeps s (repair v token) := by
  unfold repair
  refine keeps_stack_bind fun k hk => ?_
  refine (keeps_completeEverything v none).bind fun _ => ?_
  refine keeps_stack_bind fun k hk => ?_
  refine (keeps_breakOff _ _ _ _ _ _ _).bind fun _ => ?_
  refine Keeps.bind (Keeps.forIn (fun _ _ _ => ?_) _) fun _ => ?_
  · refine keeps_stack_bind fun k hk => ?_
    exact (keeps_join hk.merge).bind fun _ => Keeps.pure _
  · refine Keeps.bind (keeps_onStack fun _ hj => hj.recordSummary v) fun _ => ?_
    exact keeps_recover v ht

-- ---------------------------------------------------------------------------
-- Reading on
-- ---------------------------------------------------------------------------

theorem keeps_perform (v : Nat) {token : Tree} (ht : token.IsIn s) (as : List Action)
    (o : Outcome) : Keeps s (perform v token as o) := by
  induction as generalizing o with
  | nil => exact Keeps.pure o
  | cons a as ih =>
    cases a with
    | shift state postponed =>
      exact Keeps.ite (ih o) ((keeps_push v ht state).bind fun _ => Keeps.pure _)
    | pass =>
      refine Keeps.bind (keeps_onStack fun k hk => ?_) fun _ => Keeps.pure _
      exact hk.pushTree v ht.withExtra _
    | reduce r => exact (keeps_reduce v r).bind fun _ => ih _
    | accept => exact (keeps_accept v ht).bind fun _ => Keeps.pure _
    | skip => exact (keeps_recover v ht).bind fun _ => Keeps.pure _

theorem keeps_act (v : Nat) {token : Tree} (ht : token.IsIn s) (keyword : Bool)
    (fuel symbol : Nat) : Keeps s (act v token keyword fuel symbol) := by
  induction fuel generalizing token symbol with
  | zero => exact keeps_halt v
  | succ fuel ih =>
    rw [act]
    refine keeps_stack_bind fun k hk => ?_
    extract_lets state _ rest
    have hrest : ∀ asWord, Keeps s (rest asWord) := by
      intro asWord
      refine Keeps.ite (ih (Tree.isIn_node.mpr ⟨?_, Tree.allIn_nil⟩) 1) ?_
      · exact ⟨ht.tag.start, ht.tag.stop⟩
      · exact Keeps.ite (keeps_recover v ht) (keeps_pause v ht)
    refine (keeps_actions _ _).bind fun choices => ?_
    refine (keeps_perform v ht choices _).bind fun outcome => ?_
    cases outcome with
    | done => exact Keeps.pure ()
    | reduced w =>
      cases w with
      | some w => exact (keeps_renumber w v).bind fun _ => ih ht _
      | none => exact keeps_halt v
    | nothing =>
      refine keeps_machine.bind fun m => ?_
      refine Keeps.ite ((keeps_actions _ _).bind hrest) ?_
      exact (Keeps.pure []).bind hrest

theorem keeps_advance (v : Nat) : Keeps s (advance v) := by
  unfold advance
  refine yields_get.bind fun w hw => ?_
  extract_lets k token tree
  have htree : tree.IsIn s := Tree.isIn_ofToken (Machine.isIn_next (hw.stack.place v)) _
  split
  · exact keeps_act v htree _ _ _
  · exact Keeps.ite (keeps_recover v htree) (keeps_pause v htree)

theorem keeps_advanceWhile (v fuel last : Nat) : Keeps s (advanceWhile v fuel last) := by
  induction fuel generalizing last with
  | zero => exact Keeps.pure last
  | succ fuel ih =>
    rw [advanceWhile]
    refine keeps_stack_bind fun k hk => ?_
    refine Keeps.ite (Keeps.pure last) ?_
    refine (keeps_advance v).bind fun _ => ?_
    refine keeps_stack_bind fun k hk => ?_
    exact Keeps.ite (Keeps.pure _) (ih last)

theorem keeps_advanceAll (fuel v last : Nat) : Keeps s (advanceAll fuel v last) := by
  induction fuel generalizing v last with
  | zero => exact Keeps.pure last
  | succ fuel ih =>
    rw [advanceAll]
    refine keeps_stack_bind fun k hk => ?_
    refine Keeps.ite (Keeps.pure last) ?_
    exact (keeps_advanceWhile v _ last).bind fun _ => ih _ _

-- ---------------------------------------------------------------------------
-- Thinning out
-- ---------------------------------------------------------------------------

theorem keeps_compareWith (x : Standing) (fuel i j : Nat) : Keeps s (compareWith x fuel i j) := by
  induction fuel generalizing i j with
  | zero => exact Keeps.pure i
  | succ fuel ih =>
    rw [compareWith]
    refine Keeps.ite (Keeps.pure _) ?_
    refine keeps_stack_bind fun k hk => ?_
    have hjoin : Keeps s (join (k.merge j i)) := keeps_join hk.merge
    cases compare (standing k j) x with
    | takeLeft => exact (keeps_remove i).bind fun _ => Keeps.pure i
    | preferLeft => exact hjoin.bind fun _ => Keeps.ite (Keeps.pure i) (ih _ _)
    | none => exact hjoin.bind fun _ => Keeps.ite (Keeps.pure i) (ih _ _)
    | preferRight =>
      refine hjoin.bind fun _ => Keeps.ite (Keeps.pure i) ?_
      exact Keeps.bind (keeps_onStack fun _ hj => hj.swap i j) fun _ => ih _ _
    | takeRight => exact (keeps_remove j).bind fun _ => ih _ _

theorem keeps_thin (fuel i : Nat) (least : Option Nat) : Keeps s (thin fuel i least) := by
  induction fuel generalizing i least with
  | zero => exact Keeps.pure least
  | succ fuel ih =>
    rw [thin]
    refine keeps_stack_bind fun k hk => ?_
    refine Keeps.ite (Keeps.pure least) ?_
    refine Keeps.ite ((keeps_remove i).bind fun _ => ih _ _) ?_
    refine Keeps.bind (keeps_onStack fun _ hk => hk.settleBase i) fun _ => ?_
    refine keeps_stack_bind fun k hk => ?_
    exact (keeps_compareWith _ _ _ _).bind fun _ => ih _ _

theorem keeps_resumeRest (fuel i : Nat) : Keeps s (resume.resumeRest fuel i) := by
  induction fuel generalizing i with
  | zero => exact Keeps.pure ()
  | succ fuel ih =>
    rw [resume.resumeRest]
    refine keeps_stack_bind fun k hk => ?_
    refine Keeps.ite (Keeps.pure ()) ?_
    exact Keeps.ite ((keeps_remove i).bind fun _ => ih _) (ih _)

theorem keeps_resume (fuel i : Nat) (going : Bool) (least : Option Nat) :
    Keeps s (resume fuel i going least) := by
  induction fuel generalizing i going least with
  | zero => exact Keeps.pure least
  | succ fuel ih =>
    rw [resume]
    refine yields_get.bind fun w hw => ?_
    extract_lets k
    refine Keeps.ite (Keeps.pure least) ?_
    split
    · rename_i token hpaused
      refine Keeps.ite ?_ ((keeps_remove i).bind fun _ => ih _ _ _)
      refine Keeps.bind (keeps_onStack fun _ hj => hj.update i fun _ _ => nofun) fun _ => ?_
      refine (keeps_repair i (hw.stack.versionAt i token hpaused)).bind fun _ => ?_
      exact (keeps_resumeRest _ _).bind fun _ => Keeps.pure _
    · exact ih _ _ _

theorem keeps_condense : Keeps s condense := by
  refine (keeps_thin _ _ _).bind fun least => ?_
  exact Keeps.bind (keeps_onStack fun _ hk => hk.takeVersions _) fun _ => keeps_resume _ _ _ _

theorem keeps_run (fuel last : Nat) : Keeps s (run fuel last) := by
  induction fuel generalizing last with
  | zero => exact Keeps.pure ()
  | succ fuel ih =>
    rw [run]
    refine (keeps_advanceAll _ _ _).bind fun last => ?_
    refine keeps_condense.bind fun least => ?_
    refine yields_get.bind fun w hw => ?_
    exact Keeps.ite (Keeps.pure ()) (ih last)

end Work

end Changeset.Repair

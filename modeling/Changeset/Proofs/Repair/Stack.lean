import Changeset.Proofs.Repair.Tree
import Changeset.Repair.Stack

/-!
# Stacks of a text

A stack is one of a text if its nodes are at places of the text and its trees
are trees of the text (`Stack.IsIn`), those of the tokens included at which its
versions have paused. Whatever is done to a stack gives another one of the text,
and trees that are taken off are trees of the text (`Stack.IsIn.popWith`).
-/

namespace Changeset.Repair

open Changeset.Repair.Tree (AllIn allIn_nil allIn_cons)

variable {s : List Char}

def Link.IsIn (l : Link) (s : List Char) : Prop := ∀ t ∈ l.tree, t.IsIn s

structure StackNode.IsIn (n : StackNode) (s : List Char) : Prop where
  place : n.place.IsIn s
  links : ∀ l ∈ n.links, l.IsIn s

def Version.IsIn (v : Version) (s : List Char) : Prop := ∀ t, v.status = .paused t → t.IsIn s

structure Stack.IsIn (k : Stack) (s : List Char) : Prop where
  nodes : ∀ n ∈ k.nodes.toList, n.IsIn s
  versions : ∀ v ∈ k.versions.toList, v.IsIn s

theorem forall_mem_modify {α : Type} {P : α → Prop} {f : α → α} {xs : List α}
    (h : ∀ x ∈ xs, P x) (hf : ∀ x, P x → P (f x)) (i : Nat) : ∀ x ∈ xs.modify i f, P x := by
  induction xs generalizing i with
  | nil => simp
  | cons x xs ih =>
    obtain ⟨hx, hxs⟩ := List.forall_mem_cons.mp h
    cases i with
    | zero => simpa using ⟨hf x hx, hxs⟩
    | succ i => simpa using ⟨hx, ih hxs i⟩

namespace Stack

variable {k : Stack}

theorem isIn_new (s : List Char) : (new s).IsIn s := by
  constructor
  · simp only [new, List.forall_mem_singleton]
    exact ⟨Place.isIn_ofText s, List.forall_mem_nil _⟩
  · simp only [new, List.forall_mem_singleton]
    exact nofun

theorem IsIn.nodeAt (h : k.IsIn s) (i : Nat) : (k.nodeAt i).IsIn s := by
  rw [Stack.nodeAt]
  cases hi : k.nodes[i]? with
  | none => exact ⟨Place.isIn_ofText_nil s, List.forall_mem_nil _⟩
  | some n => exact h.nodes n (Array.mem_toList_iff.mpr (Array.mem_of_getElem? hi))

theorem IsIn.versionAt (h : k.IsIn s) (v : Nat) : (k.versionAt v).IsIn s := by
  rw [Stack.versionAt]
  cases hv : k.versions[v]? with
  | none => exact nofun
  | some w => exact h.versions w (Array.mem_toList_iff.mpr (Array.mem_of_getElem? hv))

theorem IsIn.place (h : k.IsIn s) (v : Nat) : (k.place v).IsIn s := (h.nodeAt _).place

-- ---------------------------------------------------------------------------
-- Versions
-- ---------------------------------------------------------------------------

theorem IsIn.update (h : k.IsIn s) (v : Nat) {f : Version → Version}
    (hf : ∀ w, w.IsIn s → (f w).IsIn s) : (k.update v f).IsIn s := by
  refine ⟨h.nodes, ?_⟩
  rw [Stack.update, Array.toList_modify]
  exact forall_mem_modify h.versions hf v

theorem IsIn.settleBase (h : k.IsIn s) (v : Nat) : (k.settleBase v).IsIn s :=
  h.update v fun _ hw => hw

theorem IsIn.halt (h : k.IsIn s) (v : Nat) : (k.halt v).IsIn s := h.update v fun _ _ => nofun

theorem IsIn.pause (h : k.IsIn s) (v : Nat) {token : Tree} (ht : token.IsIn s) :
    (k.pause v token).IsIn s := by
  refine h.update v fun _ _ => ?_
  rintro _ ⟨⟩
  exact ht

theorem IsIn.remove (h : k.IsIn s) (v : Nat) : (k.remove v).IsIn s := by
  refine ⟨h.nodes, ?_⟩
  rw [Stack.remove, Array.toList_eraseIdxIfInBounds]
  exact fun w hw => h.versions w (List.mem_of_mem_eraseIdx hw)

theorem IsIn.pushVersion (h : k.IsIn s) {w : Version} (hw : w.IsIn s) :
    IsIn { k with versions := k.versions.push w } s := by
  refine ⟨h.nodes, ?_⟩
  rw [Array.toList_push, List.forall_mem_append, List.forall_mem_singleton]
  exact ⟨h.versions, hw⟩

theorem IsIn.addVersion (h : k.IsIn s) (like node : Nat) : (k.addVersion like node).IsIn s :=
  h.pushVersion nofun

theorem IsIn.copy (h : k.IsIn s) (v : Nat) : (k.copy v).IsIn s := h.pushVersion (h.versionAt v)

theorem forall_mem_set {vs : Array Version} (h : ∀ v ∈ vs.toList, v.IsIn s) (i : Nat)
    {w : Version} (hw : w.IsIn s) : ∀ v ∈ (vs.setIfInBounds i w).toList, v.IsIn s := by
  intro v hv
  rw [Array.toList_setIfInBounds] at hv
  rcases List.mem_or_eq_of_mem_set hv with hv | rfl
  · exact h v hv
  · exact hw

theorem IsIn.renumber (h : k.IsIn s) (v w : Nat) : (k.renumber v w).IsIn s := by
  unfold Stack.renumber
  split
  · exact h
  · refine ⟨h.nodes, ?_⟩
    rw [Array.toList_eraseIdxIfInBounds]
    intro x hx
    refine forall_mem_set h.versions w ?_ x (List.mem_of_mem_eraseIdx hx)
    exact h.versionAt v

theorem IsIn.swap (h : k.IsIn s) (v w : Nat) : (k.swap v w).IsIn s :=
  ⟨h.nodes, forall_mem_set (forall_mem_set h.versions v (h.versionAt w)) w (h.versionAt v)⟩

theorem IsIn.keepVersions (h : k.IsIn s) {vs : Array Version} (hvs : vs.toList ⊆ k.versions.toList) :
    IsIn { k with versions := vs } s :=
  ⟨h.nodes, fun v hv => h.versions v (hvs hv)⟩

theorem IsIn.takeVersions (h : k.IsIn s) (n : Nat) :
    IsIn { k with versions := k.versions.take n } s := by
  refine h.keepVersions ?_
  rw [Array.take, Array.toList_extract]
  exact List.take_subset _ _

theorem IsIn.recordSummary (h : k.IsIn s) (v : Nat) : (k.recordSummary v).IsIn s :=
  h.update v fun _ hw => hw

-- ---------------------------------------------------------------------------
-- Putting trees on
-- ---------------------------------------------------------------------------

theorem IsIn.push (h : k.IsIn s) (v : Nat) {tree : Option Tree} (ht : ∀ t ∈ tree, t.IsIn s)
    (state : Nat) : (k.push v tree state).IsIn s := by
  unfold Stack.push
  extract_lets below n node fresh
  have hnode : node.IsIn s := by
    cases tree with
    | none => exact ⟨(h.nodeAt _).place, List.forall_mem_singleton.mpr nofun⟩
    | some t => exact ⟨(ht t rfl).tag.stop, List.forall_mem_singleton.mpr ht⟩
  constructor
  · rw [Array.toList_push, List.forall_mem_append, List.forall_mem_singleton]
    exact ⟨h.nodes, hnode⟩
  · rw [Array.toList_modify]
    refine forall_mem_modify h.versions ?_ v
    exact fun _ hw => hw

theorem IsIn.pushTree (h : k.IsIn s) (v : Nat) {t : Tree} (ht : t.IsIn s) (state : Nat) :
    (k.push v (some t) state).IsIn s :=
  h.push v (by rintro _ ⟨⟩; exact ht) state

theorem IsIn.pushAll (h : k.IsIn s) (v : Nat) {ts : List Tree} (hts : AllIn ts s) (state : Nat) :
    (k.pushAll v ts state).IsIn s :=
  List.foldlRecOn (motive := fun k : Stack => k.IsIn s) ts _ h fun _ hk t ht =>
    hk.pushTree v (hts t ht) state

theorem IsIn.pushBroken (h : k.IsIn s) (v : Nat) {ts : List Tree} (hts : AllIn ts s) (goal : Nat) :
    ((if (Tree.splitExtras ts).1.isEmpty then k
      else k.push v (some (Tree.broken (k.place v) (Tree.splitExtras ts).1).withExtra) goal).pushAll
        v (Tree.splitExtras ts).2 goal).IsIn s := by
  obtain ⟨hparts, hextras⟩ := Tree.allIn_splitExtras hts
  refine IsIn.pushAll ?_ v hextras goal
  split
  · exact h
  · exact h.pushTree v (Tree.isIn_broken (h.place v) hparts).withExtra goal

-- ---------------------------------------------------------------------------
-- Joining
-- ---------------------------------------------------------------------------

theorem IsIn.modifyNode (h : k.IsIn s) (i : Nat) {f : StackNode → StackNode}
    (hf : ∀ n, n.IsIn s → (f n).IsIn s) : IsIn { k with nodes := k.nodes.modify i f } s := by
  refine ⟨?_, h.versions⟩
  rw [Array.toList_modify]
  exact forall_mem_modify h.nodes hf i

theorem IsIn.addLink (h : k.IsIn s) (fuel i : Nat) {l : Link} (hl : l.IsIn s) :
    (addLink fuel i l k).IsIn s := by
  induction fuel generalizing i l k with
  | zero => exact h
  | succ fuel ih =>
    rw [Stack.addLink]
    split
    · exact h
    extract_lets n under weight
    split
    · exact h
    · refine h.modifyNode i fun n hn => ⟨hn.place, fun e he => ?_⟩
      rcases List.mem_or_eq_of_mem_set he with he | rfl
      · exact hn.links e he
      · exact hl
    · rename_i j _
      refine IsIn.modifyNode ?_ i fun n hn => ⟨hn.place, hn.links⟩
      exact List.foldlRecOn (motive := fun k : Stack => k.IsIn s) _ _ h fun _ hk m hm =>
        ih hk j ((h.nodeAt _).links m hm)
    · split
      · exact h
      · refine h.modifyNode i fun n hn => ⟨hn.place, fun e he => ?_⟩
        rcases List.mem_append.mp he with he | he
        · exact hn.links e he
        · exact List.mem_singleton.mp he ▸ hl

theorem IsIn.merge (h : k.IsIn s) {v w : Nat} : ∀ j ∈ k.merge v w, j.IsIn s := by
  unfold Stack.merge
  split
  · exact nofun
  extract_lets i joined count settled
  rintro _ ⟨⟩
  have hjoined : joined.IsIn s :=
    List.foldlRecOn (motive := fun k : Stack => k.IsIn s) _ _ h fun _ hk l hl =>
      hk.addLink 32 i ((h.nodeAt _).links l hl)
  refine IsIn.remove ?_ w
  simp only [settled]
  split
  · exact hjoined.update v fun _ hx => hx
  · exact hjoined

-- ---------------------------------------------------------------------------
-- Taking trees off
-- ---------------------------------------------------------------------------

theorem Way.allIn_follow {w : Way} {l : Link} (hw : AllIn w.trees s) (hl : l.IsIn s) :
    AllIn (w.follow l).trees s := by
  unfold follow
  split
  · exact hw
  · rename_i t ht
    exact allIn_cons.mpr ⟨hl t ht, hw⟩

section
variable {σ : Type} (verdict : σ → Way → Verdict × σ)

structure WaysIn (ways : List Way) (found : List (Nat × List Tree)) (s : List Char) : Prop where
  ways : ∀ w ∈ ways, AllIn w.trees s
  found : ∀ r ∈ found, AllIn r.2 s

theorem waysIn_stepWays (h : k.IsIn s) {ways : List Way} (hways : ∀ w ∈ ways, AllIn w.trees s)
    (memory : σ) :
    WaysIn (k.stepWays verdict ways memory).1 (k.stepWays verdict ways memory).2.1 s := by
  unfold stepWays
  extract_lets step
  have hstep := List.foldlRecOn (motive := fun acc : List Way × List Way × List (Nat × List Tree) ×
    σ × Nat => WaysIn (acc.1 ++ acc.2.1) acc.2.2.1 s) ways step (b := ([], [], [], memory, ways.length))
    ⟨List.forall_mem_nil _, List.forall_mem_nil _⟩ ?_
  · exact hstep
  · rintro ⟨kept, added, found, memory, total⟩ hacc w hw
    obtain ⟨hkept, hadded⟩ := List.forall_mem_append.mp hacc.ways
    have hfollow : ∀ l ∈ (k.nodeAt w.node).links, AllIn (w.follow l).trees s := fun l hl =>
      Way.allIn_follow (hways w hw) ((h.nodeAt _).links l hl)
    simp only [step]
    split
    · refine ⟨hacc.ways, List.forall_mem_append.mpr ⟨hacc.found, ?_⟩⟩
      exact List.forall_mem_singleton.mpr (hways w hw)
    · exact hacc
    · split
      · exact hacc
      · rename_i l more hlinks
        rw [hlinks] at hfollow
        obtain ⟨hl, hmore⟩ := List.forall_mem_cons.mp hfollow
        refine ⟨List.forall_mem_append.mpr ⟨?_, ?_⟩, hacc.found⟩
        · exact List.forall_mem_append.mpr ⟨hkept, List.forall_mem_singleton.mpr hl⟩
        · refine List.forall_mem_append.mpr ⟨hadded, List.forall_mem_map.mpr fun e he => ?_⟩
          exact hmore e (List.mem_of_mem_take he)

theorem allIn_searchWays (h : k.IsIn s) (fuel : Nat) {ways : List Way} {memory : σ}
    {found : List (Nat × List Tree)} (hways : WaysIn ways found s) :
    ∀ r ∈ (k.searchWays verdict fuel ways memory found).1, AllIn r.2 s := by
  induction fuel generalizing ways memory found with
  | zero => exact hways.found
  | succ fuel ih =>
    rw [searchWays]
    split
    · exact hways.found
    · have hstep := waysIn_stepWays verdict h hways.ways memory
      exact ih ⟨hstep.ways, List.forall_mem_append.mpr ⟨hways.found, hstep.found⟩⟩

theorem allIn_search (h : k.IsIn s) (v : Nat) (memory : σ) :
    ∀ r ∈ (k.search v verdict memory).1, AllIn r.2 s :=
  allIn_searchWays verdict h _ ⟨List.forall_mem_singleton.mpr allIn_nil, List.forall_mem_nil _⟩

end

/-- What has been taken off a stack of the text, and what is left of it. -/
structure Popped (r : List Slice × Stack) (s : List Char) : Prop where
  slices : ∀ x ∈ r.1, AllIn x.trees s
  stack : r.2.IsIn s

theorem popped_addSlice {slices : List Slice} {trees : List Tree} (h : Popped (slices, k) s)
    (like node : Nat) (htrees : AllIn trees s) :
    Popped (addSlice like slices node trees k) s := by
  unfold addSlice
  split
  · rename_i x _
    refine ⟨fun y hy => ?_, h.stack⟩
    simp only [List.mem_append, List.mem_singleton] at hy
    rcases hy with ((hy | hy) | rfl) | hy
    · exact h.slices y ((List.takeWhile_sublist _).subset hy)
    · exact h.slices y ((List.dropWhile_sublist _).subset ((List.takeWhile_sublist _).subset hy))
    · exact htrees
    · exact h.slices y ((List.dropWhile_sublist _).subset ((List.dropWhile_sublist _).subset hy))
  · refine ⟨?_, h.stack.addVersion like node⟩
    exact List.forall_mem_append.mpr ⟨h.slices, List.forall_mem_singleton.mpr htrees⟩

theorem IsIn.popWith {σ : Type} (h : k.IsIn s) (v : Nat) (verdict : σ → Way → Verdict × σ)
    (memory : σ) : Popped (k.popWith v verdict memory) s := by
  refine List.foldlRecOn (motive := fun r => Popped r s) _ _ ⟨List.forall_mem_nil _, h⟩ ?_
  rintro ⟨slices, j⟩ hj ⟨node, trees⟩ hmem
  exact popped_addSlice hj v node (allIn_search verdict h v memory _ hmem)

theorem IsIn.popCount (h : k.IsIn s) (v count : Nat) : Popped (k.popCount v count) s :=
  h.popWith v _ ()

theorem IsIn.popAll (h : k.IsIn s) (v : Nat) : Popped (k.popAll v) s := h.popWith v _ ()

theorem IsIn.popBroken (h : k.IsIn s) (v : Nat) :
    ∀ r ∈ k.popBroken v, AllIn r.1 s ∧ r.2.IsIn s := by
  unfold Stack.popBroken
  split
  · intro r hr
    split at hr
    rename_i slices j hpop
    have hpopped : Popped (slices, j) s := hpop ▸ h.popWith v _ false
    obtain ⟨x, hx, rfl⟩ := Option.map_eq_some_iff.mp hr
    exact ⟨hpopped.slices x (List.mem_of_head? hx), hpopped.stack.renumber _ _⟩
  · exact nofun

end Stack

end Changeset.Repair

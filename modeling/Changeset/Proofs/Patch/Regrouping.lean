import Changeset.Patch.Split
import Mathlib.Data.List.Range
import Mathlib.Data.List.Pairwise

/-!
# Symbol mode regroups the fragments of hunk mode

`grouped_groups`: placing members one after another cuts them into groups
that are ordered by their first member, each ascending, and two members meet
exactly if they have the same key. `bySymbol_regroups` carries this over to
texts: what symbol mode returns is what hunk mode returns, put together along
such a cut of the hunks' numbers.

The cut is one of the numbers and not of the hunks, since a patch can hold
the same hunk twice.
-/

namespace Changeset.Patch

variable {α β : Type}

-- ---------------------------------------------------------------------------
-- Placing
-- ---------------------------------------------------------------------------

/-- A member joins the one group of its key, or opens a group behind all others. -/
theorem place_cases (key : Option String) (x : α) (gs : List (Group α)) :
    (place key x gs = gs ++ [⟨key, [x]⟩] ∧ ∀ g ∈ gs, ∀ k, key = some k → g.key ≠ some k) ∨
      ∃ pre g post k, gs = pre ++ g :: post ∧ key = some k ∧ g.key = some k ∧
        place key x gs = pre ++ ⟨g.key, g.members ++ [x]⟩ :: post := by
  induction gs with
  | nil => exact .inl ⟨rfl, by simp⟩
  | cons g gs ih =>
    by_cases h : (key.isSome && g.key == key) = true
    · obtain ⟨hs, hk⟩ := by simpa using h
      obtain ⟨k, rfl⟩ := Option.isSome_iff_exists.mp hs
      exact .inr ⟨[], g, gs, k, rfl, rfl, hk, by simp [place, hk]⟩
    · have hp : place key x (g :: gs) = g :: place key x gs := by rw [place, if_neg h]
      have hg : ∀ k, key = some k → g.key ≠ some k := by
        rintro k rfl hk
        simp [hk] at h
      rcases ih with ⟨he, hn⟩ | ⟨pre, g', post, k, rfl, hkey, hk, he⟩
      · refine .inl ⟨by rw [hp, he]; rfl, ?_⟩
        intro g' hg'
        rcases List.mem_cons.mp hg' with rfl | hg'
        · exact hg
        · exact hn g' hg'
      · exact .inr ⟨g :: pre, g', post, k, rfl, hkey, hk, by rw [hp, he]; rfl⟩

def Group.map (f : α → β) (g : Group α) : Group β := ⟨g.key, g.members.map f⟩

theorem place_map (f : α → β) (key : Option String) (x : α) (gs : List (Group α)) :
    place key (f x) (gs.map (Group.map f)) = (place key x gs).map (Group.map f) := by
  induction gs with
  | nil => rfl
  | cons g gs ih =>
    by_cases h : (key.isSome && g.key == key) = true
    · simp only [List.map_cons, place, Group.map, if_pos h, List.map_append, List.map_nil]
    · simp only [List.map_cons, place, Group.map, if_neg h]
      exact congrArg _ ih

theorem groups_map (f : α → β) (key : β → Option String) (xs : List α) :
    groups key (xs.map f) = (groups (fun x => key (f x)) xs).map (Group.map f) := by
  suffices h : ∀ gs : List (Group α),
      (xs.map f).foldl (fun gs x => place (key x) x gs) (gs.map (Group.map f)) =
        (xs.foldl (fun gs x => place (key (f x)) x gs) gs).map (Group.map f) from h []
  induction xs with
  | nil => exact fun _ => rfl
  | cons x xs ih =>
    intro gs
    simp only [List.map_cons, List.foldl_cons, place_map]
    exact ih _

-- ---------------------------------------------------------------------------
-- The groups of numbers
-- ---------------------------------------------------------------------------

structure Group.Sound (key : Nat → Option String) (g : Group Nat) : Prop where
  nonempty : g.members ≠ []
  ascending : g.members.Pairwise (· < ·)
  keyed : ∀ i ∈ g.members, key i = g.key
  alone : g.key = none → ∃ i, g.members = [i]

theorem Group.sound_singleton (key : Nat → Option String) (n : Nat) :
    Group.Sound key ⟨key n, [n]⟩ where
  nonempty := List.cons_ne_nil _ _
  ascending := List.pairwise_singleton _ _
  keyed := by simp
  alone := fun _ => ⟨n, rfl⟩

theorem Group.Sound.concat {key : Nat → Option String} {g : Group Nat} (h : g.Sound key) {n : Nat}
    (hlt : ∀ i ∈ g.members, i < n) (hn : key n = g.key) (hg : g.key ≠ none) :
    Group.Sound key ⟨g.key, g.members ++ [n]⟩ where
  nonempty := by simp
  ascending := by
    refine List.pairwise_append.mpr ⟨h.ascending, List.pairwise_singleton _ _, ?_⟩
    intro i hi j hj
    rw [List.mem_singleton.mp hj]
    exact hlt i hi
  keyed := by
    intro i hi
    rcases List.mem_append.mp hi with hi | hi
    · exact h.keyed i hi
    · rw [List.mem_singleton.mp hi, hn]
  alone := fun hnone => absurd hnone hg

structure Grouped (key : Nat → Option String) (n : Nat) (gs : List (Group Nat)) : Prop where
  perm : (gs.flatMap Group.members).Perm (List.range n)
  sound : ∀ g ∈ gs, g.Sound key
  /-- Each group has a number that is less than all numbers of the groups behind it. -/
  ordered : gs.Pairwise fun g later => ∃ i ∈ g.members, ∀ j ∈ later.members, i < j
  distinct : gs.Pairwise fun g later => ∀ k, g.key = some k → later.key ≠ some k

section
variable {key : Nat → Option String} {n : Nat} {gs : List (Group Nat)}

theorem Grouped.mem_iff (h : Grouped key n gs) {i : Nat} :
    (∃ g ∈ gs, i ∈ g.members) ↔ i < n := by
  rw [← List.mem_range, ← h.perm.mem_iff, List.mem_flatMap]

theorem Grouped.lt (h : Grouped key n gs) {g : Group Nat} (hg : g ∈ gs) {i : Nat}
    (hi : i ∈ g.members) : i < n :=
  h.mem_iff.mp ⟨g, hg, hi⟩

theorem pairwise_replace {R : α → α → Prop} {pre post : List α} {a b : α}
    (h : (pre ++ a :: post).Pairwise R) (hpre : ∀ x ∈ pre, R x a → R x b)
    (hpost : ∀ x ∈ post, R a x → R b x) : (pre ++ b :: post).Pairwise R := by
  simp only [List.pairwise_append, List.pairwise_cons, List.mem_cons] at h ⊢
  obtain ⟨h1, ⟨h2, h3⟩, h4⟩ := h
  refine ⟨h1, ⟨fun x hx => hpost x hx (h2 x hx), h3⟩, ?_⟩
  rintro x hx y (rfl | hy)
  · exact hpre x hx (h4 x hx a (.inl rfl))
  · exact h4 x hx y (.inr hy)

theorem Grouped.open (h : Grouped key n gs)
    (hn : ∀ g ∈ gs, ∀ k, key n = some k → g.key ≠ some k) :
    Grouped key (n + 1) (gs ++ [⟨key n, [n]⟩]) where
  perm := by
    rw [List.flatMap_append, List.range_succ]
    exact h.perm.append_right [n]
  sound := List.forall_mem_append.mpr
    ⟨h.sound, List.forall_mem_singleton.mpr (Group.sound_singleton key n)⟩
  ordered := by
    refine List.pairwise_append.mpr ⟨h.ordered, List.pairwise_singleton _ _, ?_⟩
    intro g hg last hlast
    obtain rfl := List.mem_singleton.mp hlast
    obtain ⟨i, hi⟩ := List.exists_mem_of_ne_nil _ (h.sound g hg).nonempty
    exact ⟨i, hi, by simpa using h.lt hg hi⟩
  distinct := by
    refine List.pairwise_append.mpr ⟨h.distinct, List.pairwise_singleton _ _, ?_⟩
    intro g hg last hlast k hk hlk
    obtain rfl := List.mem_singleton.mp hlast
    exact hn g hg k hlk hk

theorem Grouped.join {pre post : List (Group Nat)} {g : Group Nat} {k : String}
    (h : Grouped key n (pre ++ g :: post)) (hn : key n = some k) (hk : g.key = some k) :
    Grouped key (n + 1) (pre ++ ⟨g.key, g.members ++ [n]⟩ :: post) where
  perm := by
    rw [List.range_succ]
    refine .trans ?_ (h.perm.append_right [n])
    simp only [List.flatMap_append, List.flatMap_cons, List.append_assoc]
    exact (List.perm_append_comm.append_left g.members).append_left _
  sound := by
    intro g' hg'
    rcases List.mem_append.mp hg' with hg' | hg'
    · exact h.sound g' (List.mem_append_left _ hg')
    · rcases List.mem_cons.mp hg' with rfl | hg'
      · exact (h.sound g (by simp)).concat (fun i hi => h.lt (by simp) hi) (hn.trans hk.symm)
          (by simp [hk])
      · exact h.sound g' (List.mem_append_right _ (List.mem_cons_of_mem _ hg'))
  ordered := by
    refine pairwise_replace h.ordered ?_ ?_
    · rintro x hx ⟨i, hi, hlt⟩
      refine ⟨i, hi, List.forall_mem_append.mpr ⟨hlt, ?_⟩⟩
      exact List.forall_mem_singleton.mpr (h.lt (List.mem_append_left _ hx) hi)
    · rintro x - ⟨i, hi, hlt⟩
      exact ⟨i, List.mem_append_left _ hi, hlt⟩
  distinct := pairwise_replace h.distinct (fun _ _ hx => hx) (fun _ _ hx => hx)

/-- Two numbers meet in a group exactly if they have the same key. -/
theorem Grouped.together (h : Grouped key n gs) {i j : Nat} (hi : i < n) (hj : j < n)
    (hij : i ≠ j) :
    (∃ g ∈ gs, i ∈ g.members ∧ j ∈ g.members) ↔ ∃ k, key i = some k ∧ key j = some k := by
  constructor
  · rintro ⟨g, hg, hig, hjg⟩
    have hs := h.sound g hg
    cases hk : g.key with
    | none =>
      obtain ⟨m, hm⟩ := hs.alone hk
      rw [hm, List.mem_singleton] at hig hjg
      exact absurd (hig.trans hjg.symm) hij
    | some k => exact ⟨k, hk ▸ hs.keyed i hig, hk ▸ hs.keyed j hjg⟩
  · rintro ⟨k, hik, hjk⟩
    obtain ⟨g, hg, hig⟩ := h.mem_iff.mpr hi
    obtain ⟨g', hg', hjg⟩ := h.mem_iff.mpr hj
    have hgk : g.key = some k := ((h.sound g hg).keyed i hig).symm.trans hik
    have hgk' : g'.key = some k := ((h.sound g' hg').keyed j hjg).symm.trans hjk
    have : Std.Symm fun g later : Group Nat => ∀ k, g.key = some k → later.key ≠ some k :=
      ⟨fun _ _ hxy k hy hx => hxy k hx hy⟩
    have hgg : g = g' := by
      by_contra hne
      exact h.distinct.forall hg hg' hne k hgk hgk'
    exact ⟨g, hg, hig, hgg ▸ hjg⟩

end

theorem grouped_groups (key : Nat → Option String) (n : Nat) :
    Grouped key n (groups key (List.range n)) := by
  induction n with
  | zero => constructor <;> simp [groups]
  | succ n ih =>
    have hs : groups key (List.range (n + 1)) = place (key n) n (groups key (List.range n)) := by
      simp [groups, List.range_succ]
    rw [hs]
    rcases place_cases (key n) n (groups key (List.range n)) with
      ⟨he, hn⟩ | ⟨pre, g, post, k, hgs, hkey, hk, he⟩
    · rw [he]
      exact ih.open hn
    · rw [hgs] at ih
      rw [he]
      exact ih.join hkey hk

-- ---------------------------------------------------------------------------
-- The texts of the fragments
-- ---------------------------------------------------------------------------

def fileLines : List Char := ['-', '-', '-', '\n', '+', '+', '+', '\n']

/-- What a fragment holds behind its file lines. -/
def hunkLines (chunk : String) : List Char := chunk.toList.drop fileLines.length

def regroup (chunks : List String) (part : List Nat) : String :=
  String.ofList (fileLines ++ (part.filterMap (chunks[·]?)).flatMap hunkLines)

theorem fragment_eq (hs : List Hunk) :
    fragment hs = String.ofList (fileLines ++ hs.flatMap fun h => unlines h.render) := by
  simp [fragment, unlines, placeholder, fileLines, List.flatMap_assoc]

theorem hunkLines_fragment (hs : List Hunk) :
    hunkLines (fragment hs) = hs.flatMap fun h => unlines h.render := by
  rw [hunkLines, fragment_eq, String.toList_ofList, List.drop_left]

/-- The fragments of single hunks, put together, are the fragment of these hunks. -/
theorem regroup_splitByHunk (d : Document) (part : List Nat) :
    regroup (splitByHunk d) part = fragment (part.filterMap (d.hunks[·]?)) := by
  have hmap : part.filterMap ((splitByHunk d)[·]?) =
      (part.filterMap (d.hunks[·]?)).map fun h => fragment [h] := by
    simp [splitByHunk, List.map_filterMap]
  rw [regroup, hmap, fragment_eq, List.flatMap_map]
  simp [hunkLines_fragment]

theorem members_groups (key : Hunk → Option String) (hs : List Hunk) :
    (groups key hs).map Group.members =
      (groups (fun i => hs[i]?.bind key) (List.range hs.length)).map fun g =>
        g.members.filterMap (hs[·]?) := by
  have hs' : hs.map some = (List.range hs.length).map (hs[·]?) := by
    apply List.ext_getElem <;> simp
  have h := groups_map (fun i => hs[i]?) (fun o => o.bind key) (List.range hs.length)
  rw [← hs', groups_map] at h
  have hm := congrArg (List.map fun g => g.members.filterMap id) h
  simpa [List.map_map, Function.comp_def, Group.map, List.filterMap_map] using hm

/-- How the numbers below `n` are cut into groups when number `i` has the key `key i`. -/
structure IsGrouping (key : Nat → Option String) (n : Nat) (parts : List (List Nat)) : Prop where
  perm : parts.flatten.Perm (List.range n)
  nonempty : ∀ part ∈ parts, part ≠ []
  ascending : ∀ part ∈ parts, part.Pairwise (· < ·)
  /-- The least number of a group is less than that of any later group. -/
  ordered : parts.Pairwise fun part later => ∃ i ∈ part, ∀ j ∈ later, i < j
  together : ∀ i j, i < n → j < n → i ≠ j →
    ((∃ part ∈ parts, i ∈ part ∧ j ∈ part) ↔ ∃ k, key i = some k ∧ key j = some k)

theorem isGrouping_groups (key : Nat → Option String) (n : Nat) :
    IsGrouping key n ((groups key (List.range n)).map Group.members) := by
  have h := grouped_groups key n
  refine ⟨?_, ?_, ?_, List.pairwise_map.mpr h.ordered, ?_⟩
  · rw [← List.flatMap_def]
    exact h.perm
  · exact List.forall_mem_map.mpr fun g hg => (h.sound g hg).nonempty
  · exact List.forall_mem_map.mpr fun g hg => (h.sound g hg).ascending
  · intro i j hi hj hij
    rw [← h.together hi hj hij]
    simp

/-- Symbol mode gives what hunk mode gives, put together along a cut of the hunks' numbers; where
there is nothing to cut, or more than one file, it gives the same.

It does not say which symbol a hunk is aligned with, only that hunks meet exactly if they are
aligned with the same one. -/
theorem bySymbol_regroups {p : String} {before after : Table} {chunks : List String}
    (h : (byHunk p).value = .ok chunks) :
    ((∀ d, Document.read p = .ok d → d.hunks = [] ∨ 1 < d.files.length) →
      (bySymbol before after p).value = .ok chunks) ∧
    ∀ d, Document.read p = .ok d → d.hunks ≠ [] → d.files.length ≤ 1 →
      chunks.length = d.hunks.length ∧ (∀ c ∈ chunks, fileLines <+: c.toList) ∧
      ∃ parts, IsGrouping (fun i => d.hunks[i]?.bind (align? before after)) d.hunks.length parts ∧
        (bySymbol before after p).value = .ok (parts.map (regroup chunks)) := by
  rw [byHunk, value_splitWith] at h
  rw [bySymbol, value_splitWith]
  constructor
  · intro hd
    rw [← h]
    cases hr : Document.read p with
    | error f => rfl
    | ok d =>
      rcases hd d hr with hnil | hfiles
      · simp [hnil]
      · simp [value_cutBySymbol, hfiles]
  · intro d hr hne hfiles
    simp only [hr, List.isEmpty_iff, if_neg hne, Noted.value_pure, Except.ok.injEq] at h ⊢
    subst h
    refine ⟨by simp [splitByHunk], ?_, _, isGrouping_groups _ _, ?_⟩
    · simp [splitByHunk, fragment_eq]
    · rw [value_cutBySymbol, if_neg (by omega), splitBySymbol]
      simp only [List.map_map, Function.comp_def, regroup_splitByHunk]
      have hm := congrArg (List.map fragment) (members_groups (align? before after) d.hunks)
      simpa [List.map_map, Function.comp_def] using hm

def interleaved : String :=
  "--- a\n+++ b\n@@ -1 +1 @@\n-x\n+y\n@@ -5 +5 @@\n-p\n+q\n@@ -2 +2 @@\n-z\n+w\n"

def interleavedDocument : Document := ⟨[⟨"a", "b", [
  ⟨1, 1, 1, 1, [['-', 'x'], ['+', 'y']], []⟩,
  ⟨5, 1, 5, 1, [['-', 'p'], ['+', 'q']], []⟩,
  ⟨2, 1, 2, 1, [['-', 'z'], ['+', 'w']], []⟩]⟩]⟩

def interleavedTable : Table :=
  Table.empty.insert ⟨"function:f", "f", "function", "function f() \x7b\n  return y\n\x7d", 1, 0, 3⟩

theorem bySymbol_regroups_interleaved :
    (byHunk interleaved).value = .ok (splitByHunk interleavedDocument) ∧
    Document.read interleaved = .ok interleavedDocument ∧
    (bySymbol interleavedTable interleavedTable interleaved).value =
      .ok [regroup (splitByHunk interleavedDocument) [0, 2],
        regroup (splitByHunk interleavedDocument) [1]] ∧
    ∃ parts, IsGrouping
        (fun i => interleavedDocument.hunks[i]?.bind (align? interleavedTable interleavedTable))
        interleavedDocument.hunks.length parts ∧
      (bySymbol interleavedTable interleavedTable interleaved).value =
        .ok (parts.map (regroup (splitByHunk interleavedDocument))) := by
  have hr : Document.read interleaved = .ok interleavedDocument := by decide +kernel
  have hv : (byHunk interleaved).value = .ok (splitByHunk interleavedDocument) := by
    decide +kernel
  refine ⟨hv, hr, by decide +kernel, ?_⟩
  exact ((bySymbol_regroups hv).2 _ hr (by decide) (by decide)).2.2

end Changeset.Patch

import Changeset.Symbol.Basic

/-!
# Symbol tables

A table keeps its symbols in the order in which their keys were first seen, one
symbol to a key. A repeated key keeps its place and takes the later symbol.
-/

namespace Changeset

/-- The symbols with `s` in the place of the one with its key, or at the end. -/
def Symbol.putInto (s : Symbol) : List Symbol → List Symbol
  | [] => [s]
  | x :: xs => if x.key = s.key then s :: xs else x :: s.putInto xs

theorem Symbol.map_key_putInto (s : Symbol) (xs : List Symbol) :
    (s.putInto xs).map key =
      if s.key ∈ xs.map key then xs.map key else xs.map key ++ [s.key] := by
  induction xs with
  | nil => simp [putInto]
  | cons x xs ih =>
    by_cases h : x.key = s.key
    · simp [putInto, h]
    · have h' : ¬ s.key = x.key := fun hk => h hk.symm
      simp only [putInto, h, if_false, List.map_cons, ih, List.mem_cons, h', false_or]
      split <;> simp

theorem Symbol.find?_putInto (s : Symbol) (xs : List Symbol) (k : String) :
    (s.putInto xs).find? (·.key = k) = if s.key = k then some s else xs.find? (·.key = k) := by
  induction xs with
  | nil => by_cases h : s.key = k <;> simp [putInto, h]
  | cons x xs ih =>
    by_cases h : x.key = s.key
    · by_cases hk : s.key = k <;> simp [putInto, h, hk]
    · rw [putInto, if_neg h, List.find?_cons, List.find?_cons, ih]
      by_cases hk : x.key = k
      · have : ¬ s.key = k := fun hs => h (hk.trans hs.symm)
        simp [hk, this]
      · simp [hk]

structure Table where
  symbols : List Symbol
  nodup : (symbols.map Symbol.key).Nodup

namespace Table

def empty : Table := ⟨[], by simp⟩

def keys (t : Table) : List String := t.symbols.map Symbol.key

def get? (t : Table) (key : String) : Option Symbol := t.symbols.find? (·.key = key)

def contains (t : Table) (key : String) : Bool := t.keys.contains key

def insert (t : Table) (s : Symbol) : Table where
  symbols := s.putInto t.symbols
  nodup := by
    rw [Symbol.map_key_putInto]
    split
    · exact t.nodup
    · rename_i h
      exact List.nodup_append.2 ⟨t.nodup, by simp, by simpa using fun a ha he => h (by
        simpa [← he] using ⟨a, ha, rfl⟩)⟩

def ofList (ss : List Symbol) : Table := ss.foldl insert empty

theorem keys_insert (t : Table) (s : Symbol) :
    (t.insert s).keys = if s.key ∈ t.keys then t.keys else t.keys ++ [s.key] :=
  s.map_key_putInto t.symbols

theorem get?_insert (t : Table) (s : Symbol) (k : String) :
    (t.insert s).get? k = if s.key = k then some s else t.get? k :=
  s.find?_putInto t.symbols k

theorem key_of_get? {t : Table} {k : String} {s : Symbol} (h : t.get? k = some s) :
    s.key = k := by
  simpa using List.find?_some h

end Table

end Changeset

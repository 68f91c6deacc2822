import Mathlib.Logic.Basic

/-!
# Tables and object heaps

`Table K V` is a finite map as a container library offers it: `find` a key, `insert` or
overwrite an entry, `erase` one. Only lookups observe a table, so a table is its lookup
function and two tables with the same lookups are equal. `Heap α` holds shared objects
under references: `alloc` hands out a reference never used before, `modify` changes one
object in place and every holder of its reference sees the change.
-/

namespace ConntrackCm.Lib

/-- A map from keys to values, observed only through `find`. -/
structure Table (K V : Type) where
  find : K → Option V

namespace Table

variable {K V : Type} [DecidableEq K]

def empty : Table K V := ⟨fun _ => none⟩

def insert (m : Table K V) (k : K) (v : V) : Table K V :=
  ⟨fun k' => if k' = k then some v else m.find k'⟩

def erase (m : Table K V) (k : K) : Table K V :=
  ⟨fun k' => if k' = k then none else m.find k'⟩

theorem find_insert (m : Table K V) (k k' : K) (v : V) :
    (m.insert k v).find k' = if k' = k then some v else m.find k' := rfl

theorem find_erase (m : Table K V) (k k' : K) :
    (m.erase k).find k' = if k' = k then none else m.find k' := rfl

@[simp] theorem find_insert_self (m : Table K V) (k : K) (v : V) : (m.insert k v).find k = some v := by
  simp [find_insert]

@[simp] theorem find_erase_self (m : Table K V) (k : K) : (m.erase k).find k = none := by
  simp [find_erase]

end Table

/-- References to heap objects. -/
abbrev Ref := Nat

/-- Shared objects by reference; references from `next` on are unused. -/
structure Heap (α : Type) where
  get : Ref → α
  next : Ref

namespace Heap

variable {α : Type}

/-- A heap on which nothing is allocated; `a` is what an unused reference reads as. -/
def empty (a : α) : Heap α := ⟨fun _ => a, 0⟩

def alloc (h : Heap α) (a : α) : Heap α :=
  ⟨fun r => if r = h.next then a else h.get r, h.next + 1⟩

def modify (h : Heap α) (r : Ref) (g : α → α) : Heap α :=
  ⟨fun r' => if r' = r then g (h.get r) else h.get r', h.next⟩

theorem get_alloc (h : Heap α) (a : α) (r : Ref) :
    (h.alloc a).get r = if r = h.next then a else h.get r := rfl

@[simp] theorem get_alloc_fresh (h : Heap α) (a : α) : (h.alloc a).get h.next = a := by
  simp [get_alloc]

theorem modify_modify (h : Heap α) (r : Ref) (f g : α → α) :
    (h.modify r f).modify r g = h.modify r fun a => g (f a) := by
  simp only [modify, mk.injEq, and_true, if_true]
  funext r'
  split <;> rfl

/-- Changing an object right after creating it creates the changed object. -/
theorem modify_alloc (h : Heap α) (a : α) (g : α → α) : (h.alloc a).modify h.next g = h.alloc (g a) := by
  simp only [modify, alloc, mk.injEq, and_true, if_true]
  funext r'
  split <;> rfl

end Heap

end ConntrackCm.Lib

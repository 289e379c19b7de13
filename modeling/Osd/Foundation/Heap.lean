import Mathlib.Data.List.AList
import Osd.Foundation.Outcome

/-!
# Heaps of separately allocated objects

An object lives from its allocation until it is freed.  Which address a new
object gets is up to the allocator: any one at which no object lives, also one
of an object that was freed.
-/

namespace Osd.Foundation

abbrev Address := Nat

structure Heap (α : Type) where
  objects : AList fun _ : Address => α
  allocations : Nat

/-- The address of the next object, from the number of allocations so far and
the addresses in use. -/
structure Allocator where
  pick : Nat → List Address → Address
  fresh : ∀ allocations used, pick allocations used ∉ used

namespace Heap

variable {α : Type}

def empty : Heap α := ⟨∅, 0⟩

def get (heap : Heap α) (address : Address) : Outcome α :=
  match heap.objects.lookup address with
  | none => .error .useAfterFree
  | some object => .ok object

def malloc (alloc : Allocator) (heap : Heap α) (object : α) :
    Address × Heap α :=
  let address := alloc.pick heap.allocations heap.objects.keys
  (address, ⟨heap.objects.insert address object, heap.allocations + 1⟩)

def set (heap : Heap α) (address : Address) (object : α) :
    Outcome (Heap α) := do
  let _ ← heap.get address
  .ok { heap with objects := heap.objects.insert address object }

def free (heap : Heap α) (address : Address) : Outcome (Heap α) := do
  let _ ← heap.get address
  .ok { heap with objects := heap.objects.erase address }

/-- The object may move, also when the old place would do. -/
def realloc (alloc : Allocator) (heap : Heap α) (address : Address)
    (object : α) : Outcome (Address × Heap α) := do
  let heap ← heap.free address
  .ok (heap.malloc alloc object)

variable {heap : Heap α} {address other : Address} {object : α}
  {alloc : Allocator}

theorem get_eq_ok_iff :
    heap.get address = .ok object ↔
      heap.objects.lookup address = some object := by
  unfold get
  cases heap.objects.lookup address with
  | none => simp
  | some found => simp

@[simp] theorem get_malloc :
    (heap.malloc alloc object).2.get (heap.malloc alloc object).1 =
      .ok object := by
  rw [get_eq_ok_iff]
  exact AList.lookup_insert _

theorem malloc_ne {found : α} (h : heap.get address = .ok found) :
    address ≠ (heap.malloc alloc object).1 := by
  intro heq
  have hmem : address ∈ heap.objects.keys := by
    rw [← AList.mem_keys, ← AList.lookup_isSome, get_eq_ok_iff.mp h]
    rfl
  rw [heq] at hmem
  exact alloc.fresh _ _ hmem

theorem get_malloc_of_get {found : α} (h : heap.get address = .ok found) :
    (heap.malloc alloc object).2.get address = .ok found := by
  have hne : address ≠ (heap.malloc alloc object).1 := malloc_ne h
  rw [get_eq_ok_iff] at h ⊢
  exact (AList.lookup_insert_ne hne).trans h

theorem malloc_eq (heap : Heap α) (alloc : Allocator) (object : α) :
    ∃ address heap', heap.malloc alloc object = (address, heap') ∧
      heap'.get address = .ok object ∧
      ∀ other kept, heap.get other = .ok kept →
        heap'.get other = .ok kept ∧ other ≠ address := by
  refine ⟨_, _, rfl, get_malloc, ?_⟩
  intro other kept hkept
  have hne : other ≠ (heap.malloc alloc object).1 := malloc_ne hkept
  exact ⟨get_malloc_of_get hkept, hne⟩

theorem set_eq_ok {found : α} (h : heap.get address = .ok found) :
    heap.set address object =
      .ok { heap with objects := heap.objects.insert address object } := by
  rw [set, h, ok_bind]

theorem free_eq_ok {found : α} (h : heap.get address = .ok found) :
    heap.free address =
      .ok { heap with objects := heap.objects.erase address } := by
  rw [free, h, ok_bind]

section Frame

variable {heap' : Heap α}

theorem get_set (h : heap.set address object = .ok heap') :
    heap'.get address = .ok object := by
  obtain ⟨_, _, hset⟩ := bind_eq_ok.mp h
  cases hset
  rw [get_eq_ok_iff]
  exact AList.lookup_insert _

theorem get_set_ne (h : heap.set address object = .ok heap')
    (hne : other ≠ address) : heap'.get other = heap.get other := by
  obtain ⟨_, _, hset⟩ := bind_eq_ok.mp h
  cases hset
  unfold get
  rw [AList.lookup_insert_ne hne]

theorem get_free_ne (h : heap.free address = .ok heap')
    (hne : other ≠ address) : heap'.get other = heap.get other := by
  obtain ⟨_, _, hfree⟩ := bind_eq_ok.mp h
  cases hfree
  unfold get
  rw [AList.lookup_erase_ne hne]

theorem get_free (h : heap.free address = .ok heap') :
    heap'.get address = .error .useAfterFree := by
  obtain ⟨_, _, hfree⟩ := bind_eq_ok.mp h
  cases hfree
  unfold get
  rw [AList.lookup_erase]

end Frame

theorem realloc_eq_ok {found : α} (h : heap.get address = .ok found)
    (alloc : Allocator) (object : α) :
    ∃ address' heap',
      heap.realloc alloc address object = .ok (address', heap') ∧
      heap'.get address' = .ok object ∧
      ∀ other kept, other ≠ address → heap.get other = .ok kept →
        heap'.get other = .ok kept ∧ other ≠ address' := by
  have hfree := free_eq_ok h
  generalize Heap.mk _ _ = freed at hfree
  obtain ⟨address', heap', hmalloc, hget, hframe⟩ :=
    freed.malloc_eq alloc object
  refine ⟨address', heap', ?_, hget, ?_⟩
  · rw [realloc, hfree, ok_bind, hmalloc]
  · intro other kept hne hkept
    exact hframe other kept ((get_free_ne hfree hne).trans hkept)

/-- A property of all objects that live. -/
def All (P : α → Prop) (heap : Heap α) : Prop :=
  ∀ address object, heap.get address = .ok object → P object

section All

variable {P : α → Prop} {heap' : Heap α}

theorem all_empty : (empty : Heap α).All P := by
  intro address object h
  cases h

theorem All.malloc (h : heap.All P) (hobject : P object) :
    (heap.malloc alloc object).2.All P := by
  intro other found hfound
  by_cases hsame : other = (heap.malloc alloc object).1
  · rw [hsame, get_malloc] at hfound
    cases hfound
    exact hobject
  · rw [get_eq_ok_iff] at hfound
    apply h other found
    rw [get_eq_ok_iff]
    exact (AList.lookup_insert_ne hsame).symm.trans hfound

theorem All.set (h : heap.All P) (hobject : P object)
    (hset : heap.set address object = .ok heap') : heap'.All P := by
  intro other found hfound
  by_cases hsame : other = address
  · rw [hsame, get_set hset] at hfound
    cases hfound
    exact hobject
  · rw [get_set_ne hset hsame] at hfound
    exact h other found hfound

theorem All.free (h : heap.All P) (hfree : heap.free address = .ok heap') :
    heap'.All P := by
  intro other found hfound
  by_cases hsame : other = address
  · rw [hsame, get_free hfree] at hfound
    cases hfound
  · rw [get_free_ne hfree hsame] at hfound
    exact h other found hfound

theorem All.realloc (h : heap.All P) (hobject : P object)
    {address' : Address}
    (hrealloc : heap.realloc alloc address object = .ok (address', heap')) :
    heap'.All P := by
  obtain ⟨freed, hfree, hmalloc⟩ := bind_eq_ok.mp hrealloc
  have hkept : (freed.malloc alloc object).2.All P :=
    (h.free hfree).malloc hobject
  rwa [Except.ok.inj hmalloc] at hkept

end All

end Heap

end Osd.Foundation

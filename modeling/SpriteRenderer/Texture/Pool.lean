import SpriteRenderer.Fault
import SpriteRenderer.RenderError
import SpriteRenderer.Texture.Handle

/-!
# The texture pool

A pool is a table of slots and a stack of the free ones. A handle is handed
out free of any resource (`allocate`), gets one (`bind`), or both at once
(`insert`), and goes back on the stack when it is disposed of; the handle
freed last is reused first. In a new pool the highest handle is on top.

`WellFormed` is the invariant that every operation keeps: the stack lists
each free slot once and nothing else.
-/

namespace SpriteRenderer

/-- What a slot of the pool holds. -/
inductive Slot (T : Type) where
  | free
  /-- Handed out, and waiting for its resource. -/
  | reserved
  | bound (resource : T)
deriving DecidableEq

def Slot.isFree {T : Type} : Slot T → Bool
  | .free => true
  | _ => false

/-- Texture slots, and the free ones with the next to hand out in front. -/
structure TexturePool (T : Type) where
  slots : Array (Slot T)
  freeStack : List Nat
deriving DecidableEq

namespace TexturePool

variable {T : Type}

/-- Slots of a pool whose size nobody chose. -/
def defaultCapacity : Nat := 2048

/-- The largest number of slots that 32-bit handles can address. -/
def maxCapacity : Nat := UInt32.size - 1

/-- A pool of free slots, with the highest on top of the stack. -/
def empty (capacity : Nat) : TexturePool T where
  slots := .replicate capacity .free
  freeStack := (List.range capacity).reverse

/-- A pool of the given size, if handles can address all of it. -/
def create (capacity : Nat) : Except Fault (TexturePool T) :=
  if capacity ≤ maxCapacity then .ok (empty capacity)
  else .error (.capacityBeyondHandles capacity)

def capacity (p : TexturePool T) : Nat := p.slots.size

/-- How many handles are handed out. -/
def live (p : TexturePool T) : Nat := p.capacity - p.freeStack.length

/-- The resource behind a handle. -/
def get? (p : TexturePool T) (h : TextureHandle) : Option T :=
  match p.slots[h.index]? with
  | some (.bound resource) => some resource
  | _ => none

def isBound (p : TexturePool T) (h : TextureHandle) : Bool := (p.get? h).isSome

/-- Replaces one slot. -/
def setSlot (p : TexturePool T) (h : TextureHandle) (s : Slot T) : TexturePool T :=
  { p with slots := p.slots.setIfInBounds h.index s }

/-- Takes the top of the free stack and leaves `s` in its slot. -/
def take (p : TexturePool T) (s : Slot T) : Except RenderError (TextureHandle × TexturePool T) :=
  match p.freeStack with
  | [] => .error (.resourceExhausted p.capacity)
  | index :: rest => .ok (⟨index⟩, { p with freeStack := rest }.setSlot ⟨index⟩ s)

/-- Hands out a handle without a resource. -/
def allocate (p : TexturePool T) : Except RenderError (TextureHandle × TexturePool T) :=
  p.take .reserved

/-- Hands out a handle for a resource. -/
def insert (p : TexturePool T) (resource : T) :
    Except RenderError (TextureHandle × TexturePool T) :=
  p.take (.bound resource)

/-- The slot of a handle, if the pool has one. -/
def slot (p : TexturePool T) (h : TextureHandle) : Except RenderError (Slot T) :=
  match p.slots[h.index]? with
  | some s => .ok s
  | none => .error (.outOfRange .textureHandle h.index p.capacity)

/-- Gives a resource to a handle that waits for one. -/
def bind (p : TexturePool T) (h : TextureHandle) (resource : T) :
    Except RenderError (TexturePool T) := do
  match ← p.slot h with
  | .reserved => .ok (p.setSlot h (.bound resource))
  | .free | .bound _ => .error (.invalidHandle h.index)

/-- Takes a handle back, with the resource it had. -/
def dispose (p : TexturePool T) (h : TextureHandle) :
    Except RenderError (Option T × TexturePool T) := do
  let freed := { p.setSlot h .free with freeStack := h.index :: p.freeStack }
  match ← p.slot h with
  | .free => .error (.invalidHandle h.index)
  | .reserved => .ok (none, freed)
  | .bound resource => .ok (some resource, freed)

/-- The free stack lists each free slot once and no other number. -/
structure WellFormed (p : TexturePool T) : Prop where
  nodup : p.freeStack.Nodup
  mem_iff : ∀ i, i ∈ p.freeStack ↔ p.slots[i]?.any Slot.isFree = true

/-! ## Drawing down a pool -/

/-- Allocates until the pool refuses: the handles in the order they came, the
refusal, and the pool without a free slot. -/
def drain (p : TexturePool T) : List TextureHandle × RenderError × TexturePool T :=
  (p.freeStack.map TextureHandle.mk, .resourceExhausted p.capacity,
    { slots := p.freeStack.foldl (fun slots i => slots.setIfInBounds i .reserved) p.slots
      freeStack := [] })

/-- A pool that refuses is drained already. -/
theorem drain_of_allocate_eq_error {p : TexturePool T} {e : RenderError}
    (h : p.allocate = .error e) : p.drain = ([], e, p) := by
  obtain ⟨slots, freeStack⟩ := p
  cases freeStack with
  | nil => cases h; rfl
  | cons i rest => cases h

/-- A pool that hands out a handle is drained by draining what is left. -/
theorem drain_of_allocate_eq_ok {p p' : TexturePool T} {h : TextureHandle}
    (ok : p.allocate = .ok (h, p')) : p.drain = (h :: p'.drain.1, p'.drain.2) := by
  obtain ⟨slots, freeStack⟩ := p
  cases freeStack with
  | nil => cases ok
  | cons i rest => cases ok; simp [drain, setSlot, capacity]

end TexturePool

end SpriteRenderer

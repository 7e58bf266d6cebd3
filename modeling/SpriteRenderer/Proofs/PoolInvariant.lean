import Mathlib.Data.List.Nodup
import SpriteRenderer.Texture.Pool

/-!
# The texture pool keeps its books

A pool says twice which of its slots are free: in the table of slots, and
on the stack. `WellFormed` is that both say the same. It holds of a new pool
(`wellFormed_empty`), every operation keeps it (`wellFormed_serve`), and so
it holds after any sequence of requests with any handles (`wellFormed_run`).
How many handles are out, and how many can still be had, is counted from it
(`live_eq_countP`, `run_allocate`).

A refused operation returns no pool, and `serve` goes on with the old one.
`inPlace` is the same request write by write: a slot is overwritten where the
operation overwrites it, before or after it knows whether it is allowed to,
and there is no result where it writes beside the table. On a well-formed
pool the two are the same (`inPlace_eq_serve`).
-/

namespace SpriteRenderer

variable {T : Type}

/-! ## Requests -/

/-- What can be asked of a pool. A handle may be any number, issued or not. -/
inductive PoolRequest (T : Type) where
  | allocate
  | insert (resource : T)
  | bind (handle : TextureHandle) (resource : T)
  | dispose (handle : TextureHandle)
  | get (handle : TextureHandle)

inductive PoolAnswer (T : Type) where
  | handle (h : TextureHandle)
  | bound
  | resource (r : Option T)
  | refused (e : RenderError)
deriving DecidableEq

namespace PoolRequest

/-- An operation's outcome as an answer and a pool: a refusal leaves the pool
as it was. -/
def settle {α : Type} (p : TexturePool T) (served : α → PoolAnswer T × TexturePool T) :
    Except RenderError α → PoolAnswer T × TexturePool T
  | .ok a => served a
  | .error e => (.refused e, p)

/-- The answer to a request and the pool after it. -/
def serve (p : TexturePool T) : PoolRequest T → PoolAnswer T × TexturePool T
  | .allocate => settle p (fun (h, p') => (.handle h, p')) p.allocate
  | .insert resource => settle p (fun (h, p') => (.handle h, p')) (p.insert resource)
  | .bind h resource => settle p (fun p' => (.bound, p')) (p.bind h resource)
  | .dispose h => settle p (fun (r, p') => (.resource r, p')) (p.dispose h)
  | .get h => (.resource (p.get? h), p)

/-- Serves requests in order: the answers, and the pool at the end. -/
def run : List (PoolRequest T) → TexturePool T → List (PoolAnswer T) × TexturePool T
  | [], p => ([], p)
  | request :: rest, p =>
      let here := request.serve p
      let later := run rest here.2
      (here.1 :: later.1, later.2)

/-- Writes a slot, which has to be there. -/
def write (p : TexturePool T) (i : Nat) (s : Slot T) : Option (TexturePool T) :=
  if i < p.slots.size then some (p.setSlot ⟨i⟩ s) else none

/-- A request, write by write; `none` where a write goes beside the table. -/
def inPlace (p : TexturePool T) : PoolRequest T → Option (PoolAnswer T × TexturePool T)
  | .allocate =>
      match p.freeStack with
      | [] => some (.refused (.resourceExhausted p.capacity), p)
      | i :: rest => do
          let p' ← write { p with freeStack := rest } i .reserved
          return (.handle ⟨i⟩, p')
  | .insert resource =>
      match p.freeStack with
      | [] => some (.refused (.resourceExhausted p.capacity), p)
      | i :: rest => do
          let p' ← write { p with freeStack := rest } i .reserved
          let p'' ← write p' i (.bound resource)
          return (.handle ⟨i⟩, p'')
  | .bind h resource =>
      match p.slots[h.index]? with
      | none => some (.refused (.outOfRange .textureHandle h.index p.capacity), p)
      | some .reserved => do
          let p' ← write p h.index (.bound resource)
          return (.bound, p')
      | some _ => some (.refused (.invalidHandle h.index), p)
  | .dispose h =>
      match p.slots[h.index]? with
      | none => some (.refused (.outOfRange .textureHandle h.index p.capacity), p)
      | some old => do
          let p' ← write p h.index .free
          let freed := { p' with freeStack := h.index :: p'.freeStack }
          -- Only now is it known whether there was anything to dispose of.
          return match old with
            | .free => (.refused (.invalidHandle h.index), p')
            | .reserved => (.resource none, freed)
            | .bound resource => (.resource (some resource), freed)
  | .get h => some (.resource (p.get? h), p)

end PoolRequest

/-! ## Slots -/

namespace TexturePool

variable {p p' : TexturePool T} {h : TextureHandle} {i : Nat} {s : Slot T}

theorem isFree_iff {s : Slot T} : s.isFree = true ↔ s = .free := by
  cases s <;> simp [Slot.isFree]

theorem any_isFree_iff : p.slots[i]?.any Slot.isFree = true ↔ p.slots[i]? = some .free := by
  cases p.slots[i]? with
  | none => simp
  | some s => simp [isFree_iff]

theorem slots_setSlot (p : TexturePool T) (h : TextureHandle) (s : Slot T) (j : Nat) :
    (p.setSlot h s).slots[j]? =
      if h.index = j then (if h.index < p.slots.size then some s else none) else p.slots[j]? := by
  simp [setSlot, Array.getElem?_setIfInBounds]

@[simp] theorem capacity_setSlot (p : TexturePool T) (h : TextureHandle) (s : Slot T) :
    (p.setSlot h s).capacity = p.capacity := by
  simp [setSlot, capacity]

theorem setSlot_of_slots_eq (hs : p.slots[h.index]? = some s) : p.setSlot h s = p := by
  have hsame : p.slots.setIfInBounds h.index s = p.slots := by
    apply Array.ext_getElem?
    intro j
    rw [Array.getElem?_setIfInBounds]
    split
    · next hj =>
        subst hj
        obtain ⟨hlt, -⟩ := Array.getElem?_eq_some_iff.mp hs
        rw [if_pos hlt, hs]
    · rfl
  simp [setSlot, hsame]

theorem setSlot_setSlot (p : TexturePool T) (h : TextureHandle) (s s' : Slot T) :
    (p.setSlot h s).setSlot h s' = p.setSlot h s' := by
  simp [setSlot]

theorem free_setSlot_of_ne (hs : s ≠ .free) {j : Nat} :
    (p.setSlot h s).slots[j]? = some .free ↔ h.index ≠ j ∧ p.slots[j]? = some .free := by
  rw [slots_setSlot]
  by_cases hj : h.index = j
  · by_cases hlt : h.index < p.slots.size
    · simp [hj, hj ▸ hlt, hs]
    · simp [hj, hj ▸ hlt]
  · simp [hj]

theorem free_setSlot_free (hlt : h.index < p.slots.size) {j : Nat} :
    (p.setSlot h .free).slots[j]? = some .free ↔ h.index = j ∨ p.slots[j]? = some .free := by
  rw [slots_setSlot]
  by_cases hj : h.index = j
  · simp [hj, hj ▸ hlt]
  · simp [hj]

theorem WellFormed.mem_freeStack_iff (wf : p.WellFormed) :
    i ∈ p.freeStack ↔ p.slots[i]? = some .free :=
  (wf.mem_iff i).trans any_isFree_iff

theorem WellFormed.lt_of_mem (wf : p.WellFormed) (hi : i ∈ p.freeStack) : i < p.slots.size := by
  obtain ⟨hlt, -⟩ := Array.getElem?_eq_some_iff.mp (wf.mem_freeStack_iff.mp hi)
  exact hlt

theorem get?_eq_some_iff {x : T} : p.get? h = some x ↔ p.slots[h.index]? = some (.bound x) := by
  unfold get?
  split
  · next hslot => simp [hslot]
  · next hother =>
      refine iff_of_false (by simp) ?_
      intro hslot
      exact hother x hslot

theorem lt_capacity_of_get? {x : T} (held : p.get? h = some x) : h.index < p.capacity :=
  (Array.getElem?_eq_some_iff.mp (get?_eq_some_iff.mp held)).1

/-! ## What each operation does -/

theorem take_eq_ok_iff :
    p.take s = .ok (h, p') ↔
      ∃ rest, p.freeStack = h.index :: rest ∧ p' = { p with freeStack := rest }.setSlot h s := by
  unfold take
  cases p.freeStack with
  | nil => simp
  | cons i rest =>
      constructor
      · intro hok
        cases hok
        exact ⟨rest, rfl, rfl⟩
      · rintro ⟨rest', hstack, rfl⟩
        obtain ⟨rfl, rfl⟩ := List.cons.inj hstack
        rfl

theorem bind_eq_ok_iff {resource : T} :
    p.bind h resource = .ok p' ↔
      p.slots[h.index]? = some .reserved ∧ p' = p.setSlot h (.bound resource) := by
  unfold bind slot
  cases p.slots[h.index]? with
  | none => simp [Bind.bind, Except.bind]
  | some s => cases s <;> simp [Bind.bind, Except.bind, eq_comm]

theorem dispose_eq_ok_iff {r : Option T} :
    p.dispose h = .ok (r, p') ↔
      (p.slots[h.index]? = some .reserved ∧ r = none
          ∨ ∃ resource, p.slots[h.index]? = some (.bound resource) ∧ r = some resource)
        ∧ p' = { p.setSlot h .free with freeStack := h.index :: p.freeStack } := by
  unfold dispose slot
  cases p.slots[h.index]? with
  | none => simp [Bind.bind, Except.bind]
  | some s => cases s <;> simp [Bind.bind, Except.bind, eq_comm]

theorem wellFormed_empty (capacity : Nat) : (empty capacity : TexturePool T).WellFormed where
  nodup := by simp [empty, List.nodup_reverse, List.nodup_range]
  mem_iff := by
    intro i
    by_cases hi : i < capacity
    · simp [empty, hi, Slot.isFree]
    · simp [empty, hi]

theorem WellFormed.take (wf : p.WellFormed) (hs : s ≠ .free) (ok : p.take s = .ok (h, p')) :
    p'.WellFormed := by
  obtain ⟨rest, hstack, rfl⟩ := take_eq_ok_iff.mp ok
  have hnodup := wf.nodup
  rw [hstack] at hnodup
  obtain ⟨hnotin, hrest⟩ := List.nodup_cons.mp hnodup
  refine ⟨hrest, ?_⟩
  intro j
  have hj : j = h.index ∨ j ∈ rest ↔ p.slots[j]? = some .free := by
    rw [← wf.mem_freeStack_iff, hstack, List.mem_cons]
  rw [any_isFree_iff, free_setSlot_of_ne hs]
  change j ∈ rest ↔ h.index ≠ j ∧ p.slots[j]? = some .free
  rw [← hj]
  constructor
  · intro hin
    exact ⟨fun heq => hnotin (heq ▸ hin), Or.inr hin⟩
  · rintro ⟨hne, heq | hin⟩
    · exact absurd heq.symm hne
    · exact hin

theorem WellFormed.bind {resource : T} (wf : p.WellFormed) (ok : p.bind h resource = .ok p') :
    p'.WellFormed := by
  obtain ⟨hslot, rfl⟩ := bind_eq_ok_iff.mp ok
  refine ⟨wf.nodup, ?_⟩
  intro j
  rw [any_isFree_iff, free_setSlot_of_ne (by simp)]
  change j ∈ p.freeStack ↔ _
  rw [wf.mem_freeStack_iff]
  constructor
  · intro hfree
    refine ⟨?_, hfree⟩
    rintro rfl
    rw [hslot] at hfree
    cases hfree
  · exact And.right

theorem WellFormed.dispose {r : Option T} (wf : p.WellFormed) (ok : p.dispose h = .ok (r, p')) :
    p'.WellFormed := by
  obtain ⟨hslot, rfl⟩ := dispose_eq_ok_iff.mp ok
  obtain ⟨s, hs, hlive⟩ : ∃ s, p.slots[h.index]? = some s ∧ s ≠ .free := by
    rcases hslot with ⟨hs, -⟩ | ⟨resource, hs, -⟩
    · exact ⟨_, hs, by simp⟩
    · exact ⟨_, hs, by simp⟩
  obtain ⟨hlt, -⟩ := Array.getElem?_eq_some_iff.mp hs
  -- What is handed out is not on the stack, so it goes there once.
  have hnotin : h.index ∉ p.freeStack := by
    intro hin
    have hfree := wf.mem_freeStack_iff.mp hin
    rw [hs] at hfree
    exact hlive (Option.some.inj hfree)
  refine ⟨List.nodup_cons.mpr ⟨hnotin, wf.nodup⟩, ?_⟩
  intro j
  rw [any_isFree_iff]
  change j ∈ h.index :: p.freeStack ↔ (p.setSlot h .free).slots[j]? = some .free
  rw [free_setSlot_free hlt, List.mem_cons, wf.mem_freeStack_iff, eq_comm]

@[simp] theorem capacity_empty (capacity : Nat) :
    (empty capacity : TexturePool T).capacity = capacity := by
  simp [empty, TexturePool.capacity]

theorem get?_empty (capacity : Nat) : (empty capacity : TexturePool T).get? h = none := by
  rw [Option.eq_none_iff_forall_ne_some]
  intro x hx
  rw [get?_eq_some_iff] at hx
  simp [empty, Array.getElem?_replicate] at hx

theorem capacity_take (ok : p.take s = .ok (h, p')) : p'.capacity = p.capacity := by
  obtain ⟨rest, -, rfl⟩ := take_eq_ok_iff.mp ok
  rw [capacity_setSlot]
  rfl

theorem create_eq_ok_iff {capacity : Nat} :
    create capacity = .ok p ↔ capacity ≤ maxCapacity ∧ p = empty capacity := by
  unfold create
  split
  · next hle => simp [hle, eq_comm]
  · next hle => simp [hle]

end TexturePool

/-! ## Runs -/

namespace PoolRequest

open TexturePool

variable {p p' : TexturePool T}

/-- What holds of the pool that a request finds and of the pool that each
operation returns holds of the pool after the request. -/
theorem serve_induct {motive : TexturePool T → Prop} (same : motive p)
    (taken : ∀ s h p', s ≠ .free → p.take s = .ok (h, p') → motive p')
    (bound : ∀ h resource p', p.bind h resource = .ok p' → motive p')
    (disposed : ∀ h r p', p.dispose h = .ok (r, p') → motive p') (request : PoolRequest T) :
    motive (request.serve p).2 := by
  have htaken : ∀ s : Slot T, s ≠ .free →
      motive (settle p (fun (h, p') => (.handle h, p')) (p.take s)).2 := by
    intro s hs
    cases htake : p.take s with
    | error e => exact same
    | ok out => exact taken s _ _ hs htake
  cases request with
  | allocate => exact htaken .reserved (by simp)
  | insert resource => exact htaken (.bound resource) (by simp)
  | bind h resource =>
      rw [serve]
      cases hbind : p.bind h resource with
      | error e => exact same
      | ok p' => exact bound h resource p' hbind
  | dispose h =>
      rw [serve]
      cases hdispose : p.dispose h with
      | error e => exact same
      | ok out => exact disposed h _ _ hdispose
  | get h => exact same

theorem wellFormed_serve (wf : p.WellFormed) (request : PoolRequest T) :
    (request.serve p).2.WellFormed :=
  serve_induct wf (fun _ _ _ hs ok => wf.take hs ok) (fun _ _ _ ok => wf.bind ok)
    (fun _ _ _ ok => wf.dispose ok) request

theorem capacity_serve (p : TexturePool T) (request : PoolRequest T) :
    (request.serve p).2.capacity = p.capacity := by
  refine serve_induct (motive := fun p' => p'.capacity = p.capacity) rfl
    (fun _ _ _ _ ok => capacity_take ok) ?_ ?_ request
  · intro h resource p' ok
    obtain ⟨-, rfl⟩ := bind_eq_ok_iff.mp ok
    exact capacity_setSlot _ _ _
  · intro h r p' ok
    obtain ⟨-, rfl⟩ := dispose_eq_ok_iff.mp ok
    exact capacity_setSlot p h .free

theorem wellFormed_run (wf : p.WellFormed) (requests : List (PoolRequest T)) :
    (run requests p).2.WellFormed := by
  induction requests generalizing p with
  | nil => exact wf
  | cons request rest ih => exact ih (wellFormed_serve wf request)

theorem capacity_run (p : TexturePool T) (requests : List (PoolRequest T)) :
    (run requests p).2.capacity = p.capacity := by
  induction requests generalizing p with
  | nil => rfl
  | cons request rest ih => rw [run, ih, capacity_serve]

/-! ## No write goes beside the table -/

theorem write_eq_some {i : Nat} (hi : i < p.slots.size) (s : Slot T) :
    write p i s = some (p.setSlot ⟨i⟩ s) := if_pos hi

theorem inPlace_eq_serve (wf : p.WellFormed) (request : PoolRequest T) :
    request.inPlace p = some (request.serve p) := by
  cases request with
  | allocate =>
      rw [inPlace, serve, TexturePool.allocate, TexturePool.take]
      cases hfree : p.freeStack with
      | nil => rfl
      | cons i rest =>
          have hi : i < p.slots.size := wf.lt_of_mem (by simp [hfree])
          dsimp only
          rw [write_eq_some (p := { p with freeStack := rest }) hi]
          rfl
  | insert resource =>
      rw [inPlace, serve, TexturePool.insert, TexturePool.take]
      cases hfree : p.freeStack with
      | nil => rfl
      | cons i rest =>
          have hi : i < p.slots.size := wf.lt_of_mem (by simp [hfree])
          have hi' : i < ({ p with freeStack := rest }.setSlot ⟨i⟩ .reserved).slots.size := by
            simpa [setSlot] using hi
          dsimp only
          rw [write_eq_some (p := { p with freeStack := rest }) hi, Option.bind_eq_bind,
            Option.bind_some, write_eq_some hi', setSlot_setSlot]
          rfl
  | bind h resource =>
      rw [inPlace, serve, TexturePool.bind, TexturePool.slot]
      cases hslot : p.slots[h.index]? with
      | none => rfl
      | some s =>
          obtain ⟨hlt, -⟩ := Array.getElem?_eq_some_iff.mp hslot
          cases s with
          | free | bound _ => rfl
          | reserved =>
              dsimp only
              rw [write_eq_some hlt]
              rfl
  | dispose h =>
      rw [inPlace, serve, TexturePool.dispose, TexturePool.slot]
      cases hslot : p.slots[h.index]? with
      | none => rfl
      | some s =>
          obtain ⟨hlt, -⟩ := Array.getElem?_eq_some_iff.mp hslot
          dsimp only
          rw [write_eq_some hlt]
          cases s with
          | reserved | bound _ => rfl
          | free =>
              -- The slot was free and is overwritten with the same.
              rw [setSlot_of_slots_eq hslot]
              rfl
  | get h => rfl

/-! ## Counting -/

theorem length_freeStack (wf : p.WellFormed) :
    p.freeStack.length = p.slots.toList.countP Slot.isFree := by
  have hmem : ∀ i, i ∈ p.freeStack
      ↔ i ∈ (List.range p.slots.size).filter fun i => p.slots[i]?.any Slot.isFree := by
    intro i
    rw [wf.mem_iff, List.mem_filter, List.mem_range]
    constructor
    · intro hfree
      exact ⟨wf.lt_of_mem ((wf.mem_iff i).mpr hfree), hfree⟩
    · exact And.right
  have hperm := (List.perm_ext_iff_of_nodup wf.nodup (List.nodup_range.filter _)).mpr hmem
  have htable : (List.range p.slots.size).map (fun i => p.slots[i]?)
      = p.slots.toList.map some := by
    apply List.ext_getElem
    · simp
    · intro i hi _
      have hlt : i < p.slots.size := by simpa using hi
      simp [hlt]
  calc p.freeStack.length
      = ((List.range p.slots.size).map fun i => p.slots[i]?).countP
          (fun o => o.any Slot.isFree) := by
        rw [hperm.length_eq, List.countP_map, List.countP_eq_length_filter]
        rfl
    _ = p.slots.toList.countP Slot.isFree := by
        rw [htable, List.countP_map]
        rfl

theorem length_freeStack_le (wf : p.WellFormed) : p.freeStack.length ≤ p.capacity := by
  rw [length_freeStack wf]
  exact List.countP_le_length

theorem live_eq_countP (wf : p.WellFormed) :
    p.live = p.slots.toList.countP fun s => !s.isFree := by
  have hsplit := List.length_eq_countP_add_countP Slot.isFree (l := p.slots.toList)
  have hnot : p.slots.toList.countP (fun s => decide ¬s.isFree = true)
      = p.slots.toList.countP fun s => !s.isFree := by
    congr 1
    funext s
    cases s.isFree <;> rfl
  rw [live, length_freeStack wf, ← hnot]
  change p.slots.toList.length - _ = _
  omega

theorem length_freeStack_eq (wf : p.WellFormed) : p.freeStack.length = p.capacity - p.live := by
  have hle := length_freeStack_le wf
  unfold live
  omega

/-- Allocating, and nothing else, hands out the stack from top to bottom and
is then refused. -/
theorem run_allocate (p : TexturePool T) :
    (run (List.replicate (p.freeStack.length + 1) .allocate) p).1 =
      p.freeStack.map (fun i => .handle ⟨i⟩) ++ [.refused (.resourceExhausted p.capacity)] := by
  obtain ⟨slots, stack⟩ := p
  induction stack generalizing slots with
  | nil => rfl
  | cons i rest ih =>
      have hnext := ih (slots.setIfInBounds i .reserved)
      have hcapacity : (⟨slots.setIfInBounds i .reserved, rest⟩ : TexturePool T).capacity
          = (⟨slots, i :: rest⟩ : TexturePool T).capacity := by
        simp [capacity]
      rw [hcapacity] at hnext
      rw [List.length_cons, List.replicate_succ, run, List.map_cons, List.cons_append]
      exact congrArg (List.cons _) hnext

theorem free_of_handle {request : PoolRequest T} {h : TextureHandle} (wf : p.WellFormed)
    (served : request.serve p = (.handle h, p')) : p.slots[h.index]? = some .free := by
  have htaken : ∀ s : Slot T,
      settle p (fun (h, p') => (.handle h, p')) (p.take s) = (.handle h, p') →
        p.slots[h.index]? = some .free := by
    intro s hs
    cases htake : p.take s with
    | error e => simp [settle, htake] at hs
    | ok taken =>
        obtain ⟨h', q⟩ := taken
        obtain ⟨rfl, -⟩ : h' = h ∧ q = p' := by simpa [settle, htake] using hs
        obtain ⟨rest, hstack, -⟩ := take_eq_ok_iff.mp htake
        exact wf.mem_freeStack_iff.mp (by simp [hstack])
  cases request with
  | allocate => exact htaken .reserved served
  | insert resource => exact htaken (.bound resource) served
  | bind h' resource =>
      rw [serve] at served
      cases hbind : p.bind h' resource <;> simp [settle, hbind] at served
  | dispose h' =>
      rw [serve] at served
      cases hdispose : p.dispose h' <;> simp [settle, hdispose] at served
  | get h' => simp [serve] at served

/-- **The pool's books are right.** Whatever was asked of a pool since it was
made, with whatever handles:

* the stack lists the free slots, each once, and nothing else;
* what `live` subtracts is not too much, and what it gives is the number of
  slots that are reserved or bound;
* the next request, whatever it is, writes no slot that is not there, and
  refused or not leaves the pool that `serve` says;
* a handle is handed out only where its slot was free;
* as many handles as are not live can still be allocated in a row, no two
  alike, and the allocation after that is refused. -/
theorem pool_invariant {capacity : Nat} {p₀ : TexturePool T}
    (made : TexturePool.create capacity = .ok p₀) (requests : List (PoolRequest T)) :
    ∀ p, (run requests p₀).2 = p →
      p.capacity = capacity
        ∧ p.freeStack.Nodup
        ∧ (∀ i, i ∈ p.freeStack ↔ p.slots[i]? = some .free)
        ∧ (∀ i ∈ p.freeStack, i < capacity)
        ∧ p.freeStack.length ≤ p.capacity
        ∧ p.live = (p.slots.toList.countP fun s => !s.isFree)
        ∧ p.live ≤ p.capacity
        ∧ (∀ request : PoolRequest T, request.inPlace p = some (request.serve p))
        ∧ (∀ (request : PoolRequest T) h p', request.serve p = (.handle h, p') →
          p.slots[h.index]? = some .free)
        ∧ ∃ handles : List TextureHandle, handles.length = capacity - p.live ∧ handles.Nodup
          ∧ (run (List.replicate (handles.length + 1) .allocate) p).1 =
            handles.map .handle ++ [.refused (.resourceExhausted capacity)] := by
  rintro p rfl
  obtain ⟨-, rfl⟩ := create_eq_ok_iff.mp made
  have wf := wellFormed_run (wellFormed_empty capacity) requests
  have hcapacity : (run requests (empty capacity)).2.capacity = capacity := by
    rw [capacity_run, capacity_empty]
  generalize (run requests (empty capacity)).2 = p at wf hcapacity ⊢
  refine ⟨hcapacity, wf.nodup, fun i => wf.mem_freeStack_iff, ?_, length_freeStack_le wf,
    live_eq_countP wf, Nat.sub_le _ _, inPlace_eq_serve wf, fun request h p' => free_of_handle wf,
    ?_⟩
  · intro i hi
    rw [← hcapacity]
    exact wf.lt_of_mem hi
  · refine ⟨p.freeStack.map TextureHandle.mk, ?_, ?_, ?_⟩
    · rw [List.length_map, length_freeStack_eq wf, hcapacity]
    · exact wf.nodup.map fun i j hij => TextureHandle.mk.inj hij
    · rw [List.length_map, run_allocate p, hcapacity, List.map_map]
      rfl

/-- Three slots, after a handle nobody issued, a handle disposed of twice, and
a handle bound that was not reserved. -/
theorem pool_invariant_sample :
    ∃ p₀ : TexturePool Nat, TexturePool.create 3 = .ok p₀
      ∧ ∃ p, (run [.insert 5, .allocate, .dispose ⟨9⟩, .dispose ⟨2⟩, .dispose ⟨2⟩, .bind ⟨0⟩ 7]
          p₀).2 = p
        ∧ p.freeStack = [2, 0] ∧ p.live = 1
        ∧ ∃ handles : List TextureHandle, handles.length = 3 - p.live ∧ handles.Nodup
          ∧ (run (List.replicate (handles.length + 1) .allocate) p).1 =
            handles.map .handle ++ [.refused (.resourceExhausted 3)] := by
  have made : TexturePool.create 3 = .ok (empty 3 : TexturePool Nat) := rfl
  obtain ⟨-, -, -, -, -, -, -, -, -, hdrained⟩ := pool_invariant made
    [.insert 5, .allocate, .dispose ⟨9⟩, .dispose ⟨2⟩, .dispose ⟨2⟩, .bind ⟨0⟩ 7] _ rfl
  exact ⟨_, made, _, rfl, rfl, rfl, hdrained⟩

end PoolRequest

end SpriteRenderer

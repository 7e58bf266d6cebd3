import Mathlib.Data.List.Perm.Basic
import SpriteRenderer.Proofs.PoolRefusals

/-!
# Resources are neither lost nor doubled

A resource goes into a pool with `insert` or `bind`, and comes out of it when
its handle is disposed of. `resourceMoves` is the record of both, taken from
requests and answers alone. What the pool holds at the end of it is then said in
two ways: as a whole, what went in is what is there and what came out, as
often (`accepted_run`); and handle by handle, a handle has what it was given
last, if it has not been disposed of since (`get?_run`).

Both rest on what a request does to the one slot that it writes. `held_setSlot`
weighs the old entry of a slot against the new one, and `get?_setSlot` reads
it.
-/

namespace SpriteRenderer

variable {T : Type}

/-! ## What goes in and comes out -/

/-- What a request does with a resource. -/
inductive ResourceMove (T : Type) where
  | given (handle : TextureHandle) (resource : T)
  /-- The handle was disposed of, with what it had. -/
  | disposed (handle : TextureHandle) (resource : Option T)
deriving DecidableEq

namespace ResourceMove

def accepted? : ResourceMove T → Option T
  | .given _ x => some x
  | .disposed _ _ => none

def returned? : ResourceMove T → Option T
  | .given _ _ => none
  | .disposed _ r => r

/-- What a handle has after a move, by what it had before. -/
def after (h : TextureHandle) (had : Option T) : ResourceMove T → Option T
  | .given k x => if k = h then some x else had
  | .disposed k _ => if k = h then none else had

end ResourceMove

def Slot.resource? : Slot T → Option T
  | .bound x => some x
  | .free | .reserved => none

namespace PoolRequest

/-- What a request that got its answer has done with a resource, if anything. -/
def resourceMove? : PoolRequest T → PoolAnswer T → Option (ResourceMove T)
  | .insert x, .handle h => some (.given h x)
  | .bind h x, .bound => some (.given h x)
  | .dispose h, .resource r => some (.disposed h r)
  | _, _ => none

def resourceMoves (requests : List (PoolRequest T)) (p : TexturePool T) :
    List (ResourceMove T) :=
  (requests.zip (run requests p).1).filterMap fun x => x.1.resourceMove? x.2

/-- The resources of served inserts and binds, in order. -/
def accepted (requests : List (PoolRequest T)) (p : TexturePool T) : List T :=
  (resourceMoves requests p).filterMap ResourceMove.accepted?

/-- The resources that disposing has given back, in order. -/
def returned (requests : List (PoolRequest T)) (p : TexturePool T) : List T :=
  (resourceMoves requests p).filterMap ResourceMove.returned?

theorem resourceMoves_cons (request : PoolRequest T) (rest : List (PoolRequest T))
    (p : TexturePool T) :
    resourceMoves (request :: rest) p
      = (request.resourceMove? (request.serve p).1).toList
        ++ resourceMoves rest (request.serve p).2 := by
  unfold resourceMoves
  rw [run, List.zip_cons_cons]
  cases hmove : request.resourceMove? (request.serve p).1 with
  | none => simp [hmove]
  | some m => simp [hmove]

end PoolRequest

namespace TexturePool

variable {p p' : TexturePool T} {h k : TextureHandle} {s old : Slot T}

/-- Everything that is bound, slot by slot. -/
def held (p : TexturePool T) : List T := p.slots.toList.filterMap Slot.resource?

theorem held_empty (capacity : Nat) : (empty capacity : TexturePool T).held = [] := by
  simp [held, empty, List.filterMap_replicate, Slot.resource?]

theorem get?_eq_bind (p : TexturePool T) (h : TextureHandle) :
    p.get? h = p.slots[h.index]?.bind Slot.resource? := by
  unfold get?
  cases p.slots[h.index]? with
  | none => rfl
  | some s => cases s <;> rfl

theorem WellFormed.slots_of_take (wf : p.WellFormed) (ok : p.take s = .ok (h, p')) :
    p.slots[h.index]? = some .free ∧ p'.slots = (p.setSlot h s).slots := by
  obtain ⟨rest, hstack, rfl⟩ := take_eq_ok_iff.mp ok
  refine ⟨wf.mem_freeStack_iff.mp ?_, rfl⟩
  rw [hstack]
  exact List.mem_cons_self

theorem get?_setSlot (hslot : p.slots[h.index]? = some old) (s : Slot T) :
    (p.setSlot h s).get? k = if h = k then s.resource? else p.get? k := by
  obtain ⟨hlt, -⟩ := Array.getElem?_eq_some_iff.mp hslot
  rw [get?_eq_bind]
  by_cases hsame : h = k
  · rw [if_pos hsame, ← hsame, slots_setSlot, if_pos rfl, if_pos hlt]
    rfl
  · rw [if_neg hsame, slots_setSlot_of_ne hsame, ← get?_eq_bind]

/-- Writing a slot trades what it had for what is written. -/
theorem held_setSlot (hslot : p.slots[h.index]? = some old) (s : Slot T) :
    (old.resource?.toList ++ (p.setSlot h s).held).Perm (s.resource?.toList ++ p.held) := by
  obtain ⟨hlt, hold⟩ := Array.getElem?_eq_some_iff.mp hslot
  have hlt' : h.index < p.slots.toList.length := hlt
  have hcons : ∀ (x : Slot T) xs,
      (x :: xs).filterMap Slot.resource? = x.resource?.toList ++ xs.filterMap Slot.resource? := by
    intro x xs
    cases x <;> rfl
  have hafter : (p.setSlot h s).held.Perm
      (s.resource?.toList ++ (p.slots.toList.eraseIdx h.index).filterMap Slot.resource?) := by
    rw [← hcons, held, setSlot, Array.toList_setIfInBounds]
    exact (List.set_perm_cons_eraseIdx hlt' s).filterMap _
  have hbefore : p.held.Perm
      (old.resource?.toList ++ (p.slots.toList.eraseIdx h.index).filterMap Slot.resource?) := by
    have hget : p.slots.toList[h.index] = old := hold
    rw [← hcons, held, ← hget]
    exact (List.getElem_cons_eraseIdx_perm hlt').symm.filterMap _
  -- Both sides are what the other slots hold, with both entries of this one.
  exact (hafter.append_left _).trans
    ((List.perm_append_comm_assoc _ _ _).trans (hbefore.append_left _).symm)

end TexturePool

/-! ## One request -/

/-- What a request can write over what it finds in the slot of a handle, and
the move that this is. -/
inductive SlotTrade (h : TextureHandle) : Option (ResourceMove T) → Slot T → Slot T → Prop
  | reserve : SlotTrade h none .free .reserved
  | insert (x : T) : SlotTrade h (some (.given h x)) .free (.bound x)
  | bind (x : T) : SlotTrade h (some (.given h x)) .reserved (.bound x)
  | dispose (old : Slot T) : SlotTrade h (some (.disposed h old.resource?)) old .free

namespace PoolRequest

open TexturePool

variable {p : TexturePool T}

/-- A request changes nothing, or trades one slot. -/
theorem serve_cases (wf : p.WellFormed) (request : PoolRequest T) :
    (request.resourceMove? (request.serve p).1 = none ∧ (request.serve p).2 = p)
      ∨ ∃ h old s, p.slots[h.index]? = some old
        ∧ (request.serve p).2.slots = (p.setSlot h s).slots
        ∧ SlotTrade h (request.resourceMove? (request.serve p).1) old s := by
  cases request with
  | allocate =>
      rw [serve]
      cases htake : p.allocate with
      | error e => exact Or.inl ⟨rfl, rfl⟩
      | ok taken =>
          obtain ⟨hslot, hslots⟩ := wf.slots_of_take htake
          exact Or.inr ⟨taken.1, .free, .reserved, hslot, hslots, .reserve⟩
  | insert x =>
      rw [serve]
      cases htake : p.insert x with
      | error e => exact Or.inl ⟨rfl, rfl⟩
      | ok taken =>
          obtain ⟨hslot, hslots⟩ := wf.slots_of_take htake
          exact Or.inr ⟨taken.1, .free, .bound x, hslot, hslots, .insert x⟩
  | bind k x =>
      rw [serve]
      cases hbind : p.bind k x with
      | error e => exact Or.inl ⟨rfl, rfl⟩
      | ok p' =>
          obtain ⟨hslot, rfl⟩ := bind_eq_ok_iff.mp hbind
          exact Or.inr ⟨k, .reserved, .bound x, hslot, rfl, .bind x⟩
  | dispose k =>
      rw [serve]
      cases hdispose : p.dispose k with
      | error e => exact Or.inl ⟨rfl, rfl⟩
      | ok out =>
          obtain ⟨r, p'⟩ := out
          obtain ⟨⟨hslot, rfl⟩ | ⟨x, hslot, rfl⟩, rfl⟩ := dispose_eq_ok_iff.mp hdispose
          · exact Or.inr ⟨k, .reserved, .free, hslot, rfl, .dispose .reserved⟩
          · exact Or.inr ⟨k, .bound x, .free, hslot, rfl, .dispose (.bound x)⟩
  | get k => exact Or.inl ⟨rfl, rfl⟩

theorem held_serve (wf : p.WellFormed) (request : PoolRequest T) :
    (((request.resourceMove? (request.serve p).1).bind ResourceMove.returned?).toList
        ++ (request.serve p).2.held).Perm
      (((request.resourceMove? (request.serve p).1).bind ResourceMove.accepted?).toList
        ++ p.held) := by
  rcases serve_cases wf request with ⟨hmove, hpool⟩ | ⟨h, old, s, hslot, hslots, trade⟩
  · rw [hmove, hpool]
    exact List.Perm.refl _
  · have hheld := held_setSlot hslot s
    rw [held, ← hslots, ← held] at hheld
    generalize request.resourceMove? (request.serve p).1 = m at trade ⊢
    cases trade with
    | reserve | insert x | bind x | dispose old => exact hheld

theorem get?_serve (wf : p.WellFormed) (request : PoolRequest T) (k : TextureHandle) :
    (request.serve p).2.get? k
      = (request.resourceMove? (request.serve p).1).elim (p.get? k)
        (ResourceMove.after k (p.get? k)) := by
  rcases serve_cases wf request with ⟨hmove, hpool⟩ | ⟨h, old, s, hslot, hslots, trade⟩
  · rw [hmove, hpool]
    rfl
  · rw [get?_eq_bind, hslots, ← get?_eq_bind, get?_setSlot hslot]
    generalize request.resourceMove? (request.serve p).1 = m at trade ⊢
    cases trade with
    | insert x | bind x | dispose old => rfl
    | reserve =>
        -- The slot had nothing and has nothing: no move, and no difference.
        by_cases hsame : h = k
        · rw [if_pos hsame, ← hsame, get?_eq_bind, hslot]
          rfl
        · rw [if_neg hsame]
          rfl

/-! ## Any number of requests -/

theorem accepted_run (wf : p.WellFormed) (requests : List (PoolRequest T)) :
    (accepted requests p ++ p.held).Perm ((run requests p).2.held ++ returned requests p) := by
  induction requests generalizing p with
  | nil => simp [accepted, returned, resourceMoves, run]
  | cons request rest ih =>
      have hfilter : ∀ (f : ResourceMove T → Option T) (m : Option (ResourceMove T)),
          m.toList.filterMap f = (m.bind f).toList := by
        intro f m
        cases m with
        | none => rfl
        | some m => cases hm : f m <;> simp [hm]
      have hstep := held_serve wf request
      have hrest := ih (wellFormed_serve wf request)
      rw [accepted, returned, resourceMoves_cons, List.filterMap_append, List.filterMap_append,
        ← accepted, ← returned, hfilter, hfilter, run, List.append_assoc]
      -- The step trades within what the rest starts from, and the rest takes it from there.
      exact (List.perm_append_comm_assoc _ _ _).trans ((hstep.symm.append_left _).trans
        ((List.perm_append_comm_assoc _ _ _).trans ((hrest.append_left _).trans
          (List.perm_append_comm_assoc _ _ _))))

theorem get?_run (wf : p.WellFormed) (requests : List (PoolRequest T)) (h : TextureHandle) :
    (run requests p).2.get? h
      = (resourceMoves requests p).foldl (ResourceMove.after h) (p.get? h) := by
  induction requests generalizing p with
  | nil => rfl
  | cons request rest ih =>
      rw [run, ih (wellFormed_serve wf request), resourceMoves_cons, List.foldl_append,
        get?_serve wf request]
      cases request.resourceMove? (request.serve p).1 <;> rfl

end PoolRequest

/-! ## Reading the record -/

namespace ResourceMove

variable {h : TextureHandle} {had : Option T} {moves : List (ResourceMove T)}

/-- A handle keeps what it has while it is neither given anything nor disposed
of. -/
theorem foldl_after_of_untouched (ungiven : ∀ x, .given h x ∉ moves)
    (kept : ∀ r, .disposed h r ∉ moves) : moves.foldl (after h) had = had := by
  induction moves with
  | nil => rfl
  | cons m rest ih =>
      have hhere : after h had m = had := by
        cases m with
        | given k x =>
            refine if_neg ?_
            rintro rfl
            exact ungiven x List.mem_cons_self
        | disposed k r =>
            refine if_neg ?_
            rintro rfl
            exact kept r List.mem_cons_self
      rw [List.foldl_cons, hhere]
      exact ih (fun x hx => ungiven x (List.mem_cons_of_mem m hx))
        fun r hr => kept r (List.mem_cons_of_mem m hr)

/-- Once it is disposed of, a handle has nothing until it is given something. -/
theorem foldl_after_eq_none (ungiven : ∀ x, .given h x ∉ moves)
    (lost : had = none ∨ ∃ r, .disposed h r ∈ moves) : moves.foldl (after h) had = none := by
  induction moves generalizing had with
  | nil =>
      rcases lost with rfl | ⟨r, hr⟩
      · rfl
      · cases hr
  | cons m rest ih =>
      refine ih (fun x hx => ungiven x (List.mem_cons_of_mem m hx)) ?_
      cases m with
      | given k x =>
          have hother : k ≠ h := by
            rintro rfl
            exact ungiven x List.mem_cons_self
          rw [after, if_neg hother]
          simpa using lost
      | disposed k r =>
          by_cases hsame : k = h
          · exact Or.inl (if_pos hsame)
          · rw [after, if_neg hsame]
            simpa [Ne.symm hsame] using lost

end ResourceMove

namespace PoolRequest

open TexturePool

/-- **No resource is lost or doubled.** Whatever was asked of a pool since it
was made, with whatever handles:

* the resources of served inserts and binds are those bound now and those that
  disposing gave back, each as often; so if no two of them are the same, none
  is both bound and given back, bound twice or given back twice;
* a handle has the resource that it was given last just if it has not been
  disposed of since, and if it has it has none; a handle that was never given
  one has none. -/
theorem resources_conserved {capacity : Nat} {p₀ : TexturePool T}
    (made : TexturePool.create capacity = .ok p₀) (requests : List (PoolRequest T)) :
    ∀ p, (run requests p₀).2 = p →
      (accepted requests p₀).Perm (p.held ++ returned requests p₀)
        ∧ ((accepted requests p₀).Nodup → (p.held ++ returned requests p₀).Nodup)
        ∧ (∀ h x before after, resourceMoves requests p₀ = before ++ .given h x :: after →
          (∀ y, .given h y ∉ after) →
          (p.get? h = some x ↔ ∀ r, .disposed h r ∉ after)
            ∧ (p.get? h = none ↔ ∃ r, .disposed h r ∈ after))
        ∧ ∀ h, (∀ x, .given h x ∉ resourceMoves requests p₀) → p.get? h = none := by
  rintro p rfl
  obtain ⟨-, rfl⟩ := create_eq_ok_iff.mp made
  have wf := wellFormed_empty (T := T) capacity
  have hconserved := accepted_run wf requests
  rw [held_empty, List.append_nil] at hconserved
  refine ⟨hconserved, hconserved.nodup_iff.mp, ?_, ?_⟩
  · intro h x before after hmoves ungiven
    have hget : (run requests (empty capacity)).2.get? h
        = after.foldl (ResourceMove.after h) (some x) := by
      rw [get?_run wf, hmoves, List.foldl_append, List.foldl_cons, ResourceMove.after, if_pos rfl]
    by_cases hdisposed : ∃ r, .disposed h r ∈ after
    · rw [hget, ResourceMove.foldl_after_eq_none ungiven (Or.inr hdisposed)]
      simpa using hdisposed
    · rw [hget, ResourceMove.foldl_after_of_untouched ungiven (not_exists.mp hdisposed)]
      simpa using hdisposed
  · intro h ungiven
    rw [get?_run wf, ResourceMove.foldl_after_eq_none ungiven (Or.inl (get?_empty capacity))]

/-- A handle bound, bound again in vain, disposed of and handed out for another
resource, next to one that was reserved first. -/
theorem resources_conserved_sample :
    ∃ p₀ : TexturePool Nat, TexturePool.create 2 = .ok p₀
      ∧ ∃ p,
        (run [.insert 5, .allocate, .bind ⟨0⟩ 6, .bind ⟨0⟩ 7, .dispose ⟨1⟩, .insert 8] p₀).2 = p
        ∧ [5, 6, 8].Perm (p.held ++ [5]) ∧ p.held = [6, 8]
        ∧ p.get? ⟨1⟩ = some 8 := by
  have made : TexturePool.create 2 = .ok (empty 2 : TexturePool Nat) := rfl
  obtain ⟨hconserved, -, hget, -⟩ := resources_conserved made
    [.insert 5, .allocate, .bind ⟨0⟩ 6, .bind ⟨0⟩ 7, .dispose ⟨1⟩, .insert 8] _ rfl
  refine ⟨_, made, _, rfl, hconserved, rfl, ?_⟩
  exact (hget ⟨1⟩ 8 [.given ⟨1⟩ 5, .given ⟨0⟩ 6, .disposed ⟨1⟩ (some 5)] [] rfl
    (fun _ => List.not_mem_nil)).1.mpr fun _ => List.not_mem_nil

end PoolRequest

end SpriteRenderer

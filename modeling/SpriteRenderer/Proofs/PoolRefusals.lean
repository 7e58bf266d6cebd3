import SpriteRenderer.Proofs.AllocationOrder

/-!
# What a pool refuses, and what a request leaves alone

When an operation fails is said here by what a caller can see: the number of
live handles, the capacity, and whether a handle is live or bound
(`allocate_eq_error_iff`, `bind_eq_error_iff`, `dispose_eq_error_iff`). The
first of these needs the books to be right, since a pool refuses a handle when
its stack is empty and not when it has counted its slots.

That a refused request changes nothing is a statement about the writes that
were made before it was refused, so it is made about `inPlace`. What a served
request changes is one slot, that of the handle it is about (`subject?`);
every other handle is `SameAt` before and after it.
-/

namespace SpriteRenderer

variable {T : Type}

namespace TexturePool

variable {p p' : TexturePool T} {h k : TextureHandle} {s : Slot T} {e : RenderError}

/-! ## Handles as a caller sees them -/

/-- Whether a handle is out: its slot is reserved or bound. -/
def isLive (p : TexturePool T) (h : TextureHandle) : Bool :=
  p.slots[h.index]?.any fun s => !s.isFree

/-- Two pools say the same of a handle. -/
structure SameAt (p p' : TexturePool T) (h : TextureHandle) : Prop where
  resource : p'.get? h = p.get? h
  bound : p'.isBound h = p.isBound h
  live : p'.isLive h = p.isLive h

theorem SameAt.refl (p : TexturePool T) (h : TextureHandle) : SameAt p p h := ⟨rfl, rfl, rfl⟩

/-- All that can be asked about a handle is read off its slot. -/
theorem sameAt_of_slots_eq (hslot : p'.slots[h.index]? = p.slots[h.index]?) : SameAt p p' h := by
  have hresource : p'.get? h = p.get? h := by
    unfold get?
    rw [hslot]
  refine ⟨hresource, ?_, ?_⟩
  · unfold isBound
    rw [hresource]
  · unfold isLive
    rw [hslot]

theorem slots_eq_none_iff : p.slots[h.index]? = none ↔ p.capacity ≤ h.index :=
  Array.getElem?_eq_none_iff

theorem slots_eq_free_iff :
    p.slots[h.index]? = some .free ↔ h.index < p.capacity ∧ p.isLive h = false := by
  unfold isLive
  cases hslot : p.slots[h.index]? with
  | none =>
      have hbeyond := slots_eq_none_iff.mp hslot
      simp [Nat.not_lt.mpr hbeyond]
  | some s =>
      obtain ⟨hlt, -⟩ := Array.getElem?_eq_some_iff.mp hslot
      simp only [Option.some.injEq, Option.any_some, Bool.not_eq_false', isFree_iff]
      exact ⟨fun hfree => ⟨hlt, hfree⟩, And.right⟩

theorem isBound_iff : p.isBound h = true ↔ ∃ resource, p.slots[h.index]? = some (.bound resource) := by
  unfold isBound
  simp only [Option.isSome_iff_exists, get?_eq_some_iff]

theorem lt_capacity_of_isBound (bound : p.isBound h = true) : h.index < p.capacity := by
  obtain ⟨resource, held⟩ := Option.isSome_iff_exists.mp bound
  exact lt_capacity_of_get? held

/-- A handle is live if the pool has a slot for it that is not on the stack. -/
theorem isLive_iff (wf : p.WellFormed) :
    p.isLive h = true ↔ h.index < p.capacity ∧ h.index ∉ p.freeStack := by
  rw [wf.mem_freeStack_iff, slots_eq_free_iff]
  by_cases hlt : h.index < p.capacity
  · simp [hlt]
  · have hnone := slots_eq_none_iff.mpr (Nat.not_lt.mp hlt)
    simp [hlt, isLive, hnone]

/-! ## When an operation fails -/

theorem take_eq_error_iff :
    p.take s = .error e ↔ p.freeStack = [] ∧ e = .resourceExhausted p.capacity := by
  unfold take
  cases p.freeStack with
  | nil => simp [eq_comm]
  | cons i rest => simp

/-- The stack is empty just if every handle is out. -/
theorem freeStack_eq_nil_iff (wf : p.WellFormed) : p.freeStack = [] ↔ p.live = p.capacity := by
  have hle := PoolRequest.length_freeStack_le wf
  rw [← List.length_eq_zero_iff]
  unfold live
  constructor
  · intro hzero
    rw [hzero, Nat.sub_zero]
  · intro hall
    -- The subtraction stops at zero, so this needs a stack no longer than the table.
    omega

theorem take_eq_error_iff_full (wf : p.WellFormed) :
    p.take s = .error e ↔ p.live = p.capacity ∧ e = .resourceExhausted p.capacity := by
  rw [take_eq_error_iff, freeStack_eq_nil_iff wf]

theorem bind_eq_error_iff {resource : T} :
    p.bind h resource = .error e ↔
      p.capacity ≤ h.index ∧ e = .outOfRange .textureHandle h.index p.capacity
        ∨ h.index < p.capacity ∧ (p.isLive h = false ∨ p.isBound h = true)
          ∧ e = .invalidHandle h.index := by
  have hrefused : p.bind h resource = .error e ↔
      p.slots[h.index]? = none ∧ e = .outOfRange .textureHandle h.index p.capacity
        ∨ (p.slots[h.index]? = some .free ∨ ∃ r, p.slots[h.index]? = some (.bound r))
          ∧ e = .invalidHandle h.index := by
    unfold bind slot
    cases p.slots[h.index]? with
    | none => simp [Bind.bind, Except.bind, eq_comm]
    | some s => cases s <;> simp [Bind.bind, Except.bind, eq_comm]
  rw [hrefused, slots_eq_none_iff, slots_eq_free_iff, ← isBound_iff]
  refine or_congr_right ?_
  constructor
  · rintro ⟨⟨hlt, hfree⟩ | hbound, he⟩
    · exact ⟨hlt, Or.inl hfree, he⟩
    · exact ⟨lt_capacity_of_isBound hbound, Or.inr hbound, he⟩
  · rintro ⟨hlt, hfree | hbound, he⟩
    · exact ⟨Or.inl ⟨hlt, hfree⟩, he⟩
    · exact ⟨Or.inr hbound, he⟩

theorem dispose_eq_error_iff :
    p.dispose h = .error e ↔
      p.capacity ≤ h.index ∧ e = .outOfRange .textureHandle h.index p.capacity
        ∨ h.index < p.capacity ∧ p.isLive h = false ∧ e = .invalidHandle h.index := by
  have hrefused : p.dispose h = .error e ↔
      p.slots[h.index]? = none ∧ e = .outOfRange .textureHandle h.index p.capacity
        ∨ p.slots[h.index]? = some .free ∧ e = .invalidHandle h.index := by
    unfold dispose slot
    cases p.slots[h.index]? with
    | none => simp [Bind.bind, Except.bind, eq_comm]
    | some s => cases s <;> simp [Bind.bind, Except.bind, eq_comm]
  rw [hrefused, slots_eq_none_iff, slots_eq_free_iff, and_assoc]

/-! ## What an operation leaves alone -/

theorem slots_setSlot_of_ne (hne : k ≠ h) :
    (p.setSlot k s).slots[h.index]? = p.slots[h.index]? := by
  have hindex : k.index ≠ h.index := fun heq => hne ((TextureHandle.mk.injEq _ _).mpr heq)
  rw [slots_setSlot, if_neg hindex]

theorem sameAt_take (ok : p.take s = .ok (k, p')) (hne : k ≠ h) : SameAt p p' h := by
  obtain ⟨rest, -, rfl⟩ := take_eq_ok_iff.mp ok
  exact sameAt_of_slots_eq (slots_setSlot_of_ne hne)

theorem sameAt_bind {resource : T} (ok : p.bind k resource = .ok p') (hne : k ≠ h) :
    SameAt p p' h := by
  obtain ⟨-, rfl⟩ := bind_eq_ok_iff.mp ok
  exact sameAt_of_slots_eq (slots_setSlot_of_ne hne)

theorem sameAt_dispose {r : Option T} (ok : p.dispose k = .ok (r, p')) (hne : k ≠ h) :
    SameAt p p' h := by
  obtain ⟨-, rfl⟩ := dispose_eq_ok_iff.mp ok
  exact sameAt_of_slots_eq (slots_setSlot_of_ne (p := p) hne)

end TexturePool

/-! ## Requests -/

namespace PoolRequest

open TexturePool

variable {p p' : TexturePool T}

/-- The handle that a request is about: the one it names, or else the one it is
answered with. -/
def subject? : PoolRequest T → PoolAnswer T → Option TextureHandle
  | .bind h _, _ | .dispose h, _ | .get h, _ => some h
  | .allocate, .handle h | .insert _, .handle h => some h
  | .allocate, _ | .insert _, _ => none

/-- Only the handle that a request is about can look different after it. -/
theorem sameAt_serve {request : PoolRequest T} {h : TextureHandle}
    (other : request.subject? (request.serve p).1 ≠ some h) : SameAt p (request.serve p).2 h := by
  cases takes : request.takes with
  | true =>
      obtain ⟨s, -, hserve, -⟩ := exists_take_of_takes takes p
      rw [hserve] at other ⊢
      cases htake : p.take s with
      | error e => exact SameAt.refl p h
      | ok taken =>
          refine sameAt_take htake ?_
          rintro rfl
          apply other
          cases request with
          | allocate | insert _ => simp [settle, htake, subject?]
          | bind _ _ | dispose _ | get _ => cases takes
  | false =>
      cases request with
      | allocate | insert _ => cases takes
      | bind k resource =>
          have hne : k ≠ h := fun heq => other (congrArg some heq)
          rw [serve]
          cases hbind : p.bind k resource with
          | error e => exact SameAt.refl p h
          | ok p' => exact sameAt_bind hbind hne
      | dispose k =>
          have hne : k ≠ h := fun heq => other (congrArg some heq)
          rw [serve]
          cases hdispose : p.dispose k with
          | error e => exact SameAt.refl p h
          | ok out => exact sameAt_dispose hdispose hne
      | get k => exact SameAt.refl p h

theorem eq_of_serve_refused {request : PoolRequest T} {e : RenderError}
    (refused : (request.serve p).1 = .refused e) : (request.serve p).2 = p := by
  have hsettle : ∀ {α : Type} (served : α → PoolAnswer T × TexturePool T) (x : Except RenderError α),
      (∀ a, (served a).1 ≠ .refused e) → (settle p served x).1 = .refused e →
        (settle p served x).2 = p := by
    intro α served x hserved h
    cases x with
    | error e => rfl
    | ok a => exact absurd h (hserved a)
  cases request with
  | allocate | insert _ | bind _ _ | dispose _ => exact hsettle _ _ (by simp) refused
  | get h => rfl

/-- **A pool refuses exactly what it has to, and then changes nothing.**
Whatever was asked of a pool since it was made, with whatever handles:

* a handle is refused just if as many are live as there are slots;
* binding is refused for a handle without a slot, and for one that is free or
  bound already; disposing is refused for a handle without a slot, and for one
  that is free; the error says which;
* free and live are the two sides of one thing: a handle is live if it has a
  slot that is not on the stack;
* every request, made write by write, gets its answer; a refused one has left
  slots and stack as they were, and a served one has changed what can be asked
  about no handle but its own. -/
theorem refused_exactly_when {capacity : Nat} {p₀ : TexturePool T}
    (made : TexturePool.create capacity = .ok p₀) (requests : List (PoolRequest T)) :
    ∀ p, (run requests p₀).2 = p →
      (∀ e, p.allocate = .error e ↔
          p.live = p.capacity ∧ e = .resourceExhausted p.capacity)
        ∧ (∀ resource e, p.insert resource = .error e ↔
          p.live = p.capacity ∧ e = .resourceExhausted p.capacity)
        ∧ (∀ h resource e, p.bind h resource = .error e ↔
          p.capacity ≤ h.index ∧ e = .outOfRange .textureHandle h.index p.capacity
            ∨ h.index < p.capacity ∧ (p.isLive h = false ∨ p.isBound h = true)
              ∧ e = .invalidHandle h.index)
        ∧ (∀ h e, p.dispose h = .error e ↔
          p.capacity ≤ h.index ∧ e = .outOfRange .textureHandle h.index p.capacity
            ∨ h.index < p.capacity ∧ p.isLive h = false ∧ e = .invalidHandle h.index)
        ∧ (∀ h, p.isLive h = true ↔ h.index < p.capacity ∧ h.index ∉ p.freeStack)
        ∧ ∀ request : PoolRequest T, ∃ answer p',
          request.inPlace p = some (answer, p') ∧ request.serve p = (answer, p')
            ∧ (∀ e, answer = .refused e → p' = p)
            ∧ ∀ h, request.subject? answer ≠ some h →
              p'.get? h = p.get? h ∧ p'.isBound h = p.isBound h ∧ p'.isLive h = p.isLive h := by
  rintro p rfl
  obtain ⟨-, rfl⟩ := create_eq_ok_iff.mp made
  have wf := wellFormed_run (wellFormed_empty capacity) requests
  generalize (run requests (empty capacity)).2 = p at wf ⊢
  refine ⟨fun e => take_eq_error_iff_full wf, fun resource e => take_eq_error_iff_full wf,
    fun h resource e => bind_eq_error_iff, fun h e => dispose_eq_error_iff,
    fun h => isLive_iff wf, ?_⟩
  intro request
  refine ⟨_, _, inPlace_eq_serve wf request, rfl, fun e => eq_of_serve_refused, ?_⟩
  intro h other
  have same := sameAt_serve other
  exact ⟨same.resource, same.bound, same.live⟩

/-- Of two handles one is bound and the other has come back. Disposing of it
again writes its slot before it is refused; allocating it does not touch the
one that is bound. -/
theorem refused_exactly_when_sample :
    ∃ p₀ : TexturePool Nat, TexturePool.create 2 = .ok p₀
      ∧ ∃ p, (run [.insert 5, .allocate, .dispose ⟨0⟩] p₀).2 = p
        ∧ p.isLive ⟨1⟩ = true ∧ p.isLive ⟨0⟩ = false
        ∧ p.bind ⟨1⟩ 7 = .error (.invalidHandle 1)
        ∧ p.bind ⟨2⟩ 7 = .error (.outOfRange .textureHandle 2 2)
        ∧ (dispose ⟨0⟩).inPlace p = some (.refused (.invalidHandle 0), p)
        ∧ ∃ p', allocate.inPlace p = some (.handle ⟨0⟩, p') ∧ p'.get? ⟨1⟩ = some 5
          ∧ p'.isLive ⟨1⟩ = true := by
  have made : TexturePool.create 2 = .ok (empty 2 : TexturePool Nat) := rfl
  obtain ⟨-, -, hbind, -, -, hrequest⟩ := refused_exactly_when made
    [.insert 5, .allocate, .dispose ⟨0⟩] _ rfl
  refine ⟨_, made, _, rfl, by decide, by decide, ?_, ?_, ?_, ?_⟩
  · exact (hbind ⟨1⟩ 7 _).mpr (Or.inr ⟨by decide, Or.inr (by decide), rfl⟩)
  · exact (hbind ⟨2⟩ 7 _).mpr (Or.inl ⟨by decide, rfl⟩)
  · obtain ⟨answer, p', hinPlace, hserve, hsame, -⟩ := hrequest (.dispose ⟨0⟩)
    obtain rfl : PoolAnswer.refused (.invalidHandle 0) = answer := congrArg Prod.fst hserve
    rw [hinPlace, hsame _ rfl]
  · obtain ⟨answer, p', hinPlace, hserve, -, hframe⟩ := hrequest .allocate
    obtain rfl : PoolAnswer.handle ⟨0⟩ = answer := congrArg Prod.fst hserve
    obtain ⟨hget, -, hlive⟩ := hframe ⟨1⟩ (by decide)
    exact ⟨p', hinPlace, hget, hlive⟩

end PoolRequest

end SpriteRenderer

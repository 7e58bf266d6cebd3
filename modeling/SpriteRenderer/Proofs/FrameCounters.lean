import Mathlib.Algebra.BigOperators.Ring.Finset
import Mathlib.Data.List.Destutter
import SpriteRenderer.Proofs.Elision

/-!
# Frame counters and the fewest state commands

Texture, blend function and clip are set in the same way: a value is set where
it is not in force already. `changes` is that rule for any kind of value,
along a list of them and from whatever is in force before it; from nothing it
drops the repetitions of the list (`changes_none`) and leaves one entry for
each value that differs from the one before it (`length_changes_none`).

The closed form speaks of the batches that show and the loop of all of them.
`Tallied` is the account of a run in terms of the former: it is kept by a batch
that is skipped, which only moves one counter (`Tallied.skip`), and by a batch
that is drawn (`Tallied.draw`), and so holds of every list (`tallied_steps`).

That nothing is set needlessly is a bound from below, on any command list: part
of the state cannot change between two draws more often than it is set
(`DrawState.length_changes_draws_le`).
-/

namespace SpriteRenderer

/-! ## Values that are set where they change -/

section Changes

variable {α : Type} [DecidableEq α]

/-- What has to be set to have `x` in force. -/
def change (held : Option α) (x : α) : List α := if held = some x then [] else [x]

/-- What has to be set to have one value after the other in force. -/
def changes : Option α → List α → List α
  | _, [] => []
  | held, x :: rest => change held x ++ changes (some x) rest

/-- How often a list changes: its entries that differ from the one before, and
the first. -/
def switchCount (xs : List α) : Nat :=
  (List.range xs.length).countP fun k => k = 0 ∨ xs[k - 1]? ≠ xs[k]?

theorem cons_changes (a : α) (xs : List α) :
    a :: changes (some a) xs = xs.destutter' (· ≠ ·) a := by
  induction xs generalizing a with
  | nil => rfl
  | cons x rest ih =>
      rw [changes, List.destutter'_cons, change]
      by_cases hsame : a = x
      · rw [if_pos (congrArg some hsame), if_neg (not_not.mpr hsame), hsame]
        exact ih x
      · rw [if_neg (mt Option.some.inj hsame), if_pos hsame]
        exact congrArg (List.cons a) (ih x)

theorem changes_none (xs : List α) : changes none xs = xs.destutter (· ≠ ·) := by
  cases xs with
  | nil => rfl
  | cons x rest => exact cons_changes x rest

theorem isChain_changes_none (xs : List α) : (changes none xs).IsChain (· ≠ ·) := by
  rw [changes_none]
  exact List.isChain_destutter _ _

theorem length_change (held : Option α) (x : α) :
    (change held x).length = if held ≠ some x then 1 else 0 := by
  unfold change
  by_cases hsame : held = some x
  · rw [if_pos hsame, if_neg (not_not.mpr hsame)]
    rfl
  · rw [if_neg hsame, if_pos hsame]
    rfl

/-- One entry is set for each that is not the same as the one before it, where
`held` stands before the first. -/
theorem length_changes (held : Option α) (xs : List α) :
    (changes held xs).length =
      (List.range xs.length).countP fun k => (if k = 0 then held else xs[k - 1]?) ≠ xs[k]? := by
  induction xs generalizing held with
  | nil => rfl
  | cons x rest ih =>
      rw [changes, List.length_append, length_change, ih, List.length_cons,
        List.range_succ_eq_map, List.countP_cons, List.countP_map, Nat.add_comm]
      -- The entry before the `k`-th of the rest is the `k`-th of the whole.
      congr 1
      · apply List.countP_congr
        intro k _
        simp [List.getElem?_cons]
      · simp

theorem length_changes_none (xs : List α) : (changes none xs).length = switchCount xs := by
  rw [length_changes, switchCount]
  apply List.countP_congr
  intro k hk
  have hlt := List.mem_range.mp hk
  by_cases hzero : k = 0
  · subst hzero
    simp [hlt]
  · simp [hzero]

/-- Switches are kept by renaming, as long as no two entries get the same name. -/
theorem switchCount_map {β : Type} [DecidableEq β] {f : α → β} {xs : List α}
    (distinct : ∀ x ∈ xs, ∀ y ∈ xs, f x = f y → x = y) :
    switchCount (xs.map f) = switchCount xs := by
  unfold switchCount
  rw [List.length_map]
  apply List.countP_congr
  intro k hk
  have hlt := List.mem_range.mp hk
  have hprev : k - 1 < xs.length := Nat.lt_of_le_of_lt (Nat.sub_le _ _) hlt
  have hsame : f xs[k - 1] = f xs[k] ↔ xs[k - 1] = xs[k] :=
    ⟨distinct _ (List.getElem_mem _) _ (List.getElem_mem _), congrArg f⟩
  simp [hlt, hprev, hsame]

theorem changes_eq_none {held : Option α} {xs : List α} (unheld : ∀ x ∈ xs, held ≠ some x) :
    changes held xs = changes none xs := by
  cases xs with
  | nil => rfl
  | cons x rest =>
      rw [changes, changes, change, if_neg (unheld x List.mem_cons_self)]
      rfl

/-- What is in force at the start saves one entry at the most. -/
theorem length_changes_le (held held' : Option α) (xs : List α) :
    (changes held xs).length ≤ (changes held' xs).length + 1 := by
  cases xs with
  | nil => exact Nat.zero_le _
  | cons x rest =>
      rw [changes, changes, List.length_append, List.length_append, length_change]
      split <;> omega

end Changes

/-! ## What a command sets -/

namespace DrawCommand

variable {T : Type}

def binding? : DrawCommand T → Option (Option T)
  | .bindTexture texture => some texture
  | .scissorRect _ | .blend _ | .draw _ _ => none

def func? : DrawCommand T → Option BlendFunc
  | .blend func => some func
  | .scissorRect _ | .bindTexture _ | .draw _ _ => none

def clip? : DrawCommand T → Option Clip
  | .scissorRect clip => some clip
  | .bindTexture _ | .blend _ | .draw _ _ => none

def isDraw : DrawCommand T → Bool
  | .draw _ _ => true
  | .scissorRect _ | .bindTexture _ | .blend _ => false

end DrawCommand

/-! ## One batch -/

namespace DrawContext

variable {T : Type} {c : DrawContext T} {cursor : Cursor} {b : Batch} {batches rest : List Batch}

/-- The handle to draw a batch with. -/
def handleOf (c : DrawContext T) (b : Batch) : Option TextureHandle :=
  (c.resolve b.textureId).handle?

/-- The clip to draw a batch under, if scissors count and there is one. -/
def clipsOf (c : DrawContext T) (b : Batch) : List Clip :=
  if c.applyScissor then (c.clipOf b).toList else []

theorem clipChange_of_shows (ht : 0 ≤ b.triangleCount.toInt) (shown : c.shows b = true) :
    (clipChange cursor (c.visibility b) : List (DrawCommand T))
      = ((c.clipsOf b).flatMap (change cursor.clip)).map .scissorRect := by
  rcases visibility_of_shows ht shown with ⟨hs, clip, hclip, hvis⟩ | ⟨hs, hvis⟩
  · rw [hvis, clipChange, clipsOf, if_pos hs, hclip, Option.toList_some, List.flatMap_singleton,
      change, apply_ite (List.map _)]
    rfl
  · rw [hvis, clipsOf, if_neg (by simp [hs])]
    rfl

theorem rebind_eq (handle : Option TextureHandle) :
    rebind c cursor handle
      = (change cursor.texture handle).map fun h => .bindTexture (h.bind c.textures.get?) := by
  rw [rebind, ite_not, change, apply_ite (List.map _)]
  rfl

theorem reblend_eq (func : BlendFunc) :
    (reblend cursor func : List (DrawCommand T)) = (change cursor.blend func).map .blend := by
  rw [reblend, ite_not, change, apply_ite (List.map _)]
  rfl

/-- The commands of a batch that shows: what changes, and then the draw. -/
theorem commands_of_shows (ht : 0 ≤ b.triangleCount.toInt) (shown : c.shows b = true) :
    (c.step cursor b).commands
      = ((c.clipsOf b).flatMap (change cursor.clip)).map .scissorRect
        ++ (change cursor.texture (c.handleOf b)).map
          (fun h => .bindTexture (h.bind c.textures.get?))
        ++ (change cursor.blend b.blendMode.func).map .blend
        ++ [.draw b.indexStart.toUInt32 (.ofInt b.indexLength)] := by
  rw [step_of_shows ht shown, drawBatch_commands, stateChanges, clipChange_of_shows ht shown,
    rebind_eq, reblend_eq, handleOf]

theorem draws_of_shows (ht : 0 ≤ b.triangleCount.toInt) (shown : c.shows b = true) :
    (c.step cursor b).commands.countP DrawCommand.isDraw = 1 := by
  rw [commands_of_shows ht shown]
  simp [List.countP_map, Function.comp_def, DrawCommand.isDraw]

theorem bindings_of_shows (ht : 0 ≤ b.triangleCount.toInt) (shown : c.shows b = true) :
    (c.step cursor b).commands.filterMap DrawCommand.binding?
      = (change cursor.texture (c.handleOf b)).map (·.bind c.textures.get?) := by
  rw [commands_of_shows ht shown]
  simp [List.filterMap_map, Function.comp_def, DrawCommand.binding?]

theorem funcs_of_shows (ht : 0 ≤ b.triangleCount.toInt) (shown : c.shows b = true) :
    (c.step cursor b).commands.filterMap DrawCommand.func?
      = change cursor.blend b.blendMode.func := by
  rw [commands_of_shows ht shown]
  simp [List.filterMap_map, Function.comp_def, DrawCommand.func?]

theorem clips_of_shows (ht : 0 ≤ b.triangleCount.toInt) (shown : c.shows b = true) :
    (c.step cursor b).commands.filterMap DrawCommand.clip?
      = (c.clipsOf b).flatMap (change cursor.clip) := by
  rw [commands_of_shows ht shown]
  simp [List.filterMap_map, Function.comp_def, DrawCommand.clip?]

/-- The clip of a batch that shows is in force for the clips after it. Where
scissors do not count, what was in force before still is. -/
theorem changes_clip_of_shows (ht : 0 ≤ b.triangleCount.toInt) (shown : c.shows b = true)
    (clips : List Clip) :
    (c.clipsOf b).flatMap (change cursor.clip) ++ changes (c.step cursor b).cursor.clip clips
      = changes cursor.clip (c.clipsOf b ++ clips) := by
  rw [step_of_shows ht shown]
  rcases visibility_of_shows ht shown with ⟨hs, clip, hclip, hvis⟩ | ⟨hs, hvis⟩
  · rw [clipsOf, if_pos hs, hclip, Option.toList_some, List.flatMap_singleton, hvis]
    rfl
  · rw [clipsOf, if_neg (by simp [hs]), hvis]
    rfl

/-! ## Batch lists -/

/-- The account of a run of which `drawn` were drawn. -/
structure Tallied (c : DrawContext T) (before : Cursor) (drawn : List Batch) (skipped : Nat)
    (p : Progress T) : Prop where
  batches : p.cursor.stats.batches = before.stats.batches
  drawCalls : p.cursor.stats.drawCalls = before.stats.drawCalls + drawn.length
  skipped : p.cursor.stats.skipped = before.stats.skipped + skipped
  textureBinds : p.cursor.stats.textureBinds
    = before.stats.textureBinds + (changes before.texture (drawn.map c.handleOf)).length
  blendChanges : p.cursor.stats.blendChanges
    = before.stats.blendChanges + (changes before.blend (drawn.map (·.blendMode.func))).length
  draws : p.commands.countP DrawCommand.isDraw = drawn.length
  bindings : p.commands.filterMap DrawCommand.binding?
    = (changes before.texture (drawn.map c.handleOf)).map (·.bind c.textures.get?)
  funcs : p.commands.filterMap DrawCommand.func?
    = changes before.blend (drawn.map (·.blendMode.func))
  clips : p.commands.filterMap DrawCommand.clip?
    = changes before.clip (drawn.flatMap c.clipsOf)

theorem Tallied.skip {drawn : List Batch} {skipped : Nat} (ht : 0 ≤ b.triangleCount.toInt)
    (hidden : c.shows b = false)
    (after : c.Tallied (c.step cursor b).cursor drawn skipped
      (c.steps (c.step cursor b).cursor rest)) :
    c.Tallied cursor drawn (skipped + 1) (c.steps cursor (b :: rest)) := by
  simp only [steps, step_of_not_shows ht hidden, List.nil_append] at after ⊢
  refine ⟨after.batches, after.drawCalls, ?_, after.textureBinds, after.blendChanges, after.draws,
    after.bindings, after.funcs, after.clips⟩
  rw [after.skipped, Nat.add_assoc, Nat.add_comm 1]

theorem Tallied.draw {drawn : List Batch} {skipped : Nat} (ht : 0 ≤ b.triangleCount.toInt)
    (shown : c.shows b = true)
    (after : c.Tallied (c.step cursor b).cursor drawn skipped
      (c.steps (c.step cursor b).cursor rest)) :
    c.Tallied cursor (b :: drawn) skipped (c.steps cursor (b :: rest)) := by
  have hcursor : (c.step cursor b).cursor = (c.drawBatch cursor (c.visibility b) b).cursor := by
    rw [step_of_shows ht shown]
  have hcommands : (c.steps cursor (b :: rest)).commands
      = (c.step cursor b).commands ++ (c.steps (c.step cursor b).cursor rest).commands := rfl
  have htexture : (c.step cursor b).cursor.texture = some (c.handleOf b) := by
    rw [hcursor]
    rfl
  have hblend : (c.step cursor b).cursor.blend = some b.blendMode.func := by
    rw [hcursor]
    rfl
  refine ⟨?_, ?_, ?_, ?_, ?_, ?_, ?_, ?_, ?_⟩
  · exact after.batches.trans (by rw [hcursor]; rfl)
  · refine after.drawCalls.trans ?_
    rw [hcursor, List.length_cons]
    exact Nat.add_right_comm _ _ _
  · exact after.skipped.trans (by rw [hcursor]; rfl)
  · refine after.textureBinds.trans ?_
    rw [htexture, List.map_cons, changes, List.length_append, length_change, ← Nat.add_assoc,
      hcursor]
    rfl
  · refine after.blendChanges.trans ?_
    rw [hblend, List.map_cons, changes, List.length_append, length_change, ← Nat.add_assoc,
      hcursor]
    rfl
  · rw [hcommands, List.countP_append, draws_of_shows ht shown, after.draws, List.length_cons,
      Nat.add_comm]
  · rw [hcommands, List.filterMap_append, bindings_of_shows ht shown, after.bindings, htexture,
      ← List.map_append]
    rfl
  · rw [hcommands, List.filterMap_append, funcs_of_shows ht shown, after.funcs, hblend]
    rfl
  · rw [hcommands, List.filterMap_append, clips_of_shows ht shown, after.clips,
      changes_clip_of_shows ht shown, List.flatMap_cons]

theorem tallied_steps (c : DrawContext T) (cursor : Cursor)
    (ht : ∀ b ∈ batches, 0 ≤ b.triangleCount.toInt) :
    c.Tallied cursor (batches.filter c.shows) (batches.countP fun b => !c.shows b)
      (c.steps cursor batches) := by
  induction batches generalizing cursor with
  | nil => exact ⟨rfl, rfl, rfl, rfl, rfl, rfl, rfl, rfl, rfl⟩
  | cons b rest ih =>
      have htb := ht b List.mem_cons_self
      have hrest := ih (c.step cursor b).cursor fun b' hb' => ht b' (List.mem_cons_of_mem b hb')
      cases shown : c.shows b with
      | false =>
          rw [List.filter_cons_of_neg (by simp [shown]), List.countP_cons_of_pos (by simp [shown])]
          exact hrest.skip htb shown
      | true =>
          rw [List.filter_cons_of_pos shown, List.countP_cons_of_neg (by simp [shown])]
          exact hrest.draw htb shown

theorem length_filter_shows (c : DrawContext T) (batches : List Batch) :
    (batches.filter c.shows).length + (batches.countP fun b => !c.shows b) = batches.length := by
  rw [← List.countP_eq_length_filter, List.length_eq_countP_add_countP c.shows]
  simp

theorem cast_triangleTotal (c : DrawContext T) (batches : List Batch) :
    (c.triangleTotal batches : Int)
      = ((batches.filter c.shows).map fun b => b.triangleCount.toInt).sum := by
  have hpos : ∀ b ∈ batches.filter c.shows, (b.triangleCount.toInt.toNat : Int)
      = b.triangleCount.toInt := by
    intro b hb
    have shown := (Bool.and_eq_true_iff.mp (List.mem_filter.mp hb).2).1
    exact Int.toNat_of_nonneg (Int.le_of_lt (of_decide_eq_true shown))
  rw [triangleTotal, Nat.cast_list_sum, List.map_map]
  exact congrArg List.sum (List.map_congr_left hpos)

theorem map_clipOf_shows (hs : c.applyScissor = true) :
    (batches.filter c.shows).map c.clipOf
      = ((batches.filter c.shows).flatMap c.clipsOf).map some := by
  induction batches with
  | nil => rfl
  | cons b rest ih =>
      cases shown : c.shows b with
      | false => rw [List.filter_cons_of_neg (by simp [shown]), ih]
      | true =>
          obtain ⟨clip, hclip⟩ := exists_clip_of_shows hs shown
          rw [List.filter_cons_of_pos shown, List.map_cons, ih, List.flatMap_cons, clipsOf,
            if_pos hs, hclip]
          rfl

theorem flatMap_clipsOf_of_unclipped (hs : c.applyScissor = false) (batches : List Batch) :
    batches.flatMap c.clipsOf = [] := by
  simp [clipsOf, hs]

/-- The handles to draw the batches with, where a run of batches with the same
handle counts once. `none` stands for batches without a texture. -/
def handlesShown (c : DrawContext T) (batches : List Batch) : List (Option TextureHandle) :=
  ((batches.filter c.shows).map fun b => (c.resolve b.textureId).handle?).destutter (· ≠ ·)

theorem changes_handleOf (c : DrawContext T) (batches : List Batch) :
    changes none ((batches.filter c.shows).map c.handleOf) = c.handlesShown batches :=
  changes_none _

theorem bindings_execute {warned : Bool} {done : Execution T}
    (ht : ∀ b ∈ batches, 0 ≤ b.triangleCount.toInt)
    (executed : c.execute warned batches = .ok done) :
    done.commands.filterMap DrawCommand.binding?
      = (c.handlesShown batches).map (·.bind c.textures.get?) := by
  obtain ⟨-, rfl⟩ := (execute_eq_ok_iff c warned ht).mp executed
  rw [← changes_handleOf]
  exact (tallied_steps c _ ht).bindings

end DrawContext

/-! ## No list sets less -/

namespace DrawState

variable {T : Type} {m : DrawState T} {command : DrawCommand T}

theorem blend_after (other : command.func? = none) : (m.after command).blend = m.blend := by
  cases command with
  | blend func => cases other
  | scissorRect _ | bindTexture _ | draw _ _ => rfl

theorem clip_after (other : command.clip? = none) : (m.after command).clip = m.clip := by
  cases command with
  | scissorRect clip => cases other
  | bindTexture _ | blend _ | draw _ _ => rfl

theorem texture_after (other : command.binding? = none) :
    (m.after command).texture = m.texture := by
  cases command with
  | bindTexture texture => cases other
  | scissorRect _ | blend _ | draw _ _ => rfl

/-- A list sets some part of the state at least as often as that part changes
from draw to draw. -/
theorem length_changes_draws_le {α β : Type} [DecidableEq α] (view : DrawState T → α)
    (set? : DrawCommand T → Option β)
    (kept : ∀ m command, set? command = none → view (m.after command) = view m)
    (m : DrawState T) (commands : List (DrawCommand T)) :
    (changes (some (view m)) ((m.draws commands).map fun x => view x.under)).length
      ≤ (commands.filterMap set?).length := by
  induction commands generalizing m with
  | nil => exact Nat.le_refl _
  | cons command rest ih =>
      -- A draw is under what is in force already.
      have hhere : ∀ views, changes (some (view m))
          ((m.drawnBy command).map (fun x => view x.under) ++ views)
            = changes (some (view m)) views := by
        intro views
        cases command with
        | draw first count => simp [drawnBy, changes, change]
        | scissorRect _ | bindTexture _ | blend _ => rfl
      rw [draws, List.map_append, hhere]
      cases hset : set? command with
      | none =>
          rw [List.filterMap_cons_none hset, ← kept m command hset]
          exact ih _
      | some _ =>
          rw [List.filterMap_cons_some hset, List.length_cons]
          exact (length_changes_le _ _ _).trans (Nat.succ_le_succ (ih _))

theorem switchCount_draws_le {α β : Type} [DecidableEq α] (view : DrawState T → Option α)
    (set? : DrawCommand T → Option β) {commands : List (DrawCommand T)} {xs : List α}
    (kept : ∀ m command, set? command = none → view (m.after command) = view m)
    (fresh : view unset = none)
    (hview : (unset.draws commands).map (fun x => view x.under) = xs.map some) :
    switchCount xs ≤ (commands.filterMap set?).length := by
  have hle := length_changes_draws_le view set? kept unset commands
  have hunset : ∀ x ∈ xs.map some, some (view unset) ≠ some x := by
    intro x hx
    obtain ⟨y, -, rfl⟩ := List.mem_map.mp hx
    rw [fresh]
    exact fun h => Option.some_ne_none y (Option.some.inj h).symm
  rw [hview, changes_eq_none hunset, length_changes_none,
    switchCount_map fun x _ y _ => Option.some.inj] at hle
  exact hle

end DrawState

namespace DrawContext

variable {T : Type} {c : DrawContext T} {batches : List Batch}

/-- No texture is in the pool twice. -/
def NoTextureTwice (c : DrawContext T) : Prop :=
  ∀ h h' t, c.textures.get? h = some t → c.textures.get? h' = some t → h = h'

theorem get?_of_handleOf {b : Batch} {h : TextureHandle} (handle : c.handleOf b = some h) :
    ∃ t, c.textures.get? h = some t := by
  unfold handleOf resolve at handle
  split at handle
  · cases handle
  · dsimp only at handle
    split at handle
    · next hbound =>
        obtain rfl := Option.some.inj handle
        exact Option.isSome_iff_exists.mp hbound
    · cases handle

/-- Where no texture is in the pool twice, batches with the same texture have
the same handle. -/
theorem handleOf_eq_of_get? (once : c.NoTextureTwice) {b b' : Batch}
    (same : (c.handleOf b).bind c.textures.get? = (c.handleOf b').bind c.textures.get?) :
    c.handleOf b = c.handleOf b' := by
  cases hb : c.handleOf b with
  | none =>
      cases hb' : c.handleOf b' with
      | none => rfl
      | some h' =>
          obtain ⟨t, ht⟩ := get?_of_handleOf hb'
          rw [hb, hb', Option.bind_some, ht] at same
          cases same
  | some h =>
      obtain ⟨t, ht⟩ := get?_of_handleOf hb
      rw [hb, Option.bind_some, ht] at same
      cases hb' : c.handleOf b' with
      | none =>
          rw [hb'] at same
          cases same
      | some h' =>
          rw [hb', Option.bind_some] at same
          rw [once h h' t ht same.symm]

theorem switchCount_textureOf [DecidableEq T] (once : c.NoTextureTwice) (drawn : List Batch) :
    switchCount (drawn.map fun b => c.textureOf b.textureId)
      = switchCount (drawn.map c.handleOf) := by
  have htextures : (drawn.map fun b => c.textureOf b.textureId)
      = (drawn.map c.handleOf).map (·.bind c.textures.get?) := by
    rw [List.map_map]
    exact List.map_congr_left fun b _ => (resolve_handle_bind_get c b.textureId).symm
  rw [htextures]
  apply switchCount_map
  intro x hx y hy
  obtain ⟨b, -, rfl⟩ := List.mem_map.mp hx
  obtain ⟨b', -, rfl⟩ := List.mem_map.mp hy
  exact handleOf_eq_of_get? once

/-- The list sets no more than any other with the same draws. -/
def Fewest (c : DrawContext T) (commands : List (DrawCommand T)) : Prop :=
  ∀ others, DrawState.unset.draws others = DrawState.unset.draws commands →
    (commands.filterMap DrawCommand.func?).length ≤ (others.filterMap DrawCommand.func?).length
      ∧ (commands.filterMap DrawCommand.clip?).length
        ≤ (others.filterMap DrawCommand.clip?).length
      ∧ (c.NoTextureTwice → (commands.filterMap DrawCommand.binding?).length
        ≤ (others.filterMap DrawCommand.binding?).length)

section Execution

variable {warned : Bool} {e : Execution T}

theorem length_bindings_execute (ht : ∀ b ∈ batches, 0 ≤ b.triangleCount.toInt)
    (executed : c.execute warned batches = .ok e) :
    (e.commands.filterMap DrawCommand.binding?).length
      = switchCount ((batches.filter c.shows).map c.handleOf) := by
  rw [bindings_execute ht executed, List.length_map, ← changes_handleOf, length_changes_none]

theorem funcs_execute (ht : ∀ b ∈ batches, 0 ≤ b.triangleCount.toInt)
    (executed : c.execute warned batches = .ok e) :
    e.commands.filterMap DrawCommand.func?
      = changes none ((batches.filter c.shows).map (·.blendMode.func)) := by
  obtain ⟨-, rfl⟩ := (execute_eq_ok_iff c warned ht).mp executed
  exact (tallied_steps c _ ht).funcs

theorem clips_execute (ht : ∀ b ∈ batches, 0 ≤ b.triangleCount.toInt)
    (executed : c.execute warned batches = .ok e) :
    e.commands.filterMap DrawCommand.clip?
      = changes none ((batches.filter c.shows).flatMap c.clipsOf) := by
  obtain ⟨-, rfl⟩ := (execute_eq_ok_iff c warned ht).mp executed
  exact (tallied_steps c _ ht).clips

theorem length_clips_execute (ht : ∀ b ∈ batches, 0 ≤ b.triangleCount.toInt)
    (executed : c.execute warned batches = .ok e) :
    (e.commands.filterMap DrawCommand.clip?).length
      = if c.applyScissor then switchCount ((batches.filter c.shows).map c.clipOf) else 0 := by
  rw [clips_execute ht executed, length_changes_none]
  cases hs : c.applyScissor with
  | false =>
      rw [flatMap_clipsOf_of_unclipped hs]
      rfl
  | true =>
      rw [if_pos rfl, map_clipOf_shows hs, switchCount_map fun x _ y _ => Option.some.inj]

theorem fewest_execute (ht : ∀ b ∈ batches, 0 ≤ b.triangleCount.toInt)
    (executed : c.execute warned batches = .ok e) : c.Fewest e.commands := by
  intro others same
  rw [draws_execute ht executed .unset] at same
  refine ⟨?_, ?_, fun once => ?_⟩
  · rw [funcs_execute ht executed, length_changes_none]
    apply DrawState.switchCount_draws_le DrawState.blend DrawCommand.func?
      (fun _ _ => DrawState.blend_after) rfl
    rw [same, List.map_map, List.map_map]
    rfl
  · cases hs : c.applyScissor with
    | false =>
        rw [length_clips_execute ht executed, hs]
        exact Nat.zero_le _
    | true =>
        rw [clips_execute ht executed, length_changes_none]
        apply DrawState.switchCount_draws_le DrawState.clip DrawCommand.clip?
          (fun _ _ => DrawState.clip_after) rfl
        rw [same, List.map_map, ← map_clipOf_shows hs]
        exact List.map_congr_left fun b _ => by simp [drawn, hs]
  · classical
    rw [length_bindings_execute ht executed, ← switchCount_textureOf once]
    apply DrawState.switchCount_draws_le DrawState.texture DrawCommand.binding?
      (fun _ _ => DrawState.texture_after) rfl
    rw [same, List.map_map, List.map_map]
    rfl

end Execution

/-! ## The whole of it -/

/-- The counters and the state commands of an executed batch list, in terms of
the batches that were drawn. -/
structure Counted (c : DrawContext T) (batches drawn : List Batch) (e : Execution T) : Prop where
  batches : e.stats.batches = batches.length
  drawCalls : e.stats.drawCalls = drawn.length
  draws : e.commands.countP DrawCommand.isDraw = drawn.length
  skipped : e.stats.drawCalls + e.stats.skipped = e.stats.batches
  triangles : (e.stats.triangles : Int) = (drawn.map fun b => b.triangleCount.toInt).sum
  textureBinds : e.stats.textureBinds = switchCount (drawn.map c.handleOf)
  blendChanges : e.stats.blendChanges = switchCount (drawn.map (·.blendMode.func))
  bindings : (e.commands.filterMap DrawCommand.binding?).length
    = switchCount (drawn.map c.handleOf)
  funcs : (e.commands.filterMap DrawCommand.func?).length
    = switchCount (drawn.map (·.blendMode.func))
  clips : (e.commands.filterMap DrawCommand.clip?).length
    = if c.applyScissor then switchCount (drawn.map c.clipOf) else 0

theorem counted_execute {warned : Bool} {e : Execution T}
    (ht : ∀ b ∈ batches, 0 ≤ b.triangleCount.toInt)
    (executed : c.execute warned batches = .ok e) :
    c.Counted batches (batches.filter c.shows) e := by
  have hbindings := length_bindings_execute ht executed
  have hclips := length_clips_execute ht executed
  have hfuncs := funcs_execute ht executed
  obtain ⟨-, rfl⟩ := (execute_eq_ok_iff c warned ht).mp executed
  have tallied := tallied_steps c (.start warned batches.length) ht
  refine ⟨tallied.batches, ?_, tallied.draws, ?_, ?_, ?_, ?_, hbindings, ?_, hclips⟩
  · exact tallied.drawCalls.trans (Nat.zero_add _)
  · rw [tallied.drawCalls, tallied.skipped, tallied.batches]
    simp only [Cursor.start, FrameStats.zero, Nat.zero_add]
    exact length_filter_shows c batches
  · rw [triangles_steps c _ ht, ← cast_triangleTotal]
    simp only [Cursor.start, FrameStats.zero, Nat.zero_add]
  · rw [tallied.textureBinds, ← length_changes_none]
    exact Nat.zero_add _
  · rw [tallied.blendChanges, ← length_changes_none]
    exact Nat.zero_add _
  · rw [hfuncs, length_changes_none]

/-- **The counters of a frame are exact, and its state changes are needed.** A
validated batch list is executed just when its triangles can be counted, which
holds for all that 33 bits can number. Then the counters are those of the
batches that show; bindings, blend functions and scissor rectangles are set once
for each drawn batch that differs in them from the drawn batch before it, the
first one included; and no two in a row are the same. No list of commands that
draws the same sets a blend function or a scissor rectangle less often, nor a
texture, if no texture is in the pool twice. -/
theorem frame_counters_exact (c : DrawContext T) (warned : Bool) (d : DecodedFrame)
    (valid : d.validate c.textures.capacity = .ok ()) :
    ((∃ e, c.execute warned d.batches = .ok e) ↔ c.triangleTotal d.batches < 2 ^ 64)
      ∧ (d.batches.length < 2 ^ 33 → c.triangleTotal d.batches < 2 ^ 64)
      ∧ ∀ e, c.execute warned d.batches = .ok e →
        c.Counted d.batches (d.batches.filter c.shows) e
          ∧ (e.commands.filterMap DrawCommand.binding?
                = (c.handlesShown d.batches).map (·.bind c.textures.get?)
              ∧ (c.handlesShown d.batches).IsChain (· ≠ ·))
          ∧ (e.commands.filterMap DrawCommand.func?).IsChain (· ≠ ·)
          ∧ (e.commands.filterMap DrawCommand.clip?).IsChain (· ≠ ·)
          ∧ c.Fewest e.commands := by
  obtain ⟨-, fits⟩ := DecodedFrame.validate_eq_ok_iff.mp valid
  have ht : ∀ b ∈ d.batches, 0 ≤ b.triangleCount.toInt := fun b hb => (fits b hb).triangles
  refine ⟨⟨?_, fun hsum => ⟨_, (execute_eq_ok_iff c warned ht).mpr ⟨hsum, rfl⟩⟩⟩, ?_, ?_⟩
  · rintro ⟨e, executed⟩
    exact ((execute_eq_ok_iff c warned ht).mp executed).1
  · intro hlength
    have hle := triangleTotal_le c d.batches
    omega
  · intro e executed
    refine ⟨counted_execute ht executed, ⟨bindings_execute ht executed, List.isChain_destutter _ _⟩,
      ?_, ?_, fewest_execute ht executed⟩
    · rw [funcs_execute ht executed]
      exact isChain_changes_none _
    · rw [clips_execute ht executed]
      exact isChain_changes_none _

theorem noTextureTwice_sampleContext : sampleContext.NoTextureTwice := by
  have hbound : ∀ h t, sampleContext.textures.get? h = some t → h = ⟨1⟩ := by
    intro h t held
    match h with
    | ⟨0⟩ => cases held
    | ⟨1⟩ => rfl
    | ⟨_ + 2⟩ => cases held
  intro h h' t held held'
  rw [hbound h t held, hbound h' t held']

theorem frame_counters_exact_sample :
    sampleFrame.validate sampleContext.textures.capacity = .ok ()
      ∧ sampleContext.NoTextureTwice
      ∧ ∃ e, sampleContext.execute false sampleFrame.batches = .ok e
        ∧ sampleContext.Counted sampleFrame.batches
            (sampleFrame.batches.filter sampleContext.shows) e
        ∧ sampleContext.Fewest e.commands
        ∧ e.stats = ⟨6, 4, 2, 4, 2, 2⟩
        ∧ (e.commands.filterMap DrawCommand.clip?).length = 1 := by
  have valid : sampleFrame.validate sampleContext.textures.capacity = .ok () := rfl
  obtain ⟨-, -, hall⟩ := frame_counters_exact sampleContext false sampleFrame valid
  obtain ⟨counted, -, -, -, fewest⟩ := hall _ rfl
  exact ⟨valid, noTextureTwice_sampleContext, _, rfl, counted, fewest, by decide, by decide⟩

end DrawContext

end SpriteRenderer

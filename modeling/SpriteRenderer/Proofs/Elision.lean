import SpriteRenderer.Execution
import SpriteRenderer.Proofs.Frame

/-!
# Elided state changes are invisible

Executing a batch list issues a state command only where the state is not
in force already. This file says that nothing is lost by it: read as
commands to an immediate-mode device, where state stays in force until it
is set again, the executed list draws what the plain list draws that
states everything before every draw (`DrawContext.plain`).

The device is `DrawState`; its draws are read off a command list by
`DrawState.draws`, each with the state it is issued under. The invariant
is `Agrees`: whatever the cursor remembers is in force. Nothing is asked
where the cursor remembers nothing, so the device may start in any state
at all, and what the draws see does not depend on it.

One batch is `draws_drawBatch` and `agrees_drawBatch`; a list of them is
`draws_steps`, by induction on the list.
-/

namespace SpriteRenderer

variable {T : Type}

/-! ## An immediate-mode device -/

/-- What an immediate-mode device draws under; `none` is what nobody has
set. -/
structure DrawState (T : Type) where
  clip : Option Clip
  texture : Option (Option T)
  blend : Option BlendFunc
deriving DecidableEq

/-- A draw with the state in force when it is issued. -/
structure Drawn (T : Type) where
  first : UInt32
  count : UInt32
  under : DrawState T
deriving DecidableEq

namespace DrawState

def unset : DrawState T := ⟨none, none, none⟩

def after (m : DrawState T) : DrawCommand T → DrawState T
  | .scissorRect clip => { m with clip := some clip }
  | .bindTexture texture => { m with texture := some texture }
  | .blend func => { m with blend := some func }
  | .draw _ _ => m

def afterAll (m : DrawState T) (commands : List (DrawCommand T)) : DrawState T :=
  commands.foldl after m

def drawnBy (m : DrawState T) : DrawCommand T → List (Drawn T)
  | .draw first count => [⟨first, count, m⟩]
  | .scissorRect _ | .bindTexture _ | .blend _ => []

/-- The draws of a command list, in order. -/
def draws (m : DrawState T) : List (DrawCommand T) → List (Drawn T)
  | [] => []
  | command :: rest => m.drawnBy command ++ (m.after command).draws rest

theorem afterAll_append (m : DrawState T) (xs ys : List (DrawCommand T)) :
    m.afterAll (xs ++ ys) = (m.afterAll xs).afterAll ys := by
  simp [afterAll]

theorem draws_append (m : DrawState T) (xs ys : List (DrawCommand T)) :
    m.draws (xs ++ ys) = m.draws xs ++ (m.afterAll xs).draws ys := by
  induction xs generalizing m with
  | nil => rfl
  | cons x rest ih => simp [draws, afterAll, ih]

theorem texture_of_mem_draws {m : DrawState T} {commands : List (DrawCommand T)} {x : Drawn T}
    (hx : x ∈ m.draws commands) :
    x.under.texture = m.texture
      ∨ ∃ texture, .bindTexture texture ∈ commands ∧ x.under.texture = some texture := by
  induction commands generalizing m with
  | nil => cases hx
  | cons command rest ih =>
      rcases List.mem_append.mp hx with hhere | hlater
      · cases command with
        | draw first count =>
            obtain rfl := List.mem_singleton.mp hhere
            exact Or.inl rfl
        | scissorRect _ | bindTexture _ | blend _ => cases hhere
      · rcases ih hlater with hsame | ⟨texture, hmem, htexture⟩
        · cases command with
          | bindTexture texture =>
              exact Or.inr ⟨texture, List.mem_cons_self, hsame⟩
          | scissorRect _ | blend _ | draw _ _ => exact Or.inl hsame
        · exact Or.inr ⟨texture, List.mem_cons_of_mem _ hmem, htexture⟩

end DrawState

/-! ## The plain executor -/

namespace DrawContext

/-- The part of a batch's scissor rectangle that lies on the target. -/
def clipOf (c : DrawContext T) (b : Batch) : Option Clip :=
  b.scissor.clampTo c.viewport.extent.1 c.viewport.extent.2

/-- The texture behind an id, if the id is a handle that holds one. -/
def textureOf (c : DrawContext T) (id : Int32) : Option T :=
  if id.toInt < 0 then none else c.textures.get? ⟨id.toInt.toNat⟩

/-- Whether a batch shows: it has triangles and, where scissors count, some
pixel to show them on. -/
def shows (c : DrawContext T) (b : Batch) : Bool :=
  decide (0 < b.triangleCount.toInt) && (!c.applyScissor || (c.clipOf b).isSome)

/-- The draw that a batch asks for. The scissor rectangle is the batch's own
where scissors count, and `outer` where they do not. -/
def drawn (c : DrawContext T) (outer : Option Clip) (b : Batch) : Drawn T where
  first := b.indexStart.toUInt32
  count := .ofInt (3 * b.triangleCount.toInt)
  under :=
    { clip := if c.applyScissor then c.clipOf b else outer
      texture := some (c.textureOf b.textureId)
      blend := some b.blendMode.func }

/-- One batch with all of its state. -/
def plainBatch (c : DrawContext T) (b : Batch) : List (DrawCommand T) :=
  (if c.applyScissor then (c.clipOf b).toList.map .scissorRect else [])
    ++ [.bindTexture (c.textureOf b.textureId), .blend b.blendMode.func,
      .draw b.indexStart.toUInt32 (.ofInt (3 * b.triangleCount.toInt))]

/-- A batch list, with all state before every draw. -/
def plain (c : DrawContext T) (batches : List Batch) : List (DrawCommand T) :=
  (batches.filter c.shows).flatMap c.plainBatch

/-- Where scissors count, a batch that shows has a clip. -/
theorem exists_clip_of_shows {c : DrawContext T} {b : Batch} (hs : c.applyScissor = true)
    (shown : c.shows b = true) : ∃ clip, c.clipOf b = some clip := by
  simpa [shows, hs, Option.isSome_iff_exists] using (Bool.and_eq_true_iff.mp shown).2

theorem draws_plainBatch {c : DrawContext T} {b : Batch} {outer : Option Clip} {m : DrawState T}
    (shown : c.shows b = true) (hm : c.applyScissor = false → m.clip = outer) :
    m.draws (c.plainBatch b) = [c.drawn outer b]
      ∧ m.afterAll (c.plainBatch b) = (c.drawn outer b).under := by
  cases hs : c.applyScissor with
  | false =>
      simp [plainBatch, drawn, hs, DrawState.draws, DrawState.drawnBy, DrawState.after,
        DrawState.afterAll, hm hs]
  | true =>
      obtain ⟨clip, hclip⟩ := exists_clip_of_shows hs shown
      simp [plainBatch, drawn, hs, hclip, DrawState.draws, DrawState.drawnBy, DrawState.after,
        DrawState.afterAll]

theorem draws_plain (c : DrawContext T) (outer : Option Clip) (batches : List Batch)
    (m : DrawState T) (hm : c.applyScissor = false → m.clip = outer) :
    m.draws (c.plain batches) = (batches.filter c.shows).map (c.drawn outer) := by
  induction batches generalizing m with
  | nil => rfl
  | cons b rest ih =>
      cases shown : c.shows b with
      | false => simpa [plain, shown] using ih m hm
      | true =>
          obtain ⟨hdraws, hafter⟩ := draws_plainBatch shown hm
          have hnext : c.applyScissor = false → (m.afterAll (c.plainBatch b)).clip = outer := by
            intro hs
            simp [hafter, drawn, hs]
          have hrest := ih _ hnext
          simp only [plain] at hrest
          simp [plain, shown, DrawState.draws_append, hdraws, hrest]

/-! ## What the executor looks at -/

theorem resolve_handle_bind_get (c : DrawContext T) (id : Int32) :
    (c.resolve id).handle?.bind c.textures.get? = c.textureOf id := by
  have hneg : id < 0 ↔ id.toInt < 0 := Int32.lt_iff_toInt_lt
  unfold resolve textureOf
  by_cases h : id.toInt < 0
  · rw [if_pos (hneg.mpr h), if_pos h]
    rfl
  · rw [if_neg (mt hneg.mp h), if_neg h]
    dsimp only
    split
    · rfl
    · next hunbound =>
        have hnone : c.textures.get? ⟨id.toInt.toNat⟩ = none := by
          simpa [TexturePool.isBound] using hunbound
        rw [hnone]
        rfl

theorem visibility_eq (c : DrawContext T) (b : Batch) (ht : 0 ≤ b.triangleCount.toInt) :
    c.visibility b =
      if c.shows b then
        if c.applyScissor then (c.clipOf b).elim .hidden .clipped else .unclipped
      else .hidden := by
  have hzero : b.triangleCount = 0 ↔ b.triangleCount.toInt = 0 := Int32.toInt_inj.symm
  unfold visibility shows
  by_cases h : b.triangleCount.toInt = 0
  · simp [hzero.mpr h]
  · have hpos : 0 < b.triangleCount.toInt := by omega
    rw [if_neg (mt hzero.mp h)]
    cases hs : c.applyScissor with
    | false => simp [hpos]
    | true =>
        cases hclip : c.clipOf b with
        | none =>
            unfold clipOf at hclip
            simp [hclip]
        | some clip =>
            unfold clipOf at hclip
            simp [hclip, hpos]

/-! ## The cursor and the device agree -/

/-- Whatever the cursor remembers is in force on the device. Where scissors
do not count nobody touches the rectangle, which stays `outer`. -/
structure Agrees (c : DrawContext T) (outer : Option Clip) (cursor : Cursor) (m : DrawState T) :
    Prop where
  clip : ∀ clip, cursor.clip = some clip → m.clip = some clip
  texture : ∀ handle, cursor.texture = some handle →
    m.texture = some (handle.bind c.textures.get?)
  blend : ∀ func, cursor.blend = some func → m.blend = some func
  untouched : c.applyScissor = false → m.clip = outer

theorem agrees_start (c : DrawContext T) (warned : Bool) (n : Nat) (m : DrawState T) :
    Agrees c m.clip (.start warned n) m where
  clip := by simp [Cursor.start]
  texture := by simp [Cursor.start]
  blend := by simp [Cursor.start]
  untouched _ := rfl

section Batch

variable {c : DrawContext T} {outer : Option Clip} {cursor : Cursor} {m : DrawState T} {b : Batch}

theorem visibility_of_shows (ht : 0 ≤ b.triangleCount.toInt) (shown : c.shows b = true) :
    (c.applyScissor = true ∧ ∃ clip, c.clipOf b = some clip ∧ c.visibility b = .clipped clip)
      ∨ (c.applyScissor = false ∧ c.visibility b = .unclipped) := by
  rw [visibility_eq c b ht, if_pos shown]
  cases hs : c.applyScissor with
  | false => exact Or.inr ⟨rfl, rfl⟩
  | true =>
      obtain ⟨clip, hclip⟩ := exists_clip_of_shows hs shown
      exact Or.inl ⟨rfl, clip, hclip, by simp [hclip]⟩

theorem step_of_not_shows (ht : 0 ≤ b.triangleCount.toInt) (hidden : c.shows b = false) :
    c.step cursor b =
      ⟨{ cursor with stats := { cursor.stats with skipped := cursor.stats.skipped + 1 } }, [], []⟩ := by
  have hvis : c.visibility b = .hidden := by
    rw [visibility_eq c b ht, if_neg (by simp [hidden])]
  simp [step, hvis]

theorem step_of_shows (ht : 0 ≤ b.triangleCount.toInt) (shown : c.shows b = true) :
    c.step cursor b = c.drawBatch cursor (c.visibility b) b := by
  unfold step
  rcases visibility_of_shows ht shown with ⟨-, clip, -, hvis⟩ | ⟨-, hvis⟩
  · rw [hvis]
  · rw [hvis]

def rebind (c : DrawContext T) (cursor : Cursor) (handle : Option TextureHandle) :
    List (DrawCommand T) :=
  if cursor.texture ≠ some handle then [.bindTexture (handle.bind c.textures.get?)] else []

def reblend (cursor : Cursor) (func : BlendFunc) : List (DrawCommand T) :=
  if cursor.blend ≠ some func then [.blend func] else []

/-- All that is issued before the draw of a batch. -/
def stateChanges (c : DrawContext T) (cursor : Cursor) (b : Batch) : List (DrawCommand T) :=
  clipChange cursor (c.visibility b) ++ rebind c cursor (c.resolve b.textureId).handle?
    ++ reblend cursor b.blendMode.func

theorem drawBatch_commands (c : DrawContext T) (cursor : Cursor) (b : Batch) :
    (c.drawBatch cursor (c.visibility b) b).commands =
      c.stateChanges cursor b ++ [.draw b.indexStart.toUInt32 (.ofInt b.indexLength)] := rfl

theorem draws_stateChanges (c : DrawContext T) (cursor : Cursor) (m : DrawState T) (b : Batch) :
    m.draws (c.stateChanges cursor b) = [] := by
  have hclip : ∀ (v : Visibility) (m : DrawState T), m.draws (clipChange cursor v) = [] := by
    intro v m
    cases v with
    | hidden | unclipped => rfl
    | clipped clip =>
        dsimp only [clipChange]
        split <;> rfl
  have htexture : ∀ handle (m : DrawState T), m.draws (rebind c cursor handle) = [] := by
    intro handle m
    unfold rebind
    split <;> rfl
  have hblend : ∀ func (m : DrawState T), m.draws (reblend cursor func) = [] := by
    intro func m
    unfold reblend
    split <;> rfl
  simp [stateChanges, DrawState.draws_append, hclip, htexture, hblend]

theorem afterAll_clipChange (agree : Agrees c outer cursor m) (ht : 0 ≤ b.triangleCount.toInt)
    (shown : c.shows b = true) :
    m.afterAll (clipChange cursor (c.visibility b)) =
      { m with clip := (c.drawn outer b).under.clip } := by
  rcases visibility_of_shows ht shown with ⟨hs, clip, hclip, hvis⟩ | ⟨hs, hvis⟩
  · rw [hvis]
    by_cases hsame : cursor.clip = some clip
    · have hforce : m.clip = some clip := agree.clip clip hsame
      simp [clipChange, hsame, drawn, hs, hclip, DrawState.afterAll, ← hforce]
    · simp [clipChange, hsame, drawn, hs, hclip, DrawState.afterAll, DrawState.after]
  · rw [hvis]
    simp [clipChange, drawn, hs, DrawState.afterAll, ← agree.untouched hs]

theorem afterAll_rebind {handle : Option TextureHandle}
    (held : cursor.texture = some handle → m.texture = some (handle.bind c.textures.get?)) :
    m.afterAll (rebind c cursor handle) =
      { m with texture := some (handle.bind c.textures.get?) } := by
  unfold rebind
  by_cases hsame : cursor.texture = some handle
  · simp [hsame, DrawState.afterAll, ← held hsame]
  · simp [hsame, DrawState.afterAll, DrawState.after]

theorem afterAll_reblend {func : BlendFunc} (held : cursor.blend = some func → m.blend = some func) :
    m.afterAll (reblend cursor func) = { m with blend := some func } := by
  unfold reblend
  by_cases hsame : cursor.blend = some func
  · simp [hsame, DrawState.afterAll, ← held hsame]
  · simp [hsame, DrawState.afterAll, DrawState.after]

theorem afterAll_stateChanges (agree : Agrees c outer cursor m) (ht : 0 ≤ b.triangleCount.toInt)
    (shown : c.shows b = true) :
    m.afterAll (c.stateChanges cursor b) = (c.drawn outer b).under := by
  rw [stateChanges, DrawState.afterAll_append, DrawState.afterAll_append,
    afterAll_clipChange agree ht shown, afterAll_rebind, afterAll_reblend,
    resolve_handle_bind_get]
  · rfl
  · exact agree.blend _
  · exact agree.texture _

theorem draws_drawBatch (agree : Agrees c outer cursor m) (ht : 0 ≤ b.triangleCount.toInt)
    (shown : c.shows b = true) :
    m.draws (c.drawBatch cursor (c.visibility b) b).commands = [c.drawn outer b] := by
  rw [drawBatch_commands, DrawState.draws_append, draws_stateChanges,
    afterAll_stateChanges agree ht shown]
  simp [DrawState.draws, DrawState.drawnBy, drawn, Batch.indexLength, Int.mul_comm]

theorem agrees_drawBatch (agree : Agrees c outer cursor m) (ht : 0 ≤ b.triangleCount.toInt)
    (shown : c.shows b = true) :
    Agrees c outer (c.drawBatch cursor (c.visibility b) b).cursor
      (m.afterAll (c.drawBatch cursor (c.visibility b) b).commands) := by
  have hafter : m.afterAll (c.drawBatch cursor (c.visibility b) b).commands
      = (c.drawn outer b).under := by
    rw [drawBatch_commands, DrawState.afterAll_append, afterAll_stateChanges agree ht shown]
    rfl
  rw [hafter]
  refine ⟨?_, ?_, ?_, ?_⟩
  · intro clip hclip
    rcases visibility_of_shows ht shown with ⟨hs, clip', hclip', hvis⟩ | ⟨hs, hvis⟩
    · simp only [drawBatch, hvis, clipAfter] at hclip
      simp [drawn, hs, hclip', hclip]
    · simp only [drawBatch, hvis, clipAfter] at hclip
      simp [drawn, hs, ← agree.untouched hs, agree.clip clip hclip]
  · intro handle hhandle
    obtain rfl : (c.resolve b.textureId).handle? = handle := Option.some.inj hhandle
    rw [resolve_handle_bind_get]
    rfl
  · intro func hfunc
    exact hfunc
  · intro hs
    simp [drawn, hs]

/-- Nothing is issued that the plain executor would not issue. -/
theorem drawBatch_sublist (cursor : Cursor) (ht : 0 ≤ b.triangleCount.toInt)
    (shown : c.shows b = true) :
    (c.drawBatch cursor (c.visibility b) b).commands.Sublist (c.plainBatch b) := by
  have hclip : (clipChange cursor (c.visibility b) : List (DrawCommand T)).Sublist
      (if c.applyScissor then (c.clipOf b).toList.map .scissorRect else []) := by
    rcases visibility_of_shows ht shown with ⟨hs, clip, hclip, hvis⟩ | ⟨hs, hvis⟩
    · rw [hvis, clipChange, hs, hclip]
      split
      · exact List.nil_sublist _
      · exact List.Sublist.refl _
    · rw [hvis]
      exact List.nil_sublist _
  have htexture : (rebind c cursor (c.resolve b.textureId).handle?).Sublist
      [.bindTexture (c.textureOf b.textureId)] := by
    rw [rebind, resolve_handle_bind_get]
    split
    · exact List.Sublist.refl _
    · exact List.nil_sublist _
  have hblend : (reblend cursor b.blendMode.func : List (DrawCommand T)).Sublist
      [.blend b.blendMode.func] := by
    rw [reblend]
    split
    · exact List.Sublist.refl _
    · exact List.nil_sublist _
  have hlength : b.indexLength = 3 * b.triangleCount.toInt := Int.mul_comm _ _
  rw [drawBatch_commands, hlength, stateChanges, plainBatch]
  simpa using ((hclip.append htexture).append hblend).append (List.Sublist.refl _)

end Batch

/-! ## Batch lists -/

/-- An executed list is a part of the plain list. -/
theorem steps_sublist_plain (c : DrawContext T) (cursor : Cursor) {batches : List Batch}
    (ht : ∀ b ∈ batches, 0 ≤ b.triangleCount.toInt) :
    (c.steps cursor batches).commands.Sublist (c.plain batches) := by
  induction batches generalizing cursor with
  | nil => exact List.Sublist.refl _
  | cons b rest ih =>
      have htb := ht b List.mem_cons_self
      have hrest := ih (c.step cursor b).cursor fun b' hb' => ht b' (List.mem_cons_of_mem _ hb')
      simp only [steps, plain] at hrest ⊢
      cases shown : c.shows b with
      | false =>
          rw [step_of_not_shows htb shown] at hrest ⊢
          simpa [shown] using hrest
      | true =>
          rw [step_of_shows htb shown] at hrest ⊢
          simpa [shown] using (drawBatch_sublist cursor htb shown).append hrest

/-- A whole list draws the batches that show, one draw each, whatever was in
force before. -/
theorem draws_steps (c : DrawContext T) {outer : Option Clip} {cursor : Cursor} {m : DrawState T}
    (agree : Agrees c outer cursor m) {batches : List Batch}
    (ht : ∀ b ∈ batches, 0 ≤ b.triangleCount.toInt) :
    m.draws (c.steps cursor batches).commands = (batches.filter c.shows).map (c.drawn outer) := by
  induction batches generalizing cursor m with
  | nil => rfl
  | cons b rest ih =>
      have htb := ht b List.mem_cons_self
      have htrest : ∀ b' ∈ rest, 0 ≤ b'.triangleCount.toInt :=
        fun b' hb' => ht b' (List.mem_cons_of_mem _ hb')
      simp only [steps, DrawState.draws_append]
      cases shown : c.shows b with
      | false =>
          rw [step_of_not_shows htb shown, List.filter_cons_of_neg (by simp [shown])]
          -- A hidden batch moves the counters only: the same state still agrees.
          exact ih ⟨agree.clip, agree.texture, agree.blend, agree.untouched⟩ htrest
      | true =>
          rw [step_of_shows htb shown, List.filter_cons_of_pos shown,
            draws_drawBatch agree htb shown, ih (agrees_drawBatch agree htb shown) htrest]
          rfl

/-! ## The triangle counter -/

/-- Triangles that a batch list draws, counted without a bound. -/
def triangleTotal (c : DrawContext T) (batches : List Batch) : Nat :=
  ((batches.filter c.shows).map fun b => b.triangleCount.toInt.toNat).sum

theorem triangleTally_eq {b : Batch} (ht : 0 ≤ b.triangleCount.toInt) :
    triangleTally b = b.triangleCount.toInt.toNat := by
  have hnonneg : 0 ≤ b.triangleCount.toInt64 := by
    rw [Int64.le_iff_toInt_le, Int32.toInt_toInt64]
    exact ht
  rw [triangleTally, Int64.toNat_toUInt64_of_le hnonneg, Int64.toNatClampNeg, Int32.toInt_toInt64]

theorem triangles_steps (c : DrawContext T) (cursor : Cursor) {batches : List Batch}
    (ht : ∀ b ∈ batches, 0 ≤ b.triangleCount.toInt) :
    (c.steps cursor batches).cursor.stats.triangles =
      cursor.stats.triangles + c.triangleTotal batches := by
  induction batches generalizing cursor with
  | nil => rfl
  | cons b rest ih =>
      have htb := ht b List.mem_cons_self
      have htrest : ∀ b' ∈ rest, 0 ≤ b'.triangleCount.toInt :=
        fun b' hb' => ht b' (List.mem_cons_of_mem _ hb')
      simp only [steps, ih _ htrest]
      cases shown : c.shows b with
      | false => simp [step_of_not_shows htb shown, triangleTotal, shown]
      | true =>
          simp only [step_of_shows htb shown, drawBatch, triangleTally_eq htb, triangleTotal,
            List.filter_cons_of_pos shown, List.map_cons, List.sum_cons]
          omega

theorem triangleTotal_le (c : DrawContext T) (batches : List Batch) :
    c.triangleTotal batches ≤ batches.length * 2 ^ 31 := by
  induction batches with
  | nil => simp [triangleTotal]
  | cons b rest ih =>
      have hb : b.triangleCount.toInt.toNat < 2 ^ 31 := FrameData.toNat_count_lt _
      unfold triangleTotal at ih ⊢
      rw [List.length_cons, Nat.succ_mul]
      cases shown : c.shows b with
      | false =>
          rw [List.filter_cons_of_neg (by simp [shown])]
          exact Nat.le_trans ih (Nat.le_add_right _ _)
      | true =>
          rw [List.filter_cons_of_pos shown, List.map_cons, List.sum_cons, Nat.add_comm]
          exact Nat.add_le_add ih (Nat.le_of_lt hb)

/-- Execution returns what the cursor has gathered, unless the triangle
counter overflows. -/
theorem execute_eq_ok_iff (c : DrawContext T) (warned : Bool) {batches : List Batch}
    (ht : ∀ b ∈ batches, 0 ≤ b.triangleCount.toInt) {e : Execution T} :
    c.execute warned batches = .ok e ↔
      c.triangleTotal batches < 2 ^ 64
        ∧ e = ⟨(c.steps (.start warned batches.length) batches).commands,
            (c.steps (.start warned batches.length) batches).cursor.stats,
            (c.steps (.start warned batches.length) batches).unbound,
            (c.steps (.start warned batches.length) batches).cursor.warned⟩ := by
  have htotal := triangles_steps c (.start warned batches.length) ht
  simp only [Cursor.start, FrameStats.zero, Nat.zero_add] at htotal
  simp only [execute, except_bind_eq_ok_iff, fitUnsigned_eq_ok_iff]
  constructor
  · rintro ⟨n, ⟨hn, -⟩, he⟩
    exact ⟨by simpa [Cursor.start, FrameStats.zero, htotal] using hn, (Except.ok.inj he).symm⟩
  · rintro ⟨hn, rfl⟩
    exact ⟨_, ⟨by simpa [Cursor.start, FrameStats.zero, htotal] using hn, rfl⟩, rfl⟩

/-- An executed list draws the batches that show, on a device in any state. -/
theorem draws_execute {c : DrawContext T} {warned : Bool} {batches : List Batch}
    (ht : ∀ b ∈ batches, 0 ≤ b.triangleCount.toInt) {e : Execution T}
    (executed : c.execute warned batches = .ok e) (m : DrawState T) :
    m.draws e.commands = (batches.filter c.shows).map (c.drawn m.clip) := by
  obtain ⟨-, rfl⟩ := (execute_eq_ok_iff c warned ht).mp executed
  exact draws_steps c (agrees_start c warned _ m) ht

theorem bindTexture_mem_execute {c : DrawContext T} {warned : Bool} {batches : List Batch}
    (ht : ∀ b ∈ batches, 0 ≤ b.triangleCount.toInt) {e : Execution T}
    (executed : c.execute warned batches = .ok e) {b : Batch} (hb : b ∈ batches)
    (shown : c.shows b = true) : .bindTexture (c.textureOf b.textureId) ∈ e.commands := by
  have hdrawn : c.drawn none b ∈ DrawState.unset.draws e.commands := by
    rw [draws_execute ht executed]
    exact List.mem_map_of_mem (List.mem_filter.mpr ⟨hb, shown⟩)
  rcases DrawState.texture_of_mem_draws hdrawn with hunset | ⟨texture, hmem, htexture⟩
  · cases hunset
  · obtain rfl : c.textureOf b.textureId = texture := Option.some.inj htexture
    exact hmem

theorem exists_batch_of_mem_execute {c : DrawContext T} {warned : Bool} {batches : List Batch}
    (ht : ∀ b ∈ batches, 0 ≤ b.triangleCount.toInt) {e : Execution T}
    (executed : c.execute warned batches = .ok e) {command : DrawCommand T}
    (hmem : command ∈ e.commands) :
    ∃ b ∈ batches, c.shows b = true ∧ command ∈ c.plainBatch b := by
  obtain ⟨-, rfl⟩ := (execute_eq_ok_iff c warned ht).mp executed
  have hplain := (steps_sublist_plain c (.start warned batches.length) ht).subset hmem
  obtain ⟨b, hb, hcommand⟩ := List.mem_flatMap.mp hplain
  obtain ⟨hmem', shown⟩ := List.mem_filter.mp hb
  exact ⟨b, hmem', shown, hcommand⟩

/-! ## Numbers on the wire -/

theorem toNat_ofInt_of_lt {n : Int} (hnonneg : 0 ≤ n) (hlt : n < 2 ^ 32) :
    ((UInt32.ofInt n).toNat : Int) = n := by
  have hsize : (n % 2 ^ 32).toNat < UInt32.size := by
    simp only [UInt32.size]
    omega
  rw [UInt32.ofInt, UInt32.toNat_ofNat_of_lt' hsize]
  omega

/-- The first index of a batch that does not start before the buffer. -/
theorem toNat_toUInt32_indexStart {b : Batch} (hstart : 0 ≤ b.indexStart.toInt) :
    (b.indexStart.toUInt32.toNat : Int) = b.indexStart.toInt := by
  have hnonneg : (0 : Int32) ≤ b.indexStart := Int32.le_iff_toInt_le.mpr hstart
  have hsame : b.indexStart.toUInt32.toNat = b.indexStart.toInt.toNat :=
    Int32.toNat_toUInt32_of_le hnonneg
  rw [hsame, Int.toNat_of_nonneg hstart]

/-- The number of indices survives exactly if it has 32 bits; a larger one is
cut. -/
theorem toNat_indexLength_eq_iff {b : Batch} (ht : 0 ≤ b.triangleCount.toInt) :
    ((UInt32.ofInt (3 * b.triangleCount.toInt)).toNat : Int) = 3 * b.triangleCount.toInt
      ↔ 3 * b.triangleCount.toInt < 2 ^ 32 := by
  constructor
  · intro hsame
    rw [← hsame]
    exact_mod_cast (UInt32.ofInt (3 * b.triangleCount.toInt)).toNat_lt
  · intro hlt
    exact toNat_ofInt_of_lt (by omega) hlt

/-- A validated batch of a buffer that 32-bit numbers can address keeps its
numbers when they are handed to the device. -/
theorem draw_toNat_of_fits {indexCount capacity : Nat} {b : Batch}
    (fits : b.Fits indexCount capacity) (hcount : indexCount < 2 ^ 32) :
    (b.indexStart.toUInt32.toNat : Int) = b.indexStart.toInt
      ∧ ((UInt32.ofInt (3 * b.triangleCount.toInt)).toNat : Int) = 3 * b.triangleCount.toInt := by
  have hfirst := fits.start
  have hrange := fits.range
  unfold Batch.indexEnd Batch.indexLength at hrange
  exact ⟨toNat_toUInt32_indexStart fits.start,
    (toNat_indexLength_eq_iff fits.triangles).mpr (by omega)⟩

/-- The draw of a batch that shows is a part of the index buffer, in whole
triangles. -/
theorem range_of_draw_mem {c : DrawContext T} {indexCount capacity : Nat} {b : Batch}
    (fits : b.Fits indexCount capacity) (hcount : indexCount < 2 ^ 32) (shown : c.shows b = true)
    {first count : UInt32} (hmem : .draw first count ∈ c.plainBatch b) :
    first.toNat + count.toNat ≤ indexCount ∧ 0 < count.toNat ∧ 3 ∣ count.toNat := by
  obtain ⟨rfl, rfl⟩ : first = b.indexStart.toUInt32
      ∧ count = .ofInt (3 * b.triangleCount.toInt) := by
    rw [plainBatch] at hmem
    split at hmem <;> simpa using hmem
  obtain ⟨hfirst, hlength⟩ := draw_toNat_of_fits fits hcount
  have hpos : 0 < b.triangleCount.toInt := of_decide_eq_true (Bool.and_eq_true_iff.mp shown).1
  have hrange := fits.range
  unfold Batch.indexEnd Batch.indexLength at hrange
  omega

/-! ## The whole of it -/

/-- **State elision is invisible to drawing.** A validated batch list is
executed whenever its triangles can be counted. On a device in any state its
commands then draw what the plain list draws, which is one draw for each
batch that shows, in order, with the batch's own texture, blend function and
(where scissors count) clip. On a device where nothing was set before, all of
that is set by the commands themselves. A draw starts at the batch's first
index; its count is the batch's number of indices exactly if that has 32 bits,
and so for every batch of a buffer that 32 bits address. -/
theorem draws_execute_eq_plain (c : DrawContext T) (warned : Bool) (d : DecodedFrame)
    (valid : d.validate c.textures.capacity = .ok ()) :
    (c.triangleTotal d.batches < 2 ^ 64 → ∃ e, c.execute warned d.batches = .ok e)
      ∧ ∀ e, c.execute warned d.batches = .ok e →
        (∀ m : DrawState T,
            m.draws e.commands = m.draws (c.plain d.batches)
              ∧ m.draws e.commands = (d.batches.filter c.shows).map (c.drawn m.clip))
          ∧ (∀ x ∈ DrawState.unset.draws e.commands,
              x.under.texture.isSome ∧ x.under.blend.isSome
                ∧ (c.applyScissor = true → x.under.clip.isSome))
          ∧ (∀ b ∈ d.batches, ∀ outer,
              ((c.drawn outer b).first.toNat : Int) = b.indexStart.toInt
                ∧ (((c.drawn outer b).count.toNat : Int) = 3 * b.triangleCount.toInt
                  ↔ 3 * b.triangleCount.toInt < 2 ^ 32))
          ∧ (d.indices.length < 2 ^ 32 → ∀ b ∈ d.batches, ∀ outer,
              ((c.drawn outer b).first.toNat : Int) = b.indexStart.toInt
                ∧ ((c.drawn outer b).count.toNat : Int) = 3 * b.triangleCount.toInt) := by
  obtain ⟨-, fits⟩ := DecodedFrame.validate_eq_ok_iff.mp valid
  have ht : ∀ b ∈ d.batches, 0 ≤ b.triangleCount.toInt := fun b hb => (fits b hb).triangles
  refine ⟨fun hsum => ⟨_, (execute_eq_ok_iff c warned ht).mpr ⟨hsum, rfl⟩⟩, ?_⟩
  intro e he
  have hdraws := draws_execute ht he
  refine ⟨fun m => ⟨?_, hdraws m⟩, ?_,
    fun b hb outer =>
      ⟨toNat_toUInt32_indexStart (fits b hb).start, toNat_indexLength_eq_iff (ht b hb)⟩,
    fun hcount b hb outer => draw_toNat_of_fits (fits b hb) hcount⟩
  · rw [hdraws m, draws_plain c m.clip d.batches m fun _ => rfl]
  · intro x hx
    rw [hdraws] at hx
    obtain ⟨b, hb, rfl⟩ := List.mem_map.mp hx
    have shown := (Bool.and_eq_true_iff.mp (List.mem_filter.mp hb).2).2
    refine ⟨rfl, rfl, fun hs => ?_⟩
    simpa [drawn, hs] using shown

/-- Two pool slots, one of them bound, and a target of 100 by 100 pixels. -/
def sampleContext : DrawContext Nat where
  textures := ⟨#[.free, .bound 7], [0]⟩
  viewport := ⟨⟨0x42c80000⟩, ⟨0x42c80000⟩⟩
  applyScissor := true

/-- A batch without triangles and one clipped away stand between two that
share all of their state; the last two ids both come to "no texture". -/
def sampleFrame : DecodedFrame where
  vertices := List.replicate 3 ⟨.zero, .zero, .zero, .zero, ⟨0⟩, ⟨0⟩⟩
  indices := [0, 1, 2]
  batches :=
    [⟨0, 1, 1, .normal, 0, 0, ⟨-5, 0, 50, 50⟩⟩,
      ⟨0, 0, -1, .add, 0, 0, ⟨0, 0, 9, 9⟩⟩,
      ⟨0, 1, -1, .add, 0, 0, ⟨40, 0, 30, 50⟩⟩,
      ⟨0, 1, 1, .other 4, 0, 0, ⟨0, 0, 50, 50⟩⟩,
      ⟨0, 1, -1, .add, 0, 0, ⟨0, 0, 50, 50⟩⟩,
      ⟨0, 1, 0, .add, 0, 0, ⟨0, 0, 50, 50⟩⟩]

theorem draws_execute_eq_plain_sample :
    sampleFrame.validate sampleContext.textures.capacity = .ok ()
      ∧ ∃ e, sampleContext.execute false sampleFrame.batches = .ok e
        ∧ DrawState.unset.draws e.commands =
            DrawState.unset.draws (sampleContext.plain sampleFrame.batches)
        ∧ (DrawState.unset.draws e.commands).length = 4
        ∧ e.commands.length = 9
        ∧ (sampleContext.plain sampleFrame.batches).length = 16 := by
  have valid : sampleFrame.validate sampleContext.textures.capacity = .ok () := rfl
  refine ⟨valid, _, rfl, ?_, ?_, ?_, ?_⟩
  · exact (((draws_execute_eq_plain sampleContext false sampleFrame valid).2 _ rfl).1 .unset).1
  · decide
  · decide
  · decide

/-- A batch of as many triangles as its field can say, over a buffer that holds
all of their indices: it is validated, and a third of it is drawn. -/
theorem draws_execute_truncated :
    ∃ (d : DecodedFrame) (e : Execution Nat),
      d.validate sampleContext.textures.capacity = .ok ()
        ∧ sampleContext.execute false d.batches = .ok e
        ∧ d.batches.map (fun b => 3 * b.triangleCount.toInt) = [6442450941]
        ∧ (DrawState.unset.draws e.commands).map (fun x => x.count.toNat) = [2147483645] := by
  let b : Batch := ⟨0, 2147483647, -1, .normal, 0, 0, ⟨0, 0, 50, 50⟩⟩
  -- The buffer is only known by what is needed of it, so that nothing builds it.
  obtain ⟨indices, hlength, hzero⟩ : ∃ indices : List UInt16,
      indices.length = 6442450941 ∧ ∀ i ∈ indices, i = 0 :=
    ⟨List.replicate _ 0, List.length_replicate, fun _ => List.eq_of_mem_replicate⟩
  have ht : ∀ b' ∈ [b], 0 ≤ b'.triangleCount.toInt := by decide
  have htotal := (triangleTotal_le sampleContext [b]).trans_lt (by decide : 1 * 2 ^ 31 < 2 ^ 64)
  have executed := (execute_eq_ok_iff sampleContext false ht).mpr ⟨htotal, rfl⟩
  have hcount : [b].map (fun b => 3 * b.triangleCount.toInt) = [6442450941] := by decide
  refine ⟨⟨[⟨.zero, .zero, .zero, .zero, ⟨0⟩, ⟨0⟩⟩], indices, [b]⟩, _, ?_, executed, hcount, ?_⟩
  · refine DecodedFrame.validate_eq_ok_iff.mpr ⟨?_, ?_⟩
    · intro i hi
      rw [hzero i hi]
      exact Nat.one_pos
    · intro b' hb'
      obtain rfl : b' = b := List.mem_singleton.mp hb'
      rw [hlength]
      exact ⟨by decide, by decide, by decide, by decide⟩
  · rw [draws_execute ht executed]
    decide

end DrawContext

end SpriteRenderer

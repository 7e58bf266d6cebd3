import Mathlib.Algebra.Order.Ring.Int
import Mathlib.Data.Set.Function
import SpriteRenderer.Proofs.Recording

/-!
# Textures and the bytes they are made from

A texture has four bytes for each of its texels, and is created from data of
just that length. The length is compared as a word of 64 bits, and the device is
told the length of a row as a word of 32 bits; sizes are words of 32 bits, so
both products can leave their range. `creationCourse` says once what creating a
texture comes to, these faults among the rest, and `Overflows` is when they
happen. A texture less than `2 ^ 30` texels wide is never concerned
(`not_overflows_of_lt`).

That a write uses up its data is `TextureWrite.Exhausts`: bytes and channels of
texels correspond one to one. It takes a row pitch without padding, and data that
ends with the last row (`exhausts_of_rows`).
-/

namespace SpriteRenderer

/-! ## What a write reads -/

/-- A channel of a texel. -/
structure TexelChannel where
  column : Nat
  row : Nat
  channel : Nat

namespace TextureWrite

/-- The byte of the data that goes into a channel. -/
def source (w : TextureWrite) (c : TexelChannel) : Nat :=
  w.offset + c.row * w.bytesPerRow + c.column * 4 + c.channel

/-- The channels that are written. -/
def targets (w : TextureWrite) : Set TexelChannel :=
  {c | c.column < w.size.width.toNat ∧ c.row < w.size.height.toNat ∧ c.channel < 4}

/-- Every channel is written from a byte of the data of its own, and no byte
is left over. -/
def Exhausts (w : TextureWrite) : Prop :=
  Set.BijOn w.source w.targets {i | i < w.data.length}

/-- The channel that a byte goes into, in rows of `pitch` bytes. -/
def channelOf (pitch i : Nat) : TexelChannel := ⟨i % pitch / 4, i / pitch, i % 4⟩

section Rows

variable {w : TextureWrite} {c : TexelChannel}

theorem source_eq (start : w.offset = 0) (c : TexelChannel) :
    w.source c = w.bytesPerRow * c.row + (4 * c.column + c.channel) := by
  rw [source, start, Nat.mul_comm c.row]
  omega

/-- What lies behind the start of a row is less than a row. -/
theorem lt_bytesPerRow (pitch : w.bytesPerRow = 4 * w.size.width.toNat) (hc : c ∈ w.targets) :
    4 * c.column + c.channel < w.bytesPerRow := by
  obtain ⟨hcolumn, -, hchannel⟩ := hc
  omega

theorem channelOf_source (start : w.offset = 0) (pitch : w.bytesPerRow = 4 * w.size.width.toNat)
    (hc : c ∈ w.targets) : channelOf w.bytesPerRow (w.source c) = c := by
  have hlt := lt_bytesPerRow pitch hc
  have hchannel := hc.2.2
  have hrest : w.source c % w.bytesPerRow = 4 * c.column + c.channel := by
    rw [source_eq start, Nat.mul_add_mod, Nat.mod_eq_of_lt hlt]
  have hrow : w.source c / w.bytesPerRow = c.row := by
    rw [source_eq start, Nat.mul_add_div (Nat.zero_lt_of_lt hlt), Nat.div_eq_of_lt hlt,
      Nat.add_zero]
  have hlast : w.source c % 4 = c.channel := by
    rw [← Nat.mod_mod_of_dvd _ ⟨_, pitch⟩, hrest]
    omega
  rw [channelOf, hrest, hrow, hlast]
  congr 1
  omega

theorem source_channelOf (start : w.offset = 0) (pitch : w.bytesPerRow = 4 * w.size.width.toNat)
    (i : Nat) : w.source (channelOf w.bytesPerRow i) = i := by
  have hsplit := Nat.div_add_mod i w.bytesPerRow
  have hlast : i % w.bytesPerRow % 4 = i % 4 := Nat.mod_mod_of_dvd _ ⟨_, pitch⟩
  rw [source_eq start]
  dsimp only [channelOf]
  omega

theorem exhausts_of_rows (start : w.offset = 0)
    (pitch : w.bytesPerRow = 4 * w.size.width.toNat)
    (length : w.data.length = w.bytesPerRow * w.size.height.toNat) : w.Exhausts := by
  have hinto : Set.MapsTo w.source w.targets {i | i < w.data.length} := by
    intro c hc
    show w.source c < w.data.length
    have hrow := Nat.mul_le_mul_left w.bytesPerRow (Nat.succ_le_of_lt hc.2.1)
    have hlt := lt_bytesPerRow pitch hc
    rw [Nat.mul_succ] at hrow
    rw [source_eq start, length]
    omega
  have hback : Set.MapsTo (channelOf w.bytesPerRow) {i | i < w.data.length} w.targets := by
    intro i hi
    rw [Set.mem_ofPred_eq, length] at hi
    have hlt := Nat.mod_lt i (Nat.pos_of_mul_pos_right (Nat.zero_lt_of_lt hi))
    refine ⟨?_, Nat.div_lt_of_lt_mul hi, Nat.mod_lt _ (by decide)⟩
    dsimp only [channelOf]
    omega
  exact Set.InvOn.bijOn
    ⟨fun _ hc => channelOf_source start pitch hc, fun i _ => source_channelOf start pitch i⟩
    hinto hback

end Rows

end TextureWrite

namespace SpriteTexture

variable {width height : UInt32} {pixels : List UInt8} {d : Device}

/-! ## What creating a texture comes to -/

/-- The bytes of a texture, as a number of any size. -/
def byteTotal (width height : UInt32) : Nat := 4 * width.toNat * height.toNat

/-- Two 32-bit sizes have a product in 64 bits; only the factor four can
carry it beyond them. -/
theorem byteCount_eq (width height : UInt32) :
    byteCount width height = fitUnsigned 64 (byteTotal width height) := by
  have harea : width.toNat * height.toNat < 2 ^ 32 * 2 ^ 32 :=
    Nat.mul_lt_mul'' width.toNat_lt height.toNat_lt
  have hbytes : width.toNat * height.toNat * 4 = byteTotal width height := by
    rw [byteTotal, Nat.mul_comm, Nat.mul_assoc]
  rw [byteCount, fitUnsigned_eq_ok_iff.mpr ⟨harea, rfl⟩, ← hbytes]
  rfl

/-- The one write of a texture that is created from `pixels`. -/
def initialWrite (width height : UInt32) (pixels : List UInt8) : TextureWrite where
  mip := 0
  origin := (0, 0, 0)
  offset := 0
  bytesPerRow := width.toNat * 4
  rows := height.toNat
  size := ⟨width, height, 1⟩
  data := pixels

/-- What can become of creating a texture. -/
inductive CreationCourse (width height : UInt32) (pixels : List UInt8) (d : Device) :
    Except Fault (Ran (Event GraphicsCall) Device (Except RenderError SpriteTexture)) → Prop
  | flat (noArea : width = 0 ∨ height = 0) :
      CreationCourse width height pixels d
        (.ok ⟨.error (.backend (.zeroArea width.toNat height.toNat)), d, []⟩)
  | uncounted (area : width ≠ 0 ∧ height ≠ 0) (beyond : 2 ^ 64 ≤ byteTotal width height) :
      CreationCourse width height pixels d (.error .overflow)
  | mismatched (area : width ≠ 0 ∧ height ≠ 0) (counted : byteTotal width height < 2 ^ 64)
      (differs : pixels.length ≠ byteTotal width height) :
      CreationCourse width height pixels d
        (.ok ⟨.error (.invalidBuffer (.pixelCount width.toNat height.toNat
          (byteTotal width height) pixels.length)), d, []⟩)
  | unpitched (area : width ≠ 0 ∧ height ≠ 0) (counted : byteTotal width height < 2 ^ 64)
      (fits : pixels.length = byteTotal width height) (wide : 2 ^ 30 ≤ width.toNat) :
      CreationCourse width height pixels d (.error .overflow)
  | created {description : TextureDescription} (area : width ≠ 0 ∧ height ≠ 0)
      (fits : pixels.length = byteTotal width height) (narrow : width.toNat < 2 ^ 30)
      (size : description.size = ⟨width, height, 1⟩) :
      CreationCourse width height pixels d
        (.ok ⟨.ok ⟨⟨d.created .texture⟩, ⟨d.created .view⟩, width, height⟩,
          (d.grow .texture).grow .view,
          [.call (.createTexture ⟨d.created .texture⟩ description),
            .call (.writeTexture ⟨d.created .texture⟩ (initialWrite width height pixels)),
            .call (.createView ⟨d.created .view⟩ (.texture ⟨d.created .texture⟩))]⟩)

theorem creationCourse (width height : UInt32) (pixels : List UInt8) (d : Device) :
    CreationCourse width height pixels d ((create width height pixels).run d) := by
  unfold create
  by_cases noArea : width = 0 ∨ height = 0
  · rw [if_pos noArea]
    exact .flat noArea
  have area := not_or.mp noArea
  rw [if_neg noArea, byteCount_eq]
  by_cases counted : byteTotal width height < 2 ^ 64
  · rw [Effect.run_lift_bind (fitUnsigned_eq_ok_iff.mpr ⟨counted, rfl⟩)]
    by_cases fits : pixels.length = byteTotal width height
    · rw [if_neg (not_not.mpr fits), Effect.run_bind, Graphics.run_create]
      by_cases narrow : width.toNat < 2 ^ 30
      · have hpitch : width.toNat * 4 < Nat.pow 2 32 :=
          Nat.mul_lt_mul_of_pos_right narrow (by decide)
        dsimp only
        rw [Effect.run_lift_bind (fitUnsigned_eq_ok_iff.mpr ⟨hpitch, rfl⟩)]
        exact .created area fits narrow rfl
      -- The texture exists by now, and is lost with the fault.
      · have hpitch : Nat.pow 2 32 ≤ width.toNat * 4 :=
          Nat.mul_le_mul_right 4 (Nat.not_lt.mp narrow)
        dsimp only
        rw [Effect.run_bind, Effect.run_lift_eq_error_iff.mpr
          (fitUnsigned_eq_error_iff.mpr ⟨hpitch, rfl⟩)]
        exact .unpitched area counted fits (Nat.not_lt.mp narrow)
    · rw [if_pos fits]
      exact .mismatched area counted fits
  · have beyond := Nat.not_lt.mp counted
    rw [Effect.run_bind, Effect.run_lift_eq_error_iff.mpr
      (fitUnsigned_eq_error_iff.mpr ⟨beyond, rfl⟩)]
    exact .uncounted area beyond

/-! ## When the products leave their words -/

/-- The byte count is beyond 64 bits, or the data has it and its rows are
beyond 32. -/
def Overflows (width height : UInt32) (pixels : List UInt8) : Prop :=
  (width ≠ 0 ∧ height ≠ 0)
    ∧ (2 ^ 64 ≤ byteTotal width height
      ∨ pixels.length = byteTotal width height ∧ 2 ^ 30 ≤ width.toNat)

theorem byteTotal_lt (narrow : width.toNat < 2 ^ 30) (height : UInt32) :
    byteTotal width height < 2 ^ 64 := by
  have hpitch : 4 * width.toNat < 4 * 2 ^ 30 := Nat.mul_lt_mul_of_pos_left narrow (by decide)
  calc byteTotal width height
      < 4 * 2 ^ 30 * 2 ^ 32 := Nat.mul_lt_mul'' hpitch height.toNat_lt
    _ = 2 ^ 64 := by decide

theorem not_overflows_of_lt (narrow : width.toNat < 2 ^ 30) (height : UInt32)
    (pixels : List UInt8) : ¬ Overflows width height pixels := by
  rintro ⟨-, beyond | ⟨-, wide⟩⟩
  · exact Nat.not_le.mpr (byteTotal_lt narrow height) beyond
  · exact Nat.not_le.mpr narrow wide

theorem run_create_eq_error_iff {fault : Fault} :
    (create width height pixels).run d = .error fault ↔
      Overflows width height pixels ∧ fault = .overflow := by
  have course := creationCourse width height pixels d
  constructor
  · intro ran
    rw [ran] at course
    cases course with
    | uncounted area beyond => exact ⟨⟨area, .inl beyond⟩, rfl⟩
    | unpitched area counted fits wide => exact ⟨⟨area, .inr ⟨fits, wide⟩⟩, rfl⟩
  · rintro ⟨⟨area, overflow⟩, rfl⟩
    generalize (create width height pixels).run d = result at course ⊢
    cases course with
    | flat noArea => exact absurd noArea (not_or.mpr area)
    | uncounted | unpitched => rfl
    | mismatched _ counted differs =>
        rcases overflow with beyond | ⟨fits, -⟩
        · exact absurd beyond (Nat.not_le.mpr counted)
        · exact absurd fits differs
    | created _ fits narrow _ => exact absurd ⟨area, overflow⟩ (not_overflows_of_lt narrow _ _)

/-! ## What the answers mean -/

/-- The texture that a call fills, and how. -/
def textureWrite? : Event GraphicsCall → Option (ObjectId .texture × TextureWrite)
  | .call (.writeTexture texture write) => some (texture, write)
  | _ => none

/-- A texture as creating it leaves it: it has the given size, and it was
written once, with all of the data and nothing else. -/
structure Filled (width height : UInt32) (pixels : List UInt8) (texture : SpriteTexture)
    (events : List (Event GraphicsCall)) : Prop where
  size : texture.width = width ∧ texture.height = height
  write : ∃ w, events.filterMap textureWrite? = [(texture.texture, w)]
    ∧ w.size = ⟨width, height, 1⟩ ∧ w.data = pixels ∧ w.Exhausts
    ∧ w.bytesPerRow * w.rows = pixels.length ∧ w.bytesPerRow < 2 ^ 32

theorem exhausts_initialWrite (fits : pixels.length = byteTotal width height) :
    (initialWrite width height pixels).Exhausts :=
  TextureWrite.exhausts_of_rows rfl (Nat.mul_comm _ 4) (by
    rw [initialWrite, Nat.mul_comm width.toNat]
    exact fits)

section Answers

variable {out : Ran (Event GraphicsCall) Device (Except RenderError SpriteTexture)}

theorem backend_iff_of_run (ran : (create width height pixels).run d = .ok out) :
    (∃ failure, out.value = .error (.backend failure)) ↔ width = 0 ∨ height = 0 := by
  have course := creationCourse width height pixels d
  rw [ran] at course
  cases course with
  | flat noArea => exact iff_of_true ⟨_, rfl⟩ noArea
  | mismatched area | created area => simp [area]

theorem invalidBuffer_iff_of_run (ran : (create width height pixels).run d = .ok out) :
    (∃ defect, out.value = .error (.invalidBuffer defect)) ↔
      (width ≠ 0 ∧ height ≠ 0) ∧ pixels.length ≠ byteTotal width height := by
  have course := creationCourse width height pixels d
  rw [ran] at course
  cases course with
  | flat noArea => exact iff_of_false (by simp) fun h => not_or.mpr h.1 noArea
  | mismatched area _ differs => exact iff_of_true ⟨_, rfl⟩ ⟨area, differs⟩
  | created _ fits => exact iff_of_false (by simp) fun h => h.2 fits

theorem filled_iff_of_run (ran : (create width height pixels).run d = .ok out) :
    (∃ texture, out.value = .ok texture ∧ Filled width height pixels texture out.events) ↔
      (width ≠ 0 ∧ height ≠ 0) ∧ pixels.length = byteTotal width height := by
  have course := creationCourse width height pixels d
  rw [ran] at course
  cases course with
  | flat noArea => exact iff_of_false (by simp) fun h => not_or.mpr h.1 noArea
  | mismatched _ _ differs => exact iff_of_false (by simp) fun h => differs h.2
  | created area fits narrow size =>
      refine iff_of_true ⟨_, rfl, ⟨rfl, rfl⟩, _, rfl, rfl, rfl, exhausts_initialWrite fits, ?_, ?_⟩
        ⟨area, fits⟩
      · rw [fits, byteTotal, initialWrite, Nat.mul_comm width.toNat]
      · show width.toNat * 4 < 2 ^ 32
        omega

theorem silent_of_error (ran : (create width height pixels).run d = .ok out) {e : RenderError}
    (refused : out.value = .error e) : out.events = [] ∧ out.state = d := by
  have course := creationCourse width height pixels d
  rw [ran] at course
  cases course with
  | flat | mismatched => exact ⟨rfl, rfl⟩
  | created => cases refused

end Answers

/-- **A texture is created from data of exactly its size, where the size can be
counted.** Creating a texture faults just if one of its products leaves its
word, which takes a width of at least `2 ^ 30`. Otherwise there is an answer: the
device refuses just if a side is zero, the buffer is unusable just if both are
not and it is not four bytes long for each texel, and in the remaining case there is a
texture, written once and from all of the data, with a byte of its own for each
channel of each texel. A refusal makes no call and changes nothing. -/
theorem created_from_exact_bytes (width height : UInt32) (pixels : List UInt8) (d : Device) :
    ((∃ fault, (create width height pixels).run d = .error fault) ↔ Overflows width height pixels)
      ∧ (Overflows width height pixels → 2 ^ 30 ≤ width.toNat)
      ∧ (¬ Overflows width height pixels → ∃ out, (create width height pixels).run d = .ok out
        ∧ ((∃ failure, out.value = .error (.backend failure)) ↔ width = 0 ∨ height = 0)
        ∧ ((∃ defect, out.value = .error (.invalidBuffer defect)) ↔
          (width ≠ 0 ∧ height ≠ 0) ∧ pixels.length ≠ byteTotal width height)
        ∧ ((∃ texture, out.value = .ok texture ∧ Filled width height pixels texture out.events) ↔
          (width ≠ 0 ∧ height ≠ 0) ∧ pixels.length = byteTotal width height)
        ∧ ∀ e, out.value = .error e → out.events = [] ∧ out.state = d) := by
  refine ⟨⟨?_, ?_⟩, ?_, ?_⟩
  · rintro ⟨fault, faulted⟩
    exact (run_create_eq_error_iff.mp faulted).1
  · intro overflow
    exact ⟨_, run_create_eq_error_iff.mpr ⟨overflow, rfl⟩⟩
  · intro overflow
    by_contra narrow
    exact not_overflows_of_lt (Nat.not_le.mp narrow) height pixels overflow
  · intro hfits
    cases ran : (create width height pixels).run d with
    | error fault => exact absurd (run_create_eq_error_iff.mp ran).1 hfits
    | ok out =>
        exact ⟨out, rfl, backend_iff_of_run ran, invalidBuffer_iff_of_run ran,
          filled_iff_of_run ran, fun _ => silent_of_error ran⟩

/-- Two pixels side by side, and the largest texture that is narrow enough: its
bytes are counted in 64 bits, and found missing. -/
theorem created_from_exact_bytes_sample :
    (∃ out texture, (create 2 1 [1, 2, 3, 4, 5, 6, 7, 8]).run .fresh = .ok out
        ∧ out.value = .ok texture ∧ Filled 2 1 [1, 2, 3, 4, 5, 6, 7, 8] texture out.events)
      ∧ ∃ out defect, (create 1073741823 4294967295 []).run .fresh = .ok out
        ∧ out.value = .error (.invalidBuffer defect) := by
  obtain ⟨-, -, hsmall⟩ := created_from_exact_bytes 2 1 [1, 2, 3, 4, 5, 6, 7, 8] .fresh
  obtain ⟨-, -, hlarge⟩ := created_from_exact_bytes 1073741823 4294967295 [] .fresh
  obtain ⟨small, hrun, -, -, hfilled, -⟩ := hsmall (not_overflows_of_lt (by decide) _ _)
  obtain ⟨large, hrun', -, hinvalid, -, -⟩ := hlarge (not_overflows_of_lt (by decide) _ _)
  obtain ⟨texture, hvalue, filled⟩ := hfilled.mpr ⟨by decide, by decide⟩
  obtain ⟨defect, hdefect⟩ := hinvalid.mpr ⟨by decide, by decide⟩
  exact ⟨⟨small, texture, hrun, hvalue, filled⟩, large, defect, hrun', hdefect⟩

/-- Sides of `2 ^ 31` have `2 ^ 64` bytes, and creating such a texture faults
instead of saying that the data is too short. So does a row of `2 ^ 30` texels
with just the data that it takes. -/
theorem huge_texture_faults :
    (([] : List UInt8).length ≠ byteTotal 2147483648 2147483648
        ∧ (create 2147483648 2147483648 []).run .fresh = .error .overflow)
      ∧ (List.replicate (2 ^ 32) (0 : UInt8)).length = byteTotal 1073741824 1
      ∧ (create 1073741824 1 (.replicate (2 ^ 32) 0)).run .fresh = .error .overflow := by
  have hlength : (List.replicate (2 ^ 32) (0 : UInt8)).length = byteTotal 1073741824 1 :=
    List.length_replicate
  refine ⟨⟨by decide, ?_⟩, hlength, ?_⟩
  · exact run_create_eq_error_iff.mpr ⟨⟨by decide, .inl (by decide)⟩, rfl⟩
  · exact run_create_eq_error_iff.mpr ⟨⟨by decide, .inr ⟨hlength, by decide⟩⟩, rfl⟩

end SpriteTexture

end SpriteRenderer

import SpriteRenderer.Proofs.Packing
import SpriteRenderer.Proofs.Painting
import SpriteRenderer.Proofs.PassReplay

/-!
# The bytes that reach the device

A frame that is drawn makes three buffers: its vertices, its indices, and the
projection. What is in them is compared with the frame itself, before any
decoding: the slots that it declares and the indices that it declares, each as
its own bytes, lowest first (`littleEndian`). Records are unpacked and packed
again on the way, and nothing of a slot is lost in between, whatever its bits
(`flatMap_bytes_records`).

Every other request of a frame leaves buffers alone (`Bufferless`), so these
are all there are. A byte block that can be read as slots reaches the device as
it is (`flatMap_bytes_slots`).
-/

namespace SpriteRenderer

/-! ## Words as bytes -/

/-- The lowest `n` bytes of a number, the lowest first. -/
def littleEndian : Nat → Nat → List UInt8
  | 0, _ => []
  | n + 1, x => UInt8.ofNat x :: littleEndian n (x / 256)

@[simp] theorem length_littleEndian (n x : Nat) : (littleEndian n x).length = n := by
  induction n generalizing x with
  | zero => rfl
  | succ n ih => exact congrArg (· + 1) (ih (x / 256))

theorem eq_ofNat_of_toNat {b : UInt8} {n : Nat} (h : b.toNat = n % 256) : b = UInt8.ofNat n := by
  apply UInt8.toNat_inj.mp
  rw [h]
  simp

theorem Binary32.bytes_eq (x : Binary32) : x.bytes = littleEndian 4 x.bits.toNat := by
  simp only [bytes, littleEndian, List.cons.injEq, and_true]
  refine ⟨eq_ofNat_of_toNat ?_, eq_ofNat_of_toNat ?_, eq_ofNat_of_toNat ?_, eq_ofNat_of_toNat ?_⟩
  all_goals simp [Nat.shiftRight_eq_div_pow, Nat.div_div_eq_div_mul]

theorem SpritePass.indexBytes_eq (i : UInt16) : indexBytes i = littleEndian 2 i.toNat := by
  simp only [indexBytes, littleEndian, List.cons.injEq, and_true]
  refine ⟨eq_ofNat_of_toNat ?_, eq_ofNat_of_toNat ?_⟩
  all_goals simp [Nat.shiftRight_eq_div_pow]

/-! ## What a frame declares -/

namespace FrameData

/-- The vertex slots that a frame declares, as bytes. -/
def vertexBytes (f : FrameData) : List UInt8 :=
  (f.vertices.toList.take (6 * f.vertexCount.toInt.toNat)).flatMap fun slot =>
    littleEndian 4 slot.bits.toNat

/-- The indices that a frame declares, as bytes. -/
def indexBytes (f : FrameData) : List UInt8 :=
  (f.indices.toList.take f.indexCount.toInt.toNat).flatMap fun i => littleEndian 2 i.toNat

variable {f : FrameData} (sized : f.WellSized)

include sized

theorem flatMap_bytes_records : f.records.vertices.flatMap Vertex.bytes = f.vertexBytes := by
  have hslots : (f.records.vertices.flatMap fun v => v.toSlots.toList)
      = f.vertices.toList.take (6 * f.vertexCount.toInt.toNat) := by
    have hpacked := congrArg Array.toList (pack_records_vertices sized)
    simpa [DecodedFrame.pack, ofBlocks, trimmed] using hpacked
  calc f.records.vertices.flatMap Vertex.bytes
      = (f.records.vertices.flatMap fun v => v.toSlots.toList).flatMap Binary32.bytes := by
        rw [List.flatMap_assoc]
        rfl
    _ = f.vertexBytes := by
        rw [hslots, vertexBytes]
        exact congrArg₂ List.flatMap (funext Binary32.bytes_eq) rfl

theorem length_vertexBytes : f.vertexBytes.length = 24 * f.vertexCount.toInt.toNat := by
  have hsize : f.vertexCount.toInt.toNat * 6 ≤ f.vertices.size := sized.vertices
  rw [vertexBytes, length_flatMap_uniform (fun _ => length_littleEndian 4 _), List.length_take,
    Array.length_toList]
  omega

theorem length_indexBytes : f.indexBytes.length = 2 * f.indexCount.toInt.toNat := by
  have hsize : f.indexCount.toInt.toNat * 1 ≤ f.indices.size := sized.indices
  rw [indexBytes, length_flatMap_uniform (fun _ => length_littleEndian 2 _), List.length_take,
    Array.length_toList]
  omega

omit sized in
theorem flatMap_indexBytes_records (f : FrameData) :
    f.records.indices.flatMap SpritePass.indexBytes = f.indexBytes := by
  rw [show SpritePass.indexBytes = fun i => littleEndian 2 i.toNat from
    funext SpritePass.indexBytes_eq]
  simp [records, indexBytes]

end FrameData

namespace ByteBlock

theorem toSlots_eq_ok_iff {b : ByteBlock} {found : List Binary32} :
    b.toSlots = .ok found ↔
      b.address % 4 = 0 ∧ b.bytes.length % 4 = 0 ∧ slots b.bytes = found := by
  unfold toSlots
  split
  · next h => simp [h]
  · split
    · next h => simp [h]
    · next h h' => simp [Decidable.not_not.mp h, Decidable.not_not.mp h']

/-- A slot read from four bytes has these bytes. -/
theorem bytes_slot (b0 b1 b2 b3 : UInt8) :
    Binary32.bytes
        ⟨b0.toUInt32 ||| b1.toUInt32 <<< 8 ||| b2.toUInt32 <<< 16 ||| b3.toUInt32 <<< 24⟩
      = [b0, b1, b2, b3] := by
  have hbeyond : ∀ (b : UInt8) {i : Nat}, 8 ≤ i → b.toBitVec.getLsbD i = false :=
    fun b i hi => BitVec.getLsbD_of_ge _ _ hi
  simp only [Binary32.bytes, List.cons.injEq, and_true]
  refine ⟨?_, ?_, ?_, ?_⟩
  all_goals
    apply UInt8.eq_of_toBitVec_eq
    apply BitVec.eq_of_getLsbD_eq
    intro i hi
  · simp [hi]
  all_goals
    simp [hi]
    grind

theorem flatMap_bytes_slots {bytes : List UInt8} (whole : bytes.length % 4 = 0) :
    (slots bytes).flatMap Binary32.bytes = bytes := by
  fun_induction slots bytes with
  | case1 b0 b1 b2 b3 rest ih =>
      have hrest : rest.length % 4 = 0 := by
        simp only [List.length_cons] at whole
        omega
      rw [List.flatMap_cons, bytes_slot, ih hrest]
      rfl
  | case2 short hshort =>
      -- Less than four bytes, and a multiple of four of them.
      match short, hshort with
      | [], _ => rfl
      | [_], _ | [_, _], _ | [_, _, _], _ => simp at whole
      | b0 :: b1 :: b2 :: b3 :: rest, h => exact absurd rfl (h b0 b1 b2 b3 rest)

theorem vertexBytes_of_toSlots {b : ByteBlock} {f : FrameData}
    (read : b.toSlots = .ok f.vertices.toList) :
    f.vertexBytes = b.bytes.take (24 * f.vertexCount.toInt.toNat) := by
  obtain ⟨-, whole, hslots⟩ := toSlots_eq_ok_iff.mp read
  have hbytes : f.vertices.toList.flatMap (fun slot => littleEndian 4 slot.bits.toNat)
      = b.bytes := by
    rw [← hslots, ← funext Binary32.bytes_eq]
    exact flatMap_bytes_slots whole
  calc f.vertexBytes
      = (f.vertices.toList.flatMap fun slot => littleEndian 4 slot.bits.toNat).take
          (6 * f.vertexCount.toInt.toNat * 4) :=
        (take_flatMap_uniform (fun _ => length_littleEndian 4 _) _ _).symm
    _ = b.bytes.take (24 * f.vertexCount.toInt.toNat) := by
        rw [hbytes]
        congr 1
        omega

end ByteBlock

/-! ## Requests that leave buffers alone -/

def GraphicsCall.isBuffer : GraphicsCall → Bool
  | .createBuffer _ _ | .bufferData _ _ => true
  | _ => false

/-- Everything that is said about buffers. -/
def bufferCalls (events : List (Event GraphicsCall)) : List GraphicsCall :=
  (deviceCalls events).filter GraphicsCall.isBuffer

theorem bufferCalls_append (xs ys : List (Event GraphicsCall)) :
    bufferCalls (xs ++ ys) = bufferCalls xs ++ bufferCalls ys := by
  simp [bufferCalls]

/-- As a relation along effects, on whatever state. -/
def Bufferless {σ : Type} (_ _ : σ) (events : List (Event GraphicsCall)) : Prop :=
  bufferCalls events = []

namespace Bufferless

variable {σ : Type}

theorem sequential : Effect.Sequential (Bufferless (σ := σ)) where
  refl _ := rfl
  trans h h' := by
    unfold Bufferless at h h' ⊢
    rw [bufferCalls_append, h, h']
    rfl

theorem create (kind : ObjectKind) {call : ObjectId kind → GraphicsCall}
    (hcall : ∀ id, (call id).isBuffer = false) : (Graphics.create kind call).Keeps Bufferless := by
  refine Effect.keeps_of_run (Graphics.run_create kind call) fun d => ?_
  simp [Bufferless, bufferCalls, deviceCalls, Event.call?, hcall]

theorem tell {call : GraphicsCall} (hcall : call.isBuffer = false) :
    (Graphics.tell call : Effect _ σ Unit).Keeps Bufferless := by
  refine Effect.keeps_of_run (Graphics.run_tell call) fun s => ?_
  simp [Bufferless, bufferCalls, deviceCalls, Event.call?, hcall]

theorem modify (f : σ → σ) : (Effect.modify f).Keeps Bufferless :=
  Effect.keeps_of_run (Effect.run_modify f) fun _ => rfl

theorem createTexture (width height : UInt32) (pixels : List UInt8) :
    (SpriteTexture.create width height pixels).Keeps Bufferless := by
  unfold SpriteTexture.create
  split
  · exact sequential.pure _
  refine sequential.bind (sequential.lift _) fun expected => ?_
  split
  · exact sequential.pure _
  refine sequential.bind (create .texture fun _ => rfl) fun texture => ?_
  refine sequential.bind (sequential.lift _) fun bytesPerRow => ?_
  refine sequential.bind (tell rfl) fun _ => ?_
  exact sequential.bind (create .view fun _ => rfl) fun view => sequential.pure _

theorem compile (formats : TargetFormats) (source : ShaderSource) :
    (SpriteProgram.compile formats source).Keeps Bufferless := by
  unfold SpriteProgram.compile
  split
  · exact sequential.pure _
  refine sequential.bind (create .shader fun _ => rfl) fun _ => ?_
  refine sequential.bind (create .layout fun _ => rfl) fun globalsLayout => ?_
  refine sequential.bind (create .layout fun _ => rfl) fun textureLayout => ?_
  refine sequential.bind (create .pipelineLayout fun _ => rfl) fun layout => ?_
  refine sequential.bind (create .pipeline fun _ => rfl) fun overPipeline => ?_
  refine sequential.bind (create .pipeline fun _ => rfl) fun additivePipeline => ?_
  refine sequential.bind (create .sampler fun _ => rfl) fun sampler => ?_
  refine sequential.bind (createTexture _ _ _) fun white => ?_
  split
  · exact sequential.pure _
  · exact sequential.bind (create .group fun _ => rfl) fun _ => sequential.pure _

theorem groupFor (p : SpriteProgram) (texture : Option SpriteTexture) :
    (SpritePass.groupFor p texture).Keeps Bufferless := by
  cases texture with
  | none => exact sequential.pure _
  | some t =>
      refine Effect.keeps_get_bind fun d => ?_
      split
      · exact sequential.pure _ d
      · exact sequential.bind (create .group fun _ => rfl) (fun _ =>
          sequential.bind (modify _) fun _ => sequential.pure _) d

theorem encode (description : PassDescription) (calls : List PassCall) :
    (SpritePass.encode description calls).Keeps Bufferless := by
  refine sequential.bind (create .pass fun _ => rfl) fun pass =>
    sequential.bind ?_ fun _ => tell rfl
  refine Effect.keeps_of_run (Effect.run_emitAll _) fun d => ?_
  rw [Bufferless, bufferCalls, List.filter_eq_nil_iff]
  intro c hc
  obtain ⟨call, -, hcall⟩ := List.mem_map.mp (mem_deviceCalls.mp hc)
  obtain rfl := Event.call.inj hcall
  simp [GraphicsCall.isBuffer]

theorem onDevice {α : Type} {x : Graphics α} (hx : x.Keeps Bufferless) :
    (SpritePass.onDevice x).Keeps Bufferless := by
  intro s out ran
  obtain ⟨inner, hinner, rfl⟩ := Effect.run_zoom_eq_ok_iff.mp ran
  exact hx _ inner hinner

theorem performDrawing (command : DrawCommand SpriteTexture) :
    (SpritePass.performDrawing command).Keeps Bufferless := by
  cases command with
  | scissorRect clip => exact modify _
  | bindTexture texture =>
      refine Effect.keeps_get_bind fun s => ?_
      split
      · exact sequential.pure _ s
      · exact sequential.bind (onDevice (groupFor _ texture)) (fun _ => modify _) s
  | blend func => exact modify _
  | draw first count => exact sequential.bind (sequential.lift _) fun _ => modify _

theorem release : SpritePass.release.Keeps Bufferless := by
  refine Effect.keeps_get_bind fun s => sequential.bind (x := Effect.set _) ?_ (fun _ => ?_) s
  · exact Effect.keeps_of_run (fun s₀ => Effect.run_set s₀ _) fun _ => rfl
  · split
    · refine onDevice ?_
      unfold SpritePass.encodeBatches
      split
      · exact sequential.bind (sequential.lift _) fun _ => encode _ _
      · exact sequential.pure _
    · exact sequential.pure _

/-- Only using a program makes a buffer. -/
theorem perform {command : Command SpriteProgram SpriteTexture}
    (other : ∀ p projection, command ≠ .useProgram p projection) :
    (SpritePass.backend.perform command).Keeps Bufferless := by
  cases command with
  | stencilTest on =>
      show (if on then Graphics.log SpritePass.stencilIgnored else pure ()).Keeps Bufferless
      split
      · exact Effect.keeps_of_run (Effect.run_emit _) fun _ => rfl
      · exact sequential.pure _
  | scissorTest on => exact modify _
  | clear color stencil => exact Effect.keeps_get_bind fun s => onDevice (encode _ _) s
  | useProgram p projection => exact absurd rfl (other p projection)
  | drawing command => exact performDrawing command
  | releaseGeometry => exact release

theorem performAll {commands : List (Command SpriteProgram SpriteTexture)}
    (others : ∀ p projection, .useProgram p projection ∉ commands) :
    (SpritePass.backend.performAll commands).Keeps Bufferless :=
  Backend.keeps_performAll sequential fun _ hmem =>
    perform fun p projection heq => others p projection (heq ▸ hmem)

theorem prepare (r : DeviceRenderer) : (r.prepare SpritePass.backend).Keeps Bufferless := by
  refine Renderer.keeps_prepare sequential (fun c hc => perform ?_) fun source =>
    Effect.keeps_get_bind fun s => onDevice (compile _ _) s
  rintro p projection rfl
  simp [Renderer.header] at hc

end Bufferless

/-! ## Whole frames -/

namespace SpritePass

/-- How many bytes fill up an index buffer. -/
def indexPadding (indexCount : Nat) : Nat := if indexCount % 2 = 0 then 0 else 2

/-- The geometry of a frame in buffers that are numbered from `n`, with all
that is in them. -/
def geometryBuffers (n : Nat) (frame : FrameData) : List GraphicsCall :=
  let vertexCount := frame.vertexCount.toInt.toNat
  let indexCount := frame.indexCount.toInt.toNat
  [.createBuffer ⟨n⟩ ⟨"drawbatch frame vbo", 24 * vertexCount, BufferUsage.vertex⟩,
    .bufferData ⟨n⟩ frame.vertexBytes,
    .createBuffer ⟨n + 1⟩
      ⟨"drawbatch frame ibo", 2 * indexCount + indexPadding indexCount, BufferUsage.index⟩,
    .bufferData ⟨n + 1⟩ (frame.indexBytes ++ List.replicate (indexPadding indexCount) 0)]

def projectionBuffer (n : Nat) (viewport : Viewport) : List GraphicsCall :=
  [.createBuffer ⟨n⟩ ⟨"drawbatch globals ubo", SpriteProgram.projectionSize, BufferUsage.uniform⟩,
    .bufferData ⟨n⟩ (Projection.screen viewport).bytes]

theorem uploadCalls_records {frame : FrameData} (sized : frame.WellSized) (n : Nat) :
    uploadCalls n frame.records.vertices frame.records.indices = geometryBuffers n frame := by
  have hvertices : Graphics.padded frame.vertexBytes = frame.vertexBytes := by
    have hmod : 24 * frame.vertexCount.toInt.toNat % 4 = 0 := by omega
    rw [Graphics.padded, FrameData.length_vertexBytes sized, hmod]
    exact List.append_nil _
  have hindices : Graphics.padded frame.indexBytes
      = frame.indexBytes ++ List.replicate (indexPadding frame.indexCount.toInt.toNat) 0 := by
    rw [Graphics.padded, FrameData.length_indexBytes sized, indexPadding]
    congr 2
    split <;> omega
  rw [uploadCalls, FrameData.flatMap_bytes_records sized, FrameData.flatMap_indexBytes_records,
    hvertices, hindices, List.length_append, FrameData.length_indexBytes sized,
    FrameData.length_vertexBytes sized, List.length_replicate]
  rfl

theorem bufferCalls_uploadCalls (n : Nat) (vertices : List Vertex) (indices : List UInt16) :
    bufferCalls ((uploadCalls n vertices indices).map .call) = uploadCalls n vertices indices := by
  rw [bufferCalls, deviceCalls_calls]
  rfl

/-- What the body of a frame says about buffers is its projection. -/
theorem bufferCalls_of_body {r : DeviceRenderer} {p : SpriteProgram} {viewport : Viewport}
    {drawing : List (DrawCommand SpriteTexture)} {s : SpritePass}
    {out : Ran (Event GraphicsCall) SpritePass Unit}
    (performed : (backend.performAll (r.body p viewport drawing)).run s = .ok out) :
    bufferCalls out.events = projectionBuffer (s.device.created .buffer) viewport := by
  obtain ⟨mid, last, hprogram, hrest, rfl⟩ := Effect.run_bind_eq_ok_iff.mp performed
  have hglobals := run_onDevice_of_ok (p.run_createGlobals (.screen viewport) s.device)
  have hmid : mid.events = p.globalsCalls (.screen viewport) ⟨s.device.created .buffer⟩
      ⟨s.device.created .group⟩ := by
    simp only [backend, perform, Effect.run_bind, hglobals, Effect.run_modify] at hprogram
    obtain rfl := Except.ok.inj hprogram
    exact List.append_nil _
  have hlast : bufferCalls last.events = [] := by
    refine Bufferless.performAll (fun p projection hmem => ?_) _ _ hrest
    split at hmem <;> simp at hmem
  rw [bufferCalls_append, hmid, hlast, List.append_nil]
  rfl

variable {r : DeviceRenderer} {device : Device} {target : RenderTarget} {frame : FrameData}
  {out : Ran (Event GraphicsCall) SpritePass (Renderer.FrameRun SpriteProgram SpriteTexture)}
  {stats : FrameStats}

theorem bufferCalls_of_empty
    (ran : (Renderer.renderFrame backend r frame).run (start device target) = .ok out)
    (nothing : frame.isEmpty = true) : bufferCalls out.events = [] := by
  cases Renderer.frameCourse_of_run ran with
  | empty _ cleared => exact Bufferless.performAll (by simp [Renderer.header]) _ _ cleared
  | unprogrammed something _ _ | rejected something _ _ _ | refused something _ _ _ _ _
  | drawn something _ _ _ _ _ _ =>
      rw [nothing] at something
      cases something

theorem exists_bufferCalls
    (ran : (Renderer.renderFrame backend r frame).run (start device target) = .ok out)
    (ok : out.value.outcome = .ok stats) (something : frame.isEmpty = false) :
    ∃ n, bufferCalls out.events
      = geometryBuffers n frame ++ projectionBuffer (n + 2) target.viewport := by
  cases Renderer.frameCourse_of_run ran with
  | empty nothing cleared =>
      rw [nothing] at something
      cases something
  | unprogrammed _ _ _ => cases ok
  | rejected _ _ _ _ => cases ok
  | refused _ _ _ _ _ _ => cases ok
  | @drawn viewport lookup s₁ s₂ s₃ e₁ e₂ e₃ p d done _ prepared programmed accepted uploaded
      executed performed =>
      obtain ⟨hvertices, hindices⟩ := Renderer.ne_nil_of_accept accepted something
      obtain ⟨sized, rfl, -⟩ := Renderer.accept_eq_ok_iff.mp accepted
      obtain ⟨rfl, -⟩ := of_run_prepare prepared
      have hprepared : bufferCalls e₁ = [] := Bufferless.prepare r _ _ prepared
      rw [run_upload hvertices hindices] at uploaded
      obtain ⟨rfl, rfl⟩ : _ = s₂ ∧ _ = e₂ := by simpa using uploaded
      have hbody := bufferCalls_of_body performed
      refine ⟨s₁.device.created .buffer, ?_⟩
      dsimp only at hbody ⊢
      rw [bufferCalls_append, bufferCalls_append, hprepared, bufferCalls_uploadCalls,
        uploadCalls_records sized, hbody]
      rfl

/-- **Geometry reaches the device byte for byte.** A frame that holds something
and is rendered makes three buffers and no others. The vertex buffer holds the
bytes of the slots that the frame declares, six for a vertex, and the index
buffer those of the indices that it declares, filled up with two zeros if their
number is odd; the third holds the projection. A frame that holds nothing makes
none. Slots can be read from a byte block just if it is aligned and ends with a
slot, and a frame of such slots brings the bytes of the block back, 24 for each
vertex. -/
theorem geometry_byte_for_byte (r : DeviceRenderer) (device : Device) (target : RenderTarget)
    (frame : FrameData)
    (out : Ran (Event GraphicsCall) SpritePass (Renderer.FrameRun SpriteProgram SpriteTexture))
    (stats : FrameStats)
    (ran : (Renderer.renderFrame backend r frame).run (start device target) = .ok out)
    (rendered : out.value.outcome = .ok stats) :
    (frame.isEmpty = true → bufferCalls out.events = [])
      ∧ (frame.isEmpty = false → ∃ n, bufferCalls out.events
        = geometryBuffers n frame ++ projectionBuffer (n + 2) target.viewport)
      ∧ ∀ block : ByteBlock,
        ((∃ slots, block.toSlots = .ok slots)
          ↔ block.address % 4 = 0 ∧ block.bytes.length % 4 = 0)
        ∧ (block.toSlots = .ok frame.vertices.toList →
          frame.vertexBytes = block.bytes.take (24 * frame.vertexCount.toInt.toNat)) := by
  refine ⟨bufferCalls_of_empty ran, exists_bufferCalls ran rendered, ?_⟩
  intro block
  refine ⟨?_, ByteBlock.vertexBytes_of_toSlots⟩
  simp only [ByteBlock.toSlots_eq_ok_iff]
  exact ⟨fun ⟨_, haligned, hwhole, _⟩ => ⟨haligned, hwhole⟩,
    fun ⟨haligned, hwhole⟩ => ⟨_, haligned, hwhole, rfl⟩⟩

/-- Twenty slots, all of them NaNs with a payload. -/
def sampleBlock : ByteBlock :=
  ⟨4096, (List.range 80).map fun i => if i % 4 < 2 then UInt8.ofNat i else 0xff⟩

/-- Three vertices and three indices, with more behind them in both blocks. -/
def sampleData : FrameData where
  vertices := (ByteBlock.slots sampleBlock.bytes).toArray
  vertexCount := 3
  indices := #[0, 1, 2, 7]
  indexCount := 3
  batches := #[0, 1, 1, 0, 0, 0, 0, 0, 50, 50, 0, 0, 0, 0, 0, 0]
  batchCount := 1

theorem geometry_byte_for_byte_sample :
    ∃ out, (Renderer.renderFrame backend sampleRenderer sampleData).run
        (start .fresh sampleTarget) = .ok out
      ∧ (∃ n, bufferCalls out.events
        = geometryBuffers n sampleData ++ projectionBuffer (n + 2) sampleTarget.viewport)
      ∧ sampleData.vertexBytes = sampleBlock.bytes.take 72
      ∧ sampleData.indexBytes = [0, 0, 1, 0, 2, 0] := by
  obtain ⟨out, ran, hsome⟩ := exists_ok_of_map_toOption (b := true)
    (f := fun out : Ran (Event GraphicsCall) SpritePass
        (Renderer.FrameRun SpriteProgram SpriteTexture) => out.value.outcome.toOption.isSome)
    (x := (Renderer.renderFrame backend sampleRenderer sampleData).run (start .fresh sampleTarget))
    (by decide +kernel)
  obtain ⟨stats, rendered⟩ : ∃ stats, out.value.outcome = .ok stats := by
    cases houtcome : out.value.outcome with
    | error e =>
        rw [houtcome] at hsome
        cases hsome
    | ok stats => exact ⟨stats, rfl⟩
  obtain ⟨-, hbuffers, hblock⟩ :=
    geometry_byte_for_byte sampleRenderer .fresh sampleTarget sampleData out stats ran rendered
  have read : sampleBlock.toSlots = .ok sampleData.vertices.toList :=
    ByteBlock.toSlots_eq_ok_iff.mpr ⟨rfl, rfl, by rw [sampleData, List.toList_toArray]⟩
  exact ⟨out, ran, hbuffers rfl, (hblock sampleBlock).2 read, by decide⟩

end SpritePass

end SpriteRenderer

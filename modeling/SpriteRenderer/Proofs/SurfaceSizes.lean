import SpriteRenderer.Proofs.HostHistory
import SpriteRenderer.Proofs.Painting

/-!
# The surface, its configuration and its stencil attachment

How large an attachment is can be read off the calls on the device alone. A
texture has the size it was made with, a frame the size that the surface was
configured to when it was acquired, and a view the size of what it looks at.
`SizeLedger` keeps this account; it knows nothing of a `GpuContext`.

`SurfaceInStep` compares the two over any use of a surface: requests in any
order, and frames that are drawn between them by anyone who paints
(`Painted`). Objects are numbered, and a number below the count is never given
out again, so what the ledger has on the stencil attachment stays until the
next configuration (`SizeLedger.SameBelow`).
-/

namespace SpriteRenderer

/-- A call that leaves the surface as it is and makes new objects only. -/
def GraphicsCall.Additive (d : Device) : GraphicsCall → Prop
  | .configure _ => False
  | .createTexture texture _ => d.created .texture ≤ texture.number
  | .createView view _ => d.created .view ≤ view.number
  | _ => True

theorem GraphicsCall.Paints.additive {target : RenderTarget} {d : Device} {c : GraphicsCall}
    (h : c.Paints target d) : c.Additive d := by
  cases c with
  | createTexture texture description => exact h
  | createView view source => exact h
  | configure config => exact h
  | _ => trivial

/-! ## Sizes of attachments -/

/-- What the calls so far say about sizes. -/
structure SizeLedger where
  /-- The size that the surface is configured to. -/
  surface : Option PixelSize
  texture : ObjectId .texture → Option PixelSize
  frame : ObjectId .frame → Option PixelSize
  view : ObjectId .view → Option PixelSize

namespace SizeLedger

def blank : SizeLedger := ⟨none, fun _ => none, fun _ => none, fun _ => none⟩

def sourceSize (l : SizeLedger) : ViewSource → Option PixelSize
  | .texture texture => l.texture texture
  | .frame frame => l.frame frame

/-- Takes down one more call. -/
def note (l : SizeLedger) : GraphicsCall → SizeLedger
  | .configure config => { l with surface := some ⟨config.width, config.height⟩ }
  | .createTexture texture description =>
      { l with
        texture := fun t =>
          if t = texture then some ⟨description.size.width, description.size.height⟩
          else l.texture t }
  | .getCurrentTexture frame =>
      { l with frame := fun f => if f = frame then l.surface else l.frame f }
  | .createView view source =>
      { l with view := fun v => if v = view then l.sourceSize source else l.view v }
  | _ => l

def noteAll (l : SizeLedger) (calls : List GraphicsCall) : SizeLedger := calls.foldl note l

/-- The account of all calls from the beginning. -/
def of (calls : List GraphicsCall) : SizeLedger := blank.noteAll calls

theorem noteAll_append (l : SizeLedger) (xs ys : List GraphicsCall) :
    l.noteAll (xs ++ ys) = (l.noteAll xs).noteAll ys :=
  List.foldl_append

theorem of_append (xs ys : List GraphicsCall) : of (xs ++ ys) = (of xs).noteAll ys :=
  noteAll_append blank xs ys

def targetSize (l : SizeLedger) : TargetView → Option PixelSize
  | .created view => l.view view
  | .lent _ => none

/-- All attachments of the pass are as large as the surface. -/
structure Suits (l : SizeLedger) (size : PixelSize) (description : PassDescription) : Prop where
  surface : l.surface = some size
  colors : ∀ a ∈ description.colors, l.targetSize a.view = some size
  stencil : ∀ a, description.depthStencil = some a → l.targetSize a.view = some size

/-- Every pass among the calls that follow suits the surface when it is begun. -/
def Fits (l : SizeLedger) : List GraphicsCall → Prop
  | [] => True
  | c :: rest =>
      (∀ pass description, c = .beginRenderPass pass description → ∃ size, l.Suits size description)
        ∧ (l.note c).Fits rest

theorem fits_append {l : SizeLedger} {xs ys : List GraphicsCall} :
    l.Fits (xs ++ ys) ↔ l.Fits xs ∧ (l.noteAll xs).Fits ys := by
  induction xs generalizing l with
  | nil => simp [Fits, noteAll]
  | cons c rest ih =>
      rw [List.cons_append, Fits, Fits, ih, and_assoc]
      rfl

theorem fits_of_no_pass {calls : List GraphicsCall}
    (hcalls : ∀ pass description, .beginRenderPass pass description ∉ calls) (l : SizeLedger) :
    l.Fits calls := by
  induction calls generalizing l with
  | nil => trivial
  | cons c rest ih =>
      refine ⟨?_, ih (fun pass description hmem => hcalls pass description
        (List.mem_cons_of_mem _ hmem)) _⟩
      rintro pass description rfl
      exact absurd List.mem_cons_self (hcalls pass description)

/-! ### What later calls leave alone -/

/-- The two agree on the surface and on all objects below the counts. -/
structure SameBelow (d : Device) (l l' : SizeLedger) : Prop where
  surface : l'.surface = l.surface
  texture : ∀ t : ObjectId .texture, t.number < d.created .texture → l'.texture t = l.texture t
  view : ∀ v : ObjectId .view, v.number < d.created .view → l'.view v = l.view v

theorem SameBelow.refl (d : Device) (l : SizeLedger) : SameBelow d l l :=
  ⟨rfl, fun _ _ => rfl, fun _ _ => rfl⟩

theorem SameBelow.trans {d : Device} {l l' l'' : SizeLedger} (h : SameBelow d l l')
    (h' : SameBelow d l' l'') : SameBelow d l l'' where
  surface := h'.surface.trans h.surface
  texture t ht := (h'.texture t ht).trans (h.texture t ht)
  view v hv := (h'.view v hv).trans (h.view v hv)

theorem sameBelow_note {d : Device} {c : GraphicsCall} (hc : c.Additive d) (l : SizeLedger) :
    SameBelow d l (l.note c) := by
  cases c with
  | configure config => exact hc.elim
  | createTexture texture description =>
      refine ⟨rfl, fun t ht => if_neg ?_, fun _ _ => rfl⟩
      rintro rfl
      exact absurd ht (Nat.not_lt.mpr hc)
  | createView view source =>
      refine ⟨rfl, fun _ _ => rfl, fun v hv => if_neg ?_⟩
      rintro rfl
      exact absurd hv (Nat.not_lt.mpr hc)
  | getCurrentTexture frame => exact ⟨rfl, fun _ _ => rfl, fun _ _ => rfl⟩
  | _ => exact .refl d l

theorem sameBelow_noteAll {d : Device} {calls : List GraphicsCall}
    (hcalls : ∀ c ∈ calls, c.Additive d) (l : SizeLedger) : SameBelow d l (l.noteAll calls) := by
  induction calls generalizing l with
  | nil => exact .refl d l
  | cons c rest ih =>
      have hfirst := sameBelow_note (hcalls c List.mem_cons_self) l
      have hrest := ih (fun c' hc' => hcalls c' (List.mem_cons_of_mem _ hc')) (l.note c)
      exact hfirst.trans hrest

/-- A view that a target may be drawn through: it was made here, and is as
large as the surface. -/
def Ready (l : SizeLedger) (d : Device) (size : PixelSize) (view : TargetView) : Prop :=
  ∃ v : ObjectId .view, view = .created v ∧ v.number < d.created .view ∧ l.view v = some size

theorem Ready.later {d : Device} {l l' : SizeLedger} {size : PixelSize} {view : TargetView}
    (h : l.Ready d size view) (same : SameBelow d l l') : l'.targetSize view = some size := by
  obtain ⟨v, rfl, hv, hsize⟩ := h
  exact (same.view v hv).trans hsize

/-- Painting a target that suits the surface suits it. -/
theorem fits_of_painted {target : RenderTarget} {d d' : Device} {calls : List GraphicsCall}
    (painted : Painted target d d' calls) {l : SizeLedger} {size : PixelSize}
    (surface : l.surface = some size) (color : l.Ready d size target.colorView)
    (stencil : ∀ view, target.stencilView = some view → l.Ready d size view) : l.Fits calls := by
  -- The induction is on the calls, from a ledger that agrees with the first one below the counts.
  have general : ∀ (calls : List GraphicsCall) (l' : SizeLedger), SameBelow d l l' →
      (∀ c ∈ calls, c.Paints target d) → l'.Fits calls := by
    intro calls
    induction calls with
    | nil => exact fun _ _ _ => trivial
    | cons c rest ih =>
        intro l' same hcalls
        have hc := hcalls c List.mem_cons_self
        refine ⟨?_, ih (l'.note c) (same.trans (sameBelow_note hc.additive l'))
          fun c' hc' => hcalls c' (List.mem_cons_of_mem _ hc')⟩
        rintro pass description rfl
        refine ⟨size, same.surface.trans surface, ?_, ?_⟩
        · intro a ha
          have hview : a.view ∈ description.colors.map ColorAttachment.view :=
            List.mem_map_of_mem ha
          rw [PassDescription.Into.color hc, List.mem_singleton] at hview
          rw [hview]
          exact color.later same
        · intro a ha
          have hview := PassDescription.Into.stencil hc
          rw [ha] at hview
          exact (stencil a.view hview.symm).later same
  exact general calls l (.refl d l) painted.paints

end SizeLedger

/-! ## Choices -/

namespace SurfaceCaps

/-- A configuration that a surface can be given. -/
structure Admits (c : SurfaceCaps) (config : SurfaceConfig) : Prop where
  width : config.width ≠ 0
  height : config.height ≠ 0
  format : config.format ∈ c.formats
  alpha : config.alphaMode ∈ c.alphaModes ∨ c.alphaModes = [] ∧ config.alphaMode = .auto

theorem mem_formats_of_chooseFormat {c : SurfaceCaps} {o : GpuOptions} {format : TextureFormat}
    (h : c.chooseFormat o = some format) : format ∈ c.formats := by
  unfold chooseFormat at h
  cases hwanted : o.wantedFormats.find? fun f => c.formats.contains f with
  | some wanted =>
      rw [hwanted, Option.some_or] at h
      obtain rfl := Option.some.inj h
      exact List.contains_iff_mem.mp (List.find?_some hwanted)
  | none =>
      rw [hwanted, Option.none_or] at h
      exact List.mem_of_mem_head? h

theorem chooseAlpha_offered (c : SurfaceCaps) (o : GpuOptions) :
    c.chooseAlpha o ∈ c.alphaModes ∨ c.alphaModes = [] ∧ c.chooseAlpha o = .auto := by
  unfold chooseAlpha
  cases hwish : o.alphaMode.filter fun m => c.alphaModes.contains m with
  | some mode =>
      have hoffered := (Option.filter_eq_some_iff.mp hwish).2
      exact .inl (List.contains_iff_mem.mp hoffered)
  | none =>
      cases hmodes : c.alphaModes with
      | nil => exact .inr ⟨rfl, rfl⟩
      | cons mode rest => exact .inl List.mem_cons_self

end SurfaceCaps

theorem PixelSize.hasArea_iff {size : PixelSize} :
    size.hasArea = true ↔ size.width ≠ 0 ∧ size.height ≠ 0 := by
  simp [hasArea]

theorem SurfaceCaps.admits_configuration {c : SurfaceCaps} {o : GpuOptions} {size : PixelSize}
    {config : SurfaceConfig} (area : size.hasArea = true)
    (h : c.configuration o size = some config) :
    c.Admits config ∧ (⟨config.width, config.height⟩ : PixelSize) = size := by
  obtain ⟨format, hformat, rfl⟩ := Option.map_eq_some_iff.mp h
  obtain ⟨hwidth, hheight⟩ := PixelSize.hasArea_iff.mp area
  exact ⟨⟨hwidth, hheight, mem_formats_of_chooseFormat hformat, c.chooseAlpha_offered o⟩, rfl⟩

/-! ## Requests -/

/-- What a surface can be asked in any order. -/
inductive SurfaceRequest where
  | resize (size : PixelSize)
  | beginFrame (status : AcquireStatus)
  | handleError (error : SurfaceError)
  | submit (frame : SurfaceFrame)

def SurfaceRequest.size? : SurfaceRequest → Option PixelSize
  | .resize size => some size
  | _ => none

/-- The size that was asked for last. -/
def lastSize (first : PixelSize) (requests : List SurfaceRequest) : PixelSize :=
  (requests.filterMap SurfaceRequest.size?).getLastD first

/-- The size with an area that was asked for last. -/
def lastArea (first : PixelSize) (requests : List SurfaceRequest) : PixelSize :=
  ((requests.filterMap SurfaceRequest.size?).filter PixelSize.hasArea).getLastD first

namespace GpuContext

/-- The size that the surface is configured to. -/
def configured (g : GpuContext) : PixelSize := ⟨g.config.width, g.config.height⟩

def serve (g : GpuContext) : SurfaceRequest → Graphics GpuContext
  | .resize size => g.resize size
  | .beginFrame status => do
      let _ ← beginFrame status
      return g
  | .handleError e => do
      let _ ← g.handleError e
      return g
  | .submit frame => do
      frame.submit
      return g

/-- What a surface has been asked, what the device has been told, and where
both are now. Frames may be drawn between the requests. -/
inductive History (g₀ : GpuContext) (d₀ : Device) :
    List SurfaceRequest → List GraphicsCall → GpuContext → Device → Prop
  | start : History g₀ d₀ [] [] g₀ d₀
  | served {requests : List SurfaceRequest} {calls : List GraphicsCall} {g : GpuContext}
      {d : Device} {request : SurfaceRequest} {out : Ran (Event GraphicsCall) Device GpuContext}
      (before : History g₀ d₀ requests calls g d) (ran : (g.serve request).run d = .ok out) :
      History g₀ d₀ (requests ++ [request]) (calls ++ deviceCalls out.events) out.value out.state
  | drawn {β : Type} {requests : List SurfaceRequest} {calls : List GraphicsCall} {g : GpuContext}
      {s : Screen} {time : FrameTime} {b : β} {paint : RenderTarget → β → OnScreen (β × Outcome)}
      {out : Ran (Event CanvasCall) Screen (β × Outcome)}
      (before : History g₀ d₀ requests calls g s.device)
      (paints : ∀ target b, (paint target b).Keeps (PaintedCanvas target))
      (ran : (FrameContext.draw ⟨g, time⟩ b paint).run s = .ok out) :
      History g₀ d₀ requests
        (calls ++ (canvasCalls out.events).filterMap CanvasCall.graphics?) g out.state.device

/-- The stencil attachment is there if it should be, and the ledger has it
and the surface at the configured size. -/
structure Sized (g : GpuContext) (d : Device) (l : SizeLedger) : Prop where
  surface : l.surface = some g.configured
  complete : g.stencil.isSome = g.stencilFormat.isSome
  texture : ∀ b, g.stencil = some b →
    b.texture.number < d.created .texture ∧ l.texture b.texture = some g.configured
  view : ∀ b, g.stencil = some b →
    b.view.number < d.created .view ∧ l.view b.view = some g.configured

theorem Sized.later {g : GpuContext} {d d' : Device} {l l' : SizeLedger} (h : g.Sized d l)
    (same : SizeLedger.SameBelow d l l') (hcounts : ∀ kind, d.created kind ≤ d'.created kind) :
    g.Sized d' l' where
  surface := same.surface.trans h.surface
  complete := h.complete
  texture b hb :=
    have ⟨hlt, hsize⟩ := h.texture b hb
    ⟨Nat.lt_of_lt_of_le hlt (hcounts _), (same.texture _ hlt).trans hsize⟩
  view b hb :=
    have ⟨hlt, hsize⟩ := h.view b hb
    ⟨Nat.lt_of_lt_of_le hlt (hcounts _), (same.view _ hlt).trans hsize⟩

end GpuContext

/-- A surface with capabilities `caps` after a use that began with the size
`first`: the configuration, the stored size and the attachments agree with each
other, and with all that was asked and said. -/
structure SurfaceInStep (caps : SurfaceCaps) (format : Option TextureFormat) (first : PixelSize)
    (requests : List SurfaceRequest) (calls : List GraphicsCall) (g : GpuContext) (d : Device) :
    Prop where
  /-- No configuration asks for what the surface does not have. -/
  configures : ∀ config, .configure config ∈ calls → caps.Admits config
  admitted : caps.Admits g.config
  requested : g.configured = lastArea first requests
  stored : g.size = lastSize first requests
  agree : g.size.hasArea = true → g.size = g.configured
  wanted : g.stencilFormat = format
  sized : g.Sized d (.of calls)
  /-- Every pass draws into attachments as large as the surface. -/
  fits : SizeLedger.blank.Fits calls

/-! ## Configuring -/

theorem max_one_of_ne_zero {w : UInt32} (h : w ≠ 0) : max w 1 = w := by
  show (if w ≤ 1 then 1 else w) = w
  split
  · next hle =>
      -- A width of at most one that is not zero is one.
      have hle' : w.toNat ≤ 1 := UInt32.le_iff_toNat_le.mp hle
      have hpos : w.toNat ≠ 0 := fun hzero => h (UInt32.toNat_inj.mp hzero)
      have hone : w.toNat = (1 : UInt32).toNat := Nat.le_antisymm hle' (Nat.pos_of_ne_zero hpos)
      exact (UInt32.toNat_inj.mp hone).symm
  · rfl

theorem StencilBuffer.run_create (format : TextureFormat) (size : PixelSize) (d : Device) :
    ∃ description, description.size = ⟨max size.width 1, max size.height 1, 1⟩
      ∧ (create format size).run d = .ok ⟨
        ⟨⟨d.created .texture⟩, ⟨d.created .view⟩, ⟨max size.width 1, max size.height 1⟩⟩,
        (d.grow .texture).grow .view,
        [.call (.createTexture ⟨d.created .texture⟩ description),
          .call (.createView ⟨d.created .view⟩ (.texture ⟨d.created .texture⟩))]⟩ :=
  ⟨_, rfl, rfl⟩

namespace GpuContext

/-- A surface that has just been configured, with a new attachment. -/
theorem sized_of_configure (config : SurfaceConfig) {format : Option TextureFormat}
    {stencil : Option StencilBuffer} {d d' : Device} {events : List (Event GraphicsCall)}
    (area : (⟨config.width, config.height⟩ : PixelSize).hasArea = true)
    (ran : (StencilBuffer.create? ⟨config.width, config.height⟩ format).run d
      = .ok ⟨stencil, d', events⟩) (l : SizeLedger) :
    Sized ⟨config, format, stencil, ⟨config.width, config.height⟩⟩ d'
        (l.noteAll (.configure config :: deviceCalls events))
      ∧ (∀ config', .configure config' ∉ deviceCalls events)
      ∧ ∀ pass description, .beginRenderPass pass description ∉ deviceCalls events := by
  obtain ⟨hwidth, hheight⟩ := PixelSize.hasArea_iff.mp area
  cases format with
  | none =>
      obtain ⟨rfl, rfl, rfl⟩ : none = stencil ∧ d = d' ∧ [] = events := by
        simpa [StencilBuffer.create?] using ran
      refine ⟨⟨rfl, rfl, ?_, ?_⟩, by simp [deviceCalls], by simp [deviceCalls]⟩
      · intro b hb
        cases hb
      · intro b hb
        cases hb
  | some format =>
      obtain ⟨description, hsize, hcreate⟩ :=
        StencilBuffer.run_create format ⟨config.width, config.height⟩ d
      obtain ⟨rfl, rfl, rfl⟩ : _ = stencil ∧ (d.grow .texture).grow .view = d' ∧ _ = events := by
        simpa [StencilBuffer.create?, hcreate] using ran
      have hexact : (⟨description.size.width, description.size.height⟩ : PixelSize)
          = ⟨config.width, config.height⟩ := by
        rw [hsize]
        exact congrArg₂ PixelSize.mk (max_one_of_ne_zero hwidth)
          (max_one_of_ne_zero hheight)
      refine ⟨⟨rfl, rfl, ?_, ?_⟩, by simp [deviceCalls, Event.call?],
        by simp [deviceCalls, Event.call?]⟩
      · intro b hb
        obtain rfl := Option.some.inj hb
        refine ⟨by simp [Device.grow], ?_⟩
        simpa [deviceCalls, Event.call?, SizeLedger.noteAll, SizeLedger.note, configured]
          using hexact
      · intro b hb
        obtain rfl := Option.some.inj hb
        refine ⟨by simp [Device.grow], ?_⟩
        simpa [deviceCalls, Event.call?, SizeLedger.noteAll, SizeLedger.note,
          SizeLedger.sourceSize, configured] using hexact

end GpuContext

theorem StencilBuffer.exists_run_create? (size : PixelSize) (format : Option TextureFormat)
    (d : Device) : ∃ out, (create? size format).run d = .ok out := by
  cases format <;> exact ⟨_, rfl⟩

/-! ## Steps -/

theorem lastSize_snoc_of_none {first : PixelSize} {requests : List SurfaceRequest}
    {request : SurfaceRequest} (h : request.size? = none) :
    lastSize first (requests ++ [request]) = lastSize first requests := by
  simp [lastSize, h]

theorem lastArea_snoc_of_none {first : PixelSize} {requests : List SurfaceRequest}
    {request : SurfaceRequest} (h : request.size? = none) :
    lastArea first (requests ++ [request]) = lastArea first requests := by
  simp [lastArea, h]

namespace SurfaceInStep

variable {caps : SurfaceCaps} {format : Option TextureFormat} {first : PixelSize}
  {requests : List SurfaceRequest} {calls new : List GraphicsCall} {g : GpuContext}
  {d d' : Device}

theorem asked (h : SurfaceInStep caps format first requests calls g d) {request : SurfaceRequest}
    (hsize : request.size? = none) :
    SurfaceInStep caps format first (requests ++ [request]) calls g d :=
  { h with
    requested := by rw [lastArea_snoc_of_none hsize]; exact h.requested
    stored := by rw [lastSize_snoc_of_none hsize]; exact h.stored }

/-- Calls that only add to the device change nothing. -/
theorem quiet (h : SurfaceInStep caps format first requests calls g d)
    (hcounts : ∀ kind, d.created kind ≤ d'.created kind) (hnew : ∀ c ∈ new, c.Additive d)
    (hfits : (SizeLedger.of calls).Fits new) :
    SurfaceInStep caps format first requests (calls ++ new) g d' where
  configures config hmem := by
    rcases List.mem_append.mp hmem with hmem | hmem
    · exact h.configures config hmem
    · exact (hnew _ hmem).elim
  admitted := h.admitted
  requested := h.requested
  stored := h.stored
  agree := h.agree
  wanted := h.wanted
  sized := by
    rw [SizeLedger.of_append]
    exact h.sized.later (SizeLedger.sameBelow_noteAll hnew _) hcounts
  fits := SizeLedger.fits_append.mpr ⟨h.fits, hfits⟩

/-- A surface that is configured anew, with a new attachment, to the size that
was asked for last. -/
theorem of_configure {config : SurfaceConfig} {stencil : Option StencilBuffer}
    {events : List (Event GraphicsCall)}
    (configures : ∀ config', .configure config' ∈ calls → caps.Admits config')
    (fits : SizeLedger.blank.Fits calls) (admitted : caps.Admits config)
    (requested : ⟨config.width, config.height⟩ = lastArea first requests)
    (stored : ⟨config.width, config.height⟩ = lastSize first requests)
    (ran : (StencilBuffer.create? ⟨config.width, config.height⟩ format).run d
      = .ok ⟨stencil, d', events⟩) :
    SurfaceInStep caps format first requests (calls ++ .configure config :: deviceCalls events)
      ⟨config, format, stencil, ⟨config.width, config.height⟩⟩ d' := by
  have area : (⟨config.width, config.height⟩ : PixelSize).hasArea = true :=
    PixelSize.hasArea_iff.mpr ⟨admitted.width, admitted.height⟩
  obtain ⟨sized, hconfigures, hpasses⟩ :=
    GpuContext.sized_of_configure config area ran (.of calls)
  refine ⟨?_, admitted, requested, stored, fun _ => rfl, rfl, ?_, ?_⟩
  · intro config' hmem
    rcases List.mem_append.mp hmem with hmem | hmem
    · exact configures config' hmem
    rcases List.mem_cons.mp hmem with hmem | hmem
    · obtain rfl := GraphicsCall.configure.inj hmem
      exact admitted
    · exact absurd hmem (hconfigures config')
  · rw [SizeLedger.of_append]
    exact sized
  · refine SizeLedger.fits_append.mpr ⟨fits, SizeLedger.fits_of_no_pass ?_ _⟩
    intro pass description hmem
    rcases List.mem_cons.mp hmem with hmem | hmem
    · cases hmem
    · exact hpasses pass description hmem

/-- Configuring again to what is configured changes nothing. -/
theorem recovered (h : SurfaceInStep caps format first requests calls g d) (e : SurfaceError) :
    SurfaceInStep caps format first requests (calls ++ g.recoveryCalls e) g d := by
  unfold GpuContext.recoveryCalls
  split
  · have hledger : (SizeLedger.of (calls ++ [.configure g.config]))
        = { SizeLedger.of calls with surface := some g.configured } := by
      rw [SizeLedger.of_append]
      rfl
    refine { h with configures := ?_, sized := ?_, fits := ?_ }
    · intro config hmem
      rcases List.mem_append.mp hmem with hmem | hmem
      · exact h.configures config hmem
      · obtain rfl := GraphicsCall.configure.inj (List.mem_singleton.mp hmem)
        exact h.admitted
    · rw [hledger]
      exact ⟨rfl, h.sized.complete, h.sized.texture, h.sized.view⟩
    · exact SizeLedger.fits_append.mpr ⟨h.fits, SizeLedger.fits_of_no_pass (by simp) _⟩
  · rw [List.append_nil]
    exact h

theorem resized (h : SurfaceInStep caps format first requests calls g d) {size : PixelSize}
    {out : Ran (Event GraphicsCall) Device GpuContext} (ran : (g.resize size).run d = .ok out) :
    SurfaceInStep caps format first (requests ++ [.resize size]) (calls ++ deviceCalls out.events)
      out.value out.state := by
  cases area : size.hasArea with
  | false =>
      obtain rfl : _ = out := by simpa [GpuContext.resize, area] using ran
      have hrequested : lastArea first (requests ++ [.resize size]) = lastArea first requests := by
        simp [lastArea, SurfaceRequest.size?, area]
      have hstored : lastSize first (requests ++ [.resize size]) = size := by
        simp [lastSize, SurfaceRequest.size?]
      rw [show deviceCalls [] = [] from rfl, List.append_nil]
      refine ⟨h.configures, h.admitted, hrequested ▸ h.requested, hstored.symm, ?_, h.wanted,
        ⟨h.sized.surface, h.sized.complete, h.sized.texture, h.sized.view⟩, h.fits⟩
      intro harea
      rw [area] at harea
      cases harea
  | true =>
      obtain ⟨⟨stencil, d', events⟩, hcreate⟩ :=
        StencilBuffer.exists_run_create? size g.stencilFormat d
      obtain rfl : _ = out := by simpa [GpuContext.resize, area, hcreate] using ran
      have hrequested : lastArea first (requests ++ [.resize size]) = size := by
        simp [lastArea, SurfaceRequest.size?, area]
      have hstored : lastSize first (requests ++ [.resize size]) = size := by
        simp [lastSize, SurfaceRequest.size?]
      let config : SurfaceConfig := { g.config with width := size.width, height := size.height }
      obtain ⟨hwidth, hheight⟩ := PixelSize.hasArea_iff.mp area
      have admitted : caps.Admits config :=
        ⟨hwidth, hheight, h.admitted.format, h.admitted.alpha⟩
      obtain rfl := h.wanted
      exact of_configure h.configures h.fits admitted hrequested.symm hstored.symm hcreate

theorem acquired (h : SurfaceInStep caps format first requests calls g d) :
    SurfaceInStep caps format first requests (calls ++ d.nextFrame.acquireCalls) g d.withFrame := by
  refine h.quiet ?_ ?_ (SizeLedger.fits_of_no_pass (by simp [SurfaceFrame.acquireCalls]) _)
  · intro kind
    exact Nat.le_trans (d.created_le_grow .frame kind)
      (Nat.le_trans (Device.created_le_grow _ .view kind) (Device.created_le_grow _ .encoder kind))
  · simp [SurfaceFrame.acquireCalls, GraphicsCall.Additive, Device.nextFrame]

theorem denied (h : SurfaceInStep caps format first requests calls g d) :
    SurfaceInStep caps format first requests
      (calls ++ [.getCurrentTexture ⟨d.created .frame⟩]) g (d.grow .frame) := by
  refine h.quiet (d.created_le_grow .frame) ?_ (SizeLedger.fits_of_no_pass (by simp) _)
  simp [GraphicsCall.Additive]

theorem presented (h : SurfaceInStep caps format first requests calls g d) (f : SurfaceFrame) :
    SurfaceInStep caps format first requests (calls ++ f.presentCalls) g d := by
  refine h.quiet (fun _ => Nat.le_refl _) ?_
    (SizeLedger.fits_of_no_pass (by simp [SurfaceFrame.presentCalls]) _)
  simp [SurfaceFrame.presentCalls, GraphicsCall.Additive]

/-- The frame that was acquired is as large as the surface. -/
theorem ready_color (h : SurfaceInStep caps format first requests calls g d) :
    (SizeLedger.of (calls ++ d.nextFrame.acquireCalls)).Ready d.withFrame g.configured
      (g.target d.nextFrame).colorView := by
  refine ⟨d.nextFrame.view, rfl, ?_, ?_⟩
  · simp [Device.nextFrame, Device.withFrame, Device.grow]
  · rw [SizeLedger.of_append]
    simpa [SurfaceFrame.acquireCalls, SizeLedger.noteAll, SizeLedger.note, SizeLedger.sourceSize]
      using h.sized.surface

/-- The stencil attachment is, too. -/
theorem ready_stencil (h : SurfaceInStep caps format first requests calls g d) (f : SurfaceFrame)
    {view : TargetView} (hview : (g.target f).stencilView = some view) :
    (SizeLedger.of calls).Ready d g.configured view := by
  obtain ⟨b, hb, rfl⟩ := Option.map_eq_some_iff.mp hview
  obtain ⟨hlt, hsize⟩ := h.sized.view b hb
  exact ⟨b.view, rfl, hlt, hsize⟩

theorem painted (h : SurfaceInStep caps format first requests calls g d)
    {target : RenderTarget} (hpainted : Painted target d d' new)
    (color : (SizeLedger.of calls).Ready d g.configured target.colorView)
    (stencil : ∀ view, target.stencilView = some view →
      (SizeLedger.of calls).Ready d g.configured view) :
    SurfaceInStep caps format first requests (calls ++ new) g d' :=
  h.quiet hpainted.counts (fun c hc => (hpainted.paints c hc).additive)
    (SizeLedger.fits_of_painted hpainted h.sized.surface color stencil)

theorem drawn {β : Type} {s : Screen} {time : FrameTime} {b : β}
    {paint : RenderTarget → β → OnScreen (β × Outcome)}
    {out : Ran (Event CanvasCall) Screen (β × Outcome)}
    (h : SurfaceInStep caps format first requests calls g s.device)
    (paints : ∀ target b, (paint target b).Keeps (PaintedCanvas target))
    (ran : (FrameContext.draw ⟨g, time⟩ b paint).run s = .ok out) :
    SurfaceInStep caps format first requests
      (calls ++ (canvasCalls out.events).filterMap CanvasCall.graphics?) g out.state.device := by
  cases area : g.size.hasArea with
  | false =>
      rw [FrameContext.run_draw_of_no_area _ _ _ area] at ran
      obtain rfl := Except.ok.inj ran
      simpa [canvasCalls] using h
  | true =>
      cases hstatus : s.status.error? with
      | some e =>
          rw [FrameContext.run_draw_of_refused _ _ _ area hstatus] at ran
          obtain rfl := Except.ok.inj ran
          have hrecovered := h.denied.recovered e
          simpa [CanvasCall.graphics?] using hrecovered
      | none =>
          rw [FrameContext.run_draw_of_granted _ _ _ area hstatus] at ran
          cases hpaint : (paint (g.target s.device.nextFrame) b).run s.withFrame with
          | error e =>
              rw [hpaint] at ran
              cases ran
          | ok painted =>
              rw [hpaint] at ran
              obtain rfl := Except.ok.inj ran
              have hpainted : Painted (g.target s.device.nextFrame) s.withFrame.device
                  painted.state.device
                  ((canvasCalls painted.events).filterMap CanvasCall.graphics?) :=
                paints _ _ _ _ hpaint
              have hacquired := h.acquired
              have hdrawn := hacquired.painted hpainted h.ready_color
                fun view hview => hacquired.ready_stencil _ hview
              have hpresented := hdrawn.presented s.device.nextFrame
              simpa [CanvasCall.graphics?, List.filterMap_cons] using hpresented

theorem served (h : SurfaceInStep caps format first requests calls g d) {request : SurfaceRequest}
    {out : Ran (Event GraphicsCall) Device GpuContext} (ran : (g.serve request).run d = .ok out) :
    SurfaceInStep caps format first (requests ++ [request]) (calls ++ deviceCalls out.events)
      out.value out.state := by
  cases request with
  | resize size => exact h.resized ran
  | beginFrame status =>
      cases hstatus : status.error? with
      | some e =>
          obtain rfl : _ = out := by
            simpa [GpuContext.serve, GpuContext.run_beginFrame_of_error hstatus] using ran
          exact h.denied.asked rfl
      | none =>
          obtain rfl : _ = out := by
            simpa [GpuContext.serve, GpuContext.run_beginFrame_of_none hstatus] using ran
          rw [deviceCalls_calls]
          exact h.acquired.asked rfl
  | handleError e =>
      obtain rfl : _ = out := by
        simpa [GpuContext.serve, GpuContext.run_handleError] using ran
      have hsaid : deviceCalls ((g.recoveryCalls e).map .call ++ [.log e.record])
          = g.recoveryCalls e := by
        rw [deviceCalls_append, deviceCalls_calls]
        exact List.append_nil _
      rw [hsaid]
      exact (h.recovered e).asked rfl
  | submit frame =>
      obtain rfl : _ = out := by
        simpa [GpuContext.serve, SurfaceFrame.run_submit] using ran
      rw [deviceCalls_calls]
      exact (h.presented frame).asked rfl

end SurfaceInStep

/-! ## Whole uses -/

theorem GpuContext.History.inStep {caps : SurfaceCaps} {format : Option TextureFormat}
    {first : PixelSize} {earlier calls : List GraphicsCall} {g₀ g : GpuContext} {d₀ d : Device}
    {requests : List SurfaceRequest} (history : History g₀ d₀ requests calls g d)
    (start : SurfaceInStep caps format first [] earlier g₀ d₀) :
    SurfaceInStep caps format first requests (earlier ++ calls) g d := by
  induction history with
  | start =>
      rw [List.append_nil]
      exact start
  | served before ran ih =>
      rw [← List.append_assoc]
      exact ih.served ran
  | drawn before paints ran ih =>
      rw [← List.append_assoc]
      exact ih.drawn paints ran

/-- What a device heard of what a host said. -/
def HostCall.graphics? : HostCall → Option GraphicsCall
  | .canvas (.graphics c) => some c
  | _ => none

def hostGraphics (events : List (Event HostCall)) : List GraphicsCall :=
  (events.filterMap Event.call?).filterMap HostCall.graphics?

theorem hostGraphics_device (events : List (Event GraphicsCall)) :
    hostGraphics (events.map deviceEvent) = deviceCalls events := by
  induction events with
  | nil => rfl
  | cons e rest ih =>
      cases e with
      | call c => exact congrArg (c :: ·) ih
      | log r => exact ih

namespace Host

variable {α : Type} {h : Host α} {s s' : HostState α} {gpu : GpuContext}
  {opening : List (Event HostCall)}

/-- A surface that a host has just set up. -/
theorem inStep_attachGpu (attached : h.attachGpu.run s = .ok ⟨.ok gpu, s', opening⟩) :
    SurfaceInStep s.platform.caps h.options.stencilFormat s.platform.innerSize []
      (hostGraphics opening) gpu s'.platform.screen.device := by
  cases configured : h.surfaceConfig s.platform with
  | error f =>
      obtain ⟨events, -, hfailed⟩ := run_attachGpu_of_error configured
      rw [hfailed] at attached
      cases attached
  | ok config =>
      obtain ⟨area, -, hconfig⟩ := surfaceConfig_eq_ok_iff.mp configured
      obtain ⟨admitted, hsize⟩ := SurfaceCaps.admits_configuration area hconfig
      obtain ⟨⟨stencil, d, events⟩, hcreate⟩ := StencilBuffer.exists_run_create?
        ⟨config.width, config.height⟩ h.options.stencilFormat s.platform.screen.device
      have attaching : (GpuContext.attach config h.options.stencilFormat).run
          s.platform.screen.device
          = .ok ⟨⟨config, h.options.stencilFormat, stencil, ⟨config.width, config.height⟩⟩, d,
            .call (.configure config) :: events⟩ := by
        simp [GpuContext.attach, hcreate]
      rw [run_attachGpu_of_ok configured attaching] at attached
      obtain ⟨rfl, rfl, rfl⟩ : _ = gpu ∧ _ = s' ∧ _ = opening := by simpa using attached
      have hsaid : hostGraphics (h.surfaceSetup s.platform
          ++ deviceEvent (.call (.configure config)) :: events.map deviceEvent)
          = .configure config :: deviceCalls events :=
        hostGraphics_device (.call (.configure config) :: events)
      rw [hsaid]
      exact SurfaceInStep.of_configure (fun _ hmem => absurd hmem List.not_mem_nil)
        trivial admitted hsize hsize hcreate

/-- **The surface, its configuration and its stencil attachment agree.** After
a surface has been set up, whatever it supports, and whatever it is asked
then, in any order and with frames drawn in between, it can be asked anything
again, and:

* every configuration has an area, a format that is supported, and an alpha
  mode that is supported (or the automatic one, if none is);
* the configured size is the last that was asked for and had an area, and the
  stored size is equal to it if it has one;
* with a stencil format, there is an attachment whose texture was made with
  the configured size;
* every pass draws into attachments of one size, that of the surface. -/
theorem surface_stays_in_step (h : Host α) (s s' : HostState α) (gpu g : GpuContext)
    (opening : List (Event HostCall)) (requests : List SurfaceRequest) (calls : List GraphicsCall)
    (d : Device) (attached : h.attachGpu.run s = .ok ⟨.ok gpu, s', opening⟩)
    (history : GpuContext.History gpu s'.platform.screen.device requests calls g d) :
    SurfaceInStep s.platform.caps h.options.stencilFormat s.platform.innerSize requests
        (hostGraphics opening ++ calls) g d
      ∧ ∀ request, ∃ out, (g.serve request).run d = .ok out := by
  refine ⟨history.inStep (inStep_attachGpu attached), fun request => ?_⟩
  cases request with
  | resize size => exact g.exists_run_resize size d
  | beginFrame status =>
      have total : (GpuContext.beginFrame status).Total := by
        intro d
        cases hstatus : status.error? with
        | some e => exact ⟨_, GpuContext.run_beginFrame_of_error hstatus d⟩
        | none => exact ⟨_, GpuContext.run_beginFrame_of_none hstatus d⟩
      exact total.bind (fun _ => Effect.total_pure g) d
  | handleError e =>
      have total : (g.handleError e).Total := fun d => ⟨_, g.run_handleError e d⟩
      exact total.bind (fun _ => Effect.total_pure g) d
  | submit frame => exact ⟨_, rfl⟩

/-- A window that shrinks to nothing and comes back at another size, where a
frame is drawn. -/
theorem surface_stays_in_step_sample :
    ∃ (s' : HostState Unit) (gpu g : GpuContext) (opening : List (Event HostCall))
        (calls : List GraphicsCall) (d : Device),
      (sampleHost (.ok .proceed)).attachGpu.run (.start samplePlatform ())
          = .ok ⟨.ok gpu, s', opening⟩
        ∧ GpuContext.History gpu s'.platform.screen.device
          [.resize ⟨0, 7⟩, .resize ⟨100, 50⟩] calls g d
        ∧ SurfaceInStep samplePlatform.caps (some .depth24PlusStencil8) ⟨640, 480⟩
          [.resize ⟨0, 7⟩, .resize ⟨100, 50⟩] (hostGraphics opening ++ calls) g d
        ∧ g.configured = ⟨100, 50⟩ ∧ g.stencil.isSome = true := by
  let host := sampleHost (.ok .proceed)
  let config : SurfaceConfig := ⟨.bgra8Unorm, 640, 480, .fifo, .auto, 2, 16⟩
  let r : DeviceRenderer := ⟨⟨2, .black, true⟩, .empty 2, .ofSource .sprite, false, 0⟩
  obtain ⟨inner, attaching⟩ := GpuContext.exists_run_attach config host.options.stencilFormat
    samplePlatform.screen.device
  have configured : host.surfaceConfig samplePlatform = .ok config := rfl
  have attached := run_attachGpu_of_ok (s := .start samplePlatform ()) configured attaching
  obtain ⟨shrunk, hshrunk⟩ := inner.value.exists_run_resize ⟨0, 7⟩ inner.state
  obtain ⟨grown, hgrown⟩ := shrunk.value.exists_run_resize ⟨100, 50⟩ shrunk.state
  obtain ⟨drawn, hdrawn⟩ := FrameContext.exists_run_render ⟨grown.value, ⟨0, 0, 0⟩⟩ (r := r)
    (by decide) ⟨#[], 0, #[], 0, #[], 0⟩ ⟨grown.state, []⟩
  have hserved : (inner.value.serve (.resize ⟨0, 7⟩)).run inner.state = .ok shrunk := hshrunk
  have hserved' : (shrunk.value.serve (.resize ⟨100, 50⟩)).run shrunk.state = .ok grown := hgrown
  have restored := (GpuContext.History.start.served hserved).served hserved'
  have history := restored.drawn (FrameContext.keeps_paintFrame _) hdrawn
  obtain ⟨inStep, -⟩ := surface_stays_in_step host _ _ _ _ _ _ _ _ attached history
  refine ⟨_, _, _, _, _, _, attached, history, inStep, inStep.requested, ?_⟩
  rw [inStep.sized.complete, inStep.wanted]
  rfl

end Host

end SpriteRenderer

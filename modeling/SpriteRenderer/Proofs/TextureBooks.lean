import Mathlib.Data.List.Basic
import Mathlib.Data.List.Pairwise
import SpriteRenderer.Proofs.Narration
import SpriteRenderer.Proofs.Painting

/-!
# The books of a texture cache

A texture gets its bind group when it is first bound, and the device keeps the
group by texture. `Books` compares what the device keeps with a log of all that
was said and done: a texture without a group has never been bound, and one with
a group was given it right at its first binding, and no other.

Most of a frame neither binds a texture nor touches what is kept (`Calm`); the
groups made there are of views made there too, so no texture that was there
before is in them. The rest is one binding after the other
(`SpriteProgram.bindOn`), and `Books.frame` puts a frame together.
-/

namespace SpriteRenderer

/-! ## Reading a log -/

abbrev DeviceNote := Narration (Event GraphicsCall) SpriteProgram SpriteTexture

def Resource.view? : Resource → Option (ObjectId .view)
  | .view v => some v
  | .buffer _ | .sampler _ => none

namespace Narration

/-- A bind group that is made here, with the views in it. -/
def group? : DeviceNote → Option (ObjectId .group × List (ObjectId .view))
  | .told (.call (.createBindGroup group _ _ entries)) =>
      some (group, entries.filterMap fun entry => entry.2.view?)
  | _ => none

/-- The texture that is bound here. -/
def bound? : DeviceNote → Option SpriteTexture
  | .said (.command (.drawing (.bindTexture texture))) => texture
  | _ => none

def Builds (texture : SpriteTexture) (note : DeviceNote) : Prop :=
  ∃ made, note.group? = some made ∧ texture.view ∈ made.2

/-- The note of a binding. -/
def binding (texture : SpriteTexture) : DeviceNote :=
  .said (.command (.drawing (.bindTexture (some texture))))

theorem not_builds_binding (t t' : SpriteTexture) : ¬ (binding t').Builds t := by
  rintro ⟨made, hmade, -⟩
  cases hmade

theorem builds_textureGroupCall {p : SpriteProgram} {t t' : SpriteTexture}
    {group : ObjectId .group} :
    Builds t (.told (p.textureGroupCall t' group)) ↔ t.view = t'.view := by
  constructor
  · rintro ⟨made, hmade, hview⟩
    obtain rfl := Option.some.inj hmade
    exact List.mem_singleton.mp hview
  · intro hview
    exact ⟨_, rfl, List.mem_singleton.mpr hview⟩

end Narration

/-- The views in a bind group, each time it is made. -/
def viewsOf (group : ObjectId .group) (log : List DeviceNote) : List (ObjectId .view) :=
  ((log.filterMap Narration.group?).filter fun made => made.1 = group).flatMap Prod.snd

theorem viewsOf_append (group : ObjectId .group) (xs ys : List DeviceNote) :
    viewsOf group (xs ++ ys) = viewsOf group xs ++ viewsOf group ys := by
  simp [viewsOf]

theorem viewsOf_eq_nil {group : ObjectId .group} {log : List DeviceNote}
    (other : ∀ note ∈ log, ∀ made, note.group? = some made → made.1 ≠ group) :
    viewsOf group log = [] := by
  have hnone : (log.filterMap Narration.group?).filter (fun made => made.1 = group) = [] := by
    rw [List.filter_eq_nil_iff]
    intro made hmade
    obtain ⟨note, hnote, hgroup⟩ := List.mem_filterMap.mp hmade
    simpa using other note hnote made hgroup
  rw [viewsOf, hnone]
  rfl

namespace SpriteTexture

def Untouched (t : SpriteTexture) (log : List DeviceNote) : Prop :=
  ∀ note ∈ log, note.bound? ≠ some t ∧ ¬ note.Builds t

def Unbuilt (t : SpriteTexture) (log : List DeviceNote) : Prop := ∀ note ∈ log, ¬ note.Builds t

/-- The texture gets this group right when it is bound for the first time, and
no other. -/
def BuiltOnce (t : SpriteTexture) (group : ObjectId .group) (log : List DeviceNote) : Prop :=
  ∃ before after, ∃ p : SpriteProgram,
    log = before ++ .binding t :: .told (p.textureGroupCall t group) :: after
      ∧ t.Untouched before ∧ t.Unbuilt after

theorem Untouched.append {t : SpriteTexture} {xs ys : List DeviceNote} (hxs : t.Untouched xs)
    (hys : t.Untouched ys) : t.Untouched (xs ++ ys) :=
  fun note hnote => (List.mem_append.mp hnote).elim (hxs note) (hys note)

theorem BuiltOnce.append {t : SpriteTexture} {group : ObjectId .group} {xs ys : List DeviceNote}
    (hxs : t.BuiltOnce group xs) (hys : t.Unbuilt ys) : t.BuiltOnce group (xs ++ ys) := by
  obtain ⟨before, after, p, rfl, hbefore, hafter⟩ := hxs
  refine ⟨before, after ++ ys, p, by simp, hbefore, ?_⟩
  intro note hnote
  exact (List.mem_append.mp hnote).elim (hafter note) (hys note)

end SpriteTexture

/-! ## Stretches without a binding -/

/-- A group that was made between two states of a device, of views that were
made there too. -/
structure MadeBetween (d d' : Device) (made : ObjectId .group × List (ObjectId .view)) : Prop where
  group : d.created .group ≤ made.1.number ∧ made.1.number < d'.created .group
  views : ∀ v ∈ made.2, d.created .view ≤ v.number ∧ v.number < d'.created .view

theorem MadeBetween.mono {d d₁ d₂ d' : Device} {made : ObjectId .group × List (ObjectId .view)}
    (h : MadeBetween d₁ d₂ made) (hstart : ∀ kind, d.created kind ≤ d₁.created kind)
    (hend : ∀ kind, d₂.created kind ≤ d'.created kind) : MadeBetween d d' made :=
  ⟨⟨Nat.le_trans (hstart _) h.group.1, Nat.lt_of_lt_of_le h.group.2 (hend _)⟩,
    fun v hv => ⟨Nat.le_trans (hstart _) (h.views v hv).1,
      Nat.lt_of_lt_of_le (h.views v hv).2 (hend _)⟩⟩

/-- What happens to a device where no texture is bound. -/
structure Calm (d d' : Device) (notes : List DeviceNote) : Prop where
  counts : ∀ kind, d.created kind ≤ d'.created kind
  groups : d'.textureGroups = d.textureGroups
  unbound : ∀ note ∈ notes, note.bound? = none
  fresh : ∀ note ∈ notes, ∀ made, note.group? = some made → MadeBetween d d' made

namespace Calm

variable {d d' d'' : Device} {notes notes' : List DeviceNote}

theorem of_notes (hcounts : ∀ kind, d.created kind ≤ d'.created kind)
    (hgroups : d'.textureGroups = d.textureGroups)
    (hnotes : ∀ note ∈ notes, note.bound? = none ∧ note.group? = none) : Calm d d' notes := by
  refine ⟨hcounts, hgroups, fun note hnote => (hnotes note hnote).1, ?_⟩
  intro note hnote made hmade
  rw [(hnotes note hnote).2] at hmade
  cases hmade

theorem nil (d : Device) : Calm d d [] :=
  of_notes (fun _ => Nat.le_refl _) rfl fun _ hnote => absurd hnote List.not_mem_nil

theorem append (h : Calm d d' notes) (h' : Calm d' d'' notes') : Calm d d'' (notes ++ notes') := by
  refine ⟨fun kind => Nat.le_trans (h.counts kind) (h'.counts kind), h'.groups.trans h.groups,
    fun note hnote => (List.mem_append.mp hnote).elim (h.unbound note) (h'.unbound note), ?_⟩
  intro note hnote made hmade
  rcases List.mem_append.mp hnote with hnote | hnote
  · exact (h.fresh note hnote made hmade).mono (fun _ => Nat.le_refl _) h'.counts
  · exact (h'.fresh note hnote made hmade).mono h.counts fun _ => Nat.le_refl _

theorem untouched (h : Calm d d' notes) {t : SpriteTexture}
    (old : t.view.number < d.created .view) : t.Untouched notes := by
  intro note hnote
  refine ⟨?_, ?_⟩
  · rw [h.unbound note hnote]
    exact (Option.some_ne_none t).symm
  · rintro ⟨made, hmade, hview⟩
    have := (h.fresh note hnote made hmade).views _ hview
    omega

theorem viewsOf_eq_nil (h : Calm d d' notes) {group : ObjectId .group}
    (old : group.number < d.created .group) : viewsOf group notes = [] := by
  refine SpriteRenderer.viewsOf_eq_nil fun note hnote made hmade => ?_
  have := (h.fresh note hnote made hmade).group
  rintro rfl
  omega

end Calm

/-- Calm, along effects of the device. -/
def CalmBy (d d' : Device) (events : List (Event GraphicsCall)) : Prop :=
  Calm d d' (events.map .told)

namespace CalmBy

theorem sequential : Effect.Sequential CalmBy where
  refl := Calm.nil
  trans h h' := by
    unfold CalmBy
    rw [List.map_append]
    exact h.append h'

theorem of_events {d d' : Device} {events : List (Event GraphicsCall)}
    (hcounts : ∀ kind, d.created kind ≤ d'.created kind)
    (hgroups : d'.textureGroups = d.textureGroups)
    (hevents : ∀ e ∈ events, Narration.group? (.told e) = none) : CalmBy d d' events := by
  refine .of_notes hcounts hgroups fun note hnote => ?_
  obtain ⟨e, he, rfl⟩ := List.mem_map.mp hnote
  exact ⟨rfl, hevents e he⟩

theorem create (kind : ObjectKind) {call : ObjectId kind → GraphicsCall}
    (hcall : ∀ id, Narration.group? (.told (.call (call id))) = none) :
    (Graphics.create kind call).Keeps CalmBy := by
  refine Effect.keeps_of_run (Graphics.run_create kind call) fun d =>
    of_events (d.created_le_grow kind) rfl fun e he => ?_
  obtain rfl := List.mem_singleton.mp he
  exact hcall _

theorem tell {call : GraphicsCall} (hcall : Narration.group? (.told (.call call)) = none) :
    (Graphics.tell call : Graphics Unit).Keeps CalmBy := by
  refine Effect.keeps_of_run (Graphics.run_tell call) fun d =>
    of_events (fun _ => Nat.le_refl _) rfl fun e he => ?_
  obtain rfl := List.mem_singleton.mp he
  exact hcall

theorem createFilledBuffer (label : String) (usage : Nat) (contents : List UInt8) :
    (Graphics.createFilledBuffer label usage contents).Keeps CalmBy := by
  refine sequential.bind (create .buffer fun _ => rfl) fun buffer => ?_
  dsimp only
  split
  · exact sequential.bind (tell rfl) fun _ => sequential.pure _
  · exact sequential.pure _

theorem createTexture (width height : UInt32) (pixels : List UInt8) :
    (SpriteTexture.create width height pixels).Keeps CalmBy := by
  unfold SpriteTexture.create
  split
  · exact sequential.pure _
  refine sequential.bind (sequential.lift _) fun expected => ?_
  split
  · exact sequential.pure _
  refine sequential.bind (create .texture fun _ => rfl) fun texture => ?_
  refine sequential.bind (sequential.lift _) fun bytesPerRow => ?_
  refine sequential.bind (tell rfl) fun _ => ?_
  exact sequential.bind (create .view fun _ => rfl) fun view => sequential.pure _

/-- The group of the white pixel is made right behind its view. -/
theorem whiteGroup (layout : ObjectId .layout) (sampler : ObjectId .sampler) (d : Device)
    {white : SpriteTexture} {mid : Device} {events : List (Event GraphicsCall)}
    (hwhite : SpriteTexture.white.run d = .ok ⟨.ok white, mid, events⟩) :
    CalmBy d (mid.grow .group) (events ++ [.call (.createBindGroup ⟨mid.created .group⟩
      "drawbatch texture bind group" layout [(0, .view white.view), (1, .sampler sampler)])]) := by
  obtain ⟨description, write, -, -, hrun⟩ := SpriteProgram.run_white d
  rw [hrun] at hwhite
  obtain ⟨rfl, rfl, rfl⟩ : _ = white ∧ _ = mid ∧ _ = events := by simpa using hwhite
  refine ⟨fun kind => ?_, rfl, fun note hnote => ?_, fun note hnote made hmade => ?_⟩
  · exact Nat.le_trans (Nat.le_trans (d.created_le_grow .texture kind)
      (Device.created_le_grow _ .view kind)) (Device.created_le_grow _ .group kind)
  · obtain ⟨e, -, rfl⟩ := List.mem_map.mp hnote
    rfl
  · simp only [List.map_cons, List.map_nil, List.cons_append, List.nil_append, List.mem_cons,
      List.not_mem_nil, or_false] at hnote
    rcases hnote with rfl | rfl | rfl | rfl
    · cases hmade
    · cases hmade
    · cases hmade
    · obtain rfl := Option.some.inj hmade
      exact ⟨by simp [Device.grow], by simp [Device.grow, Resource.view?]⟩

theorem compile (formats : TargetFormats) (source : ShaderSource) :
    (SpriteProgram.compile formats source).Keeps CalmBy := by
  unfold SpriteProgram.compile
  split
  · exact sequential.pure _
  refine sequential.bind (create .shader fun _ => rfl) fun _ => ?_
  refine sequential.bind (create .layout fun _ => rfl) fun globalsLayout => ?_
  refine sequential.bind (create .layout fun _ => rfl) fun textureLayout => ?_
  refine sequential.bind (create .pipelineLayout fun _ => rfl) fun layout => ?_
  refine sequential.bind (create .pipeline fun _ => rfl) fun overPipeline => ?_
  refine sequential.bind (create .pipeline fun _ => rfl) fun additivePipeline => ?_
  refine sequential.bind (create .sampler fun _ => rfl) fun sampler => ?_
  intro d out ran
  obtain ⟨⟨answer, mid, events⟩, last, hwhite, hlast, rfl⟩ := Effect.run_bind_eq_ok_iff.mp ran
  cases answer with
  | error e =>
      obtain rfl := Except.ok.inj hlast
      rw [List.append_nil]
      exact createTexture _ _ _ d _ hwhite
  | ok white =>
      obtain ⟨group, _, hgroup, hpure, rfl⟩ := Effect.run_bind_eq_ok_iff.mp hlast
      obtain rfl := Except.ok.inj hgroup
      obtain rfl := Except.ok.inj hpure
      exact whiteGroup textureLayout sampler d hwhite

theorem createGlobals (p : SpriteProgram) (projection : Projection) :
    (p.createGlobals projection).Keeps CalmBy := by
  refine sequential.bind (createFilledBuffer _ _ _) fun uniform => ?_
  refine Effect.keeps_of_run (Graphics.run_create _ _) fun d =>
    ⟨d.created_le_grow .group, rfl, fun note hnote => ?_, fun note hnote made hmade => ?_⟩
  · obtain rfl := List.mem_singleton.mp hnote
    rfl
  · obtain rfl := List.mem_singleton.mp hnote
    obtain rfl := Option.some.inj hmade
    exact ⟨by simp [Device.grow], by simp [Resource.view?]⟩

theorem encode (description : PassDescription) (calls : List PassCall) :
    (SpritePass.encode description calls).Keeps CalmBy := by
  refine sequential.bind (create .pass fun _ => rfl) fun pass =>
    sequential.bind ?_ fun _ => tell rfl
  refine Effect.keeps_of_run (Effect.run_emitAll _) fun d =>
    of_events (fun _ => Nat.le_refl _) rfl fun e he => ?_
  obtain ⟨call, -, rfl⟩ := List.mem_map.mp he
  rfl

end CalmBy

/-- Calm, along effects on a frame. -/
def SpritePass.CalmOn (s s' : SpritePass) (events : List (Event GraphicsCall)) : Prop :=
  CalmBy s.device s'.device events

namespace SpritePass.CalmOn

theorem sequential : Effect.Sequential CalmOn where
  refl s := Calm.nil s.device
  trans h h' := CalmBy.sequential.trans h h'

theorem onDevice {α : Type} {x : Graphics α} (hx : x.Keeps CalmBy) :
    (SpritePass.onDevice x).Keeps CalmOn := by
  intro s out ran
  obtain ⟨inner, hinner, rfl⟩ := Effect.run_zoom_eq_ok_iff.mp ran
  exact hx _ inner hinner

theorem modify {f : SpritePass → SpritePass} (hdevice : ∀ s, (f s).device = s.device) :
    (Effect.modify f).Keeps CalmOn := by
  refine Effect.keeps_of_run (Effect.run_modify f) fun s => ?_
  show CalmBy s.device (f s).device []
  rw [hdevice s]
  exact Calm.nil _

theorem release : SpritePass.release.Keeps CalmOn := by
  refine Effect.keeps_get_bind fun s => ?_
  refine sequential.bindFrom (x := Effect.set _) ?_ fun mid _ => ?_
  · intro out ran
    obtain rfl := Except.ok.inj ran
    exact Calm.nil _
  · split
    · refine onDevice ?_ _
      unfold SpritePass.encodeBatches
      split
      · exact CalmBy.sequential.bind (CalmBy.sequential.lift _) fun _ => CalmBy.encode _ _
      · exact CalmBy.sequential.pure _
    · exact sequential.pure _ _

/-- Around the drawing commands a frame is calm. -/
theorem perform {command : Command SpriteProgram SpriteTexture}
    (other : ∀ c, command ≠ .drawing c) : (SpritePass.backend.perform command).Keeps CalmOn := by
  cases command with
  | stencilTest on =>
      show (if on then Graphics.log SpritePass.stencilIgnored else pure ()).Keeps CalmOn
      split
      · refine Effect.keeps_of_run (Effect.run_emit _) fun s =>
          CalmBy.of_events (fun _ => Nat.le_refl _) rfl fun e he => ?_
        obtain rfl := List.mem_singleton.mp he
        rfl
      · exact sequential.pure _
  | scissorTest on => exact modify fun _ => rfl
  | clear color stencil =>
      exact Effect.keeps_get_bind fun s => onDevice (CalmBy.encode _ _) s
  | useProgram p projection =>
      exact sequential.bind (onDevice (CalmBy.createGlobals p projection)) fun _ =>
        modify fun _ => rfl
  | drawing command => exact absurd rfl (other command)
  | releaseGeometry => exact release

theorem compile (source : ShaderSource) : (SpritePass.backend.compile source).Keeps CalmOn :=
  Effect.keeps_get_bind fun s => onDevice (CalmBy.compile _ _) s

theorem upload (vertices : List Vertex) (indices : List UInt16) :
    (SpritePass.backend.upload vertices indices).Keeps CalmOn := by
  refine sequential.bind (onDevice (CalmBy.createFilledBuffer _ _ _)) fun vertexBuffer => ?_
  refine sequential.bind (onDevice (CalmBy.createFilledBuffer _ _ _)) fun indexBuffer => ?_
  exact sequential.bind (modify fun _ => rfl) fun _ => sequential.pure _

end SpritePass.CalmOn

/-- Calm, along narrated effects on a frame. -/
def SpritePass.CalmStory (s s' : SpritePass) (notes : List DeviceNote) : Prop :=
  Calm s.device s'.device notes

namespace SpritePass.CalmStory

theorem sequential : Effect.Sequential CalmStory where
  refl s := Calm.nil s.device
  trans h h' := h.append h'

theorem said {call : Call SpriteProgram SpriteTexture}
    (unbound : Narration.bound? (.said call) = none) :
    (Effect.emit (.said call) : Effect DeviceNote SpritePass Unit).Keeps CalmStory := by
  refine Effect.keeps_of_run (Effect.run_emit _) fun s =>
    .of_notes (fun _ => Nat.le_refl _) rfl fun note hnote => ?_
  obtain rfl := List.mem_singleton.mp hnote
  exact ⟨unbound, rfl⟩

theorem perform {command : Command SpriteProgram SpriteTexture}
    (other : ∀ c, command ≠ .drawing c) :
    (SpritePass.backend.narrated.perform command).Keeps CalmStory := by
  refine sequential.bind (said ?_) fun _ => (CalmOn.perform other).mapEvents
  cases command with
  | drawing command => exact absurd rfl (other command)
  | stencilTest _ | scissorTest _ | clear _ _ | useProgram _ _ | releaseGeometry => rfl

theorem upload (vertices : List Vertex) (indices : List UInt16) :
    (SpritePass.backend.narrated.upload vertices indices).Keeps CalmStory :=
  sequential.bind (CalmOn.upload vertices indices).mapEvents fun _ =>
    sequential.bind (said rfl) fun _ => sequential.pure _

theorem header {r : DeviceRenderer} {command : Command SpriteProgram SpriteTexture}
    (hcommand : command ∈ r.header) :
    (SpritePass.backend.narrated.perform command).Keeps CalmStory := by
  refine perform ?_
  rintro c rfl
  simp [Renderer.header] at hcommand

theorem prepare (r : DeviceRenderer) :
    (r.prepare SpritePass.backend.narrated).Keeps CalmStory :=
  Renderer.keeps_prepare sequential (fun _ => header) fun source =>
    sequential.bind (said rfl) fun _ => (CalmOn.compile source).mapEvents

end SpritePass.CalmStory

/-! ## Bindings -/

/-- The device after a texture is bound, and the call this takes, if any. -/
def SpriteProgram.bindOn (p : SpriteProgram) (d : Device) (t : SpriteTexture) :
    Device × List (Event GraphicsCall) :=
  match d.groupOf? t.texture with
  | some _ => (d, [])
  | none =>
      ((d.grow .group).withGroup t.texture ⟨d.created .group⟩,
        [p.textureGroupCall t ⟨d.created .group⟩])

theorem SpriteProgram.exists_run_bindOn (p : SpriteProgram) (d : Device) (t : SpriteTexture) :
    ∃ g, (p.textureGroup t).run d = .ok ⟨g, (p.bindOn d t).1, (p.bindOn d t).2⟩ := by
  unfold textureGroup bindOn
  cases hg : d.groupOf? t.texture with
  | some g => exact ⟨g, by simp [hg]⟩
  | none =>
      exact ⟨⟨d.created .group⟩, by
        simp [hg, createTextureGroup, textureGroupCall, Device.withGroup]⟩

/-- A drawing command binds a texture, or leaves the device alone. -/
theorem SpritePass.drawing_cases {p : SpriteProgram} {s : SpritePass}
    {command : DrawCommand SpriteTexture} {out : Ran (Event GraphicsCall) SpritePass Unit}
    (programmed : s.program = some p) (ran : (performDrawing command).run s = .ok out) :
    out.state.program = some p
      ∧ ((∃ t, command = .bindTexture (some t) ∧ out.state.device = (p.bindOn s.device t).1
          ∧ out.events = (p.bindOn s.device t).2)
        ∨ (∀ t, command ≠ .bindTexture (some t)) ∧ out.state.device = s.device
          ∧ out.events = []) := by
  cases command with
  | scissorRect clip =>
      obtain rfl := Except.ok.inj ran
      refine ⟨?_, Or.inr ⟨by simp, ?_, rfl⟩⟩
      · dsimp only
        split <;> exact programmed
      · dsimp only
        split <;> rfl
  | bindTexture texture =>
      cases texture with
      | none =>
          have hgroup : (onDevice (groupFor p none)).run s = .ok ⟨p.defaultGroup, s, []⟩ := rfl
          simp only [performDrawing, Effect.run_bind, Effect.run_get, programmed, hgroup,
            Effect.run_modify] at ran
          obtain rfl := Except.ok.inj ran
          exact ⟨programmed, Or.inr ⟨by simp, rfl, rfl⟩⟩
      | some t =>
          obtain ⟨g, hrun⟩ := p.exists_run_bindOn s.device t
          have hgroup := run_onDevice_of_ok (s := s) (x := groupFor p (some t)) hrun
          simp only [performDrawing, Effect.run_bind, Effect.run_get, programmed, hgroup,
            Effect.run_modify] at ran
          obtain rfl := Except.ok.inj ran
          exact ⟨rfl, Or.inl ⟨t, rfl, rfl, by simp⟩⟩
  | blend func =>
      obtain rfl := Except.ok.inj ran
      exact ⟨programmed, Or.inr ⟨by simp, rfl, rfl⟩⟩
  | draw first count =>
      obtain ⟨mid, last, hlift, hnote, rfl⟩ := Effect.run_bind_eq_ok_iff.mp ran
      obtain ⟨stop, -, rfl⟩ := Effect.run_lift_eq_ok_iff.mp hlift
      obtain rfl := Except.ok.inj hnote
      exact ⟨programmed, Or.inr ⟨by simp, rfl, rfl⟩⟩

theorem SpritePass.CalmStory.opening {p : SpriteProgram} {projection : Projection} {test : Bool}
    {s : SpritePass} {out : Ran DeviceNote SpritePass Unit}
    (ran : (backend.narrated.performAll ([.useProgram p projection]
      ++ if test then [.scissorTest true] else [])).run s = .ok out) :
    CalmStory s out.state out.events ∧ out.state.program = some p := by
  constructor
  · refine Backend.keeps_performAll sequential (fun command hcommand => perform ?_) s out ran
    rintro c rfl
    cases test <;> simp at hcommand
  · obtain ⟨mid, last, huse, hswitch, rfl⟩ := Effect.run_bind_eq_ok_iff.mp ran
    obtain ⟨inner, hinner, rfl⟩ := Backend.run_perform_narrated_eq_ok_iff.mp huse
    obtain ⟨_, _, -, hmodify, rfl⟩ := Effect.run_bind_eq_ok_iff.mp hinner
    obtain rfl := Except.ok.inj hmodify
    cases test with
    | false =>
        obtain rfl := Except.ok.inj hswitch
        rfl
    | true =>
        obtain ⟨mid', last', hswitched, hpure, rfl⟩ := Effect.run_bind_eq_ok_iff.mp hswitch
        obtain ⟨inner', hinner', rfl⟩ := Backend.run_perform_narrated_eq_ok_iff.mp hswitched
        obtain rfl := Except.ok.inj hinner'
        obtain rfl := Except.ok.inj hpure
        rfl

/-! ## The books -/

/-- Groups are only kept for textures that exist. -/
def Device.Tidy (d : Device) : Prop :=
  ∀ t g, d.groupOf? t = some g → t.number < d.created .texture

/-- What the log has to do with a device on which the given textures were made. -/
structure Books (made : List SpriteTexture) (d : Device) (log : List DeviceNote) : Prop where
  numbered : ∀ t ∈ made, t.texture.number < d.created .texture ∧ t.view.number < d.created .view
  distinct : made.Pairwise fun t t' => t.texture ≠ t'.texture ∧ t.view ≠ t'.view
  tidy : d.Tidy
  groups : ∀ note ∈ log, ∀ x, note.group? = some x →
    x.1.number < d.created .group ∧ ∀ v ∈ x.2, v.number < d.created .view
  bound : ∀ note ∈ log, ∀ t, note.bound? = some t → t ∈ made
  untouched : ∀ t ∈ made, d.groupOf? t.texture = none → t.Untouched log
  built : ∀ t ∈ made, ∀ g, d.groupOf? t.texture = some g →
    t.BuiltOnce g log ∧ viewsOf g log = [t.view]

namespace Books

variable {made : List SpriteTexture} {d d' : Device} {log notes : List DeviceNote}
  {t t' : SpriteTexture} {p : SpriteProgram}

theorem start (tidy : d.Tidy) : Books [] d [] where
  numbered := by simp
  distinct := .nil
  tidy := tidy
  groups := by simp
  bound := by simp
  untouched := by simp
  built := by simp

theorem ne_of_ne (books : Books made d log) (ht : t ∈ made) (ht' : t' ∈ made) (hne : t ≠ t') :
    t.texture ≠ t'.texture ∧ t.view ≠ t'.view := by
  have hsymm : Std.Symm fun t t' : SpriteTexture => t.texture ≠ t'.texture ∧ t.view ≠ t'.view :=
    ⟨fun _ _ h => ⟨h.1.symm, h.2.symm⟩⟩
  exact books.distinct.forall ht ht' hne

/-- A group that a texture has is one that was made. -/
theorem group_lt (books : Books made d log) (ht : t ∈ made) {g : ObjectId .group}
    (hg : d.groupOf? t.texture = some g) : g.number < d.created .group := by
  have hviews := (books.built t ht g hg).2
  by_contra hlt
  have hnil : viewsOf g log = [] := by
    refine viewsOf_eq_nil fun note hnote x hx => ?_
    rintro rfl
    exact hlt (books.groups note hnote x hx).1
  rw [hnil] at hviews
  cases hviews

theorem calm (books : Books made d log) (h : Calm d d' notes) : Books made d' (log ++ notes) := by
  have hsame := Device.groupOf?_congr h.groups
  refine ⟨fun t ht => ?_, books.distinct, fun t g hg => ?_, fun note hnote x hx => ?_,
    fun note hnote t ht => ?_, fun t ht hnone => ?_, fun t ht g hg => ?_⟩
  · have hnumbers := books.numbered t ht
    exact ⟨Nat.lt_of_lt_of_le hnumbers.1 (h.counts _), Nat.lt_of_lt_of_le hnumbers.2 (h.counts _)⟩
  · rw [hsame] at hg
    exact Nat.lt_of_lt_of_le (books.tidy t g hg) (h.counts _)
  · rcases List.mem_append.mp hnote with hnote | hnote
    · obtain ⟨hgroup, hviews⟩ := books.groups note hnote x hx
      exact ⟨Nat.lt_of_lt_of_le hgroup (h.counts _),
        fun v hv => Nat.lt_of_lt_of_le (hviews v hv) (h.counts _)⟩
    · have between := h.fresh note hnote x hx
      exact ⟨between.group.2, fun v hv => (between.views v hv).2⟩
  · rcases List.mem_append.mp hnote with hnote | hnote
    · exact books.bound note hnote t ht
    · rw [h.unbound note hnote] at ht
      cases ht
  · rw [hsame] at hnone
    exact (books.untouched t ht hnone).append (h.untouched (books.numbered t ht).2)
  · rw [hsame] at hg
    obtain ⟨hbuilt, hviews⟩ := books.built t ht g hg
    refine ⟨hbuilt.append fun note hnote => (h.untouched (books.numbered t ht).2 note hnote).2, ?_⟩
    rw [viewsOf_append, h.viewsOf_eq_nil (books.group_lt ht hg), List.append_nil, hviews]

/-- A texture that is made is new to everything. -/
theorem make (books : Books made d log) (h : Calm d d' notes)
    (hnotes : ∀ note ∈ notes, note.group? = none)
    (htexture : d.created .texture ≤ t.texture.number ∧ t.texture.number < d'.created .texture)
    (hview : d.created .view ≤ t.view.number ∧ t.view.number < d'.created .view) :
    Books (made ++ [t]) d' (log ++ notes) := by
  have after := books.calm h
  have hunknown : d'.groupOf? t.texture = none := by
    rw [Device.groupOf?_congr h.groups]
    cases hg : d.groupOf? t.texture with
    | none => rfl
    | some g =>
        have := books.tidy _ g hg
        omega
  refine ⟨fun t' ht' => ?_, ?_, after.tidy, after.groups,
    fun note hnote t' ht' => List.mem_append_left _ (after.bound note hnote t' ht'),
    fun t' ht' hnone => ?_, fun t' ht' g hg => ?_⟩
  · rcases List.mem_append.mp ht' with ht' | ht'
    · exact after.numbered t' ht'
    · obtain rfl := List.mem_singleton.mp ht'
      exact ⟨htexture.2, hview.2⟩
  · refine List.pairwise_append.mpr ⟨books.distinct, List.pairwise_singleton _ _, ?_⟩
    intro t₁ ht₁ t₂ ht₂
    obtain rfl := List.mem_singleton.mp ht₂
    have hnumbers := books.numbered t₁ ht₁
    refine ⟨fun heq => ?_, fun heq => ?_⟩
    · rw [heq] at hnumbers
      omega
    · rw [heq] at hnumbers
      omega
  · rcases List.mem_append.mp ht' with ht' | ht'
    · exact after.untouched t' ht' hnone
    · obtain rfl := List.mem_singleton.mp ht'
      intro note hnote
      refine ⟨fun hbound => ?_, ?_⟩
      · rcases List.mem_append.mp hnote with hnote | hnote
        · have hold := (books.numbered t' (books.bound note hnote t' hbound)).2
          omega
        · rw [h.unbound note hnote] at hbound
          cases hbound
      · rintro ⟨x, hx, hmem⟩
        rcases List.mem_append.mp hnote with hnote | hnote
        · have hold := (books.groups note hnote x hx).2 _ hmem
          omega
        · rw [hnotes note hnote] at hx
          cases hx
  · rcases List.mem_append.mp ht' with ht' | ht'
    · exact after.built t' ht' g hg
    · obtain rfl := List.mem_singleton.mp ht'
      rw [hunknown] at hg
      cases hg

/-- A texture that has its group is bound once more. -/
theorem bind_again (books : Books made d log) (ht : t ∈ made) {g : ObjectId .group}
    (hg : d.groupOf? t.texture = some g) : Books made d (log ++ [.binding t]) := by
  refine ⟨books.numbered, books.distinct, books.tidy, fun note hnote x hx => ?_,
    fun note hnote t' ht' => ?_, fun t' ht' hnone => ?_, fun t' ht' g' hg' => ?_⟩
  · rcases List.mem_append.mp hnote with hnote | hnote
    · exact books.groups note hnote x hx
    · obtain rfl := List.mem_singleton.mp hnote
      cases hx
  · rcases List.mem_append.mp hnote with hnote | hnote
    · exact books.bound note hnote t' ht'
    · obtain rfl := List.mem_singleton.mp hnote
      obtain rfl := Option.some.inj ht'
      exact ht
  · refine (books.untouched t' ht' hnone).append fun note hnote => ?_
    obtain rfl := List.mem_singleton.mp hnote
    refine ⟨fun hbound => ?_, Narration.not_builds_binding t' t⟩
    obtain rfl := Option.some.inj hbound
    rw [hg] at hnone
    cases hnone
  · obtain ⟨hbuilt, hviews⟩ := books.built t' ht' g' hg'
    refine ⟨hbuilt.append fun note hnote => ?_, ?_⟩
    · obtain rfl := List.mem_singleton.mp hnote
      exact Narration.not_builds_binding t' t
    · rw [viewsOf_append, hviews]
      rfl

/-- A texture without a group gets one when it is bound. -/
theorem bind_first (books : Books made d log) (ht : t ∈ made)
    (hnone : d.groupOf? t.texture = none) (p : SpriteProgram) :
    Books made ((d.grow .group).withGroup t.texture ⟨d.created .group⟩)
      (log ++ [.binding t, .told (p.textureGroupCall t ⟨d.created .group⟩)]) := by
  have hlookup : ∀ t', ((d.grow .group).withGroup t.texture ⟨d.created .group⟩).groupOf? t'
      = if t' = t.texture then some ⟨d.created .group⟩ else d.groupOf? t' := by
    intro t'
    rw [Device.groupOf?_withGroup, Device.groupOf?_congr (d.grow_textureGroups .group)]
  refine ⟨books.numbered, books.distinct, fun t' g hg => ?_, fun note hnote x hx => ?_,
    fun note hnote t' ht' => ?_, fun t' ht' hnone' => ?_, fun t' ht' g hg => ?_⟩
  · rw [hlookup] at hg
    split at hg
    · next heq =>
        rw [heq]
        exact (books.numbered t ht).1
    · exact books.tidy t' g hg
  · show x.1.number < d.created .group + 1 ∧ ∀ v ∈ x.2, v.number < d.created .view
    rcases List.mem_append.mp hnote with hnote | hnote
    · obtain ⟨hgroup, hviews⟩ := books.groups note hnote x hx
      exact ⟨Nat.lt_succ_of_lt hgroup, hviews⟩
    · rcases List.mem_pair.mp hnote with rfl | rfl
      · cases hx
      · obtain rfl := Option.some.inj hx
        refine ⟨Nat.lt_succ_self _, fun v hv => ?_⟩
        obtain rfl := List.mem_singleton.mp hv
        exact (books.numbered t ht).2
  · rcases List.mem_append.mp hnote with hnote | hnote
    · exact books.bound note hnote t' ht'
    · rcases List.mem_pair.mp hnote with rfl | rfl
      · obtain rfl := Option.some.inj ht'
        exact ht
      · cases ht'
  · rw [hlookup] at hnone'
    split at hnone'
    · cases hnone'
    · next hother =>
        have hne : t' ≠ t := fun heq => hother (congrArg SpriteTexture.texture heq)
        refine (books.untouched t' ht' hnone').append fun note hnote => ?_
        rcases List.mem_pair.mp hnote with rfl | rfl
        · exact ⟨fun hbound => hne (Option.some.inj hbound).symm,
            Narration.not_builds_binding t' t⟩
        · exact ⟨(Option.some_ne_none t').symm,
            mt Narration.builds_textureGroupCall.mp (books.ne_of_ne ht' ht hne).2⟩
  · rw [hlookup] at hg
    by_cases heq : t' = t
    · subst heq
      obtain rfl : (⟨d.created .group⟩ : ObjectId .group) = g := by simpa using hg
      refine ⟨⟨log, [], p, rfl, books.untouched t' ht hnone,
        fun _ hnote => absurd hnote List.not_mem_nil⟩, ?_⟩
      have hold : viewsOf ⟨d.created .group⟩ log = [] := by
        refine viewsOf_eq_nil fun note hnote x hx heq => ?_
        have hlt := (books.groups note hnote x hx).1
        rw [heq] at hlt
        exact Nat.lt_irrefl _ hlt
      have hnew : List.filterMap Narration.group?
          [.binding t', .told (p.textureGroupCall t' ⟨d.created .group⟩)]
          = [(⟨d.created .group⟩, [t'.view])] := rfl
      rw [viewsOf_append, hold, viewsOf, hnew]
      simp
    · obtain ⟨hother, hview⟩ := books.ne_of_ne ht' ht heq
      rw [if_neg hother] at hg
      obtain ⟨hbuilt, hviews⟩ := books.built t' ht' g hg
      refine ⟨hbuilt.append fun note hnote => ?_, ?_⟩
      · rcases List.mem_pair.mp hnote with rfl | rfl
        · exact Narration.not_builds_binding t' t
        · exact mt Narration.builds_textureGroupCall.mp hview
      · have hnew : viewsOf g
            [.binding t, .told (p.textureGroupCall t ⟨d.created .group⟩)] = [] := by
          refine viewsOf_eq_nil fun note hnote x hx heq => ?_
          have hlt := books.group_lt ht' hg
          rcases List.mem_pair.mp hnote with rfl | rfl
          · cases hx
          · obtain rfl := Option.some.inj hx
            rw [← heq] at hlt
            exact Nat.lt_irrefl _ hlt
        rw [viewsOf_append, hnew, hviews]
        rfl

theorem bind (books : Books made d log) (ht : t ∈ made) (p : SpriteProgram) :
    Books made (p.bindOn d t).1 (log ++ .binding t :: (p.bindOn d t).2.map .told) := by
  unfold SpriteProgram.bindOn
  cases hg : d.groupOf? t.texture with
  | some g => exact books.bind_again ht hg
  | none => exact books.bind_first ht hg p

/-! ## The books over a frame -/

theorem drawing {s : SpritePass} {commands : List (DrawCommand SpriteTexture)}
    {out : Ran DeviceNote SpritePass Unit} (books : Books made s.device log)
    (programmed : s.program = some p) (owned : ∀ t, SpritePass.Binds commands t → t ∈ made)
    (ran : (SpritePass.backend.narrated.performAll (commands.map .drawing)).run s = .ok out) :
    Books made out.state.device (log ++ out.events) := by
  induction commands generalizing s log out with
  | nil =>
      obtain rfl := Except.ok.inj ran
      rwa [List.append_nil]
  | cons command rest ih =>
      obtain ⟨mid, last, hcommand, hrest, rfl⟩ := Effect.run_bind_eq_ok_iff.mp ran
      obtain ⟨inner, hinner, rfl⟩ := Backend.run_perform_narrated_eq_ok_iff.mp hcommand
      obtain ⟨programmed', hcases⟩ := SpritePass.drawing_cases programmed hinner
      rw [← List.append_assoc]
      refine ih ?_ programmed' (fun t ht => owned t (List.mem_cons_of_mem _ ht)) hrest
      rcases hcases with ⟨t, rfl, hdevice, hevents⟩ | ⟨hother, hdevice, hevents⟩
      · rw [hdevice, hevents]
        exact books.bind (owned t List.mem_cons_self) p
      · refine books.calm (.of_notes (fun kind => ?_) ?_ fun note hnote => ?_)
        · rw [hdevice]
        · rw [hdevice]
        · rw [hevents] at hnote
          obtain rfl := List.mem_singleton.mp hnote
          cases command with
          | bindTexture texture =>
              cases texture with
              | none => exact ⟨rfl, rfl⟩
              | some t => exact absurd rfl (hother t)
          | scissorRect _ | blend _ | draw _ _ => exact ⟨rfl, rfl⟩

theorem body {s : SpritePass} {r : DeviceRenderer} {viewport : Viewport}
    {commands : List (DrawCommand SpriteTexture)} {out : Ran DeviceNote SpritePass Unit}
    (books : Books made s.device log) (owned : ∀ t, SpritePass.Binds commands t → t ∈ made)
    (ran : (SpritePass.backend.narrated.performAll (r.body p viewport commands)).run s = .ok out) :
    Books made out.state.device (log ++ out.events) := by
  rw [Renderer.body, Backend.performAll_append, Backend.performAll_append] at ran
  obtain ⟨mid, last, hbefore, hrelease, rfl⟩ := Effect.run_bind_eq_ok_iff.mp ran
  obtain ⟨first, drawn, hopening, hdrawing, rfl⟩ := Effect.run_bind_eq_ok_iff.mp hbefore
  obtain ⟨calm, programmed⟩ := SpritePass.CalmStory.opening hopening
  have released : SpritePass.CalmStory drawn.state last.state last.events :=
    Backend.keeps_performAll SpritePass.CalmStory.sequential
      (fun command hcommand => SpritePass.CalmStory.perform (by
        rintro c rfl
        simp at hcommand)) _ last hrelease
  have hbooks := ((books.calm calm).drawing programmed owned hdrawing).calm released
  simpa only [List.append_assoc] using hbooks

/-- A frame binds what its pool holds. -/
theorem frame {r : DeviceRenderer} {target : RenderTarget} {data : FrameData}
    {out : Ran DeviceNote SpritePass (Renderer.FrameRun SpriteProgram SpriteTexture)}
    (books : Books made d log) (owned : ∀ h t, r.textures.get? h = some t → t ∈ made)
    (heard : (Renderer.renderFrame SpritePass.backend.narrated r data).run (.start d target)
      = .ok out) :
    Books made out.state.device (log ++ out.events) := by
  cases Renderer.frameCourse_of_run heard with
  | empty _ cleared =>
      exact books.calm (Backend.keeps_performAll SpritePass.CalmStory.sequential
        (fun _ => SpritePass.CalmStory.header) _ _ cleared)
  | unprogrammed _ prepared _ => exact books.calm (SpritePass.CalmStory.prepare r _ _ prepared)
  | rejected _ prepared _ _ => exact books.calm (SpritePass.CalmStory.prepare r _ _ prepared)
  | refused _ prepared _ _ uploaded released =>
      have hrelease := SpritePass.CalmStory.perform (by simp) _ _ released
      exact books.calm ((SpritePass.CalmStory.prepare r _ _ prepared).append
        ((SpritePass.CalmStory.upload _ _ _ _ uploaded).append hrelease))
  | drawn _ prepared _ accepted uploaded executed performed =>
      have before := (SpritePass.CalmStory.prepare r _ _ prepared).append
        (SpritePass.CalmStory.upload _ _ _ _ uploaded)
      have hbooks := (books.calm before).body (fun t ht => ?_) performed
      · simpa only [List.append_assoc] using hbooks
      · obtain ⟨b, -, -, htexture⟩ := Renderer.textureOf_of_bindTexture accepted executed ht
        unfold DrawContext.textureOf at htexture
        split at htexture
        · cases htexture
        · exact owned _ t htexture

end Books

end SpriteRenderer

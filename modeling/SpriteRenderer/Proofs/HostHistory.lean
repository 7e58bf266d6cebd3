import SpriteRenderer.Proofs.HostCourse

/-!
# Histories of a host

A `History` is any number of steps of the platform, each with the states
around it. Every run of `playAll` has one (`exists_history`), any of its steps
divides it in two (`History.splitAt`), each of them took one of the courses
(`History.course`), and what every step keeps stays (`History.kept`).

A host has no faults but those of its app, so an app that always answers can
be run through any list of steps (`exists_playAll`).
-/

namespace SpriteRenderer

/-! ## Histories -/

/-- One step of a run, with the states around it. -/
structure HostTurn (α : Type) where
  step : HostStep
  before : HostState α
  events : List (Event HostCall)
  after : HostState α

namespace Host

variable {α : Type} {h : Host α}

/-- What has happened to a host, step by step, and where it is now. -/
inductive History (h : Host α) (s₀ : HostState α) : List (HostTurn α) → HostState α → Prop
  | start : History h s₀ [] s₀
  | turn {log : List (HostTurn α)} {s s' : HostState α} {step : HostStep}
      {events : List (Event HostCall)} (before : History h s₀ log s)
      (played : (h.play step).run s = .ok ⟨(), s', events⟩) :
      History h s₀ (log ++ [⟨step, s, events, s'⟩]) s'

theorem exists_later {s₀ s : HostState α} {log : List (HostTurn α)} {steps : List HostStep}
    {events : List (List (Event HostCall))} {last : HostState α} (before : History h s₀ log s)
    (played : h.playAll steps s = .ok (events, last)) :
    ∃ later, History h s₀ (log ++ later) last ∧ later.map HostTurn.step = steps
      ∧ later.map HostTurn.events = events := by
  induction steps generalizing log s events with
  | nil =>
      obtain ⟨rfl, rfl⟩ := Prod.mk.inj (Except.ok.inj played)
      exact ⟨[], by simpa using before, rfl, rfl⟩
  | cons step rest ih =>
      unfold playAll at played
      obtain ⟨⟨_, s', here⟩, hstep, hrest⟩ := except_bind_eq_ok_iff.mp played
      obtain ⟨⟨others, _⟩, hothers, hpure⟩ := except_bind_eq_ok_iff.mp hrest
      obtain ⟨rfl, rfl⟩ := Prod.mk.inj (Except.ok.inj hpure)
      obtain ⟨later, history, rfl, rfl⟩ := ih (before.turn hstep) hothers
      refine ⟨⟨step, s, here, s'⟩ :: later, ?_, rfl, rfl⟩
      rw [List.append_assoc] at history
      exact history

/-- Every run has a history. -/
theorem exists_history {s₀ : HostState α} {steps : List HostStep}
    {events : List (List (Event HostCall))} {last : HostState α}
    (played : h.playAll steps s₀ = .ok (events, last)) :
    ∃ log, History h s₀ log last ∧ log.map HostTurn.step = steps
      ∧ log.map HostTurn.events = events :=
  exists_later .start played

/-- Any step of a history divides it into a history before and one after. -/
theorem History.splitAt {s₀ s : HostState α} {log earlier later : List (HostTurn α)}
    {x : HostTurn α} (history : History h s₀ log s) (split : log = earlier ++ x :: later) :
    History h s₀ earlier x.before
      ∧ (h.play x.step).run x.before = .ok ⟨(), x.after, x.events⟩
      ∧ History h x.after later s := by
  induction history generalizing later with
  | start => simp at split
  | @turn log s s' step events before played ih =>
      rcases snoc_eq_append_cons split with ⟨rfl, rfl, rfl⟩ | ⟨between, rfl, hlog⟩
      · exact ⟨before, played, .start⟩
      · obtain ⟨hearlier, hx, hbetween⟩ := ih hlog
        exact ⟨hearlier, hx, hbetween.turn played⟩

/-- The first part of a history is a history. -/
theorem History.left {s₀ s : HostState α} {log later : List (HostTurn α)}
    (history : History h s₀ (log ++ later) s) : ∃ mid, History h s₀ log mid := by
  cases later with
  | nil => exact ⟨s, by simpa using history⟩
  | cons x later => exact ⟨x.before, (history.splitAt rfl).1⟩

theorem History.course {s₀ s : HostState α} {log : List (HostTurn α)}
    (history : History h s₀ log s) {x : HostTurn α} (hx : x ∈ log) :
    TurnCourse h x.before x.step (signals x.events) x.after := by
  obtain ⟨earlier, later, split⟩ := List.append_of_mem hx
  exact turnCourse_of_run (history.splitAt split).2.1

/-- What every step keeps stays. -/
theorem History.kept {P : HostState α → Prop} {s₀ s : HostState α} {log : List (HostTurn α)}
    (history : History h s₀ log s) (step : ∀ x ∈ log, P x.before → P x.after) (hstart : P s₀) :
    (∀ y ∈ log, P y.before) ∧ P s := by
  induction history with
  | start => exact ⟨fun _ hmem => absurd hmem List.not_mem_nil, hstart⟩
  | turn before played ih =>
      obtain ⟨hlog, hnow⟩ := ih fun z hz => step z (List.mem_append_left _ hz)
      refine ⟨?_, step _ (List.mem_append_right _ List.mem_cons_self) hnow⟩
      intro z hz
      rcases List.mem_append.mp hz with hz | hz
      · exact hlog z hz
      · obtain rfl := List.mem_singleton.mp hz
        exact hnow

end Host

/-! ## Faults -/

/-- An app that answers whenever it is called. -/
structure App.Responds {α : Type} (app : App α) : Prop where
  init : ∀ gpu a, (app.init gpu a).Total
  render : ∀ c a, (app.render c a).Total

namespace Host

variable {α β : Type} {h : Host α}

theorem total_tell (call : HostCall) : (tell call : Hosting α Unit).Total :=
  Effect.total_emit _

theorem total_request (r : PlatformRequest) : (request r : Hosting α (Option Failure)).Total :=
  Effect.total_get.bind fun _ => Effect.total_pure _

theorem total_readClock : (readClock : Hosting α Int).Total :=
  (Effect.total_modify _).bind fun _ => Effect.total_get.bind fun _ => Effect.total_pure _

theorem total_settle (outcome : Outcome) : (settle outcome : Hosting α Bool).Total :=
  fun s => ⟨_, run_settle outcome s⟩

theorem total_onScreen {x : OnScreen β} (hx : x.Total) : (onScreen x : Hosting α β).Total :=
  (hx.mapEvents _).zoom _ _

theorem total_onDevice {x : Graphics β} (hx : x.Total) : (onDevice x : Hosting α β).Total :=
  total_onScreen ((hx.mapEvents _).zoom _ _)

theorem total_abandonSurface (f : Failure) :
    (abandonSurface f : Hosting α (Except Failure β)).Total :=
  (total_tell _).bind fun _ => Effect.total_pure _

theorem total_closeWindow : (closeWindow : Hosting α Unit).Total :=
  (total_tell _).bind fun _ => total_tell _

theorem total_attachGpu : h.attachGpu.Total := by
  refine Effect.total_get.bind fun s => ?_
  dsimp only
  split
  · exact Effect.total_pure _
  refine (total_tell _).bind fun _ => (total_request _).bind fun _ => ?_
  split
  · exact Effect.total_pure _
  refine (total_tell _).bind fun _ => (total_request _).bind fun _ => ?_
  split
  · exact total_abandonSurface _
  refine (Effect.total_emit _).bind fun _ => (total_tell _).bind fun _ =>
    (total_request _).bind fun _ => ?_
  split
  · exact total_abandonSurface _
  split
  · exact total_abandonSurface _
  · have hattach : ∀ config, (GpuContext.attach config h.options.stencilFormat).Total :=
      fun config => GpuContext.exists_run_attach config _
    exact (total_onDevice (hattach _)).bind fun _ => Effect.total_pure _

theorem total_openWindow (responds : h.app.Responds) : h.openWindow.Total := by
  refine (total_tell _).bind fun _ => (total_request _).bind fun _ => ?_
  split
  · exact Effect.total_pure _
  refine Effect.total_get.bind fun s => (Effect.total_modify _).bind fun _ =>
    total_readClock.bind fun _ => total_attachGpu.bind fun attached => ?_
  split
  · exact (total_tell _).bind fun _ => Effect.total_pure _
  · have hinit : ∀ gpu, (h.initApp gpu).Total := fun gpu =>
      (total_tell _).bind fun _ => Effect.total_get.bind fun s =>
        (total_onDevice (responds.init gpu s.app)).bind fun _ =>
          (Effect.total_modify _).bind fun _ => Effect.total_pure _
    refine (hinit _).bind fun prepared => ?_
    split
    · exact total_closeWindow.bind fun _ => Effect.total_pure _
    · exact total_readClock.bind fun _ => Effect.total_pure _

theorem total_redraw (responds : h.app.Responds) : h.redraw.Total := by
  refine Effect.total_get.bind fun s => ?_
  split
  · exact Effect.total_pure _
  refine total_readClock.bind fun now => (Effect.total_modify _).bind fun _ =>
    (total_tell _).bind fun _ => Effect.total_get.bind fun s => ?_
  dsimp only
  refine (Effect.total_modify _).bind fun _ => ?_
  split
  · exact Effect.total_pure _
  · exact (total_tell _).bind fun _ => (total_onScreen (responds.render _ _)).bind fun _ =>
      (Effect.total_modify _).bind fun _ => Effect.total_pure _

theorem total_resizeTo (w : OpenWindow) (size : PixelSize) :
    (resizeTo w size : Hosting α Unit).Total :=
  (total_onDevice (w.gpu.exists_run_resize size)).bind fun _ =>
    (Effect.total_modify _).bind fun _ => total_tell _

theorem total_respond (responds : h.app.Responds) (w : OpenWindow) (event : WindowEvent) :
    (h.respond w event).Total := by
  cases event with
  | closeRequested =>
      exact (Effect.total_emit _).bind fun _ => total_closeWindow.bind fun _ =>
        (Effect.total_modify _).bind fun _ => (total_settle _).bind fun _ => total_tell _
  | resized size => exact (Effect.total_emit _).bind fun _ => total_resizeTo w size
  | scaleFactorChanged => exact Effect.total_get.bind fun _ => total_resizeTo w _
  | redrawRequested =>
      refine (total_redraw responds).bind fun _ => (total_settle _).bind fun _ => ?_
      split
      · exact total_tell _
      · exact Effect.total_pure _
  | focused => exact Effect.total_pure _

theorem total_play (responds : h.app.Responds) (step : HostStep) : (h.play step).Total := by
  cases step with
  | resumed =>
      refine Effect.total_get.bind fun s => ?_
      split
      · exact Effect.total_pure _
      refine (total_openWindow responds).bind fun opened => ?_
      split
      · exact (total_settle _).bind fun _ => total_tell _
      · exact (Effect.total_modify _).bind fun _ => total_tell _
  | aboutToWait =>
      refine Effect.total_get.bind fun s => ?_
      split
      · exact total_tell _
      refine (total_tell _).bind fun _ => ?_
      split
      · exact total_tell _
      · exact Effect.total_pure _
  | window id event =>
      refine Effect.total_get.bind fun s => ?_
      split
      · exact total_tell _
      split
      · exact Effect.total_pure _
      split
      · refine (total_tell _).bind fun _ => Effect.total_get.bind fun s => ?_
        dsimp only
        refine (Effect.total_modify _).bind fun _ => ?_
        split
        · exact (total_settle _).bind fun _ => total_tell _
        · exact total_respond responds _ event
      · exact Effect.total_pure _
  | advance elapsed => exact Effect.total_modify _
  | innerSize size => exact Effect.total_modify _
  | refuse refusal? => exact Effect.total_modify _

/-- A host faults only where its app does. -/
theorem exists_playAll (responds : h.app.Responds) (steps : List HostStep) (s : HostState α) :
    ∃ events last, h.playAll steps s = .ok (events, last) := by
  induction steps generalizing s with
  | nil => exact ⟨[], s, rfl⟩
  | cons step rest ih =>
      obtain ⟨ran, hstep⟩ := total_play responds step s
      obtain ⟨events, last, hrest⟩ := ih ran.state
      exact ⟨ran.events :: events, last, except_bind_eq_ok_iff.mpr
        ⟨ran, hstep, except_bind_eq_ok_iff.mpr ⟨_, hrest, rfl⟩⟩⟩

/-- A platform with one kind of surface, whose clock shows a millisecond more at
each of its first four readings, and on which apps take long to prepare. -/
def samplePlatform : Platform where
  now := 0
  delays := [1000000, 1000000, 1000000, 1000000]
  preparation := 5000000000
  innerSize := ⟨640, 480⟩
  caps := ⟨[.bgra8Unorm], []⟩
  adapterName := "sample"
  refusal? _ := none
  windows := 0
  screen := ⟨.fresh, []⟩

/-- A host whose app draws nothing, with this outcome. -/
def sampleHost (outcome : Outcome) : Host Unit :=
  ⟨.ofRender fun c a => pure ⟨a, c.gpu, outcome⟩, .standard, .standard⟩

theorem responds_sampleHost (outcome : Outcome) : (sampleHost outcome).app.Responds :=
  ⟨fun _ _ => Effect.total_pure _, fun _ _ => Effect.total_pure _⟩

end Host

end SpriteRenderer

import SpriteRenderer.Host.Loop
import SpriteRenderer.Proofs.Effect

/-!
# The courses of a host

A handler of a host can go one of a few ways, and `TurnCourse` lists them:
one constructor for each, with the *signals* given on that way (windows asked
for, calls into the app, exits asked for) and the state that is left.
`turnCourse_of_run` says that there are no others. What happens while a window
is opened and while it is redrawn has lists of its own, `OpeningCourse` and
`RedrawCourse`.
-/

namespace SpriteRenderer

/-! ## Signals -/

def HostCall.isSignal : HostCall → Bool
  | .createWindow _ _ | .exit | .callback _ => true
  | _ => false

/-- What a host says about its own course, in order. -/
def signals (events : List (Event HostCall)) : List HostCall :=
  (events.filterMap Event.call?).filter HostCall.isSignal

@[simp] theorem signals_nil : signals [] = [] := rfl

@[simp] theorem signals_append (xs ys : List (Event HostCall)) :
    signals (xs ++ ys) = signals xs ++ signals ys := by
  simp [signals]

@[simp] theorem signals_call (c : HostCall) (rest : List (Event HostCall)) :
    signals (.call c :: rest) = (if c.isSignal then [c] else []) ++ signals rest := by
  cases h : c.isSignal <;> simp [signals, Event.call?, h]

@[simp] theorem signals_log (r : LogRecord) (rest : List (Event HostCall)) :
    signals (.log r :: rest) = signals rest := rfl

@[simp] theorem signals_logs (records : List LogRecord) : signals (records.map .log) = [] := by
  induction records with
  | nil => rfl
  | cons r rest ih => exact ih

/-- Nothing that an app draws or makes is a signal. -/
@[simp] theorem signals_canvas (events : List (Event CanvasCall)) :
    signals (events.map (Event.map .canvas)) = [] := by
  induction events with
  | nil => rfl
  | cons e rest ih => cases e <;> exact ih

/-- What a device hears, as the host says it. -/
def deviceEvent (e : Event GraphicsCall) : Event HostCall :=
  (e.map CanvasCall.graphics).map HostCall.canvas

@[simp] theorem signals_device (events : List (Event GraphicsCall)) :
    signals (events.map deviceEvent) = [] := by
  induction events with
  | nil => rfl
  | cons e rest ih => cases e <;> exact ih

theorem mem_signals_iff {c : HostCall} (hc : c.isSignal = true) {events : List (Event HostCall)} :
    c ∈ signals events ↔ .call c ∈ events := by
  induction events with
  | nil => simp
  | cons e rest ih =>
      cases e with
      | log r => simp [ih]
      | call c' =>
          cases hc' : c'.isSignal with
          | true => simp [hc', ih]
          | false =>
              have hne : c ≠ c' := by
                rintro rfl
                rw [hc] at hc'
                cases hc'
              simp [hc', ih, hne]

/-! ## Running parts of a host -/

theorem Screen.run_onDevice {β : Type} (x : Graphics β) (s : Screen) :
    (Screen.onDevice x).run s =
      match x.run s.device with
      | .error e => .error e
      | .ok inner => .ok ⟨inner.value, { s with device := inner.state },
          inner.events.map (Event.map .graphics)⟩ := by
  unfold Screen.onDevice
  rw [Effect.run_zoom, Effect.run_mapEvents]
  cases x.run s.device <;> rfl

theorem GpuContext.exists_run_attach (config : SurfaceConfig) (format : Option TextureFormat)
    (d : Device) : ∃ out, (GpuContext.attach config format).run d = .ok out := by
  cases format <;> exact ⟨_, rfl⟩

theorem GpuContext.exists_run_resize (g : GpuContext) (size : PixelSize) (d : Device) :
    ∃ out, (g.resize size).run d = .ok out := by
  unfold GpuContext.resize
  split
  · cases g.stencilFormat <;> exact ⟨_, rfl⟩
  · exact ⟨_, rfl⟩

def Platform.withDevice (p : Platform) (device : Device) : Platform :=
  { p with screen := { p.screen with device } }

@[simp] theorem Platform.device_withDevice (p : Platform) (d : Device) :
    (p.withDevice d).screen.device = d := rfl

@[simp] theorem Platform.withDevice_withDevice (p : Platform) (d d' : Device) :
    (p.withDevice d).withDevice d' = p.withDevice d' := rfl

namespace Host

variable {α β : Type}

@[simp] theorem run_tell (call : HostCall) (s : HostState α) :
    (tell call).run s = .ok ⟨(), s, [.call call]⟩ := rfl

@[simp] theorem run_request (r : PlatformRequest) (s : HostState α) :
    (request r).run s = .ok ⟨s.platform.failure? r, s, []⟩ := rfl

@[simp] theorem run_readClock (s : HostState α) :
    readClock.run s = .ok ⟨s.platform.afterReading.now,
      { s with platform := s.platform.afterReading }, []⟩ := rfl

@[simp] theorem run_settle (outcome : Outcome) (s : HostState α) :
    (settle outcome).run s = .ok ⟨(s.verdict.settle outcome).1,
      { s with verdict := (s.verdict.settle outcome).2.1 },
      (s.verdict.settle outcome).2.2.map .log⟩ := by
  simp [settle, Graphics.logAll]

theorem run_onScreen (x : OnScreen β) (s : HostState α) :
    (onScreen x).run s =
      match x.run s.platform.screen with
      | .error e => .error e
      | .ok inner => .ok ⟨inner.value,
          { s with platform := { s.platform with screen := inner.state } },
          inner.events.map (Event.map .canvas)⟩ := by
  unfold onScreen
  rw [Effect.run_zoom, Effect.run_mapEvents]
  cases x.run s.platform.screen <;> rfl

theorem run_onDevice (x : Graphics β) (s : HostState α) :
    (onDevice x).run s =
      match x.run s.platform.screen.device with
      | .error e => .error e
      | .ok inner => .ok ⟨inner.value, { s with platform := s.platform.withDevice inner.state },
          inner.events.map deviceEvent⟩ := by
  unfold onDevice
  rw [run_onScreen, Screen.run_onDevice]
  cases x.run s.platform.screen.device with
  | error e => rfl
  | ok inner =>
      simp only [List.map_map]
      rfl

/-! ## Opening a window -/

/-- What a new surface takes, in the order in which it is asked for. -/
def gpuRequests : List PlatformRequest := [.createSurface, .requestAdapter, .requestDevice]

/-- The configuration of a new surface, or why there is none: the window has no
area, a request is refused, or the surface has no format. -/
def surfaceConfig (h : Host α) (p : Platform) : Except Failure SurfaceConfig :=
  if !p.innerSize.hasArea then .error (.ofCause .zeroSizeWindow)
  else
    match gpuRequests.findSome? p.failure? with
    | some f => .error f
    | none =>
        match p.caps.configuration h.options p.innerSize with
        | none => .error (.ofCause .noSurfaceFormat)
        | some config => .ok config

/-- What a host says before it configures a new surface. -/
def surfaceSetup (h : Host α) (p : Platform) : List (Event HostCall) :=
  [.call (.createInstance true), .call (.requestAdapter adapterRequest),
    .log ⟨.info, s!"using adapter {quoted p.adapterName}"⟩,
    .call (.requestDevice (deviceRequest h.options.device))]

theorem surfaceConfig_eq_error_iff {h : Host α} {p : Platform} {f : Failure} :
    h.surfaceConfig p = .error f ↔
      (p.innerSize.hasArea = false ∧ f = .ofCause .zeroSizeWindow)
        ∨ (p.innerSize.hasArea = true ∧ gpuRequests.findSome? p.failure? = some f)
        ∨ (p.innerSize.hasArea = true ∧ (∀ r ∈ gpuRequests, p.failure? r = none)
          ∧ p.caps.configuration h.options p.innerSize = none ∧ f = .ofCause .noSurfaceFormat) := by
  rw [← List.findSome?_eq_none_iff, surfaceConfig]
  cases p.innerSize.hasArea <;> cases gpuRequests.findSome? p.failure? <;>
    cases p.caps.configuration h.options p.innerSize <;> simp [eq_comm]

theorem surfaceConfig_eq_ok_iff {h : Host α} {p : Platform} {config : SurfaceConfig} :
    h.surfaceConfig p = .ok config ↔
      p.innerSize.hasArea = true ∧ (∀ r ∈ gpuRequests, p.failure? r = none)
        ∧ p.caps.configuration h.options p.innerSize = some config := by
  rw [← List.findSome?_eq_none_iff, surfaceConfig]
  cases p.innerSize.hasArea <;> cases gpuRequests.findSome? p.failure? <;>
    cases p.caps.configuration h.options p.innerSize <;> simp

theorem run_attachGpu_of_error {h : Host α} {s : HostState α} {f : Failure}
    (failed : h.surfaceConfig s.platform = .error f) :
    ∃ events, signals events = [] ∧ h.attachGpu.run s = .ok ⟨.error f, s, events⟩ := by
  unfold attachGpu
  rcases surfaceConfig_eq_error_iff.mp failed with ⟨harea, rfl⟩ | ⟨harea, hrefused⟩
    | ⟨harea, hgranted, hconfig, rfl⟩
  · exact ⟨[], rfl, by simp [harea]⟩
  · -- The requests are made one after the other, up to the one that is refused.
    cases hsurface : s.platform.failure? .createSurface with
    | some f' =>
        obtain rfl : f' = f := by simpa [gpuRequests, hsurface] using hrefused
        exact ⟨[.call (.createInstance true)], rfl, by simp [harea, hsurface]⟩
    | none =>
        cases hadapter : s.platform.failure? .requestAdapter with
        | some f' =>
            obtain rfl : f' = f := by simpa [gpuRequests, hsurface, hadapter] using hrefused
            exact ⟨[.call (.createInstance true), .call (.requestAdapter adapterRequest),
              .call .dropSurface], rfl, by simp [harea, hsurface, hadapter, abandonSurface]⟩
        | none =>
            have hdevice : s.platform.failure? .requestDevice = some f := by
              simpa [gpuRequests, hsurface, hadapter] using hrefused
            exact ⟨h.surfaceSetup s.platform ++ [.call .dropSurface], rfl,
              by simp [harea, hsurface, hadapter, hdevice, abandonSurface, Graphics.log,
                surfaceSetup]⟩
  · have hsurface := hgranted .createSurface (by decide)
    have hadapter := hgranted .requestAdapter (by decide)
    have hdevice := hgranted .requestDevice (by decide)
    exact ⟨h.surfaceSetup s.platform ++ [.call .dropSurface], rfl,
      by simp [harea, hsurface, hadapter, hdevice, hconfig, abandonSurface, Graphics.log,
        surfaceSetup]⟩

theorem run_attachGpu_of_ok {h : Host α} {s : HostState α} {config : SurfaceConfig}
    {inner : Ran (Event GraphicsCall) Device GpuContext}
    (configured : h.surfaceConfig s.platform = .ok config)
    (attaching : (GpuContext.attach config h.options.stencilFormat).run s.platform.screen.device
      = .ok inner) :
    h.attachGpu.run s = .ok ⟨.ok inner.value,
      { s with platform := s.platform.withDevice inner.state },
      h.surfaceSetup s.platform
        ++ inner.events.map deviceEvent⟩ := by
  obtain ⟨harea, hgranted, hconfig⟩ := surfaceConfig_eq_ok_iff.mp configured
  have hsurface := hgranted .createSurface (by decide)
  have hadapter := hgranted .requestAdapter (by decide)
  have hdevice := hgranted .requestDevice (by decide)
  simp [attachGpu, harea, hsurface, hadapter, hdevice, hconfig, Graphics.log, run_onDevice,
    attaching, surfaceSetup]

theorem run_initApp (h : Host α) (gpu : GpuContext) (s : HostState α) :
    (h.initApp gpu).run s =
      match (h.app.init gpu s.app).run s.platform.screen.device with
      | .error e => .error e
      | .ok inner => .ok ⟨inner.value.2,
          { s with
            platform := (s.platform.withDevice inner.state).afterPreparation
            app := inner.value.1 },
          .call (.callback (.init gpu.size gpu.config.format))
            :: inner.events.map deviceEvent⟩ := by
  unfold initApp
  simp only [Effect.run_bind, run_tell, Effect.run_get, run_onDevice]
  cases (h.app.init gpu s.app).run s.platform.screen.device with
  | error e => rfl
  | ok inner => simp

/-- The ways of opening a window: what comes of it, the signals, and the state
after it. -/
inductive OpeningCourse (h : Host α) (s : HostState α) :
    Except Failure OpenWindow → List HostCall → HostState α → Prop
  | windowless {f : Failure} (refused : s.platform.failure? .createWindow = some f) :
      OpeningCourse h s (.error f) [.createWindow h.config.title h.config.size] s
  | surfaceless {f : Failure} (granted : s.platform.failure? .createWindow = none)
      (failed : h.surfaceConfig s.platform = .error f) :
      OpeningCourse h s (.error (f.during .initializingGpu))
        [.createWindow h.config.title h.config.size]
        { s with platform := s.platform.withWindow.afterReading }
  | unprepared {config : SurfaceConfig} {attached : Ran (Event GraphicsCall) Device GpuContext}
      {prepared : Ran (Event GraphicsCall) Device (α × Except Failure Unit)} {f : Failure}
      (granted : s.platform.failure? .createWindow = none)
      (configured : h.surfaceConfig s.platform = .ok config)
      (attaching : (GpuContext.attach config h.options.stencilFormat).run s.platform.screen.device
        = .ok attached)
      (preparing : (h.app.init attached.value s.app).run attached.state = .ok prepared)
      (failed : prepared.value.2 = .error f) :
      OpeningCourse h s (.error (f.during .initializingApp))
        [.createWindow h.config.title h.config.size,
          .callback (.init attached.value.size attached.value.config.format)]
        { s with
          platform :=
            (s.platform.withWindow.afterReading.withDevice prepared.state).afterPreparation
          app := prepared.value.1 }
  | opened {config : SurfaceConfig} {attached : Ran (Event GraphicsCall) Device GpuContext}
      {prepared : Ran (Event GraphicsCall) Device (α × Except Failure Unit)} {now : Int}
      (granted : s.platform.failure? .createWindow = none)
      (configured : h.surfaceConfig s.platform = .ok config)
      (attaching : (GpuContext.attach config h.options.stencilFormat).run s.platform.screen.device
        = .ok attached)
      (preparing : (h.app.init attached.value s.app).run attached.state = .ok prepared)
      (ready : prepared.value.2 = .ok ())
      (read : now = (s.platform.withWindow.afterReading.withDevice
        prepared.state).afterPreparation.afterReading.now) :
      OpeningCourse h s (.ok ⟨s.platform.windows, .start now, attached.value⟩)
        [.createWindow h.config.title h.config.size,
          .callback (.init attached.value.size attached.value.config.format)]
        { s with
          platform := (s.platform.withWindow.afterReading.withDevice
            prepared.state).afterPreparation.afterReading
          app := prepared.value.1 }

theorem openingCourse_of_run {h : Host α} {s : HostState α}
    {out : Ran (Event HostCall) (HostState α) (Except Failure OpenWindow)}
    (ran : h.openWindow.run s = .ok out) :
    OpeningCourse h s out.value (signals out.events) out.state := by
  cases hrefused : s.platform.failure? .createWindow with
  | some f =>
      obtain rfl : _ = out := by simpa [openWindow, hrefused] using ran
      exact .windowless hrefused
  | none =>
      cases hconfig : h.surfaceConfig s.platform with
      | error f =>
          obtain ⟨events, hsignals, hattach⟩ := run_attachGpu_of_error
            (s := { s with platform := s.platform.withWindow.afterReading }) hconfig
          obtain rfl : _ = out := by simpa [openWindow, hrefused, hattach] using ran
          have course := OpeningCourse.surfaceless (h := h) hrefused hconfig
          simpa [hsignals, HostCall.isSignal] using course
      | ok config =>
          obtain ⟨attached, attaching⟩ := GpuContext.exists_run_attach config
            h.options.stencilFormat s.platform.screen.device
          have hattach := run_attachGpu_of_ok (h := h)
            (s := { s with platform := s.platform.withWindow.afterReading }) hconfig attaching
          cases preparing : (h.app.init attached.value s.app).run attached.state with
          | error e => simp [openWindow, hrefused, hattach, run_initApp, preparing] at ran
          | ok prepared =>
              cases houtcome : prepared.value.2 with
              | error f =>
                  obtain rfl : _ = out := by
                    simpa [openWindow, hrefused, hattach, run_initApp, preparing, houtcome,
                      closeWindow] using ran
                  have course := OpeningCourse.unprepared hrefused hconfig attaching preparing
                    houtcome
                  simpa [HostCall.isSignal, surfaceSetup] using course
              | ok ready =>
                  obtain rfl : _ = out := by
                    simpa [openWindow, hrefused, hattach, run_initApp, preparing, houtcome]
                      using ran
                  have course := OpeningCourse.opened hrefused hconfig attaching preparing
                    houtcome rfl
                  simpa [HostCall.isSignal, surfaceSetup, FrameClock.start, FrameClock.reset]
                    using course

/-! ## Redrawing -/

/-- The ways of a redraw. The update and the render get the same time, and the
render gets the app that the update left. -/
inductive RedrawCourse (h : Host α) (w : OpenWindow) (s : HostState α) :
    Outcome → List HostCall → HostState α → Prop
  | stopped {time : FrameTime} {clock : FrameClock} {app : α}
      (ticked : w.clock.tick s.platform.afterReading.now = (time, clock))
      (updated : h.app.update time s.app = (.exit, app)) :
      RedrawCourse h w s (.ok .exit) [.callback (.update time)]
        { s with platform := s.platform.afterReading, window := some { w with clock }, app }
  | rendered {time : FrameTime} {clock : FrameClock} {app : α}
      {drawn : Ran (Event CanvasCall) Screen (AppFrame α)}
      (ticked : w.clock.tick s.platform.afterReading.now = (time, clock))
      (updated : h.app.update time s.app = (.proceed, app))
      (rendering : (h.app.render ⟨w.gpu, time⟩ app).run s.platform.screen = .ok drawn) :
      RedrawCourse h w s drawn.value.outcome [.callback (.update time), .callback (.render time)]
        { s with
          platform := { s.platform.afterReading with screen := drawn.state }
          window := some { w with clock, gpu := drawn.value.gpu }
          app := drawn.value.app }

theorem redrawCourse_of_run {h : Host α} {w : OpenWindow} {s : HostState α}
    {out : Ran (Event HostCall) (HostState α) Outcome}
    (ran : (h.redrawWindow w).run s = .ok out) :
    RedrawCourse h w s out.value (signals out.events) out.state := by
  cases ticked : w.clock.tick s.platform.afterReading.now with
  | mk time clock =>
      cases updated : h.app.update time s.app with
      | mk control app =>
          cases control with
          | exit =>
              obtain rfl : _ = out := by simpa [redrawWindow, ticked, updated] using ran
              exact .stopped ticked updated
          | proceed =>
              cases rendering : (h.app.render ⟨w.gpu, time⟩ app).run s.platform.screen with
              | error e =>
                  have hscreen : s.platform.afterReading.screen = s.platform.screen := rfl
                  simp [redrawWindow, ticked, updated, run_onScreen, hscreen, rendering] at ran
              | ok drawn =>
                  have hscreen : s.platform.afterReading.screen = s.platform.screen := rfl
                  obtain rfl : _ = out := by
                    simpa [redrawWindow, ticked, updated, run_onScreen, hscreen, rendering]
                      using ran
                  have course := RedrawCourse.rendered ticked updated rendering
                  simpa [HostCall.isSignal] using course

/-! ## Steps -/

/-- The ways of a step of the platform, with the signals and the state after
it. -/
inductive TurnCourse (h : Host α) (s : HostState α) :
    HostStep → List HostCall → HostState α → Prop
  | unneeded {w : OpenWindow} (window : s.window = some w) : TurnCourse h s .resumed [] s
  | failed {f : Failure} {said : List HostCall} {s' : HostState α} (window : s.window = none)
      (opening : OpeningCourse h s (.error f) said s') :
      TurnCourse h s .resumed (said ++ [.exit])
        { s' with verdict := (s'.verdict.settle (.error f)).2.1 }
  | opened {w : OpenWindow} {said : List HostCall} {s' : HostState α} (window : s.window = none)
      (opening : OpeningCourse h s (.ok w) said s') :
      TurnCourse h s .resumed said { s' with window := some w }
  | waited (going : s.verdict.exitRequested = false) : TurnCourse h s .aboutToWait [] s
  | waitedLate (leaving : s.verdict.exitRequested = true) :
      TurnCourse h s .aboutToWait [.exit] s
  | late {id : Nat} {event : WindowEvent} (leaving : s.verdict.exitRequested = true) :
      TurnCourse h s (.window id event) [.exit] s
  | stray {id : Nat} {event : WindowEvent} (going : s.verdict.exitRequested = false)
      (foreign : ∀ w, s.window = some w → w.id ≠ id) : TurnCourse h s (.window id event) [] s
  | declined {w : OpenWindow} {event : WindowEvent} {app : α}
      (going : s.verdict.exitRequested = false) (window : s.window = some w)
      (seen : h.app.onEvent event s.app = (.exit, app)) :
      TurnCourse h s (.window w.id event) [.callback (.event event), .exit]
        { s with app, verdict := { s.verdict with exitRequested := true } }
  | closed {w : OpenWindow} {app : α} (going : s.verdict.exitRequested = false)
      (window : s.window = some w) (seen : h.app.onEvent .closeRequested s.app = (.proceed, app)) :
      TurnCourse h s (.window w.id .closeRequested) [.callback (.event .closeRequested), .exit]
        { s with app, window := none, verdict := { s.verdict with exitRequested := true } }
  | resized {w : OpenWindow} {event : WindowEvent} {app : α} {size : PixelSize}
      {inner : Ran (Event GraphicsCall) Device GpuContext}
      (going : s.verdict.exitRequested = false) (window : s.window = some w)
      (seen : h.app.onEvent event s.app = (.proceed, app))
      (asked : event = .resized size ∨ event = .scaleFactorChanged ∧ size = s.platform.innerSize)
      (resizing : (w.gpu.resize size).run s.platform.screen.device = .ok inner) :
      TurnCourse h s (.window w.id event) [.callback (.event event)]
        { s with
          app
          platform := s.platform.withDevice inner.state
          window := some { w with gpu := inner.value } }
  | ignored {w : OpenWindow} {app : α} (going : s.verdict.exitRequested = false)
      (window : s.window = some w) (seen : h.app.onEvent .focused s.app = (.proceed, app)) :
      TurnCourse h s (.window w.id .focused) [.callback (.event .focused)] { s with app }
  | redrawn {w : OpenWindow} {app : α} {outcome : Outcome} {said : List HostCall}
      {s' : HostState α} (going : s.verdict.exitRequested = false) (window : s.window = some w)
      (seen : h.app.onEvent .redrawRequested s.app = (.proceed, app))
      (redrawing : RedrawCourse h w { s with app } outcome said s') :
      TurnCourse h s (.window w.id .redrawRequested)
        (.callback (.event .redrawRequested) :: said
          ++ (if (s'.verdict.settle outcome).1 then [.exit] else []))
        { s' with verdict := (s'.verdict.settle outcome).2.1 }
  | advanced {elapsed : Int} : TurnCourse h s (.advance elapsed) []
      { s with platform := { s.platform with now := s.platform.now + elapsed } }
  | sized {size : PixelSize} : TurnCourse h s (.innerSize size) []
      { s with platform := { s.platform with innerSize := size } }
  | warned {refusal? : PlatformRequest → Option Refusal} : TurnCourse h s (.refuse refusal?) []
      { s with platform := { s.platform with refusal? } }

theorem turnCourse_resumed {h : Host α} {s : HostState α}
    {out : Ran (Event HostCall) (HostState α) Unit} (ran : h.resumed.run s = .ok out) :
    TurnCourse h s .resumed (signals out.events) out.state := by
  cases window : s.window with
  | some w =>
      obtain rfl : _ = out := by simpa [resumed, window] using ran
      exact .unneeded window
  | none =>
      cases hopen : h.openWindow.run s with
      | error e => simp [resumed, window, hopen] at ran
      | ok opened =>
          have opening := openingCourse_of_run hopen
          cases houtcome : opened.value with
          | error f =>
              rw [houtcome] at opening
              obtain rfl : _ = out := by simpa [resumed, window, hopen, houtcome] using ran
              have course := TurnCourse.failed window opening
              simpa [HostCall.isSignal] using course
          | ok w =>
              rw [houtcome] at opening
              obtain rfl : _ = out := by simpa [resumed, window, hopen, houtcome] using ran
              have course := TurnCourse.opened window opening
              simpa [HostCall.isSignal] using course

theorem turnCourse_aboutToWait {h : Host α} {s : HostState α}
    {out : Ran (Event HostCall) (HostState α) Unit} (ran : aboutToWait.run s = .ok out) :
    TurnCourse h s .aboutToWait (signals out.events) out.state := by
  cases hexit : s.verdict.exitRequested with
  | true =>
      obtain rfl : _ = out := by simpa [aboutToWait, hexit] using ran
      exact .waitedLate hexit
  | false =>
      cases window : s.window with
      | none =>
          obtain rfl : _ = out := by simpa [aboutToWait, hexit, window] using ran
          exact .waited hexit
      | some w =>
          obtain rfl : _ = out := by simpa [aboutToWait, hexit, window] using ran
          exact .waited hexit

theorem run_resizeTo {w : OpenWindow} {size : PixelSize} {s : HostState α}
    {inner : Ran (Event GraphicsCall) Device GpuContext}
    (resizing : (w.gpu.resize size).run s.platform.screen.device = .ok inner) :
    (resizeTo w size).run s = .ok ⟨(),
      { s with
        platform := s.platform.withDevice inner.state
        window := some { w with gpu := inner.value } },
      inner.events.map deviceEvent ++ [.call .requestRedraw]⟩ := by
  simp [resizeTo, run_onDevice, resizing]

/-- What a host does about an event that its app has seen. -/
theorem turnCourse_respond {h : Host α} {s : HostState α} {w : OpenWindow} {event : WindowEvent}
    {app : α} (going : s.verdict.exitRequested = false) (window : s.window = some w)
    (seen : h.app.onEvent event s.app = (.proceed, app))
    {out : Ran (Event HostCall) (HostState α) Unit}
    (ran : (h.respond w event).run { s with app } = .ok out) :
    TurnCourse h s (.window w.id event) (.callback (.event event) :: signals out.events)
      out.state := by
  cases event with
  | closeRequested =>
      obtain rfl : _ = out := by
        simpa [respond, Graphics.log, closeWindow, Verdict.settle] using ran
      exact .closed going window seen
  | resized size =>
      obtain ⟨inner, resizing⟩ := w.gpu.exists_run_resize size s.platform.screen.device
      have hresize := run_resizeTo (s := { s with app }) resizing
      obtain rfl : _ = out := by simpa [respond, Graphics.log, hresize] using ran
      have course := TurnCourse.resized going window seen (.inl rfl) resizing
      simpa [HostCall.isSignal] using course
  | scaleFactorChanged =>
      obtain ⟨inner, resizing⟩ := w.gpu.exists_run_resize s.platform.innerSize
        s.platform.screen.device
      have hresize := run_resizeTo (s := { s with app }) resizing
      obtain rfl : _ = out := by simpa [respond, hresize] using ran
      have course := TurnCourse.resized going window seen (.inr ⟨rfl, rfl⟩) resizing
      simpa [HostCall.isSignal] using course
  | focused =>
      obtain rfl : _ = out := by simpa [respond] using ran
      exact .ignored going window seen
  | redrawRequested =>
      have hredraw : h.redraw.run { s with app } = (h.redrawWindow w).run { s with app } := by
        unfold redraw
        rw [Effect.run_bind_of_silent (Effect.run_get _)]
        simp only [window]
      cases hrun : (h.redrawWindow w).run { s with app } with
      | error e => simp [respond, hredraw, hrun] at ran
      | ok redrawn =>
          have redrawing := redrawCourse_of_run hrun
          have course := TurnCourse.redrawn going window seen redrawing
          cases hstop : (redrawn.state.verdict.settle redrawn.value).1 with
          | true =>
              obtain rfl : _ = out := by simpa [respond, hredraw, hrun, hstop] using ran
              simpa [HostCall.isSignal, hstop] using course
          | false =>
              obtain rfl : _ = out := by simpa [respond, hredraw, hrun, hstop] using ran
              simpa [HostCall.isSignal, hstop] using course

theorem run_windowEvent_own {h : Host α} {s : HostState α} {w : OpenWindow}
    (going : s.verdict.exitRequested = false) (window : s.window = some w) (event : WindowEvent) :
    (h.windowEvent w.id event).run s = (h.deliver w event).run s := by
  unfold windowEvent
  rw [Effect.run_bind_of_silent (Effect.run_get _)]
  simp only [going, window, Bool.false_eq_true, if_false, if_true]

theorem turnCourse_windowEvent {h : Host α} {s : HostState α} {id : Nat} {event : WindowEvent}
    {out : Ran (Event HostCall) (HostState α) Unit}
    (ran : (h.windowEvent id event).run s = .ok out) :
    TurnCourse h s (.window id event) (signals out.events) out.state := by
  cases hexit : s.verdict.exitRequested with
  | true =>
      obtain rfl : _ = out := by simpa [windowEvent, hexit] using ran
      exact .late hexit
  | false =>
      cases window : s.window with
      | none =>
          obtain rfl : _ = out := by simpa [windowEvent, hexit, window] using ran
          exact .stray hexit (by simp [window])
      | some w =>
          by_cases hid : w.id = id
          · subst hid
            rw [run_windowEvent_own hexit window] at ran
            cases seen : h.app.onEvent event s.app with
            | mk control app =>
                cases control with
                | exit =>
                    obtain rfl : _ = out := by simpa [deliver, seen, Verdict.settle] using ran
                    exact .declined hexit window seen
                | proceed =>
                    cases hrespond : (h.respond w event).run { s with app } with
                    | error e => simp [deliver, seen, hrespond] at ran
                    | ok responded =>
                        have course := turnCourse_respond hexit window seen hrespond
                        obtain rfl : _ = out := by simpa [deliver, seen, hrespond] using ran
                        simpa [HostCall.isSignal] using course
          · obtain rfl : _ = out := by simpa [windowEvent, hexit, window, hid] using ran
            refine .stray hexit fun w' hw' => ?_
            rw [window] at hw'
            exact Option.some.inj hw' ▸ hid

/-- A step that was played took one of the courses. -/
theorem turnCourse_of_run {h : Host α} {s : HostState α} {step : HostStep}
    {out : Ran (Event HostCall) (HostState α) Unit} (ran : (h.play step).run s = .ok out) :
    TurnCourse h s step (signals out.events) out.state := by
  cases step with
  | resumed => exact turnCourse_resumed ran
  | aboutToWait => exact turnCourse_aboutToWait ran
  | window id event => exact turnCourse_windowEvent ran
  | advance elapsed =>
      obtain rfl := Except.ok.inj ran
      exact .advanced
  | innerSize size =>
      obtain rfl := Except.ok.inj ran
      exact .sized
  | refuse request =>
      obtain rfl := Except.ok.inj ran
      exact .warned

end Host

end SpriteRenderer

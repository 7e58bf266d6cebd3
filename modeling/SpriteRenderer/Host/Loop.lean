import SpriteRenderer.Host.Platform

/-!
# The host loop

A host opens one window for an app and redraws it until the app, the user or
a failure ends it. The platform calls three handlers (`resumed`,
`aboutToWait` and `windowEvent`) in any order, also after the host has asked
it to stop; from then on the latter two do nothing but ask again.
-/

namespace SpriteRenderer

/-- How to open the window. -/
structure HostConfig where
  title : String
  size : LogicalSize

def HostConfig.standard : HostConfig := ⟨"drawbatch", .ofNat 640, .ofNat 480⟩

/-- A window, its clock and its surface. -/
structure OpenWindow where
  id : Nat
  clock : FrameClock
  gpu : GpuContext

structure HostState (α : Type) where
  platform : Platform
  app : α
  window : Option OpenWindow
  verdict : Verdict

/-- The state before any handler was called. -/
def HostState.start {α : Type} (platform : Platform) (app : α) : HostState α :=
  ⟨platform, app, none, .open_⟩

/-- A host: an app and how to run it. -/
structure Host (α : Type) where
  app : App α
  config : HostConfig
  options : GpuOptions

/-- An effect of a host. -/
abbrev Hosting (α β : Type) := Effect (Event HostCall) (HostState α) β

namespace Host

variable {α β : Type}

def tell (call : HostCall) : Hosting α Unit := Effect.emit (.call call)

/-- Runs an effect of drawing. -/
def onScreen (x : OnScreen β) : Hosting α β :=
  (x.mapEvents (Event.map .canvas)).zoom (·.platform.screen)
    fun screen s => { s with platform := { s.platform with screen } }

def onDevice (x : Graphics β) : Hosting α β := onScreen (Screen.onDevice x)

/-- Asks the platform for something; the answer is the failure, if it is
refused. -/
def request (r : PlatformRequest) : Hosting α (Option Failure) := do
  return (← Effect.get).platform.failure? r

/-- Reads the clock. -/
def readClock : Hosting α Int := do
  Effect.modify fun s => { s with platform := s.platform.afterReading }
  return (← Effect.get).platform.now

/-- Takes an outcome into account; the answer is whether to exit now. -/
def settle (outcome : Outcome) : Hosting α Bool := do
  let s ← Effect.get
  let (stop, verdict, records) := s.verdict.settle outcome
  Effect.set { s with verdict }
  Graphics.logAll records
  return stop

/-! ## Opening and closing -/

/-- A name in quotes, with quotes and backslashes escaped. -/
def quoted (name : String) : String :=
  let escape (c : Char) : List Char := if c = '"' ∨ c = '\\' then ['\\', c] else [c]
  "\"" ++ String.ofList (name.toList.flatMap escape) ++ "\""

def adapterRequest : AdapterRequest := ⟨.highPerformance, true, false⟩

def deviceRequest (needs : DeviceNeeds) : DeviceRequest := ⟨"drawbatch device", needs, .performance⟩

/-- Gives up the surface after a failure. -/
def abandonSurface (f : Failure) : Hosting α (Except Failure β) := do
  tell .dropSurface
  return .error f

/-- Sets up an adapter, a device and the surface of a new window. -/
def attachGpu (h : Host α) : Hosting α (Except Failure GpuContext) := do
  let platform := (← Effect.get).platform
  if !platform.innerSize.hasArea then
    return .error (.ofCause .zeroSizeWindow)
  else
    tell (.createInstance true)
    match ← request .createSurface with
    | some f => return .error f
    | none =>
        tell (.requestAdapter adapterRequest)
        match ← request .requestAdapter with
        | some f => abandonSurface f
        | none =>
            Graphics.log ⟨.info, s!"using adapter {quoted platform.adapterName}"⟩
            tell (.requestDevice (deviceRequest h.options.device))
            match ← request .requestDevice with
            | some f => abandonSurface f
            | none =>
                match platform.caps.configuration h.options platform.innerSize with
                | none => abandonSurface (.ofCause .noSurfaceFormat)
                | some config =>
                    return .ok (← onDevice (GpuContext.attach config h.options.stencilFormat))

/-- Drops a window; its surface goes first. -/
def closeWindow : Hosting α Unit := do
  tell .dropSurface
  tell .dropWindow

/-- Lets the app prepare for a window that is ready. -/
def initApp (h : Host α) (gpu : GpuContext) : Hosting α (Except Failure Unit) := do
  tell (.callback (.init gpu.size gpu.config.format))
  let (app, outcome) ← onDevice (h.app.init gpu (← Effect.get).app)
  Effect.modify fun s => { s with app, platform := s.platform.afterPreparation }
  return outcome

/-- Opens a window with a surface and lets the app prepare for it. The first
frame is not to count the time that took, so the clock is reset after it. -/
def openWindow (h : Host α) : Hosting α (Except Failure OpenWindow) := do
  tell (.createWindow h.config.title h.config.size)
  match ← request .createWindow with
  | some f => return .error f
  | none =>
      let id := (← Effect.get).platform.windows
      Effect.modify fun s => { s with platform := s.platform.withWindow }
      let clock := FrameClock.start (← readClock)
      match ← h.attachGpu with
      | .error f =>
          tell .dropWindow
          return .error (f.during .initializingGpu)
      | .ok gpu =>
          match ← h.initApp gpu with
          | .error f =>
              closeWindow
              return .error (f.during .initializingApp)
          | .ok () => return .ok ⟨id, clock.reset (← readClock), gpu⟩

/-! ## Redrawing -/

/-- One redraw: a tick, an update and, unless that asks to exit, a render. The
window goes on with the clock and the surface that these leave. -/
def redrawWindow (h : Host α) (w : OpenWindow) : Hosting α Outcome := do
  let (time, clock) := w.clock.tick (← readClock)
  Effect.modify fun s => { s with window := some { w with clock } }
  tell (.callback (.update time))
  let (control, app) := h.app.update time (← Effect.get).app
  Effect.modify fun s => { s with app }
  match control with
  | .exit => return .ok .exit
  | .proceed =>
      tell (.callback (.render time))
      let frame ← onScreen (h.app.render ⟨w.gpu, time⟩ app)
      Effect.modify fun s =>
        { s with app := frame.app, window := some { w with clock, gpu := frame.gpu } }
      return frame.outcome

/-- Redraws the window, if there is one. -/
def redraw (h : Host α) : Hosting α Outcome := do
  match (← Effect.get).window with
  | none => return .ok .proceed
  | some w => h.redrawWindow w

/-- Fits the surface of a window to a size, and asks for a redraw. -/
def resizeTo (w : OpenWindow) (size : PixelSize) : Hosting α Unit := do
  let gpu ← onDevice (w.gpu.resize size)
  Effect.modify fun s => { s with window := some { w with gpu } }
  tell .requestRedraw

/-! ## Handlers -/

/-- The platform is ready for windows. -/
def resumed (h : Host α) : Hosting α Unit := do
  match (← Effect.get).window with
  | some _ => return
  | none =>
      match ← h.openWindow with
      | .error f =>
          let _ ← settle (.error f)
          tell .exit
      | .ok w =>
          Effect.modify fun s => { s with window := some w }
          tell .requestRedraw

/-- The platform has no more events for now. Redraws go on and on. -/
def aboutToWait : Hosting α Unit := do
  let s ← Effect.get
  if s.verdict.exitRequested then
    tell .exit
  else
    tell (.setControlFlow .wait)
    if s.window.isSome then
      tell .requestRedraw

/-- What the host itself does about an event of its window. -/
def respond (h : Host α) (w : OpenWindow) : WindowEvent → Hosting α Unit
  | .closeRequested => do
      Graphics.log ⟨.debug, "close requested"⟩
      closeWindow
      Effect.modify fun s => { s with window := none }
      let _ ← settle (.ok .exit)
      tell .exit
  | .resized size => do
      Graphics.log ⟨.debug, s!"resized to {size.width}x{size.height}"⟩
      resizeTo w size
  | .scaleFactorChanged => do
      resizeTo w (← Effect.get).platform.innerSize
  | .redrawRequested => do
      if ← settle (← h.redraw) then
        tell .exit
  | .focused => pure ()

/-- Lets the app see an event first, and then responds to it. -/
def deliver (h : Host α) (w : OpenWindow) (event : WindowEvent) : Hosting α Unit := do
  tell (.callback (.event event))
  let (control, app) := h.app.onEvent event (← Effect.get).app
  Effect.modify fun s => { s with app }
  match control with
  | .exit =>
      let _ ← settle (.ok .exit)
      tell .exit
  | .proceed => h.respond w event

/-- Something happened to a window. -/
def windowEvent (h : Host α) (id : Nat) (event : WindowEvent) : Hosting α Unit := do
  let s ← Effect.get
  if s.verdict.exitRequested then
    tell .exit
  else
    match s.window with
    | none => return
    | some w => if w.id = id then h.deliver w event else return

end Host

/-! ## Whole runs -/

/-- What a platform does next: it calls a handler, or something about it
changes. -/
inductive HostStep where
  | resumed
  | aboutToWait
  | window (id : Nat) (event : WindowEvent)
  /-- The clock moves on by nanoseconds. -/
  | advance (elapsed : Int)
  | innerSize (size : PixelSize)
  /-- From now on requests are answered in this way. -/
  | refuse (refusal? : PlatformRequest → Option Refusal)

/-- What happened in a run: the events of each step, those of the end when
everything is dropped, and the result. -/
structure HostReport where
  steps : List (List (Event HostCall))
  ending : List (Event HostCall)
  result : Except Failure Unit

namespace Host

variable {α : Type}

def changePlatform (f : Platform → Platform) : Hosting α Unit :=
  Effect.modify fun s => { s with platform := f s.platform }

def play (h : Host α) : HostStep → Hosting α Unit
  | .resumed => h.resumed
  | .aboutToWait => aboutToWait
  | .window id event => h.windowEvent id event
  | .advance elapsed => changePlatform fun p => { p with now := p.now + elapsed }
  | .innerSize size => changePlatform fun p => { p with innerSize := size }
  | .refuse refusal? => changePlatform fun p => { p with refusal? }

/-- Plays steps in order: what each of them did, and the state after all. -/
def playAll (h : Host α) : List HostStep → HostState α →
    Except Fault (List (List (Event HostCall)) × HostState α)
  | [], s => .ok ([], s)
  | step :: rest, s => do
      let ran ← (h.play step).run s
      let (events, last) ← h.playAll rest ran.state
      return (ran.events :: events, last)

/-- What is dropped at the end of a run. -/
def ending (s : HostState α) : List (Event HostCall) :=
  if s.window.isSome then [.call .dropSurface, .call .dropWindow] else []

/-- The result of a run. A loop that breaks down says so itself. -/
def result (s : HostState α) : Except Failure Unit :=
  match s.platform.failure? .runLoop with
  | some f => .error f
  | none => s.verdict.result

/-- Runs an app on a platform. -/
def run (h : Host α) (platform : Platform) (app : α) (steps : List HostStep) :
    Except Fault HostReport :=
  match platform.failure? .eventLoop with
  | some f => .ok ⟨[], [], .error f⟩
  | none => do
      let (events, last) ← h.playAll steps (.start platform app)
      return ⟨events, ending last, result last⟩

end Host

end SpriteRenderer

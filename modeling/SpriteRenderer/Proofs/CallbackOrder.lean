import SpriteRenderer.Proofs.HostHistory

/-!
# When an app is called, and with what time

In one step an app is called in one of five ways, its `Scene`s: not at all, to
prepare for a window, to see an event, and for a redraw also to update, or to
update and render. `Scene` also keeps what the app answered, since that decides
between the last two, and what it became: each call gets the app that the call
before it left.

Between a step that opens a window and the step in which it is dropped lies the
window's `Lifetime`. Every call but the first belongs to one (`exists_lifetime`).
The clock of a window is told apart from its ticks here: `Timed` is about the
times that were handed out, and says of each what its number and its length
must be. That the clock agrees with them is the invariant of a lifetime
(`timed_of_history`).
-/

namespace SpriteRenderer

def HostCall.callback? : HostCall → Option Callback
  | .callback c => some c
  | _ => none

def Callback.update? : Callback → Option FrameTime
  | .update time => some time
  | _ => none

/-- The calls to the app in a step. -/
def HostTurn.callbacks {α : Type} (x : HostTurn α) : List Callback :=
  (signals x.events).filterMap HostCall.callback?

/-- The times that an app was told in its updates. -/
def updateTimes {α : Type} (log : List (HostTurn α)) : List FrameTime :=
  log.flatMap fun x => x.callbacks.filterMap Callback.update?

theorem updateTimes_append {α : Type} (log later : List (HostTurn α)) :
    updateTimes (log ++ later) = updateTimes log ++ updateTimes later :=
  List.flatMap_append

/-- Times as they must be handed out from `baseline` on, and the reading behind
the last of them. Each is numbered by those before it and measured from the
previous one, and no step is shorter than a tenth of a millisecond or longer
than a quarter of a second. -/
inductive Timed (baseline : Int) : List FrameTime → Int → Prop
  | start : Timed baseline [] baseline
  | tick {times : List FrameTime} {previous : Int} {time : FrameTime}
      (before : Timed baseline times previous)
      (number : time.frameIndex = .ofNat times.length)
      (length : (time.elapsed : Int) = min (max (time.now - previous) 100000) 250000000) :
      Timed baseline (times ++ [time]) time.now

namespace Host

variable {α : Type} {h : Host α}

/-! ## Scenes -/

/-- How an app can be called in a step from `s` to `s'`. -/
inductive Scene (h : Host α) (s s' : HostState α) : HostStep → List Callback → Prop
  | nothing {step : HostStep}
      (deaf : ∀ w event, s.window = some w → step = .window w.id event →
        s.verdict.exitRequested = true)
      (app : s'.app = s.app) : Scene h s s' step []
  | init {config : SurfaceConfig} {attached : Ran (Event GraphicsCall) Device GpuContext}
      {prepared : Ran (Event GraphicsCall) Device (α × Except Failure Unit)}
      (window : s.window = none) (configured : h.surfaceConfig s.platform = .ok config)
      (attaching : (GpuContext.attach config h.options.stencilFormat).run s.platform.screen.device
        = .ok attached)
      (preparing : (h.app.init attached.value s.app).run attached.state = .ok prepared)
      (app : s'.app = prepared.value.1) :
      Scene h s s' .resumed [.init attached.value.size attached.value.config.format]
  | event {w : OpenWindow} {event : WindowEvent} (window : s.window = some w)
      (brief : event ≠ .redrawRequested ∨ (h.app.onEvent event s.app).1 = .exit)
      (app : s'.app = (h.app.onEvent event s.app).2) :
      Scene h s s' (.window w.id event) [.event event]
  | stopped {w : OpenWindow} {time : FrameTime} {seen updated : α} (window : s.window = some w)
      (read : time.now = s.platform.afterReading.now)
      (seeing : h.app.onEvent .redrawRequested s.app = (.proceed, seen))
      (updating : h.app.update time seen = (.exit, updated)) (app : s'.app = updated) :
      Scene h s s' (.window w.id .redrawRequested) [.event .redrawRequested, .update time]
  | rendered {w w' : OpenWindow} {time : FrameTime} {seen updated : α}
      {drawn : Ran (Event CanvasCall) Screen (AppFrame α)} (window : s.window = some w)
      (read : time.now = s.platform.afterReading.now)
      (seeing : h.app.onEvent .redrawRequested s.app = (.proceed, seen))
      (updating : h.app.update time seen = (.proceed, updated))
      (rendering : (h.app.render ⟨w.gpu, time⟩ updated).run s.platform.screen = .ok drawn)
      (app : s'.app = drawn.value.app) (screen : s'.platform.screen = drawn.state)
      (kept : s'.window = some w') (gpu : w'.gpu = drawn.value.gpu) :
      Scene h s s' (.window w.id .redrawRequested)
        [.event .redrawRequested, .update time, .render time]

theorem now_of_tick {c clock : FrameClock} {now : Int} {time : FrameTime}
    (ticked : c.tick now = (time, clock)) : time.now = now := by
  rw [← (Prod.mk.inj ticked).1]

theorem callbacks_exit (stop : Bool) :
    (if stop then [HostCall.exit] else []).filterMap HostCall.callback? = [] := by
  cases stop <;> rfl

theorem TurnCourse.scene {s s' : HostState α} {step : HostStep} {said : List HostCall}
    (course : TurnCourse h s step said s') :
    Scene h s s' step (said.filterMap HostCall.callback?) := by
  cases course with
  | unneeded | waited | waitedLate | advanced | sized | warned => exact .nothing (by simp) rfl
  | late leaving => exact .nothing (fun _ _ _ _ => leaving) rfl
  | stray going foreign =>
      refine .nothing (fun w event window hstep => ?_) rfl
      exact absurd (HostStep.window.inj hstep).1.symm (foreign w window)
  | failed window opening =>
      cases opening with
      | windowless | surfaceless => exact .nothing (by simp) rfl
      | unprepared _ configured attaching preparing _ =>
          exact .init window configured attaching preparing rfl
  | opened window opening =>
      cases opening with
      | opened _ configured attaching preparing _ _ =>
          exact .init window configured attaching preparing rfl
  | declined going window seen => exact .event window (.inr (by rw [seen])) (by rw [seen])
  | closed going window seen => exact .event window (.inl (by simp)) (by rw [seen])
  | ignored going window seen => exact .event window (.inl (by simp)) (by rw [seen])
  | resized going window seen asked _ =>
      refine .event window (.inl ?_) (by rw [seen])
      rcases asked with rfl | ⟨rfl, -⟩ <;> simp
  | @redrawn w app outcome said s' going window seen redrawing =>
      rw [List.filterMap_append, callbacks_exit, List.append_nil]
      cases redrawing with
      | stopped ticked updated => exact .stopped window (now_of_tick ticked) seen updated rfl
      | rendered ticked updated rendering =>
          exact .rendered window (now_of_tick ticked) seen updated rendering rfl rfl rfl rfl

/-! ## Clocks -/

/-- A clock that has handed out `times` from `baseline` on. -/
structure InStep (baseline : Int) (times : List FrameTime) (c : FrameClock) : Prop where
  timed : Timed baseline times c.last
  number : c.frameIndex = .ofNat times.length
  shortest : c.shortest = 100000
  longest : c.longest = 250000000

theorem inStep_start (baseline : Int) : InStep baseline [] (.start baseline) :=
  ⟨.start, rfl, rfl, rfl⟩

theorem InStep.tick {baseline now : Int} {times : List FrameTime} {c clock : FrameClock}
    {time : FrameTime} (inStep : InStep baseline times c)
    (ticked : c.tick now = (time, clock)) : InStep baseline (times ++ [time]) clock := by
  obtain ⟨rfl, rfl⟩ := Prod.mk.inj ticked
  refine ⟨.tick inStep.timed inStep.number ?_, ?_, inStep.shortest, inStep.longest⟩
  · show ((c.stepTo now : Nat) : Int) = min (max (now - c.last) 100000) 250000000
    unfold FrameClock.stepTo
    rw [inStep.shortest, inStep.longest]
    omega
  · show c.frameIndex + 1 = _
    rw [inStep.number, List.length_append, List.length_singleton, UInt64.ofNat_add]
    rfl

/-- A step of a host with a window hands out at most one time, the next tick of
the window's clock. -/
theorem TurnCourse.clock_cases {s s' : HostState α} {step : HostStep} {said : List HostCall}
    {w : OpenWindow} (course : TurnCourse h s step said s') (window : s.window = some w) :
    ((said.filterMap HostCall.callback?).filterMap Callback.update? = []
        ∧ ∀ w', s'.window = some w' → w'.clock = w.clock)
      ∨ ∃ time clock, (said.filterMap HostCall.callback?).filterMap Callback.update? = [time]
        ∧ w.clock.tick s.platform.afterReading.now = (time, clock)
        ∧ ∃ w', s'.window = some w' ∧ w'.clock = clock := by
  have unchanged : ∀ {w'}, s.window = some w' → w'.clock = w.clock := by
    intro w' window'
    rw [Option.some.inj (window'.symm.trans window)]
  cases course with
  | failed closed _ => cases window.symm.trans closed
  | opened closed _ => cases window.symm.trans closed
  | closed _ _ _ => exact .inl ⟨rfl, fun _ hw => by cases hw⟩
  | resized _ window' _ _ _ =>
      have hsame := unchanged window'
      refine .inl ⟨rfl, fun w' hw => ?_⟩
      obtain rfl := Option.some.inj hw
      exact hsame
  | unneeded | waited | waitedLate | late | stray | declined | ignored | advanced | sized
  | warned => exact .inl ⟨rfl, fun _ => unchanged⟩
  | @redrawn w' app outcome said s' going window' seen redrawing =>
      obtain rfl := Option.some.inj (window'.symm.trans window)
      refine .inr ?_
      rw [List.filterMap_append, callbacks_exit, List.append_nil]
      cases redrawing with
      | stopped ticked _ => exact ⟨_, _, rfl, ticked, _, rfl, rfl⟩
      | rendered ticked _ _ => exact ⟨_, _, rfl, ticked, _, rfl, rfl⟩

/-! ## Lifetimes -/

/-- The app was asked to prepare for the window that a step opened, and did. -/
structure Prepared (h : Host α) (s : HostState α) (said : List Callback) (s' : HostState α)
    (config : SurfaceConfig) (attached : Ran (Event GraphicsCall) Device GpuContext)
    (prepared : Ran (Event GraphicsCall) Device (α × Except Failure Unit)) (w : OpenWindow) :
    Prop where
  configured : h.surfaceConfig s.platform = .ok config
  attaching : (GpuContext.attach config h.options.stencilFormat).run s.platform.screen.device
    = .ok attached
  called : said = [.init attached.value.size attached.value.config.format]
  preparing : (h.app.init attached.value s.app).run attached.state = .ok prepared
  ready : prepared.value.2 = .ok ()
  app : s'.app = prepared.value.1
  window : s'.window = some w
  gpu : w.gpu = attached.value
  /-- The clock was read before the app prepared, and again after it. -/
  read : s'.platform.now = s.platform.afterReading.afterPreparation.afterReading.now

theorem TurnCourse.of_closed {s s' : HostState α} {step : HostStep} {said : List HostCall}
    (course : TurnCourse h s step said s') (closed : s.window = none) {w : OpenWindow}
    (window : s'.window = some w) :
    w.clock = .start s'.platform.now
      ∧ ∃ config attached prepared, Prepared h s (said.filterMap HostCall.callback?) s'
          config attached prepared w := by
  cases course with
  | @opened w' said s' _ opening =>
      obtain rfl := Option.some.inj window
      cases opening with
      | @opened config attached prepared now granted configured attaching preparing ready read =>
          refine ⟨by rw [read], config, attached, prepared, ?_⟩
          exact ⟨configured, attaching, rfl, preparing, ready, rfl, rfl, rfl, rfl⟩
  | failed _ opening =>
      have hwindow : s.window = some w := by
        cases opening <;> exact window
      cases closed.symm.trans hwindow
  | unneeded window' => cases closed.symm.trans window'
  | declined _ window' _ => cases closed.symm.trans window'
  | closed _ window' _ => cases closed.symm.trans window'
  | resized _ window' _ _ _ => cases closed.symm.trans window'
  | ignored _ window' _ => cases closed.symm.trans window'
  | redrawn _ window' _ _ => cases closed.symm.trans window'
  | waited | waitedLate | late | stray | advanced | sized | warned =>
      cases closed.symm.trans window

/-- Steps after `opening`, which opened a window, as long as it was there. -/
structure Lifetime (opening : HostTurn α) (life : List (HostTurn α)) : Prop where
  closed : opening.before.window = none
  opened : opening.after.window.isSome = true
  present : ∀ x ∈ life, x.before.window.isSome = true

/-- A window that is there was opened, and has been there since. -/
theorem exists_lifetime {platform : Platform} {app : α} {log : List (HostTurn α)}
    {s : HostState α} (history : History h (.start platform app) log s)
    (window : s.window.isSome = true) :
    ∃ earlier opening life, log = earlier ++ opening :: life ∧ Lifetime opening life := by
  induction history with
  | start => cases window
  | @turn log s s' step events before played ih =>
      cases hbefore : s.window with
      | none => exact ⟨log, _, [], rfl, hbefore, window, fun _ hmem => absurd hmem List.not_mem_nil⟩
      | some w =>
          obtain ⟨earlier, opening, life, rfl, lifetime⟩ := ih (by rw [hbefore]; rfl)
          refine ⟨earlier, opening, life ++ [⟨step, s, events, s'⟩], by simp, lifetime.closed,
            lifetime.opened, ?_⟩
          intro x hx
          rcases List.mem_append.mp hx with hx | hx
          · exact lifetime.present x hx
          · obtain rfl := List.mem_singleton.mp hx
            show s.window.isSome = true
            rw [hbefore]
            rfl

/-- The invariant of a lifetime: the window's clock has handed out the times
that were told, and no others. -/
theorem timed_of_history {baseline : Int} {s₁ s₂ : HostState α} {life : List (HostTurn α)}
    {w₁ : OpenWindow} (history : History h s₁ life s₂) (window : s₁.window = some w₁)
    (hclock : w₁.clock = .start baseline) (present : ∀ x ∈ life, x.before.window.isSome = true) :
    (∃ last, Timed baseline (updateTimes life) last)
      ∧ ∀ w, s₂.window = some w → InStep baseline (updateTimes life) w.clock := by
  -- The clock is known only while the window is there, and the last step may close it: so the
  -- times stand on their own, and the clock is tied to them if there still is one.
  induction history with
  | start =>
      refine ⟨⟨baseline, .start⟩, fun w hw => ?_⟩
      rw [← Option.some.inj (window.symm.trans hw), hclock]
      exact inStep_start baseline
  | @turn life s s' step events before played ih =>
      obtain ⟨-, inStep⟩ := ih fun x hx => present x (List.mem_append_left _ hx)
      obtain ⟨w, hw⟩ := Option.isSome_iff_exists.mp
        (present ⟨step, s, events, s'⟩ (List.mem_append_right _ List.mem_cons_self))
      have hstep := inStep w hw
      have htimes : updateTimes (life ++ [⟨step, s, events, s'⟩]) = updateTimes life
          ++ ((signals events).filterMap HostCall.callback?).filterMap Callback.update? := by
        rw [updateTimes_append]
        simp [updateTimes, HostTurn.callbacks]
      rw [htimes]
      rcases (turnCourse_of_run played).clock_cases hw with
        ⟨hquiet, hsame⟩ | ⟨time, clock, htime, ticked, w', hw', rfl⟩
      · rw [hquiet, List.append_nil]
        refine ⟨⟨_, hstep.timed⟩, fun w' hw' => ?_⟩
        rw [hsame w' hw']
        exact hstep
      · rw [htime]
        have hnext := hstep.tick ticked
        refine ⟨⟨_, hnext.timed⟩, fun w'' hw'' => ?_⟩
        rw [← Option.some.inj (hw'.symm.trans hw'')]
        exact hnext

/-! ## Whole runs -/

/-- In what order and with what times an app was called in a history. -/
structure CallbackOrder (h : Host α) (log : List (HostTurn α)) : Prop where
  /-- Renders follow the updates that want them, at once, once, and with their time; each call
  goes to the app as the call before it left it. -/
  scenes : ∀ x ∈ log, Scene h x.before x.after x.step x.callbacks
  /-- A window that opens is one that the app is prepared for. -/
  prepared : ∀ x ∈ log, ∀ w, x.before.window = none → x.after.window = some w →
    ∃ config attached prepared, Prepared h x.before x.callbacks x.after config attached prepared w
  /-- Other calls come while a window is open. -/
  housed : ∀ earlier x later c, log = earlier ++ x :: later → c ∈ x.callbacks →
    (∀ size format, c ≠ .init size format) →
      ∃ before opening life, earlier = before ++ opening :: life ∧ Lifetime opening (life ++ [x])
  /-- The times of a lifetime start when the window has been opened. -/
  timed : ∀ earlier opening life later, log = earlier ++ opening :: (life ++ later) →
    Lifetime opening life →
      ∃ last, Timed opening.after.platform.now (updateTimes life) last
  /-- Events of windows that are not there do nothing. -/
  stray : ∀ x ∈ log, ∀ id event, x.step = .window id event →
    (∀ w, x.before.window = some w → w.id ≠ id) → x.callbacks = [] ∧ x.after = x.before

theorem Scene.window_isSome {s s' : HostState α} {step : HostStep} {said : List Callback}
    (scene : Scene h s s' step said) {c : Callback} (hc : c ∈ said)
    (hinit : ∀ size format, c ≠ .init size format) : s.window.isSome = true := by
  cases scene with
  | nothing => cases hc
  | init => exact absurd (List.mem_singleton.mp hc) (hinit _ _)
  | event window | stopped window | rendered window =>
      rw [window]
      rfl

theorem TurnCourse.of_stray {s s' : HostState α} {id : Nat} {event : WindowEvent}
    {said : List HostCall} (course : TurnCourse h s (.window id event) said s')
    (foreign : ∀ w, s.window = some w → w.id ≠ id) :
    said.filterMap HostCall.callback? = [] ∧ s' = s := by
  cases course with
  | late | stray => exact ⟨rfl, rfl⟩
  | declined _ window _ => exact absurd rfl (foreign _ window)
  | closed _ window _ => exact absurd rfl (foreign _ window)
  | resized _ window _ _ _ => exact absurd rfl (foreign _ window)
  | ignored _ window _ => exact absurd rfl (foreign _ window)
  | redrawn _ window _ _ => exact absurd rfl (foreign _ window)

theorem callbackOrder_of_history {platform : Platform} {app : α} {log : List (HostTurn α)}
    {last : HostState α} (history : History h (.start platform app) log last) :
    CallbackOrder h log := by
  refine { scenes := ?_, prepared := ?_, housed := ?_, timed := ?_, stray := ?_ }
  · intro x hx
    exact (history.course hx).scene
  · intro x hx w closed window
    exact ((history.course hx).of_closed closed window).2
  · intro earlier x later c split hc hinit
    obtain ⟨before, played, -⟩ := history.splitAt split
    have hpresent := (turnCourse_of_run played).scene.window_isSome hc hinit
    obtain ⟨before', opening, life, rfl, lifetime⟩ := exists_lifetime before hpresent
    refine ⟨before', opening, life, rfl, lifetime.closed, lifetime.opened, fun y hy => ?_⟩
    rcases List.mem_append.mp hy with hy | hy
    · exact lifetime.present y hy
    · obtain rfl := List.mem_singleton.mp hy
      exact hpresent
  · intro earlier opening life later split lifetime
    obtain ⟨-, played, after⟩ := history.splitAt split
    obtain ⟨s₂, during⟩ := after.left
    obtain ⟨w, window⟩ := Option.isSome_iff_exists.mp lifetime.opened
    have hclock := ((turnCourse_of_run played).of_closed lifetime.closed window).1
    exact (timed_of_history during window hclock lifetime.present).1
  · intro x hx id event hstep foreign
    have course := history.course hx
    rw [hstep] at course
    exact course.of_stray foreign

/-- However an app is taken through steps of the platform, and whatever the
clock shows meanwhile, it is called in order and told the right times; and it
can be taken through any steps as long as it answers. -/
theorem called_in_order (h : Host α) (platform : Platform) (app : α) (steps : List HostStep) :
    (h.app.Responds → ∃ events last, h.playAll steps (.start platform app) = .ok (events, last))
      ∧ ∀ events last, h.playAll steps (.start platform app) = .ok (events, last) →
        ∃ log, History h (.start platform app) log last ∧ log.map HostTurn.step = steps
          ∧ log.map HostTurn.events = events ∧ CallbackOrder h log := by
  refine ⟨fun responds => exists_playAll responds steps _, fun events last played => ?_⟩
  obtain ⟨log, history, hsteps, hevents⟩ := exists_history played
  exact ⟨log, history, hsteps, hevents, callbackOrder_of_history history⟩

/-- Two redraws with a second between them, and one of a window that is not
there. -/
theorem called_in_order_sample :
    let steps : List HostStep := [.resumed, .window 0 .redrawRequested, .advance 1000000000,
      .window 7 .redrawRequested, .window 0 .redrawRequested]
    let host := sampleHost (.ok .proceed)
    ∃ log last, History host (.start samplePlatform ()) log last
      ∧ log.map HostTurn.step = steps ∧ CallbackOrder host log
      ∧ updateTimes log = [⟨1000000, 5003000000, 0⟩, ⟨250000000, 6004000000, 1⟩] := by
  intro steps host
  obtain ⟨total, order⟩ := called_in_order host samplePlatform () steps
  obtain ⟨events, last, played⟩ := total (responds_sampleHost _)
  let told (events : List (Event HostCall)) : List FrameTime :=
    ((signals events).filterMap HostCall.callback?).filterMap Callback.update?
  obtain ⟨⟨_, _⟩, hplayed, htold⟩ := exists_ok_of_map_toOption
    (x := host.playAll steps (.start samplePlatform ())) (f := fun out => out.1.flatMap told)
    (b := [⟨1000000, 5003000000, 0⟩, ⟨250000000, 6004000000, 1⟩]) (by decide +kernel)
  obtain ⟨rfl, rfl⟩ := Prod.mk.inj (Except.ok.inj (played.symm.trans hplayed))
  obtain ⟨log, history, hsteps, rfl, horder⟩ := order events last played
  rw [List.flatMap_map] at htold
  exact ⟨log, last, history, hsteps, horder, htold⟩

end Host

end SpriteRenderer

import SpriteRenderer.Proofs.HostHistory

/-!
# How a host comes to its end

Six things can end a host: a window that cannot be opened, an app that is not
ready for it, an app that has had enough of events, updates or frames, a frame
that failed, and a close button. Whatever it is, the step in which it happens
takes one outcome into account, `TurnCourse.settled`: the verdict after the step
is the verdict before it and this outcome, an exit is asked for there and then
unless the outcome is to go on, and the outcome is a failure exactly if the
step raised it.

What was raised is not read off the verdict. `Raises` looks at what the step
said and what was answered to it: a window was asked for and could not be had,
or the app was called and answered with a failure. Over whole histories the
failure that is kept is the first that was raised (`blames_history`).
-/

namespace SpriteRenderer

/-! ## Verdicts -/

namespace Verdict

theorem exitRequested_settle (v : Verdict) (outcome : Outcome) :
    (v.settle outcome).2.1.exitRequested = (v.exitRequested || (v.settle outcome).1) := by
  match outcome with
  | .ok .proceed => simp [settle]
  | .ok .exit => simp [settle]
  | .error f => simp [settle]

theorem failure_settle_ok (v : Verdict) (control : Control) :
    (v.settle (.ok control)).2.1.failure = v.failure := by
  cases control <;> rfl

theorem failure_settle_error (v : Verdict) (f : Failure) :
    (v.settle (.error f)).2.1.failure = v.failure.or (some f) := by
  cases hf : v.failure <;> simp [settle, hf]

theorem stop_of_error (v : Verdict) (f : Failure) : (v.settle (.error f)).1 = true := rfl

theorem result_eq_error_iff {v : Verdict} {e : Failure} :
    v.result = .error e ↔ v.failure = some e := by
  unfold result
  cases v.failure <;> simp

theorem result_eq_ok_iff {v : Verdict} : v.result = .ok () ↔ v.failure = none := by
  unfold result
  cases v.failure <;> simp

end Verdict

namespace Host

variable {α : Type} {h : Host α}

/-! ## What a step raises -/

/-- Why a platform does not give a window with a surface. -/
def openingFailure? (h : Host α) (p : Platform) : Option Failure :=
  match p.failure? .createWindow with
  | some f => some f
  | none =>
      match h.surfaceConfig p with
      | .error f => some (f.during .initializingGpu)
      | .ok _ => none

/-- The failures raised in a step that began in `s` and said `said`. -/
inductive Raises (h : Host α) (s : HostState α) (said : List HostCall) : Failure → Prop
  /-- A window was asked for, and could not be had. -/
  | creation {f : Failure} (asked : .createWindow h.config.title h.config.size ∈ said)
      (failed : h.openingFailure? s.platform = some f) : Raises h s said f
  /-- The app was asked to prepare for its window, and failed. -/
  | init {config : SurfaceConfig} {attached : Ran (Event GraphicsCall) Device GpuContext}
      {prepared : Ran (Event GraphicsCall) Device (α × Except Failure Unit)} {f : Failure}
      (called : .callback (.init attached.value.size attached.value.config.format) ∈ said)
      (configured : h.surfaceConfig s.platform = .ok config)
      (attaching : (GpuContext.attach config h.options.stencilFormat).run s.platform.screen.device
        = .ok attached)
      (preparing : (h.app.init attached.value s.app).run attached.state = .ok prepared)
      (failed : prepared.value.2 = .error f) : Raises h s said (f.during .initializingApp)
  /-- The app was asked to render, and failed. -/
  | render {w : OpenWindow} {time : FrameTime} {app app' : α}
      {drawn : Ran (Event CanvasCall) Screen (AppFrame α)} {f : Failure}
      (called : .callback (.render time) ∈ said) (window : s.window = some w)
      (seen : h.app.onEvent .redrawRequested s.app = (.proceed, app))
      (updated : h.app.update time app = (.proceed, app'))
      (rendering : (h.app.render ⟨w.gpu, time⟩ app').run s.platform.screen = .ok drawn)
      (failed : drawn.value.outcome = .error f) : Raises h s said f

theorem not_raises_of_quiet {s : HostState α} {said : List HostCall}
    (hcreate : .createWindow h.config.title h.config.size ∉ said)
    (hinit : ∀ size format, .callback (.init size format) ∉ said)
    (hrender : ∀ time, .callback (.render time) ∉ said) (f : Failure) : ¬ h.Raises s said f := by
  intro raised
  cases raised with
  | creation asked _ => exact hcreate asked
  | init called _ _ _ _ => exact hinit _ _ called
  | render called _ _ _ _ _ => exact hrender _ called

/-- Where a window was all that was asked for, what it raises is why it could
not be had. -/
theorem raises_iff_of_unopened {s : HostState α} {said : List HostCall}
    (hcreate : .createWindow h.config.title h.config.size ∈ said)
    (hinit : ∀ size format, .callback (.init size format) ∉ said)
    (hrender : ∀ time, .callback (.render time) ∉ said) (f : Failure) :
    h.Raises s said f ↔ h.openingFailure? s.platform = some f := by
  refine ⟨fun raised => ?_, .creation hcreate⟩
  cases raised with
  | creation _ failed => exact failed
  | init called _ _ _ _ => exact absurd called (hinit _ _)
  | render called _ _ _ _ _ => exact absurd called (hrender _)

theorem OpeningCourse.verdict_eq {s s' : HostState α} {outcome : Except Failure OpenWindow}
    {said : List HostCall} (opening : OpeningCourse h s outcome said s') :
    s'.verdict = s.verdict := by
  cases opening <;> rfl

theorem RedrawCourse.verdict_eq {w : OpenWindow} {s s' : HostState α} {outcome : Outcome}
    {said : List HostCall} (redrawing : RedrawCourse h w s outcome said s') :
    s'.verdict = s.verdict := by
  cases redrawing <;> rfl

/-- Opening a window raises what comes of it. -/
theorem OpeningCourse.raises_iff {s s' : HostState α} {outcome : Except Failure OpenWindow}
    {said : List HostCall} (opening : OpeningCourse h s outcome said s') (tail : List HostCall)
    (htail : tail ⊆ [.exit]) (f : Failure) :
    h.Raises s (said ++ tail) f ↔ outcome = .error f := by
  have hrender : ∀ time, .callback (.render time) ∉ tail := by
    intro time hmem
    simpa using htail hmem
  have hinit : ∀ size format, .callback (.init size format) ∉ tail := by
    intro size format hmem
    simpa using htail hmem
  cases opening with
  | @windowless f' refused =>
      have hfailure : h.openingFailure? s.platform = some f' := by
        simp [openingFailure?, refused]
      rw [raises_iff_of_unopened (by simp) (by simp [hinit]) (by simp [hrender]) f, hfailure]
      simp
  | @surfaceless f' granted failed =>
      have hfailure : h.openingFailure? s.platform = some (f'.during .initializingGpu) := by
        simp [openingFailure?, granted, failed]
      rw [raises_iff_of_unopened (by simp) (by simp [hinit]) (by simp [hrender]) f, hfailure]
      simp
  | @unprepared config attached prepared f' granted configured attaching preparing failed =>
      have hnone : h.openingFailure? s.platform = none := by
        simp [openingFailure?, granted, configured]
      constructor
      · intro raised
        cases raised with
        | creation _ failed =>
            rw [hnone] at failed
            cases failed
        | init called configured' attaching' preparing' failed' =>
            -- The same questions, so the same answers.
            obtain rfl := Except.ok.inj (configured.symm.trans configured')
            obtain rfl := Except.ok.inj (attaching.symm.trans attaching')
            obtain rfl := Except.ok.inj (preparing.symm.trans preparing')
            obtain rfl := Except.error.inj (failed.symm.trans failed')
            rfl
        | render called _ _ _ _ _ => simp [hrender] at called
      · intro houtcome
        obtain rfl := Except.error.inj houtcome
        exact .init (by simp) configured attaching preparing failed
  | opened granted configured attaching preparing ready _ =>
      have hnone : h.openingFailure? s.platform = none := by
        simp [openingFailure?, granted, configured]
      refine ⟨?_, by simp⟩
      intro raised
      cases raised with
      | creation _ failed =>
          rw [hnone] at failed
          cases failed
      | init called configured' attaching' preparing' failed' =>
          obtain rfl := Except.ok.inj (configured.symm.trans configured')
          obtain rfl := Except.ok.inj (attaching.symm.trans attaching')
          obtain rfl := Except.ok.inj (preparing.symm.trans preparing')
          cases ready.symm.trans failed'
      | render called _ _ _ _ _ => simp [hrender] at called

/-- So does redrawing it. -/
theorem RedrawCourse.raises_iff {w : OpenWindow} {s s' : HostState α} {app : α} {outcome : Outcome}
    {said : List HostCall} (window : s.window = some w)
    (seen : h.app.onEvent .redrawRequested s.app = (.proceed, app))
    (redrawing : RedrawCourse h w { s with app } outcome said s') (tail : List HostCall)
    (htail : tail ⊆ [.exit]) (f : Failure) :
    h.Raises s (.callback (.event .redrawRequested) :: said ++ tail) f ↔ outcome = .error f := by
  have hout : ∀ c ∈ tail, c = .exit := fun c hc => by simpa using htail hc
  have hrender : ∀ time, .callback (.render time) ∉ tail := by
    intro time hmem
    cases hout _ hmem
  have hinit : ∀ size format, .callback (.init size format) ∉ tail := by
    intro size format hmem
    cases hout _ hmem
  have hcreate : .createWindow h.config.title h.config.size ∉ tail := by
    intro hmem
    cases hout _ hmem
  cases redrawing with
  | stopped ticked updated =>
      refine ⟨fun raised => absurd raised ?_, by simp⟩
      exact not_raises_of_quiet (by simp [hcreate]) (by simp [hinit]) (by simp [hrender]) f
  | @rendered time clock app' drawn ticked updated rendering =>
      constructor
      · intro raised
        cases raised with
        | creation asked _ => simp [hcreate] at asked
        | init called _ _ _ _ => simp [hinit] at called
        | @render w' time' app₁ app₂ drawn' f called window' seen' updated' rendering' failed' =>
            obtain rfl : time' = time := by simpa [hrender] using called
            obtain rfl := Option.some.inj (window.symm.trans window')
            obtain rfl := (Prod.mk.inj (seen.symm.trans seen')).2
            obtain rfl := (Prod.mk.inj (updated.symm.trans updated')).2
            obtain rfl := Except.ok.inj (rendering.symm.trans rendering')
            exact failed'
      · intro failed
        exact .render (by simp) window seen updated rendering failed

/-! ## One outcome a step -/

/-- Every step takes one outcome into account: the failure that it raised, if
it raised one. -/
theorem TurnCourse.settled {s s' : HostState α} {step : HostStep} {said : List HostCall}
    (course : TurnCourse h s step said s') :
    ∃ outcome : Outcome, s'.verdict = (s.verdict.settle outcome).2.1
      ∧ ((s.verdict.settle outcome).1 = true → .exit ∈ said)
      ∧ ∀ f, h.Raises s said f ↔ outcome = .error f := by
  have quiet : ∀ {said : List HostCall} (control : Control),
      (∀ c ∈ said, c = .exit ∨ ∃ event, c = .callback (.event event)) →
      ∀ f, h.Raises s said f ↔ (.ok control : Outcome) = .error f := by
    intro said control hsaid f
    refine ⟨fun raised => absurd raised (not_raises_of_quiet ?_ ?_ ?_ f), by simp⟩
    · intro hmem
      simpa using hsaid _ hmem
    · intro size format hmem
      simpa using hsaid _ hmem
    · intro time hmem
      simpa using hsaid _ hmem
  cases course with
  | @failed f said s' window opening =>
      refine ⟨.error f, by rw [opening.verdict_eq], fun _ => by simp, fun f' => ?_⟩
      rw [opening.raises_iff [.exit] (List.Subset.refl _) f']
      simp
  | @opened w said s' window opening =>
      refine ⟨.ok .proceed, opening.verdict_eq, by simp [Verdict.settle], fun f => ?_⟩
      have raises := opening.raises_iff [] (List.nil_subset _) f
      simpa using raises
  | declined => exact ⟨.ok .exit, rfl, fun _ => by simp, quiet .exit (by simp)⟩
  | closed => exact ⟨.ok .exit, rfl, fun _ => by simp, quiet .exit (by simp)⟩
  | @redrawn w app outcome said s' going window seen redrawing =>
      have hverdict := redrawing.verdict_eq
      refine ⟨outcome, by rw [hverdict], fun hstop => ?_, fun f => ?_⟩
      · rw [hverdict, if_pos hstop]
        simp
      · refine redrawing.raises_iff window seen _ ?_ f
        split <;> simp
  | unneeded | waited | stray | resized | ignored | advanced | sized | warned =>
      exact ⟨.ok .proceed, rfl, by simp [Verdict.settle], quiet .proceed (by simp)⟩
  | waitedLate | late => exact ⟨.ok .proceed, rfl, by simp, quiet .proceed (by simp)⟩

theorem TurnCourse.exitRequested_mono {s s' : HostState α} {step : HostStep}
    {said : List HostCall} (course : TurnCourse h s step said s')
    (leaving : s.verdict.exitRequested = true) : s'.verdict.exitRequested = true := by
  obtain ⟨outcome, hverdict, -, -⟩ := course.settled
  rw [hverdict, Verdict.exitRequested_settle, leaving, Bool.true_or]

theorem TurnCourse.exit_of_requested {s s' : HostState α} {step : HostStep}
    {said : List HostCall} (course : TurnCourse h s step said s')
    (going : s.verdict.exitRequested = false) (leaving : s'.verdict.exitRequested = true) :
    .exit ∈ said := by
  obtain ⟨outcome, hverdict, hexit, -⟩ := course.settled
  rw [hverdict, Verdict.exitRequested_settle, going, Bool.false_or] at leaving
  exact hexit leaving

theorem TurnCourse.exit_of_raises {s s' : HostState α} {step : HostStep} {said : List HostCall}
    (course : TurnCourse h s step said s') {f : Failure} (raised : h.Raises s said f) :
    .exit ∈ said := by
  obtain ⟨outcome, -, hexit, hraises⟩ := course.settled
  obtain rfl := (hraises f).mp raised
  exact hexit (Verdict.stop_of_error _ f)

/-- The failure after a step is the one before it or else the one it raised. -/
theorem TurnCourse.failure_cases {s s' : HostState α} {step : HostStep} {said : List HostCall}
    (course : TurnCourse h s step said s') :
    (s'.verdict.failure = s.verdict.failure ∧ ∀ f, ¬ h.Raises s said f)
      ∨ ∃ f, h.Raises s said f ∧ s'.verdict.failure = s.verdict.failure.or (some f)
        ∧ s'.verdict.exitRequested = true := by
  obtain ⟨outcome, hverdict, -, hraises⟩ := course.settled
  cases outcome with
  | ok control =>
      refine .inl ⟨by rw [hverdict, Verdict.failure_settle_ok], fun f raised => ?_⟩
      cases (hraises f).mp raised
  | error f =>
      refine .inr ⟨f, (hraises f).mpr rfl, ?_, ?_⟩
      · rw [hverdict, Verdict.failure_settle_error]
      · rw [hverdict, Verdict.exitRequested_settle, Verdict.stop_of_error, Bool.or_true]

theorem TurnCourse.failure_kept {s s' : HostState α} {step : HostStep} {said : List HostCall}
    (course : TurnCourse h s step said s') {e : Failure} (failed : s.verdict.failure = some e) :
    s'.verdict.failure = some e := by
  rcases course.failure_cases with ⟨hkept, -⟩ | ⟨f, -, hor, -⟩
  · exact hkept.trans failed
  · rw [hor, failed, Option.some_or]

/-- What is left of a step once an exit was asked for. -/
theorem TurnCourse.quiet_of_leaving {s s' : HostState α} {step : HostStep}
    {said : List HostCall} (course : TurnCourse h s step said s')
    (leaving : s.verdict.exitRequested = true) :
    (∀ c, .callback c ∈ said → ∃ size format, c = .init size format)
      ∧ (step = .aboutToWait ∨ (∃ id event, step = .window id event) → .exit ∈ said) := by
  -- All that a host does with its window it does only while it is going on.
  have gone : s.verdict.exitRequested ≠ false := by simp [leaving]
  cases course with
  | unneeded | waitedLate | late | advanced | sized | warned => simp
  | failed window opening => cases opening <;> simp
  | opened window opening =>
      cases opening
      simp
  | waited going => exact absurd going gone
  | stray going _ => exact absurd going gone
  | declined going _ _ => exact absurd going gone
  | closed going _ _ => exact absurd going gone
  | resized going _ _ _ _ => exact absurd going gone
  | ignored going _ _ => exact absurd going gone
  | redrawn going _ _ _ => exact absurd going gone

/-! ## Whole runs -/

/-- `x` raised `f`. -/
def RaisedIn (h : Host α) (x : HostTurn α) (f : Failure) : Prop :=
  h.Raises x.before (signals x.events) f

/-- The failure to blame for how a history ended: the first that was raised. -/
def Blames (h : Host α) (log : List (HostTurn α)) : Option Failure → Prop
  | none => ∀ x ∈ log, ∀ f, ¬ h.RaisedIn x f
  | some e => ∃ earlier x later, log = earlier ++ x :: later
      ∧ (∀ y ∈ earlier, ∀ f, ¬ h.RaisedIn y f) ∧ h.RaisedIn x e

theorem Blames.snoc_quiet {log : List (HostTurn α)} {failure : Option Failure} {x : HostTurn α}
    (blames : h.Blames log failure) (quiet : ∀ f, ¬ h.RaisedIn x f) :
    h.Blames (log ++ [x]) failure := by
  cases failure with
  | none =>
      intro y hy
      rcases List.mem_append.mp hy with hy | hy
      · exact blames y hy
      · obtain rfl := List.mem_singleton.mp hy
        exact quiet
  | some e =>
      obtain ⟨earlier, z, later, rfl, hearlier, hz⟩ := blames
      exact ⟨earlier, z, later ++ [x], by simp, hearlier, hz⟩

theorem Blames.snoc_raised {log : List (HostTurn α)} {failure : Option Failure} {x : HostTurn α}
    {f : Failure} (blames : h.Blames log failure) (raised : h.RaisedIn x f) :
    h.Blames (log ++ [x]) (failure.or (some f)) := by
  cases failure with
  | none => exact ⟨log, x, [], rfl, blames, raised⟩
  | some e =>
      obtain ⟨earlier, z, later, rfl, hearlier, hz⟩ := blames
      exact ⟨earlier, z, later ++ [x], by simp, hearlier, hz⟩

theorem blames_history {platform : Platform} {app : α} {log : List (HostTurn α)}
    {s : HostState α} (history : History h (.start platform app) log s) :
    h.Blames log s.verdict.failure := by
  induction history with
  | start => exact fun _ hmem => absurd hmem List.not_mem_nil
  | turn before played ih =>
      rcases (turnCourse_of_run played).failure_cases with ⟨hkept, hquiet⟩ | ⟨f, hraised, hor, -⟩
      · rw [hkept]
        exact ih.snoc_quiet hquiet
      · rw [hor]
        exact ih.snoc_raised hraised

/-- A failure is never kept without an exit being asked for. -/
theorem exitRequested_of_failure {platform : Platform} {app : α} {log : List (HostTurn α)}
    {s : HostState α} (history : History h (.start platform app) log s)
    (failed : s.verdict.failure ≠ none) : s.verdict.exitRequested = true := by
  induction history with
  | start => exact absurd rfl failed
  | turn before played ih =>
      have course := turnCourse_of_run played
      rcases course.failure_cases with ⟨hkept, -⟩ | ⟨f, -, -, hexit⟩
      · exact course.exitRequested_mono (ih (hkept ▸ failed))
      · exact hexit

/-- How a host that was run through `log` up to `last` came to its end. -/
structure ExitDiscipline (h : Host α) (log : List (HostTurn α)) (last : HostState α) : Prop where
  /-- The step that asks for an exit tells the loop. -/
  announced : ∀ x ∈ log, x.before.verdict.exitRequested = false →
    x.after.verdict.exitRequested = true → .call .exit ∈ x.events
  /-- So does every step that fails, also when an exit was asked for before. -/
  raised : ∀ x ∈ log, ∀ f, h.RaisedIn x f → .call .exit ∈ x.events
  /-- An exit stays asked for. -/
  latched : ∀ earlier x later, log = earlier ++ x :: later →
    x.after.verdict.exitRequested = true →
      (∀ y ∈ later, y.after.verdict.exitRequested = true) ∧ last.verdict.exitRequested = true
  /-- From then on no app sees, updates or renders anything. -/
  silenced : ∀ earlier x later, log = earlier ++ x :: later →
    x.after.verdict.exitRequested = true → ∀ y ∈ later, ∀ c, .call (.callback c) ∈ y.events →
      ∃ size format, c = .init size format
  /-- From then on the loop is told again and again. -/
  repeated : ∀ earlier x later, log = earlier ++ x :: later →
    x.after.verdict.exitRequested = true → ∀ y ∈ later,
      (y.step = .aboutToWait ∨ ∃ id event, y.step = .window id event) → .call .exit ∈ y.events
  /-- A failure is a reason to exit. -/
  failed : ∀ x ∈ log, x.after.verdict.failure ≠ none → x.after.verdict.exitRequested = true
  /-- A failure is never replaced. -/
  kept : ∀ earlier x later e, log = earlier ++ x :: later → x.after.verdict.failure = some e →
    (∀ y ∈ later, y.after.verdict.failure = some e) ∧ last.verdict.failure = some e
  /-- A bad result is the first failure of all. -/
  first : ∀ e, last.verdict.result = .error e → h.Blames log (some e)
  /-- A good result means that there was none. -/
  clean : last.verdict.result = .ok () ↔ ∀ x ∈ log, ∀ f, ¬ h.RaisedIn x f

theorem exitDiscipline_of_history {platform : Platform} {app : α} {log : List (HostTurn α)}
    {last : HostState α} (history : History h (.start platform app) log last) :
    ExitDiscipline h log last := by
  have leaving : ∀ earlier x later, log = earlier ++ x :: later →
      x.after.verdict.exitRequested = true →
        (∀ y ∈ later, y ∈ log ∧ y.before.verdict.exitRequested = true)
          ∧ last.verdict.exitRequested = true := by
    intro earlier x later split hx
    obtain ⟨-, -, after⟩ := history.splitAt split
    obtain ⟨hlater, hlast⟩ := after.kept (P := fun s => s.verdict.exitRequested = true)
      (fun y hy => (after.course hy).exitRequested_mono) hx
    exact ⟨fun y hy => ⟨by simp [split, hy], hlater y hy⟩, hlast⟩
  have blames := blames_history history
  refine { announced := ?_, raised := ?_, latched := ?_, silenced := ?_, repeated := ?_,
           failed := ?_, kept := ?_, first := ?_, clean := ?_ }
  · intro x hx going hx'
    exact (mem_signals_iff rfl).mp ((history.course hx).exit_of_requested going hx')
  · intro x hx f raised
    exact (mem_signals_iff rfl).mp ((history.course hx).exit_of_raises raised)
  · intro earlier x later split hx
    obtain ⟨hlater, hlast⟩ := leaving earlier x later split hx
    refine ⟨fun y hy => ?_, hlast⟩
    obtain ⟨hmem, hbefore⟩ := hlater y hy
    exact (history.course hmem).exitRequested_mono hbefore
  · intro earlier x later split hx y hy c hc
    obtain ⟨hmem, hbefore⟩ := (leaving earlier x later split hx).1 y hy
    exact ((history.course hmem).quiet_of_leaving hbefore).1 c ((mem_signals_iff rfl).mpr hc)
  · intro earlier x later split hx y hy hstep
    obtain ⟨hmem, hbefore⟩ := (leaving earlier x later split hx).1 y hy
    exact (mem_signals_iff rfl).mp (((history.course hmem).quiet_of_leaving hbefore).2 hstep)
  · intro x hx hfailed
    obtain ⟨earlier, later, split⟩ := List.append_of_mem hx
    obtain ⟨before, played, -⟩ := history.splitAt split
    exact exitRequested_of_failure (before.turn played) hfailed
  · intro earlier x later e split hx
    obtain ⟨-, -, after⟩ := history.splitAt split
    obtain ⟨hlater, hlast⟩ := after.kept (P := fun s => s.verdict.failure = some e)
      (fun y hy => (after.course hy).failure_kept) hx
    exact ⟨fun y hy => (after.course hy).failure_kept (hlater y hy), hlast⟩
  · intro e hresult
    rw [Verdict.result_eq_error_iff] at hresult
    rwa [hresult] at blames
  · rw [Verdict.result_eq_ok_iff]
    refine ⟨fun hnone => by rwa [hnone] at blames, fun hquiet => ?_⟩
    cases hfailure : last.verdict.failure with
    | none => rfl
    | some e =>
        rw [hfailure] at blames
        obtain ⟨earlier, x, later, rfl, -, hx⟩ := blames
        exact absurd hx (hquiet x (by simp) e)

/-- Any app can be taken through any steps as long as it answers, and however
it was taken through them, its host comes to its end in good order. -/
theorem ends_in_good_order (h : Host α) (platform : Platform) (app : α) (steps : List HostStep) :
    (h.app.Responds → ∃ events last, h.playAll steps (.start platform app) = .ok (events, last))
      ∧ ∀ events last, h.playAll steps (.start platform app) = .ok (events, last) →
        ∃ log, History h (.start platform app) log last ∧ log.map HostTurn.step = steps
          ∧ log.map HostTurn.events = events ∧ ExitDiscipline h log last := by
  refine ⟨fun responds => exists_playAll responds steps _, fun events last played => ?_⟩
  obtain ⟨log, history, hsteps, hevents⟩ := exists_history played
  exact ⟨log, history, hsteps, hevents, exitDiscipline_of_history history⟩

/-- A window without a device for it, one that cannot be had at all, a third
that can, and an event for it when all is over: the first failure is the
result. -/
theorem ends_in_good_order_sample :
    let steps : List HostStep := [.refuse (Refusal.only ⟨["lost"], "no device"⟩ .requestDevice),
      .resumed, .refuse (Refusal.only ⟨[], "no window"⟩ .createWindow), .resumed,
      .refuse fun _ => none, .resumed, .window 1 .redrawRequested, .aboutToWait]
    let host := sampleHost (.ok .proceed)
    let failure : Failure :=
      ⟨[.initializingGpu, .creatingDevice, .reported "lost"], .reported "no device"⟩
    ∃ events last, host.playAll steps (.start samplePlatform ()) = .ok (events, last)
      ∧ last.verdict.result = .error failure
      ∧ last.window.isSome = true
      ∧ ∃ log, History host (.start samplePlatform ()) log last
        ∧ log.map HostTurn.step = steps ∧ ExitDiscipline host log last := by
  intro steps host failure
  obtain ⟨total, discipline⟩ := ends_in_good_order host samplePlatform () steps
  obtain ⟨events, last, played⟩ := total (responds_sampleHost _)
  obtain ⟨⟨_, _⟩, hplayed, hfacts⟩ := exists_ok_of_map_toOption
    (x := host.playAll steps (.start samplePlatform ()))
    (f := fun out => (out.2.verdict.failure, out.2.window.isSome))
    (b := (some failure, true)) (by decide +kernel)
  obtain ⟨rfl, rfl⟩ := Prod.mk.inj (Except.ok.inj (played.symm.trans hplayed))
  obtain ⟨hfailure, hwindow⟩ := Prod.mk.inj hfacts
  obtain ⟨log, history, hsteps, -, hdiscipline⟩ := discipline events last played
  exact ⟨events, last, played, Verdict.result_eq_error_iff.mpr hfailure, hwindow, log, history,
    hsteps, hdiscipline⟩

end Host

end SpriteRenderer

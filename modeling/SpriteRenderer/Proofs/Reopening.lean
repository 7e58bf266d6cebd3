import SpriteRenderer.Proofs.ExitDiscipline

/-!
# How often a window is opened

A host that is resumed and has no window opens one. It does not look at its
verdict there, as it does wherever else the platform calls it, so a host that
has lost its window, or never got one ready, opens another when it is resumed
late, and has its app prepare once more (`reopened_after_close`).

That is the only way to a second window. A host that has opened a window either
has it still or has asked for an exit, which is the invariant `engaged` below;
so of all the openings of a run only the first can come before an exit, and
each later one is a `Reopening`. `opened_once_iff` puts it as an equivalence,
and adds the promise of a platform under which nothing is opened twice.
-/

namespace SpriteRenderer

/-! ## Counting -/

def HostCall.isInit : HostCall → Bool
  | .callback (.init _ _) => true
  | _ => false

/-- How often an app was asked to prepare for a window. -/
def initCalls (events : List (Event HostCall)) : Nat :=
  (events.filterMap Event.call?).countP HostCall.isInit

@[simp] theorem initCalls_append (xs ys : List (Event HostCall)) :
    initCalls (xs ++ ys) = initCalls xs + initCalls ys := by
  simp [initCalls]

theorem HostCall.isSignal_of_isInit {c : HostCall} (hc : c.isInit = true) : c.isSignal = true := by
  cases c with
  | callback _ => rfl
  | _ => cases hc

theorem initCalls_eq_countP_signals (events : List (Event HostCall)) :
    initCalls events = (signals events).countP HostCall.isInit := by
  rw [initCalls, signals, List.countP_filter]
  refine List.countP_congr fun c _ => ?_
  rw [Bool.and_eq_true_iff]
  exact ⟨fun hc => ⟨hc, HostCall.isSignal_of_isInit hc⟩, And.left⟩

namespace Host

variable {α : Type} {h : Host α}

/-! ## One step -/

/-- A step in which a window is created: the host has none, asks for one, and
gets it. -/
structure Opens (s : HostState α) (step : HostStep) : Prop where
  resumed : step = .resumed
  closed : s.window = none
  granted : s.platform.failure? .createWindow = none

/-- The host has a window, or has asked for an exit. -/
def Engaged (s : HostState α) : Prop :=
  s.verdict.exitRequested = true ∨ s.window.isSome = true

theorem OpeningCourse.windows_cases {s s' : HostState α} {outcome : Except Failure OpenWindow}
    {said : List HostCall} (opening : OpeningCourse h s outcome said s') :
    (s.platform.failure? .createWindow ≠ none ∧ s'.platform.windows = s.platform.windows
        ∧ said.countP HostCall.isInit = 0)
      ∨ (s.platform.failure? .createWindow = none
        ∧ s'.platform.windows = s.platform.windows + 1 ∧ said.countP HostCall.isInit ≤ 1) := by
  cases opening with
  | windowless refused => exact .inl ⟨by simp [refused], rfl, rfl⟩
  | surfaceless granted _ => exact .inr ⟨granted, rfl, Nat.zero_le _⟩
  | unprepared granted _ _ _ _ => exact .inr ⟨granted, rfl, Nat.le_refl _⟩
  | opened granted _ _ _ _ _ => exact .inr ⟨granted, rfl, Nat.le_refl _⟩

theorem RedrawCourse.windows_eq {w : OpenWindow} {s s' : HostState α} {outcome : Outcome}
    {said : List HostCall} (redrawing : RedrawCourse h w s outcome said s') :
    s'.platform.windows = s.platform.windows ∧ s'.window.isSome = true
      ∧ said.countP HostCall.isInit = 0 := by
  cases redrawing <;> exact ⟨rfl, rfl, rfl⟩

/-- A step creates one window or none, and an app prepares only for a window
that was created. -/
theorem TurnCourse.windows_cases {s s' : HostState α} {step : HostStep} {said : List HostCall}
    (course : TurnCourse h s step said s') :
    (¬ Opens s step ∧ s'.platform.windows = s.platform.windows
        ∧ said.countP HostCall.isInit = 0)
      ∨ (Opens s step ∧ s'.platform.windows = s.platform.windows + 1
        ∧ said.countP HostCall.isInit ≤ 1) := by
  have shut : ∀ {w}, s.window = some w → ¬ Opens s step := by
    intro w window opens
    cases window.symm.trans opens.closed
  have other : step ≠ .resumed → ¬ Opens s step := fun hstep opens => hstep opens.resumed
  cases course with
  | unneeded window => exact .inl ⟨shut window, rfl, rfl⟩
  | failed closed opening =>
      rcases opening.windows_cases with ⟨refused, hwindows, hinit⟩ | ⟨granted, hwindows, hinit⟩
      · refine .inl ⟨fun opens => ?_, hwindows, by simp [hinit, HostCall.isInit]⟩
        exact refused opens.granted
      · exact .inr ⟨⟨rfl, closed, granted⟩, hwindows, by simpa [HostCall.isInit] using hinit⟩
  | opened closed opening =>
      rcases opening.windows_cases with ⟨refused, -, -⟩ | ⟨granted, hwindows, hinit⟩
      · -- A window that opened was granted.
        cases opening with
        | opened granted => exact absurd granted refused
      · exact .inr ⟨⟨rfl, closed, granted⟩, hwindows, hinit⟩
  | waited | waitedLate | late | stray | declined | closed | resized | ignored | advanced | sized
  | warned => exact .inl ⟨other (by simp), rfl, rfl⟩
  | @redrawn w app outcome said s' going window seen redrawing =>
      obtain ⟨hwindows, -, hinit⟩ := redrawing.windows_eq
      refine .inl ⟨other (by simp), hwindows, ?_⟩
      rw [List.cons_append, List.countP_cons, List.countP_append, hinit]
      split <;> rfl

theorem TurnCourse.engaged_of_opens {s s' : HostState α} {step : HostStep}
    {said : List HostCall} (course : TurnCourse h s step said s') (opens : Opens s step) :
    Engaged s' := by
  obtain ⟨rfl, closed, -⟩ := opens
  cases course with
  | unneeded window => cases window.symm.trans closed
  | failed _ _ => exact .inl rfl
  | opened _ _ => exact .inr rfl

theorem TurnCourse.engaged_of_engaged {s s' : HostState α} {step : HostStep}
    {said : List HostCall} (course : TurnCourse h s step said s') (engaged : Engaged s) :
    Engaged s' := by
  rcases engaged with leaving | present
  · exact .inl (course.exitRequested_mono leaving)
  -- A window goes only when it is closed, and then an exit is asked for.
  cases course with
  | failed _ _ | declined | closed => exact .inl rfl
  | opened _ _ | resized => exact .inr rfl
  | redrawn _ _ _ redrawing => exact .inr redrawing.windows_eq.2.1
  | unneeded | waited | waitedLate | late | stray | ignored | advanced | sized | warned =>
      exact .inr present

/-! ## Whole runs -/

/-- A window created for a host that has asked for an exit. -/
structure Reopening (x : HostTurn α) : Prop where
  opens : Opens x.before x.step
  leaving : x.before.verdict.exitRequested = true

/-- How the windows of a history are counted, from the number its platform
started with. -/
structure WindowCount (start : Nat) (log : List (HostTurn α)) (s : HostState α) : Prop where
  /-- Each window has an app prepare at most once. -/
  inits : start + initCalls (log.flatMap HostTurn.events) ≤ s.platform.windows
  engaged : start < s.platform.windows → Engaged s
  single_iff : s.platform.windows ≤ start + 1 ↔
    ∀ x ∈ log, Reopening x → x.before.platform.windows = start

theorem initCalls_snoc (log : List (HostTurn α)) (x : HostTurn α) :
    initCalls ((log ++ [x]).flatMap HostTurn.events)
      = initCalls (log.flatMap HostTurn.events) + (signals x.events).countP HostCall.isInit := by
  rw [← initCalls_eq_countP_signals, List.flatMap_append, initCalls_append]
  simp

theorem WindowCount.snoc_quiet {start : Nat} {log : List (HostTurn α)} {x : HostTurn α}
    (count : WindowCount start log x.before)
    (course : TurnCourse h x.before x.step (signals x.events) x.after)
    (shut : ¬ Opens x.before x.step)
    (same : x.after.platform.windows = x.before.platform.windows)
    (quiet : (signals x.events).countP HostCall.isInit = 0) :
    WindowCount start (log ++ [x]) x.after := by
  refine ⟨?_, fun hlt => ?_, ?_⟩
  · rw [initCalls_snoc, quiet, same]
    exact count.inits
  · exact course.engaged_of_engaged (count.engaged (same ▸ hlt))
  · rw [same, count.single_iff, List.forall_mem_append, List.forall_mem_singleton]
    exact ⟨fun hlog => ⟨hlog, fun late => absurd late.opens shut⟩, And.left⟩

theorem WindowCount.snoc_opens {start : Nat} {log : List (HostTurn α)} {x : HostTurn α}
    (count : WindowCount start log x.before)
    (course : TurnCourse h x.before x.step (signals x.events) x.after)
    (opens : Opens x.before x.step)
    (more : x.after.platform.windows = x.before.platform.windows + 1)
    (once : (signals x.events).countP HostCall.isInit ≤ 1) :
    WindowCount start (log ++ [x]) x.after := by
  have hinits := count.inits
  refine ⟨?_, fun _ => course.engaged_of_opens opens, ?_⟩
  · rw [initCalls_snoc]
    omega
  · rw [List.forall_mem_append, List.forall_mem_singleton]
    constructor
    · intro hsingle
      exact ⟨count.single_iff.mp (by omega), fun _ => by omega⟩
    · rintro ⟨-, hlate⟩
      by_cases leaving : x.before.verdict.exitRequested = true
      · have hstart := hlate ⟨opens, leaving⟩
        omega
      · -- No exit was asked for and there is no window, so there never was one.
        have hnone : ¬ start < x.before.platform.windows := by
          intro hlt
          rcases count.engaged hlt with hleaving | hpresent
          · exact leaving hleaving
          · rw [opens.closed] at hpresent
            cases hpresent
        omega

theorem windowCount_of_history {platform : Platform} {app : α} {log : List (HostTurn α)}
    {s : HostState α} (history : History h (.start platform app) log s) :
    WindowCount platform.windows log s := by
  induction history with
  | start =>
      refine ⟨Nat.le_refl _, fun hlt => absurd hlt (Nat.lt_irrefl _), ?_⟩
      exact ⟨fun _ _ hmem => absurd hmem List.not_mem_nil, fun _ => Nat.le_succ _⟩
  | @turn log s s' step events before played ih =>
      have course := turnCourse_of_run played
      let x : HostTurn α := ⟨step, s, events, s'⟩
      rcases course.windows_cases with ⟨shut, same, quiet⟩ | ⟨opens, more, once⟩
      · exact ih.snoc_quiet (x := x) course shut same quiet
      · exact ih.snoc_opens (x := x) course opens more once

/-- An exit that was asked for was announced. -/
theorem exists_exit_of_requested {platform : Platform} {app : α} {log : List (HostTurn α)}
    {s : HostState α} (history : History h (.start platform app) log s)
    (leaving : s.verdict.exitRequested = true) : ∃ y ∈ log, .call .exit ∈ y.events := by
  induction history with
  | start => cases leaving
  | @turn log s s' step events before played ih =>
      by_cases earlier : s.verdict.exitRequested = true
      · obtain ⟨y, hy, hexit⟩ := ih earlier
        exact ⟨y, List.mem_append_left _ hy, hexit⟩
      · have hexit := (turnCourse_of_run played).exit_of_requested (by simpa using earlier) leaving
        exact ⟨_, List.mem_append_right _ List.mem_cons_self, (mem_signals_iff rfl).mp hexit⟩

/-- A platform that does not resume a host which has asked it to stop. -/
def StopsResuming (log : List (HostTurn α)) : Prop :=
  ∀ earlier x later, log = earlier ++ x :: later → x.step = .resumed →
    ∀ y ∈ earlier, .call .exit ∉ y.events

theorem not_reopening_of_stopsResuming {platform : Platform} {app : α} {log : List (HostTurn α)}
    {s : HostState α} (history : History h (.start platform app) log s)
    (stops : StopsResuming log) {x : HostTurn α} (hx : x ∈ log) : ¬ Reopening x := by
  intro late
  obtain ⟨earlier, later, split⟩ := List.append_of_mem hx
  obtain ⟨before, -, -⟩ := history.splitAt split
  obtain ⟨y, hy, hexit⟩ := exists_exit_of_requested before late.leaving
  exact stops earlier x later split late.opens.resumed y hy hexit

/-- However an app is taken through steps of the platform, it prepares once at
most and gets one window at most exactly if no window is created late, after an
exit was asked for, on top of another; so always under a platform that keeps
from resuming a host which has asked it to stop. -/
theorem opened_once_iff (h : Host α) (platform : Platform) (app : α) (steps : List HostStep) :
    (h.app.Responds → ∃ events last, h.playAll steps (.start platform app) = .ok (events, last))
      ∧ ∀ events last, h.playAll steps (.start platform app) = .ok (events, last) →
        ∃ log, History h (.start platform app) log last ∧ log.map HostTurn.step = steps
          ∧ log.map HostTurn.events = events
          ∧ (initCalls events.flatten ≤ 1 ∧ last.platform.windows ≤ platform.windows + 1 ↔
              ∀ x ∈ log, Reopening x → x.before.platform.windows = platform.windows)
          ∧ (StopsResuming log →
              initCalls events.flatten ≤ 1 ∧ last.platform.windows ≤ platform.windows + 1) := by
  refine ⟨fun responds => exists_playAll responds steps _, fun events last played => ?_⟩
  obtain ⟨log, history, hsteps, rfl⟩ := exists_history played
  obtain ⟨hinits, -, hsingle⟩ := windowCount_of_history history
  rw [List.flatMap_def] at hinits
  have once : (initCalls (log.map HostTurn.events).flatten ≤ 1
      ∧ last.platform.windows ≤ platform.windows + 1) ↔
        ∀ x ∈ log, Reopening x → x.before.platform.windows = platform.windows := by
    rw [← hsingle]
    exact ⟨And.right, fun hle => ⟨by omega, hle⟩⟩
  refine ⟨log, history, hsteps, rfl, once, fun stops => once.mpr fun x hx late => ?_⟩
  exact absurd late (not_reopening_of_stopsResuming history stops hx)

/-- A window that could not be had, and one that is opened late in its place. -/
theorem opened_once_iff_sample :
    let steps : List HostStep := [.refuse (Refusal.only ⟨[], "no window"⟩ .createWindow), .resumed,
      .refuse fun _ => none, .resumed, .aboutToWait]
    let host := sampleHost (.ok .proceed)
    ∃ events log last, host.playAll steps (.start samplePlatform ()) = .ok (events, last)
      ∧ initCalls events.flatten = 1 ∧ last.platform.windows = 1
      ∧ History host (.start samplePlatform ()) log last ∧ log.map HostTurn.step = steps
      ∧ ∀ x ∈ log, Reopening x → x.before.platform.windows = 0 := by
  intro steps host
  obtain ⟨total, once⟩ := opened_once_iff host samplePlatform () steps
  obtain ⟨events, last, played⟩ := total (responds_sampleHost _)
  obtain ⟨⟨_, _⟩, hplayed, hfacts⟩ := exists_ok_of_map_toOption
    (x := host.playAll steps (.start samplePlatform ()))
    (f := fun out => (initCalls out.1.flatten, out.2.platform.windows))
    (b := (1, 1)) (by decide +kernel)
  obtain ⟨rfl, rfl⟩ := Prod.mk.inj (Except.ok.inj (played.symm.trans hplayed))
  obtain ⟨hinits, hwindows⟩ := Prod.mk.inj hfacts
  obtain ⟨log, history, hsteps, -, hiff, -⟩ := once events last played
  refine ⟨events, log, last, played, hinits, hwindows, history, hsteps, hiff.mp ⟨?_, ?_⟩⟩
  · exact Nat.le_of_eq hinits
  · exact Nat.le_of_eq hwindows

/-- A window that was closed is opened again, and the app prepares twice. -/
theorem reopened_after_close :
    ∃ events last, (sampleHost (.ok .proceed)).playAll
        [.resumed, .window 0 .closeRequested, .resumed] (.start samplePlatform ())
          = .ok (events, last)
      ∧ initCalls events.flatten = 2 ∧ last.platform.windows = samplePlatform.windows + 2 := by
  obtain ⟨⟨events, last⟩, hplayed, hfacts⟩ := exists_ok_of_map_toOption
    (x := (sampleHost (.ok .proceed)).playAll
      [.resumed, .window 0 .closeRequested, .resumed] (.start samplePlatform ()))
    (f := fun out => (initCalls out.1.flatten, out.2.platform.windows))
    (b := (2, 2)) (by decide +kernel)
  obtain ⟨hinits, hwindows⟩ := Prod.mk.inj hfacts
  exact ⟨events, last, hplayed, hinits, hwindows⟩

end Host

end SpriteRenderer

import Parley.Proofs.Session.Outcome
import Parley.Session.Stage

/-!
# Parley.Proofs.Session.Stage

Scripts on a host, played with enough patience. What a script comes to then depends neither on how
much patience there is nor on what is reported of waits that are given up.

* `Plays`, `PlaysAll`: what a step and a list of steps come to.
* `PlaysAll.passed`, `PlaysAll.failed`: steps one after another, up to the first that fails.
-/

namespace Parley
namespace Scene

variable {ω : Type}

/-- The session on a stage with its world. -/
def live (s : Session × Scene ω) : Live ω := { session := s.1, world := s.2.world }

/-- A session with its world put on a stage. -/
def put (l : Live ω) (s : Session × Scene ω) : Session × Scene ω :=
  (l.session, { s.2 with world := l.world })

theorem within_eq {α : Type} (f : Live ω → α × Live ω) (s : Session × Scene ω) :
    within f s = ((f (live s)).1, put (f (live s)).2 s) := rfl

end Scene

open Scene

section

variable {ω : Type} (h : Host ω) (settings : Settings) (audience : Bool)

/-- What waiting for patterns in turn comes to with enough patience. -/
def ExpectsAll (allowed : Duration) (last : Option Excerpt) (patterns : List Pattern)
    (s : Session × Scene ω) (r : Except Failure (Option Excerpt)) (s' : Session × Scene ω) : Prop :=
  ∃ n, ∀ patience lost, n ≤ patience →
    (Session.stage h patience lost settings audience).expectAll allowed last patterns s = (r, s')

/-- The line of a step, if it has one, can be sent. -/
def Sends (step : Step) (s s' : Session × Scene ω) : Prop :=
  ∀ patience lost, (Session.stage h patience lost settings audience).sendOf step s = (.ok (), s')

/-- What a step comes to with enough patience. -/
def Plays (step : Step) (s : Session × Scene ω) (r : Except Failure (Option Excerpt))
    (s' : Session × Scene ω) : Prop :=
  ∃ n, ∀ patience lost, n ≤ patience →
    (Session.stage h patience lost settings audience).playStep step s = (r, s')

/-- What steps from a position in their script on come to with enough patience. -/
def PlaysAll (index : Nat) (steps : List Step) (s : Session × Scene ω)
    (r : Except Failure (List String)) (s' : Session × Scene ω) : Prop :=
  ∃ n, ∀ patience lost, n ≤ patience →
    (Session.stage h patience lost settings audience).playSteps index steps s = (r, s')

end

section

variable {ω : Type} {h : Host ω} {settings : Settings} {audience : Bool} {allowed : Duration}
  {last : Option Excerpt} {excerpt : Excerpt} {p : Pattern} {patterns : List Pattern} {step : Step}
  {steps : List Step} {l l' : Live ω} {s s₁ s₂ s₃ : Session × Scene ω} {cause : Failure}
  {index n : Nat} {line : String}

/-- Somebody is told of an event while a console runs. -/
def tellOf (h : Host ω) (audience : Bool) (e : Event) (s : Session × Scene ω) : Session × Scene ω :=
  (s.1, Scene.tell h audience e s.2)

/-! ## A stage with patience -/

section

variable {patience : Nat} {lost : GivingUp ω}

theorem stage_expect {r : Except Failure Excerpt}
    (hx : (live s).expect h n p allowed = some (r, l')) (hle : n ≤ patience) :
    (Session.stage h patience lost settings audience).expect p allowed s = (r, put l' s) := by
  have hwithin : (live s).expectWithin h patience lost p allowed = (r, l') := by
    rw [Live.expectWithin, Live.expect_mono hle hx]
    rfl
  change within (Live.expectWithin h patience lost p allowed) s = (r, put l' s)
  rw [within_eq, hwithin]

theorem stage_sendLine (hl : (live s).sendLine h line = (.ok (), l')) :
    (Session.stage h patience lost settings audience).sendLine line s = (.ok (), put l' s) := by
  change within (Live.sendLine h line) s = (.ok (), put l' s)
  rw [within_eq, hl]

theorem stage_timeout (session : Session) :
    (Session.stage h patience lost settings audience).timeout session = session.timeout := rfl

theorem stage_tell (e : Event) :
    (Session.stage h patience lost settings audience).tell e s = tellOf h audience e s := rfl

end

/-! ## Patterns in turn -/

theorem ExpectsAll.none_left : ExpectsAll h settings audience allowed last [] s (.ok last) s :=
  ⟨0, fun _ _ _ => rfl⟩

theorem ExpectsAll.taken {r : Except Failure (Option Excerpt)}
    (hx : (live s).expect h n p allowed = some (.ok excerpt, l'))
    (hrest : ExpectsAll h settings audience allowed (some excerpt) patterns (put l' s) r s₁) :
    ExpectsAll h settings audience allowed last (p :: patterns) s r s₁ := by
  obtain ⟨m, hm⟩ := hrest
  refine ⟨max n m, ?_⟩
  intro patience lost hle
  rw [Stage.expectAll, stage_expect hx (by omega)]
  exact hm patience lost (by omega)

theorem ExpectsAll.missed (hx : (live s).expect h n p allowed = some (.error cause, l')) :
    ExpectsAll h settings audience allowed last (p :: patterns) s (.error cause) (put l' s) := by
  refine ⟨n, ?_⟩
  intro patience lost hle
  rw [Stage.expectAll, stage_expect hx hle]

/-! ## Steps -/

theorem sends_nothing (hsend : step.send = none) : Sends h settings audience step s s := by
  intro patience lost
  rw [Stage.sendOf, hsend]

theorem sends_line (hsend : step.send = some line)
    (hl : (live s).sendLine h line = (.ok (), l')) :
    Sends h settings audience step s (put l' s) := by
  intro patience lost
  rw [Stage.sendOf, hsend]
  exact stage_sendLine hl

theorem Plays.failed (hsent : Sends h settings audience step s s₁)
    (hx : ExpectsAll h settings audience (step.timeout.getD s.1.timeout) none step.expect s₁
      (.error cause) s₂) :
    Plays h settings audience step s (.error cause) s₂ := by
  obtain ⟨n, hn⟩ := hx
  refine ⟨n, ?_⟩
  intro patience lost hle
  rw [Stage.playStep, stage_timeout, hsent patience lost]
  simp only [hn patience lost hle]

theorem Plays.passed (hsent : Sends h settings audience step s s₁)
    (hx : ExpectsAll h settings audience (step.timeout.getD s.1.timeout) none step.expect s₁
      (.ok last) s₂) (hexit : step.expectExit = false) :
    Plays h settings audience step s (.ok last) s₂ := by
  obtain ⟨n, hn⟩ := hx
  refine ⟨n, ?_⟩
  intro patience lost hle
  rw [Stage.playStep, stage_timeout, hsent patience lost]
  simp only [hn patience lost hle, Stage.exitOf, hexit, Bool.false_eq_true, if_false]

theorem Plays.exited (hsent : Sends h settings audience step s s₁)
    (hx : ExpectsAll h settings audience (step.timeout.getD s.1.timeout) none step.expect s₁
      (.ok last) s₂) (hexit : step.expectExit = true)
    (hend : (live s₂).expect h n .endOfOutput (step.timeout.getD s.1.timeout) =
      some (.ok excerpt, l')) :
    Plays h settings audience step s (.ok last) (put l' s₂) := by
  obtain ⟨m, hm⟩ := hx
  refine ⟨max n m, ?_⟩
  intro patience lost hle
  rw [Stage.playStep, stage_timeout, hsent patience lost]
  simp only [hm patience lost (by omega), Stage.exitOf, hexit, if_true,
    stage_expect hend (show n ≤ patience by omega)]

/-! ## Steps in turn -/

theorem PlaysAll.none_left : PlaysAll h settings audience index [] s (.ok []) s :=
  ⟨0, fun _ _ _ => rfl⟩

theorem PlaysAll.passed {r : Except Failure (List String)}
    (hstep : Plays h settings audience step (tellOf h audience (.stepStarted index step) s)
      (.ok last) s₁)
    (hrest : PlaysAll h settings audience (index + 1) steps
      (tellOf h audience (.stepPassed index step last) s₁) r s₂) :
    PlaysAll h settings audience index (step :: steps) s (r.map (step.name :: ·)) s₂ := by
  obtain ⟨n, hn⟩ := hstep
  obtain ⟨m, hm⟩ := hrest
  refine ⟨max n m, ?_⟩
  intro patience lost hle
  rw [Stage.playSteps, stage_tell, hn patience lost (by omega)]
  simp only [stage_tell, hm patience lost (show m ≤ patience by omega)]
  cases r with
  | ok names => rfl
  | error f => rfl

/-- The first step that fails is named with its position, and no step behind it is played. -/
theorem PlaysAll.failed
    (hstep : Plays h settings audience step (tellOf h audience (.stepStarted index step) s)
      (.error cause) s₁) :
    PlaysAll h settings audience index (step :: steps) s (.error (.inStep index step.name cause))
      (tellOf h audience (.stepFailed index step cause) s₁) := by
  obtain ⟨n, hn⟩ := hstep
  refine ⟨n, ?_⟩
  intro patience lost hle
  rw [Stage.playSteps, stage_tell, hn patience lost hle]
  rfl

/-! ## Whole scripts -/

/-- A console that is known to have ended is closed at once. -/
theorem Live.close_of_status {status : ExitStatus} (hstatus : l.session.status = some status)
    (hphase : l.session.phase ≠ .closed) : (l.close h).1 = .ok status := by
  have hgraceful : Live.waitGracefully h (l.closeInput h) = l.closeInput h := by
    simp [Live.waitGracefully, Live.closeInput, hstatus]
  have hterminated : Live.waitTerminated h (l.closeInput h) = l.closeInput h := by
    simp [Live.waitTerminated, Live.closeInput, hstatus]
  have hinput : (l.closeInput h).session.status = some status := hstatus
  rw [Live.close, if_neg hphase, hgraceful, hterminated]
  simp only [hinput]

section

variable {script : Script} {target : String} {session : Session} {world : ω} {scene : Scene ω}
  {patience : Nat} {lost : GivingUp ω}

theorem stage_report (e : Event) :
    (Session.stage h patience lost settings audience).report e scene =
      Scene.tell h audience e scene := rfl

theorem stage_launch
    (hl : Session.launch h settings target scene.world = (.ok session, world)) :
    (Session.stage h patience lost settings audience).launch target scene =
      (.ok session, { scene with world }) := by
  simp only [Session.stage, hl]

theorem stage_close (s : Session × Scene ω) :
    (Session.stage h patience lost settings audience).close s =
      (((live s).close h).1, put ((live s).close h).2 s) := rfl

end

section

variable {script : Script} {target : String} {session : Session} {world : ω}
  {scene begun : Scene ω}

/-- A script fails as its steps do, however the console is closed. -/
theorem play_failed {f : Failure}
    (hbegun : begun = Scene.tell h audience (.scriptStarted script target) scene)
    (hlaunch : Session.launch h settings target begun.world = (.ok session, world))
    (hsteps : PlaysAll h settings audience 0 script.steps (session, { begun with world })
      (.error f) s) :
    ∃ n, ∀ patience lost, n ≤ patience →
      (script.play (Session.stage h patience lost settings audience) target scene).1 =
        .error f := by
  obtain ⟨n, hn⟩ := hsteps
  refine ⟨n, ?_⟩
  intro patience lost hle
  rw [Script.play, stage_report, ← hbegun, stage_launch hlaunch]
  simp only [hn patience lost hle]

/-- A script passes if its steps do and the console is then known to have ended. -/
theorem play_passed {names : List String} {status : ExitStatus}
    (hbegun : begun = Scene.tell h audience (.scriptStarted script target) scene)
    (hlaunch : Session.launch h settings target begun.world = (.ok session, world))
    (hsteps : PlaysAll h settings audience 0 script.steps (session, { begun with world })
      (.ok names) s)
    (hstatus : s.1.status = some status) (hphase : s.1.phase ≠ .closed) :
    ∃ n, ∀ patience lost, n ≤ patience →
      (script.play (Session.stage h patience lost settings audience) target scene).1 =
        .ok { script := script.name, passed := names, status := some status } := by
  obtain ⟨n, hn⟩ := hsteps
  have hclose : ((live s).close h).1 = .ok status := Live.close_of_status hstatus hphase
  refine ⟨n, ?_⟩
  intro patience lost hle
  rw [Script.play, stage_report, ← hbegun, stage_launch hlaunch]
  simp only [hn patience lost hle, stage_close, hclose]

end

end
end Parley

import Parley.Proofs.Session.Recorded
import Parley.Proofs.Session.Stage

/-!
# Parley.Proofs.Script.Deeds

What playing a script does, deed by deed: what is asked of the console, with the answers, and what
is told of it. A stage that notes its deeds gives the same results as one that does not.

* `Step.tasks`, `Script.tasks`: what a script asks of a console, all of it.
* `Attempts`: tasks in order, up to and with the first that fails.
* `Stage.recorded`: a stage that notes its deeds.
* `playStep_logged`, `playSteps_logged`: the deeds of a step, and of steps one after another.
* `Ends`, `play_deeds`: how a script ends, and the deeds of a whole one.
-/

namespace Parley

/-- What a step asks of a console. -/
inductive Task
  | send (line : String)
  | wait (p : Pattern) (allowed : Duration)

namespace Step

/-- The line of a step, if it has one. -/
def sendTasks (step : Step) : List Task := (step.send.map .send).toList

/-- The end of the output, if a step asks for it. -/
def exitTasks (allowed : Duration) (step : Step) : List Task :=
  if step.expectExit then [.wait .endOfOutput allowed] else []

/-- All that a step asks of a console which usually waits for so long. -/
def tasks (usual : Duration) (step : Step) : List Task :=
  let allowed := step.timeout.getD usual
  step.sendTasks ++ step.expect.map (.wait · allowed) ++ step.exitTasks allowed

end Step

/-- All that a script asks of a console which usually waits for so long. -/
def Script.tasks (usual : Duration) (script : Script) : List Task :=
  script.steps.flatMap (Step.tasks usual)

namespace Stage

/-- What was asked of a console, and what it answered. -/
inductive Call
  | sent (line : String) (answer : Except Failure Unit)
  | waited (p : Pattern) (allowed : Duration) (answer : Except Failure Excerpt)

/-- The failure of an answer. -/
def failure? {α : Type} : Except Failure α → Option Failure
  | .ok _ => none
  | .error f => some f

@[simp] theorem failure?_ok {α : Type} (a : α) : failure? (.ok a) = none := rfl

@[simp] theorem failure?_error {α : Type} (f : Failure) :
    failure? (.error f : Except Failure α) = some f := rfl

namespace Call

def task : Call → Task
  | sent line _ => .send line
  | waited p allowed _ => .wait p allowed

def failure? : Call → Option Failure
  | sent _ answer => Stage.failure? answer
  | waited _ _ answer => Stage.failure? answer

/-- What a pattern took. -/
def excerpt? : Call → Option Excerpt
  | waited _ _ (.ok excerpt) => some excerpt
  | _ => none

end Call

/-- Tasks in order, up to and with the first that fails. -/
inductive Attempts : List Task → List Call → Option Failure → Prop
  | done : Attempts [] [] none
  | passed {call : Call} {tasks : List Task} {calls : List Call} {f : Option Failure} :
      call.failure? = none → Attempts tasks calls f →
      Attempts (call.task :: tasks) (call :: calls) f
  | failed {call : Call} {tasks : List Task} {f : Failure} :
      call.failure? = some f → Attempts (call.task :: tasks) [call] (some f)

/-- What is done on a stage while a script is played. -/
inductive Deed
  | called (call : Call)
  | closed (answer : Except Failure ExitStatus)
  | told (e : Event)

variable {κ ω : Type}

/-- A console in a world where some deeds have been noted. -/
def logged (s : κ × ω) (log : List Deed) : κ × (ω × List Deed) := (s.1, (s.2, log))

/-- Adds a deed to those that were noted. -/
def note {α : Type} (deed : α → Deed) (log : List Deed) (done : α × (κ × ω)) :
    α × (κ × (ω × List Deed)) :=
  (done.1, logged done.2 (log ++ [deed done.1]))

/-- A stage that notes its deeds, the last one at the end. -/
def recorded (g : Stage κ ω) : Stage κ (ω × List Deed) where
  launch target w := ((g.launch target w.1).1, ((g.launch target w.1).2, w.2))
  timeout := g.timeout
  sendLine line s := note (fun answer => .called (.sent line answer)) s.2.2
    (g.sendLine line (s.1, s.2.1))
  expect p allowed s := note (fun answer => .called (.waited p allowed answer)) s.2.2
    (g.expect p allowed (s.1, s.2.1))
  close s := note .closed s.2.2 (g.close (s.1, s.2.1))
  report e w := (g.report e w.1, w.2 ++ [.told e])

/-- A console waits for as long as before, whatever was asked of it. -/
structure Steady (g : Stage κ ω) : Prop where
  sendLine (line : String) (s : κ × ω) : g.timeout (g.sendLine line s).2.1 = g.timeout s.1
  expect (p : Pattern) (allowed : Duration) (s : κ × ω) :
    g.timeout (g.expect p allowed s).2.1 = g.timeout s.1

/-! ## Tasks in order -/

section

variable {tasks tasks' : List Task} {calls calls' : List Call} {f : Option Failure}

theorem Attempts.single (call : Call) : Attempts [call.task] [call] call.failure? := by
  cases hf : call.failure? with
  | none => exact .passed hf .done
  | some f => exact .failed hf

theorem Attempts.sent (line : String) (answer : Except Failure Unit) :
    Attempts [.send line] [.sent line answer] (failure? answer) := .single (.sent line answer)

theorem Attempts.waited (p : Pattern) (allowed : Duration) (answer : Except Failure Excerpt) :
    Attempts [.wait p allowed] [.waited p allowed answer] (failure? answer) :=
  .single (.waited p allowed answer)

theorem Attempts.append (ha : Attempts tasks calls none) (hb : Attempts tasks' calls' f) :
    Attempts (tasks ++ tasks') (calls ++ calls') f := by
  -- the index `none` is a variable for the induction; it rules out the case of a failed task
  generalize hnone : (none : Option Failure) = passed at ha
  induction ha with
  | done => exact hb
  | passed hcall _ ih => exact .passed hcall (ih hnone)
  | failed _ => cases hnone

theorem Attempts.append_failed {f : Failure} (ha : Attempts tasks calls (some f))
    (tasks' : List Task) : Attempts (tasks ++ tasks') calls (some f) := by
  generalize hsome : some f = failed at ha ⊢
  induction ha with
  | done => cases hsome
  | passed hcall _ ih => exact .passed hcall (ih hsome)
  | failed hcall => exact .failed hcall

end

/-! ## The parts of a step -/

section

variable (g : Stage κ ω) (step : Step) (allowed : Duration) (s : κ × ω) (log : List Deed)

theorem sendOf_logged :
    ∃ calls, g.recorded.sendOf step (logged s log) =
        ((g.sendOf step s).1, logged (g.sendOf step s).2 (log ++ calls.map .called)) ∧
      Attempts step.sendTasks calls (failure? (g.sendOf step s).1) ∧
      calls.filterMap Call.excerpt? = [] := by
  unfold sendOf Step.sendTasks
  cases step.send with
  | none => exact ⟨[], by simp, .done, rfl⟩
  | some line => exact ⟨[.sent line (g.sendLine line s).1], rfl, .sent line _, rfl⟩

theorem exitOf_logged :
    ∃ calls, g.recorded.exitOf step allowed (logged s log) =
        ((g.exitOf step allowed s).1,
          logged (g.exitOf step allowed s).2 (log ++ calls.map .called)) ∧
      Attempts (step.exitTasks allowed) calls (failure? (g.exitOf step allowed s).1) := by
  cases hexit : step.expectExit with
  | false =>
    refine ⟨[], ?_, ?_⟩
    · simp [exitOf, hexit]
    · simpa [exitOf, Step.exitTasks, hexit] using Attempts.done
  | true =>
    rcases hx : g.expect .endOfOutput allowed s with ⟨answer, s'⟩
    have hx' : g.recorded.expect .endOfOutput allowed (logged s log) =
        (answer, logged s' (log ++ [.called (.waited .endOfOutput allowed answer)])) := by
      simp [recorded, logged, note, hx]
    refine ⟨[.waited .endOfOutput allowed answer], ?_, ?_⟩
    · cases answer <;> simp [exitOf, hexit, hx, hx']
    · have hsingle := Attempts.waited .endOfOutput allowed answer
      cases answer <;> simpa [exitOf, Step.exitTasks, hexit, hx] using hsingle

end

/-- Patterns in turn; the answer is what the last one took. -/
theorem expectAll_logged (g : Stage κ ω) (allowed : Duration) (patterns : List Pattern) :
    ∀ (last : Option Excerpt) (s : κ × ω) (log : List Deed),
      ∃ calls, g.recorded.expectAll allowed last patterns (logged s log) =
          ((g.expectAll allowed last patterns s).1,
            logged (g.expectAll allowed last patterns s).2 (log ++ calls.map .called)) ∧
        Attempts (patterns.map (.wait · allowed)) calls
          (failure? (g.expectAll allowed last patterns s).1) ∧
        ∀ taken, (g.expectAll allowed last patterns s).1 = .ok taken →
          (calls.filterMap Call.excerpt?).length = patterns.length ∧
          taken = (calls.filterMap Call.excerpt?).getLast?.or last := by
  induction patterns with
  | nil =>
    intro last s log
    refine ⟨[], by simp [expectAll], .done, ?_⟩
    rintro taken ⟨⟩
    exact ⟨rfl, rfl⟩
  | cons p rest ih =>
    intro last s log
    rcases hx : g.expect p allowed s with ⟨answer, s'⟩
    have hx' : g.recorded.expect p allowed (logged s log) =
        (answer, logged s' (log ++ [.called (.waited p allowed answer)])) := by
      simp [recorded, logged, note, hx]
    cases answer with
    | error f =>
      refine ⟨[.waited p allowed (.error f)], ?_, ?_, ?_⟩
      · simp [expectAll, hx, hx']
      · rw [expectAll, hx]
        exact (Attempts.waited p allowed (.error f)).append_failed _
      · intro taken htaken
        rw [expectAll, hx] at htaken
        cases htaken
    | ok excerpt =>
      obtain ⟨calls, hlogged, hattempts, htaken⟩ :=
        ih (some excerpt) s' (log ++ [.called (.waited p allowed (.ok excerpt))])
      refine ⟨.waited p allowed (.ok excerpt) :: calls, ?_, ?_, ?_⟩
      · rw [expectAll, hx', expectAll, hx]
        simpa using hlogged
      · rw [expectAll, hx]
        exact (Attempts.waited p allowed (.ok excerpt)).append hattempts
      · intro taken hok
        rw [expectAll, hx] at hok
        obtain ⟨hlength, rfl⟩ := htaken taken hok
        refine ⟨?_, ?_⟩
        · simpa [Call.excerpt?] using hlength
        · cases hlast : (calls.filterMap Call.excerpt?).getLast? <;>
            simp [Call.excerpt?, List.getLast?_cons, hlast]

/-! ## One step -/

/-- A step that has passed, with what was asked for it and what its last pattern took. -/
structure Done where
  step : Step
  calls : List Call
  last : Option Excerpt

/-- All tasks of the step have passed, and the last of its patterns took what it says. -/
structure Done.Sound (usual : Duration) (d : Done) : Prop where
  attempts : Attempts (d.step.tasks usual) d.calls none
  last_eq : d.last = ((d.calls.filterMap Call.excerpt?).take d.step.expect.length).getLast?

section

variable {g : Stage κ ω} {step : Step} {s s₁ s₂ s₃ : κ × ω} {f : Failure} {last : Option Excerpt}

theorem playStep_of_unsent (hs : g.sendOf step s = (.error f, s₁)) :
    g.playStep step s = (.error f, s₁) := by
  simp only [playStep, hs]

variable (hs : g.sendOf step s = (.ok (), s₁))

include hs

theorem playStep_of_missed
    (hw : g.expectAll (step.timeout.getD (g.timeout s.1)) none step.expect s₁ = (.error f, s₂)) :
    g.playStep step s = (.error f, s₂) := by
  simp only [playStep, hs, hw]

variable
  (hw : g.expectAll (step.timeout.getD (g.timeout s.1)) none step.expect s₁ = (.ok last, s₂))

include hw

theorem playStep_of_unended
    (hx : g.exitOf step (step.timeout.getD (g.timeout s.1)) s₂ = (.error f, s₃)) :
    g.playStep step s = (.error f, s₃) := by
  simp only [playStep, hs, hw, hx]

theorem playStep_of_ended
    (hx : g.exitOf step (step.timeout.getD (g.timeout s.1)) s₂ = (.ok (), s₃)) :
    g.playStep step s = (.ok last, s₃) := by
  simp only [playStep, hs, hw, hx]

end

theorem playStep_logged (g : Stage κ ω) (step : Step) (s : κ × ω) (log : List Deed) :
    ∃ calls, g.recorded.playStep step (logged s log) =
        ((g.playStep step s).1, logged (g.playStep step s).2 (log ++ calls.map .called)) ∧
      Attempts (step.tasks (g.timeout s.1)) calls (failure? (g.playStep step s).1) ∧
      ∀ last, (g.playStep step s).1 = .ok last →
        Done.Sound (g.timeout s.1) { step, calls, last } := by
  -- each part of the step is matched with the same part on the recorded stage; the primed facts
  -- are about the latter
  obtain ⟨sent, hs', hsends, hnothing⟩ := sendOf_logged g step s log
  rcases hs : g.sendOf step s with ⟨answer, s₁⟩
  rw [hs] at hs' hsends
  cases answer with
  | error f =>
    rw [playStep_of_unsent hs, playStep_of_unsent hs']
    refine ⟨sent, rfl, ?_, nofun⟩
    rw [Step.tasks, List.append_assoc]
    exact hsends.append_failed _
  | ok _ =>
    obtain ⟨waited, hw', hwaits, htook⟩ :=
      expectAll_logged g (step.timeout.getD (g.timeout s.1)) step.expect none s₁
        (log ++ sent.map .called)
    rcases hw : g.expectAll (step.timeout.getD (g.timeout s.1)) none step.expect s₁ with
      ⟨answer, s₂⟩
    rw [hw] at hw' hwaits htook
    cases answer with
    | error f =>
      rw [playStep_of_missed hs hw, playStep_of_missed hs' hw']
      refine ⟨sent ++ waited, by simp, ?_, nofun⟩
      exact (hsends.append hwaits).append_failed _
    | ok last =>
      obtain ⟨exited, hx', hexits⟩ :=
        exitOf_logged g step (step.timeout.getD (g.timeout s.1)) s₂
          (log ++ sent.map .called ++ waited.map .called)
      rcases hx : g.exitOf step (step.timeout.getD (g.timeout s.1)) s₂ with ⟨answer, s₃⟩
      rw [hx] at hx' hexits
      have hattempts : Attempts (step.tasks (g.timeout s.1)) (sent ++ waited ++ exited)
          (failure? answer) :=
        (hsends.append hwaits).append hexits
      cases answer with
      | error f =>
        rw [playStep_of_unended hs hw hx, playStep_of_unended hs' hw' hx']
        exact ⟨sent ++ waited ++ exited, by simp, hattempts, nofun⟩
      | ok _ =>
        rw [playStep_of_ended hs hw hx, playStep_of_ended hs' hw' hx']
        refine ⟨sent ++ waited ++ exited, by simp, hattempts, ?_⟩
        rintro taken ⟨⟩
        -- the wait for the end of the output takes an excerpt too, so only the first ones count
        obtain ⟨hlength, hlast⟩ := htook last rfl
        refine ⟨hattempts, ?_⟩
        simp [hnothing, ← hlength, hlast]

/-! ## A step leaves the usual wait alone -/

section

variable {g : Stage κ ω} (hg : g.Steady)

include hg

theorem Steady.sendOf (step : Step) (s : κ × ω) :
    g.timeout (g.sendOf step s).2.1 = g.timeout s.1 := by
  unfold Stage.sendOf
  cases step.send with
  | none => rfl
  | some line => exact hg.sendLine line s

theorem Steady.expectAll (allowed : Duration) (patterns : List Pattern) :
    ∀ (last : Option Excerpt) (s : κ × ω),
      g.timeout (g.expectAll allowed last patterns s).2.1 = g.timeout s.1 := by
  induction patterns with
  | nil => exact fun _ _ => rfl
  | cons p rest ih =>
    intro last s
    have hstep := hg.expect p allowed s
    rcases hx : g.expect p allowed s with ⟨answer, s'⟩
    rw [hx] at hstep
    cases answer with
    | error f =>
      rw [Stage.expectAll, hx]
      exact hstep
    | ok excerpt =>
      rw [Stage.expectAll, hx]
      exact (ih (some excerpt) s').trans hstep

theorem Steady.exitOf (step : Step) (allowed : Duration) (s : κ × ω) :
    g.timeout (g.exitOf step allowed s).2.1 = g.timeout s.1 := by
  have hstep := hg.expect .endOfOutput allowed s
  rcases hx : g.expect .endOfOutput allowed s with ⟨answer, s'⟩
  rw [hx] at hstep
  unfold Stage.exitOf
  split
  · cases answer <;> simpa only [hx] using hstep
  · rfl

theorem Steady.playStep (step : Step) (s : κ × ω) :
    g.timeout (g.playStep step s).2.1 = g.timeout s.1 := by
  have hsend := hg.sendOf step s
  have hwait := hg.expectAll (step.timeout.getD (g.timeout s.1)) step.expect none
    (g.sendOf step s).2
  have hexit := hg.exitOf step (step.timeout.getD (g.timeout s.1))
    (g.expectAll (step.timeout.getD (g.timeout s.1)) none step.expect (g.sendOf step s).2).2
  rcases hs : g.sendOf step s with ⟨answer, s₁⟩
  rw [hs] at hsend hwait hexit
  cases answer with
  | error f =>
    rw [playStep_of_unsent hs]
    exact hsend
  | ok _ =>
    rcases hw : g.expectAll (step.timeout.getD (g.timeout s.1)) none step.expect s₁ with
      ⟨answer, s₂⟩
    rw [hw] at hwait hexit
    cases answer with
    | error f =>
      rw [playStep_of_missed hs hw]
      exact hwait.trans hsend
    | ok last =>
      rcases hx : g.exitOf step (step.timeout.getD (g.timeout s.1)) s₂ with ⟨answer, s₃⟩
      rw [hx] at hexit
      cases answer with
      | error f =>
        rw [playStep_of_unended hs hw hx]
        exact (hexit.trans hwait).trans hsend
      | ok _ =>
        rw [playStep_of_ended hs hw hx]
        exact (hexit.trans hwait).trans hsend

end

/-! ## Steps one after another -/

/-- The deeds of a step that has passed. -/
def Done.deeds (index : Nat) (d : Done) : List Deed :=
  .told (.stepStarted index d.step) ::
    (d.calls.map .called ++ [.told (.stepPassed index d.step d.last)])

/-- The deeds of steps that have passed, from a position in their script on. -/
def deedsFrom (index : Nat) (done : List Done) : List Deed :=
  (done.zipIdx index).flatMap fun d => d.1.deeds d.2

/-- The deeds of a step that has failed. -/
def failedDeeds (index : Nat) (step : Step) (calls : List Call) (f : Failure) : List Deed :=
  .told (.stepStarted index step) :: (calls.map .called ++ [.told (.stepFailed index step f)])

theorem deedsFrom_cons (index : Nat) (d : Done) (rest : List Done) :
    deedsFrom index (d :: rest) = d.deeds index ++ deedsFrom (index + 1) rest := by
  simp [deedsFrom]

/-- What steps from a position in their script on come to, and their deeds. -/
inductive Comes (usual : Duration) (index : Nat) (steps : List Step) :
    Except Failure (List String) → List Deed → Prop
  | passed {done : List Done} :
      done.map (·.step) = steps → (∀ d ∈ done, d.Sound usual) →
      Comes usual index steps (.ok (steps.map (·.name))) (deedsFrom index done)
  | failed {done : List Done} {step : Step} {rest : List Step} {calls : List Call} {f : Failure} :
      steps = done.map (·.step) ++ step :: rest → (∀ d ∈ done, d.Sound usual) →
      Attempts (step.tasks usual) calls (some f) →
      Comes usual index steps (.error (.inStep (index + done.length) step.name f))
        (deedsFrom index done ++ failedDeeds (index + done.length) step calls f)

/-- A step that has passed before others. -/
theorem Comes.cons {usual : Duration} {index : Nat} {d : Done} {steps : List Step}
    {r : Except Failure (List String)} {deeds : List Deed} (hd : d.Sound usual)
    (hc : Comes usual (index + 1) steps r deeds) :
    Comes usual index (d.step :: steps) (r.map (d.step.name :: ·)) (d.deeds index ++ deeds) := by
  cases hc with
  | @passed done hsteps hdone =>
    have hall : ∀ d' ∈ d :: done, d'.Sound usual := by
      simpa [hd] using hdone
    have hcomes : Comes usual index (d.step :: steps) (.ok ((d.step :: steps).map (·.name)))
        (deedsFrom index (d :: done)) :=
      .passed (congrArg (d.step :: ·) hsteps) hall
    rw [deedsFrom_cons] at hcomes
    exact hcomes
  | @failed done step rest calls f hsteps hdone hcalls =>
    have hall : ∀ d' ∈ d :: done, d'.Sound usual := by
      simpa [hd] using hdone
    have hlength : index + (d :: done).length = index + 1 + done.length := by
      rw [List.length_cons]
      omega
    have hcomes : Comes usual index (d.step :: steps)
        (.error (.inStep (index + (d :: done).length) step.name f))
        (deedsFrom index (d :: done) ++ failedDeeds (index + (d :: done).length) step calls f) :=
      .failed (congrArg (d.step :: ·) hsteps) hall hcalls
    rw [deedsFrom_cons, hlength, List.append_assoc] at hcomes
    exact hcomes

/-- A step that has failed. -/
theorem Comes.stop {usual : Duration} {index : Nat} {step : Step} {rest : List Step}
    {calls : List Call} {f : Failure} (ha : Attempts (step.tasks usual) calls (some f)) :
    Comes usual index (step :: rest) (.error (.inStep index step.name f))
      (failedDeeds index step calls f) := by
  have hnone : ∀ d ∈ ([] : List Done), d.Sound usual := nofun
  exact .failed rfl hnone ha

theorem playSteps_of_passed {g : Stage κ ω} {index : Nat} {step : Step} {last : Option Excerpt}
    {s s' : κ × ω} (hplay : g.playStep step (g.tell (.stepStarted index step) s) = (.ok last, s'))
    (rest : List Step) :
    g.playSteps index (step :: rest) s =
      ((g.playSteps (index + 1) rest (g.tell (.stepPassed index step last) s')).1.map
          (step.name :: ·),
        (g.playSteps (index + 1) rest (g.tell (.stepPassed index step last) s')).2) := by
  rcases hrest : g.playSteps (index + 1) rest (g.tell (.stepPassed index step last) s') with
    ⟨answer, s''⟩
  cases answer <;> simp only [playSteps, hplay, hrest, Except.map]

theorem playSteps_of_failed {g : Stage κ ω} {index : Nat} {step : Step} {f : Failure}
    {s s' : κ × ω} (hplay : g.playStep step (g.tell (.stepStarted index step) s) = (.error f, s'))
    (rest : List Step) :
    g.playSteps index (step :: rest) s =
      (.error (.inStep index step.name f), g.tell (.stepFailed index step f) s') := by
  simp only [playSteps, hplay]

theorem playSteps_logged {g : Stage κ ω} (hg : g.Steady) (steps : List Step) :
    ∀ (index : Nat) (s : κ × ω) (log : List Deed),
      ∃ deeds, g.recorded.playSteps index steps (logged s log) =
          ((g.playSteps index steps s).1, logged (g.playSteps index steps s).2 (log ++ deeds)) ∧
        Comes (g.timeout s.1) index steps (g.playSteps index steps s).1 deeds := by
  induction steps with
  | nil =>
    intro index s log
    have hnone : ∀ d ∈ ([] : List Done), d.Sound (g.timeout s.1) := nofun
    exact ⟨[], by simp [playSteps], .passed rfl hnone⟩
  | cons step rest ih =>
    intro index s log
    have hsteady := hg.playStep step (g.tell (.stepStarted index step) s)
    obtain ⟨calls, hlogged, hattempts, hsound⟩ :=
      playStep_logged g step (g.tell (.stepStarted index step) s)
        (log ++ [.told (.stepStarted index step)])
    rcases hplay : g.playStep step (g.tell (.stepStarted index step) s) with ⟨answer, s'⟩
    rw [hplay] at hlogged hattempts hsound hsteady
    have hplay' : g.recorded.playStep step
        (g.recorded.tell (.stepStarted index step) (logged s log)) =
          (answer, logged s' (log ++ [.told (.stepStarted index step)] ++ calls.map .called)) :=
      hlogged
    cases answer with
    | error f =>
      rw [playSteps_of_failed hplay rest, playSteps_of_failed hplay' rest]
      refine ⟨failedDeeds index step calls f, ?_, .stop hattempts⟩
      simp [tell, recorded, logged, failedDeeds]
    | ok last =>
      have hd : Done.Sound (g.timeout s.1) { step, calls, last } := hsound last rfl
      obtain ⟨deeds, hrest, hcomes⟩ := ih (index + 1) (g.tell (.stepPassed index step last) s')
        (log ++ Done.deeds index { step, calls, last })
      -- the tasks of later steps are counted with the wait that the console had at the start
      have htimeout : g.timeout (g.tell (.stepPassed index step last) s').1 = g.timeout s.1 :=
        hsteady
      have hlog : g.recorded.tell (.stepPassed index step last)
          (logged s' (log ++ [.told (.stepStarted index step)] ++ calls.map .called)) =
            logged (g.tell (.stepPassed index step last) s')
              (log ++ Done.deeds index { step, calls, last }) := by
        simp [tell, recorded, logged, Done.deeds]
      rw [htimeout] at hcomes
      rw [playSteps_of_passed hplay rest, playSteps_of_passed hplay' rest, hlog, hrest]
      refine ⟨Done.deeds index { step, calls, last } ++ deeds, ?_, hcomes.cons hd⟩
      rw [List.append_assoc]

/-! ## Whole scripts -/

/-- The deeds that a console has a part in. -/
def operations (log : List Deed) : List Deed :=
  log.filter fun
    | .told _ => false
    | _ => true

@[simp] theorem operations_nil : operations [] = [] := rfl

@[simp] theorem operations_append (log log' : List Deed) :
    operations (log ++ log') = operations log ++ operations log' := List.filter_append log log'

@[simp] theorem operations_told (e : Event) (log : List Deed) :
    operations (.told e :: log) = operations log := rfl

@[simp] theorem operations_closed (answer : Except Failure ExitStatus) (log : List Deed) :
    operations (.closed answer :: log) = .closed answer :: operations log := rfl

@[simp] theorem operations_deedsFrom (done : List Done) :
    ∀ index, operations (deedsFrom index done) = (done.flatMap (·.calls)).map .called := by
  induction done with
  | nil => exact fun _ => rfl
  | cons d rest ih =>
    intro index
    rw [deedsFrom_cons, operations_append, ih, Done.deeds, List.flatMap_cons, List.map_append]
    simp [operations]

@[simp] theorem operations_failedDeeds (index : Nat) (step : Step) (calls : List Call)
    (f : Failure) : operations (failedDeeds index step calls f) = calls.map .called := by
  simp [operations, failedDeeds]

/-- Steps that have passed one after another are tasks that have passed one after another. -/
theorem attempts_of_sound {usual : Duration} {done : List Done}
    (hdone : ∀ d ∈ done, d.Sound usual) :
    Attempts ((done.map (·.step)).flatMap (Step.tasks usual)) (done.flatMap (·.calls)) none := by
  induction done with
  | nil => exact .done
  | cons d rest ih =>
    obtain ⟨hd, hrest⟩ := List.forall_mem_cons.1 hdone
    simpa using hd.attempts.append (ih hrest)

/-- How a script ends whose console was started: by what came of its tasks, the answer to the close,
the result, and the deeds from the first step on. -/
inductive Ends (usual : Duration) (script : Script) :
    Option Failure → Except Failure ExitStatus → Except Failure Report → List Deed → Prop
  /-- All steps have passed, and the console was closed; the report is told of. -/
  | finished {done : List Done} {status : ExitStatus} {report : Report} :
      done.map (·.step) = script.steps → (∀ d ∈ done, d.Sound usual) →
      report = { script := script.name, passed := script.steps.map (·.name),
                 status := some status } →
      Ends usual script none (.ok status) (.ok report)
        (deedsFrom 0 done ++ [.closed (.ok status), .told (.scriptFinished report)])
  /-- All steps have passed, and the console could not be closed. -/
  | unclosed {done : List Done} {f : Failure} :
      done.map (·.step) = script.steps → (∀ d ∈ done, d.Sound usual) →
      Ends usual script none (.error f) (.error f) (deedsFrom 0 done ++ [.closed (.error f)])
  /-- A step has failed behind those that have passed. What comes of the close changes nothing. -/
  | failed {done : List Done} {step : Step} {rest : List Step} {calls : List Call} {f e : Failure}
      {closed : Except Failure ExitStatus} :
      script.steps = done.map (·.step) ++ step :: rest → (∀ d ∈ done, d.Sound usual) →
      Attempts (step.tasks usual) calls (some f) →
      e = .inStep done.length step.name f →
      e.kind = f.kind → e.unread? = f.unread? → e.stepName? = some step.name →
      Ends usual script (some f) closed (.error e)
        (deedsFrom 0 done ++ failedDeeds done.length step calls f ++ [.closed closed])

/-- The result of a script whose steps and close came to something. A step that has failed counts
before a close that has. -/
def resultOf (script : Script) :
    Except Failure (List String) → Except Failure ExitStatus → Except Failure Report
  | .ok passed, .ok status => .ok { script := script.name, passed, status := some status }
  | .ok _, .error f => .error f
  | .error f, _ => .error f

/-- The deeds behind the close. -/
def lastDeeds : Except Failure Report → List Deed
  | .ok report => [.told (.scriptFinished report)]
  | .error _ => []

/-- Where the last deeds leave the world. -/
def conclude (g : Stage κ ω) (w : ω) : Except Failure Report → ω
  | .ok report => g.report (.scriptFinished report) w
  | .error _ => w

theorem conclude_recorded (g : Stage κ ω) (w : ω) (log : List Deed) (r : Except Failure Report) :
    g.recorded.conclude (w, log) r = (g.conclude w r, log ++ lastDeeds r) := by
  cases r with
  | ok report => rfl
  | error f => simp [conclude, lastDeeds]

/-- Steps that came to something end the script in one of the three ways, whatever the close
answers. -/
theorem Comes.ends {usual : Duration} {script : Script} {outcome : Except Failure (List String)}
    {deeds : List Deed} (hc : Comes usual 0 script.steps outcome deeds)
    (closed : Except Failure ExitStatus) :
    ∃ made failure,
      operations deeds = made.map .called ∧ Attempts (script.tasks usual) made failure ∧
      Ends usual script failure closed (resultOf script outcome closed)
        (deeds ++ [.closed closed] ++ lastDeeds (resultOf script outcome closed)) := by
  cases hc with
  | @passed done hsteps hdone =>
    refine ⟨done.flatMap (·.calls), none, operations_deedsFrom done 0, ?_, ?_⟩
    · rw [Script.tasks, ← hsteps]
      exact attempts_of_sound hdone
    · cases closed with
      | ok status =>
        rw [List.append_assoc]
        exact .finished hsteps hdone rfl
      | error f =>
        rw [resultOf, lastDeeds, List.append_nil]
        exact .unclosed hsteps hdone
  | @failed done step rest calls f hsteps hdone hcalls =>
    rw [Nat.zero_add]
    refine ⟨done.flatMap (·.calls) ++ calls, some f, by simp, ?_, ?_⟩
    · rw [Script.tasks, hsteps, List.flatMap_append, List.flatMap_cons, ← List.append_assoc]
      exact ((attempts_of_sound hdone).append hcalls).append_failed _
    · rw [resultOf, lastDeeds, List.append_nil]
      exact .failed hsteps hdone hcalls rfl rfl rfl rfl

theorem play_of_launched {g : Stage κ ω} {script : Script} {target : String} {w w₁ : ω}
    {console : κ} {s s' : κ × ω} {outcome : Except Failure (List String)}
    {closed : Except Failure ExitStatus}
    (hl : g.launch target (g.report (.scriptStarted script target) w) = (.ok console, w₁))
    (hp : g.playSteps 0 script.steps (console, w₁) = (outcome, s)) (hc : g.close s = (closed, s')) :
    script.play g target w =
      (resultOf script outcome closed, g.conclude s'.2 (resultOf script outcome closed)) := by
  cases outcome <;> cases closed <;> simp only [Script.play, hl, hp, hc, resultOf, conclude]

theorem play_of_unlaunched {g : Stage κ ω} {script : Script} {target : String} {w w₁ : ω}
    {f : Failure}
    (hl : g.launch target (g.report (.scriptStarted script target) w) = (.error f, w₁)) :
    script.play g target w = (.error f, w₁) := by
  simp only [Script.play, hl]

/-- Playing a script on a stage, deed by deed. Noting the deeds changes no result.

* A console that does not start is all there is to it: its failure is the result, and nothing but
  the start of the script is told.
* Otherwise the console is asked for the tasks of the script in order, up to and with the first that
  fails, and is closed once. The script ends by what has come of these. -/
theorem play_deeds {g : Stage κ ω} (hg : g.Steady) {script : Script} {target : String} {w w' : ω}
    {r : Except Failure Report} {log : List Deed}
    (hplay : script.play g.recorded target (w, []) = (r, (w', log))) :
    script.play g target w = (r, w') ∧
    ((∃ f, (g.launch target (g.report (.scriptStarted script target) w)).1 = .error f ∧
        r = .error f ∧ log = [.told (.scriptStarted script target)]) ∨
      ∃ console made failure closed deeds,
        (g.launch target (g.report (.scriptStarted script target) w)).1 = .ok console ∧
        log = .told (.scriptStarted script target) :: deeds ∧
        operations log = made.map .called ++ [.closed closed] ∧
        Attempts (script.tasks (g.timeout console)) made failure ∧
        Ends (g.timeout console) script failure closed r deeds) := by
  rcases hl : g.launch target (g.report (.scriptStarted script target) w) with ⟨launched, w₁⟩
  have hl' : g.recorded.launch target (g.recorded.report (.scriptStarted script target) (w, [])) =
      (launched, (w₁, [.told (.scriptStarted script target)])) := by
    simp [recorded, hl]
  cases launched with
  | error f =>
    rw [play_of_unlaunched hl'] at hplay
    cases hplay
    exact ⟨play_of_unlaunched hl, .inl ⟨f, rfl, rfl, rfl⟩⟩
  | ok console =>
    obtain ⟨deeds, hp', hcomes⟩ := playSteps_logged hg script.steps 0 (console, w₁)
      [.told (.scriptStarted script target)]
    rcases hp : g.playSteps 0 script.steps (console, w₁) with ⟨outcome, s⟩
    rcases hc : g.close s with ⟨closed, s'⟩
    rw [hp] at hp' hcomes
    have hc' : g.recorded.close (logged s (.told (.scriptStarted script target) :: deeds)) =
        (closed,
          logged s' (.told (.scriptStarted script target) :: (deeds ++ [.closed closed]))) := by
      simp [recorded, logged, note, hc]
    rw [play_of_launched hl' hp' hc', logged, conclude_recorded] at hplay
    obtain ⟨made, failure, hmade, hattempts, hends⟩ := hcomes.ends closed
    cases hplay
    refine ⟨play_of_launched hl hp hc, .inr ⟨console, made, failure, closed, _, rfl, rfl, ?_,
      hattempts, hends⟩⟩
    -- nothing behind the close has the console take part
    cases resultOf script outcome closed <;> simp [lastDeeds, hmade]

end Stage

/-- Whatever is asked of a session, it usually waits for as long as before. -/
theorem Session.stage_steady {ω : Type} (h : Host ω) (patience : Nat) (lost : GivingUp ω)
    (settings : Settings) (audience : Bool) :
    (Session.stage h patience lost settings audience).Steady where
  sendLine line s := by
    have hsend : Live.sendLine h line ⟨s.1, s.2.world⟩ = (_, _) := rfl
    exact (Live.keeps_terms_of_movesAll (Live.send_moves hsend).1).2.2
  expect p allowed s := by
    change (Live.expectWithin h patience lost p allowed (Scene.live s)).2.session.timeout =
      (Scene.live s).session.timeout
    rw [Live.expectWithin]
    cases hx : (Scene.live s).expect h patience p allowed with
    | none => rfl
    | some done => exact (Live.keeps_terms_of_movesAll (Live.expect_moves hx).1).2.2

namespace Stage

/-- Two steps, of which the second needs an input that takes something. -/
def twoSteps : Script where
  name := "two steps"
  steps := [{ name := "idle" }, { name := "ask", send := some "x" }]

/-- A stage whose consoles take no input. -/
def deafStage : Stage Session (Scene Nat) :=
  Session.stage Live.refusing 1 (fun _ _ _ => .sessionClosed) {} false

/-- A script of which the second step fails, and whose console is closed all the same. -/
theorem play_deeds_deaf :
    deafStage.Steady ∧ ∃ f w' log,
      twoSteps.play deafStage.recorded "" (⟨0, []⟩, []) =
        (.error (.inStep 1 "ask" f), (w', log)) ∧
      twoSteps.play deafStage "" ⟨0, []⟩ = (.error (.inStep 1 "ask" f), w') ∧
      log = [.told (.scriptStarted twoSteps ""), .told (.stepStarted 0 { name := "idle" }),
        .told (.stepPassed 0 { name := "idle" } none),
        .told (.stepStarted 1 { name := "ask", send := some "x" }), .called (.sent "x" (.error f)),
        .told (.stepFailed 1 { name := "ask", send := some "x" } f),
        .closed (.ok (.signaled 9))] ∧
      ∃ (made : List Call) (closed : Except Failure ExitStatus),
        operations log = made.map .called ++ [.closed closed] := by
  have hsteady : deafStage.Steady := Session.stage_steady _ _ _ _ _
  obtain ⟨f, w', log, hplay, hlog⟩ : ∃ f w' log,
      twoSteps.play deafStage.recorded "" (⟨0, []⟩, []) =
        (.error (.inStep 1 "ask" f), (w', log)) ∧
      log = [.told (.scriptStarted twoSteps ""), .told (.stepStarted 0 { name := "idle" }),
        .told (.stepPassed 0 { name := "idle" } none),
        .told (.stepStarted 1 { name := "ask", send := some "x" }), .called (.sent "x" (.error f)),
        .told (.stepFailed 1 { name := "ask", send := some "x" } f),
        .closed (.ok (.signaled 9))] := ⟨_, _, _, rfl, rfl⟩
  obtain ⟨hsame, ⟨_, hl, -⟩ | ⟨_, made, _, closed, _, -, -, hoperations, -⟩⟩ :=
    play_deeds hsteady hplay
  · cases hl
  · exact ⟨hsteady, f, w', log, hplay, hsame, hlog, made, closed, hoperations⟩

end Stage
end Parley

import Parley.Proofs.Session.Recorded

/-!
# Parley.Proofs.Session.Escalation

How a session brings its program to an end: which calls a close makes, in which order, and how it
comes to the answer.

* `Course`, `Follows`: the stages of one close, and the rule for each of them.
* `waitGracefully_logged`, `waitTerminated_logged`, `kill_logged`: the calls of each stage.
* `close_logged`: a close makes the calls of a course that follows the rules.
* `close_escalates`: so the answer is how the program ended, whenever it did.
-/

namespace Parley

/-- The end of a program, if it came. -/
def Ending.status? : Ending → Option ExitStatus
  | .ended status => some status
  | _ => none

namespace Live

open Host

/-- The stages of one close. A stage that is left out is `none`. -/
structure Course where
  /-- The end of the program as it was known before. -/
  known : Option ExitStatus
  /-- What came of the wait behind the end of the input. -/
  graceful : Option Ending
  /-- What became of the request to stop, and of the wait behind it. -/
  asked : Option (Except SystemError Unit × Ending)
  /-- The end that force has brought. -/
  forced : Option ExitStatus
deriving Repr

namespace Course

/-- What is known once the program has had the time to end by itself. -/
def afterGrace (c : Course) : Option ExitStatus := c.known.or (c.graceful.bind Ending.status?)

/-- What is known once the program has had the time to stop as it was asked to. -/
def afterRequest (c : Course) : Option ExitStatus :=
  c.afterGrace.or (c.asked.bind fun asked => asked.2.status?)

/-- What is known in the end. -/
def status (c : Course) : Option ExitStatus := c.afterRequest.or c.forced

/-- The calls of a wait for a program that may end by itself. -/
def graceCalls (allowed : Duration) : Option Ending → List Call
  | some ending => [.await allowed ending]
  | none => []

/-- The calls of a request to stop. -/
def requestCalls (allowed : Duration) : Option (Except SystemError Unit × Ending) → List Call
  | some (sent, ending) => [.signal .terminate sent, .await allowed ending]
  | none => []

/-- The calls of an end by force. -/
def forceCalls : Option ExitStatus → List Call
  | some status => [.kill (.ok ()), .reap (.ok status)]
  | none => []

/-- The calls before force. -/
def patientCalls (t : Teardown) (c : Course) : List Call :=
  .closeInput :: (graceCalls t.gracefulWait c.graceful ++ requestCalls t.terminateWait c.asked)

/-- The calls of a whole close. -/
def calls (t : Teardown) (c : Course) : List Call :=
  c.patientCalls t ++ forceCalls c.forced ++ [.closeOutput, .closeErrors]

/-- Each wait belongs to a strategy, and none is for a program that is known to have ended. -/
structure Patient (strategy : Strategy) (c : Course) : Prop where
  graceful_iff : c.graceful.isSome ↔ strategy = .escalating ∧ c.known = none
  asked_iff :
    c.asked.isSome ↔ (strategy = .escalating ∨ strategy = .terminate) ∧ c.afterGrace = none

/-- And force is for a program of which no end is known behind the waits. -/
structure Follows (strategy : Strategy) (c : Course) : Prop extends Patient strategy c where
  forced_iff : c.forced.isSome ↔ c.afterRequest = none

/-- Nothing is asked of a program that is known to have ended. -/
theorem Follows.of_known {strategy : Strategy} {c : Course} {known : ExitStatus}
    (hf : c.Follows strategy) (hk : c.known = some known) (t : Teardown) :
    c.calls t = [.closeInput, .closeOutput, .closeErrors] ∧ c.status = some known := by
  have hgraceful : c.graceful = none := by
    simpa [hk] using hf.graceful_iff
  have hgrace : c.afterGrace = some known := by
    rw [afterGrace, hk]
    rfl
  have hasked : c.asked = none := by
    simpa [hgrace] using hf.asked_iff
  have hrequest : c.afterRequest = some known := by
    rw [afterRequest, hgrace]
    rfl
  have hforced : c.forced = none := by
    simpa [hrequest] using hf.forced_iff
  constructor
  · simp [calls, patientCalls, hgraceful, hasked, hforced, graceCalls, requestCalls, forceCalls]
  · rw [status, hrequest]
    rfl

end Course

variable {ω : Type} {h : Host ω} {ended : ω → Option ExitStatus} {reaped : ω → Prop} {l l' : Live ω}
  {past : List (Operation × Answer)} {status : ExitStatus} {log : List Call} {n : Nat}

/-! ## The stages -/

theorem waitGracefully_eq_collect
    (ht : l.session.teardown.strategy = .escalating ∧ l.session.status = none) :
    waitGracefully h l = (collect h l.session.teardown.gracefulWait l).2 := by
  simp [waitGracefully, Teardown.waitsForExit, ht]

theorem waitGracefully_eq_self
    (ht : ¬ (l.session.teardown.strategy = .escalating ∧ l.session.status = none)) :
    waitGracefully h l = l := by
  rw [waitGracefully, if_neg]
  simpa [Teardown.waitsForExit, and_comm] using ht

theorem waitTerminated_eq_collect
    (ht : (l.session.teardown.strategy = .escalating ∨ l.session.teardown.strategy = .terminate) ∧
      l.session.status = none) :
    waitTerminated h l =
      (collect h l.session.teardown.terminateWait (signal h .terminate l).2).2 := by
  simp [waitTerminated, Teardown.asksToStop, ht]

theorem waitTerminated_eq_self
    (ht : ¬ ((l.session.teardown.strategy = .escalating ∨
      l.session.teardown.strategy = .terminate) ∧ l.session.status = none)) :
    waitTerminated h l = l := by
  rw [waitTerminated, if_neg]
  simpa [Teardown.asksToStop, and_comm] using ht

/-! ## The calls of the stages -/

section

variable (h : Host ω) (log : List Call)

theorem closeInput_logged :
    closeInput h.recorded (l.logged log) = (closeInput h l).logged (log ++ [.closeInput]) := rfl

theorem finish_logged :
    finish h.recorded status (l.logged log) =
      (finish h status l).logged (log ++ [.closeOutput, .closeErrors]) := by
  simp [finish, logged, recorded]

/-- A wait for an end that is not known is one call. -/
theorem collect_logged (hs : l.session.status = none) (allowed : Duration) :
    ∃ ending, (collect h allowed l).2.session.status = ending.status? ∧
      (collect h.recorded allowed (l.logged log)).2 =
        (collect h allowed l).2.logged (log ++ [.await allowed ending]) := by
  rcases ha : h.await allowed l.world with ⟨ending, w⟩
  cases ending with
  | ended new =>
    refine ⟨.ended new, ?_, ?_⟩ <;> simp only [collect, logged, recorded, note, hs, ha] <;> rfl
  | running => exact ⟨.running, by simp [collect, logged, recorded, note, hs, ha, Ending.status?]⟩
  | fault error =>
    exact ⟨.fault error, by simp [collect, logged, recorded, note, hs, ha, Ending.status?]⟩

/-- A signal to a program that is not known to have ended is one call. -/
theorem signal_logged (hs : l.session.status = none) (hpid : l.session.pid = some n)
    (hn : n ≤ Session.lastPid) (s : Signal) :
    ∃ sent, (signal h.recorded s (l.logged log)).2 =
      (signal h s l).2.logged (log ++ [.signal s sent]) := by
  rcases hsent : h.signal s l.world with ⟨sent, w⟩
  refine ⟨sent, ?_⟩
  have hlast : ¬ Session.lastPid < n := by omega
  cases sent <;> simp [signal, logged, recorded, note, hs, hpid, hlast, hsent]

theorem waitGracefully_logged :
    ∃ graceful : Option Ending,
      (graceful.isSome ↔ l.session.teardown.strategy = .escalating ∧ l.session.status = none) ∧
      (waitGracefully h l).session.status = l.session.status.or (graceful.bind Ending.status?) ∧
      waitGracefully h.recorded (l.logged log) =
        (waitGracefully h l).logged
          (log ++ Course.graceCalls l.session.teardown.gracefulWait graceful) := by
  by_cases ht : l.session.teardown.strategy = .escalating ∧ l.session.status = none
  · obtain ⟨ending, hstatus, hlogged⟩ :=
      collect_logged h log ht.2 l.session.teardown.gracefulWait
    refine ⟨some ending, ?_, ?_, ?_⟩
    · simp [ht]
    · rw [waitGracefully_eq_collect ht, hstatus, ht.2]
      rfl
    · rw [waitGracefully_eq_collect ht, waitGracefully_eq_collect (l := l.logged log) ht]
      exact hlogged
  · refine ⟨none, ?_, ?_, ?_⟩
    · simp [ht]
    · simp [waitGracefully_eq_self ht]
    · rw [waitGracefully_eq_self ht, waitGracefully_eq_self (l := l.logged log) ht]
      simp [Course.graceCalls]

theorem waitTerminated_logged (hpid : l.session.pid = some n) (hn : n ≤ Session.lastPid) :
    ∃ asked : Option (Except SystemError Unit × Ending),
      (asked.isSome ↔
        (l.session.teardown.strategy = .escalating ∨ l.session.teardown.strategy = .terminate) ∧
          l.session.status = none) ∧
      (waitTerminated h l).session.status =
        l.session.status.or (asked.bind fun asked => asked.2.status?) ∧
      waitTerminated h.recorded (l.logged log) =
        (waitTerminated h l).logged
          (log ++ Course.requestCalls l.session.teardown.terminateWait asked) := by
  by_cases ht : (l.session.teardown.strategy = .escalating ∨
      l.session.teardown.strategy = .terminate) ∧ l.session.status = none
  · obtain ⟨sent, hsignal⟩ := signal_logged h log ht.2 hpid hn .terminate
    have hs : (signal h .terminate l).2.session.status = none := by
      rcases hr : signal h .terminate l with ⟨r, l₁⟩
      rw [signal_session hr]
      exact ht.2
    obtain ⟨ending, hstatus, hlogged⟩ :=
      collect_logged h (log ++ [.signal .terminate sent]) hs l.session.teardown.terminateWait
    refine ⟨some (sent, ending), ?_, ?_, ?_⟩
    · simp [ht]
    · rw [waitTerminated_eq_collect ht, hstatus, ht.2]
      rfl
    · rw [waitTerminated_eq_collect ht, waitTerminated_eq_collect (l := l.logged log) ht, hsignal]
      rw [List.append_assoc] at hlogged
      exact hlogged
  · refine ⟨none, ?_, ?_, ?_⟩
    · simp [ht]
    · simp [waitTerminated_eq_self ht]
    · rw [waitTerminated_eq_self ht, waitTerminated_eq_self (l := l.logged log) ht]
      simp [Course.requestCalls]

/-- A close is patient before it uses force. -/
theorem staged_logged (hpid : l.session.pid = some n) (hn : n ≤ Session.lastPid) :
    ∃ c : Course, c.known = l.session.status ∧ c.Patient l.session.teardown.strategy ∧
      (staged h l).session.status = c.afterRequest ∧
      staged h.recorded (l.logged []) =
        (staged h l).logged (c.patientCalls l.session.teardown) := by
  obtain ⟨graceful, hgraceful, hgrace, hgraceLogged⟩ :=
    waitGracefully_logged h [.closeInput] (l := closeInput h l)
  obtain ⟨hsamePid, hsame, -⟩ :=
    keeps_terms_of_movesAll (waitGracefully_moves (h := h) (closeInput h l))
  obtain ⟨asked, hasked, hrequest, hrequestLogged⟩ :=
    waitTerminated_logged h
      (.closeInput :: Course.graceCalls l.session.teardown.gracefulWait graceful)
      (hsamePid.trans hpid) hn
  rw [hsame, hgrace] at hasked
  rw [hgrace] at hrequest
  rw [hsame] at hrequestLogged
  refine ⟨{ known := l.session.status, graceful, asked, forced := none }, rfl, ?_, hrequest, ?_⟩
  · exact ⟨hgraceful, hasked⟩
  · rw [staged, closeInput_logged]
    exact (congrArg (waitTerminated h.recorded) hgraceLogged).trans hrequestLogged

/-- Force is two calls, unless one of them is refused. -/
theorem kill_logged :
    (∃ (status : ExitStatus) (l' : Live ω), kill h l = (.ok status, l') ∧
      kill h.recorded (l.logged log) =
        (.ok status, l'.logged (log ++ Course.forceCalls (some status)))) ∨
    ∃ (f : Failure) (l' : Live ω) (log' : List Call),
      kill h.recorded (l.logged log) = (.error f, l'.logged log') ∧
      ∃ call ∈ log', call.Refused := by
  rcases hk : h.kill l.world with ⟨killed, w⟩
  cases killed with
  | error error =>
    refine .inr ⟨.systemDuring "killing process" error, { l with world := w },
      log ++ [.kill (.error error)], ?_, ?_⟩
    · simp only [kill, logged, recorded, note, hk]
    · exact ⟨.kill (.error error), by simp, trivial⟩
  | ok _ =>
    rcases hr : h.reap w with ⟨reaped, w'⟩
    cases reaped with
    | error error =>
      refine .inr ⟨.systemDuring "reaping process" error, { l with world := w' },
        log ++ [.kill (.ok ())] ++ [.reap (.error error)], ?_, ?_⟩
      · simp only [kill, logged, recorded, note, hk, hr]
      · exact ⟨.reap (.error error), by simp, trivial⟩
    | ok status =>
      refine .inl ⟨status, { l with world := w' }, ?_, ?_⟩
      · simp only [kill, hk, hr]
      · simp [kill, logged, recorded, note, hk, hr, Course.forceCalls]

end

/-! ## The whole close -/

/-- The calls that a close makes. -/
def closeCalls (h : Host ω) (l : Live ω) : List Call := (close h.recorded (l.logged [])).2.world.2

/-- A close makes the calls of a course that follows the rules, unless force is refused. -/
theorem close_logged (hc : l.session.phase ≠ .closed) (hpid : l.session.pid = some n)
    (hn : n ≤ Session.lastPid) :
    (∃ (c : Course) (status : ExitStatus) (l' : Live ω),
      c.known = l.session.status ∧ c.Follows l.session.teardown.strategy ∧
      c.status = some status ∧ close h l = (.ok status, l') ∧
      close h.recorded (l.logged []) = (.ok status, l'.logged (c.calls l.session.teardown))) ∨
    ∃ call ∈ closeCalls h l, call.Refused := by
  obtain ⟨c, hknown, hpatient, hstatus, hlogged⟩ := staged_logged h hpid hn
  have hc' : (l.logged []).session.phase ≠ .closed := hc
  -- the recorded host comes to the same point, so the same one of the three ends follows
  have hsame : (staged h.recorded (l.logged [])).session.status = (staged h l).session.status := by
    rw [hlogged]
    rfl
  cases hs : (staged h l).session.status with
  | some status =>
    have hrequest : c.afterRequest = some status := hstatus.symm.trans hs
    have hforced : (none : Option ExitStatus).isSome ↔ c.afterRequest = none := by simp [hrequest]
    refine .inl ⟨{ c with forced := none }, status, finish h status (staged h l), hknown, ?_, ?_,
      close_of_known hc hs, ?_⟩
    · exact ⟨⟨hpatient.graceful_iff, hpatient.asked_iff⟩, hforced⟩
    · exact congrArg (·.or none) hrequest
    · rw [close_of_known hc' (hsame.trans hs), hlogged, finish_logged]
      simp [Course.calls, Course.patientCalls, Course.forceCalls]
  | none =>
    have hrequest : c.afterRequest = none := hstatus.symm.trans hs
    rcases kill_logged h (c.patientCalls l.session.teardown) (l := staged h l) with
      ⟨status, l', hkill, hkill'⟩ | ⟨f, l', log', hkill', hrefused⟩
    · rw [← hlogged] at hkill'
      refine .inl ⟨{ c with forced := some status }, status, finish h status l', hknown, ?_, ?_,
        close_of_forced hc hs hkill, ?_⟩
      · exact ⟨⟨hpatient.graceful_iff, hpatient.asked_iff⟩, fun _ => hrequest, fun _ => rfl⟩
      · exact congrArg (·.or (some status)) hrequest
      · rw [close_of_forced hc' (hsame.trans hs) hkill', finish_logged]
        rfl
    · rw [← hlogged] at hkill'
      right
      rw [closeCalls, close_of_refused hc' (hsame.trans hs) hkill']
      exact hrefused

/-- A close of a closed session makes no call. -/
theorem close_logged_of_closed (hc : l.session.phase = .closed)
    (hs : l.session.status = some status) :
    close h.recorded (l.logged []) = (.ok status, l.logged []) := by
  have hc' : (l.logged []).session.phase = .closed := hc
  rw [close_of_closed hc', logged, hs]
  rfl

/-- A close after any run of a session that has been started, on any honest host and with any
strategy, unless force is refused:

* it answers how the program ended and records just that, and behind it the session is closed and
  the end of the program has been asked for;
* a session that is closed makes no call and stays as it is;
* otherwise the calls are those of a course. The input is closed first. A wait for the program to
  end by itself belongs to the escalating strategy alone. One request to stop is sent, with a wait
  behind it, just when the strategy has that stage and no end is known by then; force is used, once,
  just when none is known behind all these waits;
* a session that knew the end before waits for nothing and sends nothing. -/
theorem close_escalates {settings : Settings} {target : String} {w w₀ : ω} {s : Session}
    (hh : h.Honest ended reaped)
    (hl : Session.launch h settings target w = (.ok s, w₀)) (hr : Runs h ⟨s, w₀⟩ past l)
    (hforce : ∀ call ∈ closeCalls h l, ¬ call.Refused) :
    ∃ status l', close h l = (.ok status, l') ∧
      close h.recorded (l.logged []) = (.ok status, l'.logged (closeCalls h l)) ∧
      l'.session.status = some status ∧ l'.session.phase = .closed ∧
      l'.session.inputOpen = false ∧ ended l'.world = some status ∧ reaped l'.world ∧
      (l.session.phase = .closed → closeCalls h l = [] ∧ l' = l) ∧
      (l.session.phase ≠ .closed → ∃ c : Course,
        c.known = l.session.status ∧ c.Follows settings.teardown.strategy ∧
        closeCalls h l = c.calls settings.teardown ∧ c.status = some status) ∧
      ∀ known, l.session.status = some known → status = known ∧
        ∀ call ∈ closeCalls h l,
          call = .closeInput ∨ call = .closeOutput ∨ call = .closeErrors := by
  obtain ⟨pid, hlaunch, rfl⟩ := Session.launch_ok hl
  obtain ⟨n, rfl, hn⟩ := hh.launch hlaunch
  have ho : l.session.Orderly := hr.orderly (Session.fresh_orderly settings target _)
  have ht : Truthful ended reaped l := truthful_of_movesAll hh hr.moves fresh_truthful
  obtain ⟨hpid, hteardown, -⟩ : l.session.pid = some n ∧ l.session.teardown = settings.teardown ∧
      l.session.timeout = settings.timeout :=
    keeps_terms_of_movesAll hr.moves
  by_cases hc : l.session.phase = .closed
  · obtain ⟨status, hs, hclose⟩ := close_of_closed_status (h := h) ho hc
    have hrecorded := close_logged_of_closed (h := h) hc hs
    have hcalls : closeCalls h l = [] := by
      rw [closeCalls, hrecorded]
      rfl
    rw [hcalls]
    refine ⟨status, l, hclose, hrecorded, hs, hc, ho.inputClosed_iff.2 (.inr hc), (ht status hs).1,
      (ht status hs).2, fun _ => ⟨rfl, rfl⟩, fun hnot => absurd hc hnot, ?_⟩
    intro known hknown
    rw [hs] at hknown
    cases hknown
    exact ⟨rfl, nofun⟩
  · rcases close_logged (h := h) hc hpid hn with
      ⟨c, status, l', hknown, hfollows, hstatus, hclose, hrecorded⟩ | ⟨call, hmem, hrefused⟩
    · have hcalls : closeCalls h l = c.calls l.session.teardown := by
        rw [closeCalls, hrecorded]
        rfl
      obtain ⟨hphase, hs⟩ := close_ok hc hclose
      have ho' : l'.session.Orderly := orderly_of_movesAll (close_moves hclose) ho
      have ht' : Truthful ended reaped l' := truthful_of_movesAll hh (close_moves hclose) ht
      rw [hteardown] at hcalls hfollows
      refine ⟨status, l', hclose, ?_, hs, hphase, ho'.inputClosed_iff.2 (.inr hphase),
        (ht' status hs).1, (ht' status hs).2, fun hclosed => absurd hclosed hc,
        fun _ => ⟨c, hknown, hfollows, hcalls, hstatus⟩, ?_⟩
      · rw [hrecorded, hcalls, hteardown]
      · intro known hs₀
        obtain ⟨hall, hsame⟩ := hfollows.of_known (hknown.trans hs₀) settings.teardown
        rw [hstatus] at hsame
        cases hsame
        exact ⟨rfl, by simp [hcalls, hall]⟩
    · exact absurd hrefused (hforce call hmem)

/-- A program that only force can end. -/
inductive Stubborn
  | running
  | killed
  | reaped
deriving DecidableEq, Repr

def Stubborn.outcome : Stubborn → Option ExitStatus
  | .running => none
  | _ => some (.signaled 9)

/-- A host whose program neither ends by itself nor stops when it is asked to. -/
def stubborn : Host Stubborn where
  launch _ _ := (.ok (some 7), .running)
  now _ := .zero
  write _ w := (.ok (), w)
  read _ _ w := (.nothing, w)
  readErrors _ w := (.nothing, w)
  closeInput w := w
  closeOutput w := w
  closeErrors w := w
  await _ w := if w = .running then (.running, w) else (.ended (.signaled 9), .reaped)
  signal _ w := (.ok (), w)
  kill w := if w = .reaped then (.error (.numbered 3), w) else (.ok (), .killed)
  reap w := if w = .running then (.error (.numbered 10), w) else (.ok (.signaled 9), .reaped)
  display _ w := w

theorem stubborn_honest : stubborn.Honest Stubborn.outcome (· = .reaped) where
  launch hl := by
    cases hl
    exact ⟨7, rfl, by decide⟩
  await {_ _ w _} ha := by cases w <;> cases ha <;> exact ⟨rfl, rfl⟩
  reap {_ w _} hr := by cases w <;> cases hr <;> exact ⟨rfl, rfl⟩
  keeps_ended {call _ w _} hc he := by cases call <;> cases w <;> cases he <;> cases hc <;> rfl
  keeps_reaped {call w _} hc hr := by
    subst hr
    cases call <;> cases hc <;> rfl

/-- A session on that host. -/
def unheeded : Live Stubborn := ⟨.fresh {} "" (some 7), .running⟩

/-- A session whose program has been sent something and goes through all the stages. -/
theorem close_escalates_stubborn :
    ∃ l l', Session.launch stubborn {} "" .running = (.ok unheeded.session, .running) ∧
      Runs stubborn unheeded [(.send [0x61], .done)] l ∧
      closeCalls stubborn l =
        [.closeInput, .await (.ofSecs 1) .running, .signal .terminate (.ok ()),
          .await (.ofSecs 2) .running, .kill (.ok ()), .reap (.ok (.signaled 9)), .closeOutput,
          .closeErrors] ∧
      (∀ call ∈ closeCalls stubborn l, ¬ call.Refused) ∧
      close stubborn l = (.ok (.signaled 9), l') ∧ l'.session.status = some (.signaled 9) ∧
      l'.session.phase = .closed ∧ l'.world = .reaped := by
  have hlaunch : Session.launch stubborn {} "" .running = (.ok unheeded.session, .running) := rfl
  obtain ⟨l, hsend⟩ : ∃ l, send stubborn [0x61] unheeded = (.ok (), l) := ⟨_, rfl⟩
  have hruns : Runs stubborn unheeded [(.send [0x61], .done)] l := .cons (.send hsend) .refl
  have hcalls : closeCalls stubborn l =
      [.closeInput, .await (.ofSecs 1) .running, .signal .terminate (.ok ()),
        .await (.ofSecs 2) .running, .kill (.ok ()), .reap (.ok (.signaled 9)), .closeOutput,
        .closeErrors] := by
    cases hsend
    rfl
  have hforce : ∀ call ∈ closeCalls stubborn l, ¬ call.Refused := by
    simp [hcalls, Call.Refused]
  obtain ⟨status, l', hclose, -, hs, hphase, -, hended, hreaped, -⟩ :=
    close_escalates stubborn_honest hlaunch hruns hforce
  have hstatus : status = .signaled 9 := by
    rw [hreaped] at hended
    cases hended
    rfl
  subst hstatus
  exact ⟨l, l', hlaunch, hruns, hcalls, hforce, hclose, hs, hphase, hreaped⟩

end Live
end Parley

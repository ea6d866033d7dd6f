import Mathlib.Logic.Relation
import Parley.Proofs.Session.Outcome

/-!
# Parley.Proofs.Session.Moves

What can be asked of a session, and the moves that it makes to answer. A move is one call of the
host with what the session notes of it, or a change of the window alone.

* `Operation`, `Answer`, `Performs`: the operations of a session, as data.
* `Runs`: operations one after another, in any order and with any answers.
* `Moves`: all that a session can do between two looks at it; what every move keeps, every run
  keeps.
* `Performs.moves`: every operation is a number of moves, whether it fails or not.
-/

namespace Parley
namespace Live

variable {ω : Type}

/-- What can be asked of a session. -/
inductive Operation
  | send (bytes : List UInt8)
  | sendLine (line : String)
  | expect (p : Pattern) (allowed : Duration)
  | signal (s : Signal)
  | close

/-- What a session answers. -/
inductive Answer
  | done
  | took (excerpt : Excerpt)
  | ended (status : ExitStatus)
  | failed (failure : Failure)
deriving DecidableEq, Repr

namespace Answer

def ofExcept {α : Type} (f : α → Answer) : Except Failure α → Answer
  | .ok a => f a
  | .error e => failed e

/-- The end of the program that an answer tells of. -/
def status? : Answer → Option ExitStatus
  | ended status => some status
  | failed (.ended _ status _) => status
  | _ => none

end Answer

/-- A session does what it is asked and answers. An expectation may take any number of steps. -/
inductive Performs (h : Host ω) (l : Live ω) : Operation → Answer → Live ω → Prop
  | send {bytes : List UInt8} {r : Except Failure Unit} {l' : Live ω} :
      send h bytes l = (r, l') → Performs h l (.send bytes) (.ofExcept (fun _ => .done) r) l'
  | sendLine {line : String} {r : Except Failure Unit} {l' : Live ω} :
      sendLine h line l = (r, l') → Performs h l (.sendLine line) (.ofExcept (fun _ => .done) r) l'
  | expect {steps : Nat} {p : Pattern} {allowed : Duration} {r : Except Failure Excerpt}
      {l' : Live ω} :
      expect h steps p allowed l = some (r, l') →
      Performs h l (.expect p allowed) (.ofExcept .took r) l'
  | signal {s : Signal} {r : Except Failure Unit} {l' : Live ω} :
      signal h s l = (r, l') → Performs h l (.signal s) (.ofExcept (fun _ => .done) r) l'
  | close {r : Except Failure ExitStatus} {l' : Live ω} :
      close h l = (r, l') → Performs h l .close (.ofExcept .ended r) l'

/-- Operations one after another, each with its answer. -/
inductive Runs (h : Host ω) : Live ω → List (Operation × Answer) → Live ω → Prop
  | refl {l : Live ω} : Runs h l [] l
  | cons {l l' l'' : Live ω} {op : Operation} {a : Answer} {rest : List (Operation × Answer)} :
      Performs h l op a l' → Runs h l' rest l'' → Runs h l ((op, a) :: rest) l''

/-- One call of the host and what the session notes of it, or a change of the window. Force is used
only while a session is being closed and nothing is known of an end of its program. -/
inductive Moves (h : Host ω) (l : Live ω) : Live ω → Prop
  | window (window : Window) : Moves h l (l.update fun s => { s with window })
  | shown (bytes : List UInt8) : Moves h l { l with world := h.display bytes l.world }
  | wrote {bytes : List UInt8} {r : Except SystemError Unit} {w : ω} :
      h.write bytes l.world = (r, w) → Moves h l { l with world := w }
  | heard {both : Bool} {allowed : Duration} {a : Arrival} {w : ω} :
      h.read both allowed l.world = (a, w) → Moves h l { l with world := w }
  | heardErrors {allowed : Duration} {a : Arrival} {w : ω} :
      h.readErrors allowed l.world = (a, w) → Moves h l { l with world := w }
  | outputEnded : Moves h l
      { session := { l.session with outputOpen := false }, world := h.closeOutput l.world }
  | errorsEnded : Moves h l
      { session := { l.session with errorsOpen := false }, world := h.closeErrors l.world }
  | signalled {s : Signal} {r : Except SystemError Unit} {w : ω} :
      l.session.status = none → h.signal s l.world = (r, w) → Moves h l { l with world := w }
  | waited {allowed : Duration} {ending : Ending} {w : ω} :
      h.await allowed l.world = (ending, w) → (∀ status, ending ≠ .ended status) →
      Moves h l { l with world := w }
  | ended {allowed : Duration} {status : ExitStatus} {w : ω} :
      l.session.status = none → h.await allowed l.world = (.ended status, w) →
      Moves h l
        { session :=
            { l.session with
              status := some status
              phase := if l.session.phase = .closing then .closing else .exited status }
          world := w }
  | inputEnded : l.session.phase ≠ .closed → Moves h l (closeInput h l)
  | killed {r : Except SystemError Unit} {w : ω} :
      l.session.phase = .closing → l.session.status = none → h.kill l.world = (r, w) →
      Moves h l { l with world := w }
  | unreaped {e : SystemError} {w : ω} :
      l.session.phase = .closing → l.session.status = none → h.reap l.world = (.error e, w) →
      Moves h l { l with world := w }
  | reaped {status : ExitStatus} {w : ω} :
      l.session.phase = .closing → l.session.status = none → h.reap l.world = (.ok status, w) →
      Moves h l (finish h status { l with world := w })
  | finished {status : ExitStatus} :
      l.session.phase = .closing → l.session.status = some status → Moves h l (finish h status l)

/-- Any number of moves. -/
abbrev MovesAll (h : Host ω) : Live ω → Live ω → Prop := Relation.ReflTransGen (Moves h)

variable {h : Host ω} {e : Expectation} {p : Pattern} {allowed : Duration} {l l' lk : Live ω}
  {readings : List Reading} {r : Except Failure Excerpt}

/-! ## Waiting for the end of the program -/

/-- The three ways of waiting for the end of the program: it is known, it comes, it does not. -/
theorem collect_cases {status : Option ExitStatus} (hc : collect h allowed l = (status, l')) :
    (∃ known, l.session.status = some known ∧ status = some known ∧ l' = l) ∨
    (∃ new w, l.session.status = none ∧ h.await allowed l.world = (.ended new, w) ∧
      status = some new ∧
      l' = { session :=
              { l.session with
                status := some new
                phase := if l.session.phase = .closing then .closing else .exited new }
             world := w }) ∨
    (∃ ending w, l.session.status = none ∧ h.await allowed l.world = (ending, w) ∧
      (∀ new, ending ≠ .ended new) ∧ status = none ∧ l' = { l with world := w }) := by
  unfold collect at hc
  cases hs : l.session.status with
  | some known =>
    rw [hs] at hc
    cases hc
    exact .inl ⟨known, rfl, rfl, rfl⟩
  | none =>
    rcases ha : h.await allowed l.world with ⟨ending, w⟩
    rw [hs, ha] at hc
    cases ending with
    | ended new =>
      cases hc
      exact .inr (.inl ⟨new, w, rfl, rfl, rfl, rfl⟩)
    | running =>
      cases hc
      exact .inr (.inr ⟨_, w, rfl, rfl, fun _ => nofun, rfl, rfl⟩)
    | fault error =>
      cases hc
      exact .inr (.inr ⟨_, w, rfl, rfl, fun _ => nofun, rfl, rfl⟩)

/-- What a wait for the end of the program answers is what the session knows behind it. -/
theorem collect_status {status : Option ExitStatus} (hc : collect h allowed l = (status, l')) :
    l'.session.status = status := by
  rcases collect_cases hc with ⟨known, hs, rfl, rfl⟩ | ⟨new, w, -, -, rfl, rfl⟩ |
    ⟨ending, w, hs, -, -, rfl, rfl⟩
  · exact hs
  · rfl
  · exact hs

theorem collect_moves {status : Option ExitStatus} (hc : collect h allowed l = (status, l')) :
    MovesAll h l l' := by
  rcases collect_cases hc with ⟨known, -, -, rfl⟩ | ⟨new, w, hs, ha, -, rfl⟩ |
    ⟨ending, w, -, ha, hne, -, rfl⟩
  · exact .refl
  · exact .single (.ended hs ha)
  · exact .single (.waited ha hne)

/-! ## Reading -/

theorem takeIn_moves (bytes : List UInt8) : MovesAll h l (takeIn h bytes l) := by
  have hwindow : Moves h l (l.update fun s => { s with window := l.session.window.append bytes }) :=
    .window _
  cases hecho : l.session.echo with
  | false =>
    have htake : takeIn h bytes l =
        l.update fun s => { s with window := l.session.window.append bytes } := by
      simp [takeIn, update, hecho]
    rw [htake]
    exact .single hwindow
  | true =>
    have htake : takeIn h bytes l =
        { (l.update fun s => { s with window := l.session.window.append bytes }) with
          world := h.display bytes l.world } := by
      simp [takeIn, update, hecho]
    rw [htake]
    exact .tail (.single hwindow) (.shown bytes)

theorem Drains.moves {chunks : List (List UInt8)} {errorsEnded : Bool}
    (hd : Drains h l chunks errorsEnded l') : MovesAll h l l' := by
  induction hd with
  | closed _ => exact .refl
  | silent _ ha => exact .single (.heardErrors ha)
  | ended _ ha => exact .tail (.single (.heardErrors ha)) .errorsEnded
  | fault _ ha => exact .tail (.single (.heardErrors ha)) .errorsEnded
  | chunk _ ha _ ih =>
    exact (Relation.ReflTransGen.head (.heardErrors ha) (takeIn_moves _)).trans ih

theorem Reads.moves {reading : Reading} (hr : Reads h allowed l reading l') : MovesAll h l l' := by
  cases hr with
  | nothing ha => exact .single (.heard ha)
  | chunk ha => exact .head (.heard ha) (takeIn_moves _)
  | errorsEnded ha => exact .tail (.single (.heard ha)) .errorsEnded
  | outputEnded ha hd => exact .head (.heard ha) (.head .outputEnded hd.moves)
  | fault ha => exact .single (.heard ha)

theorem Heard.moves (hh : Heard h e l readings lk) : MovesAll h l lk := by
  induction hh with
  | refl => exact .refl
  | cons _ hr _ _ ih => exact hr.moves.trans ih

theorem Verdict.moves (hv : Verdict h e l r l') : MovesAll h l l' := by
  cases hv with
  | found _ => exact .single (.window _)
  | wholeOutput _ _ _ hc => exact .tail (collect_moves (collects_iff.1 hc)) (.window _)
  | ended _ _ _ hc => exact collect_moves (collects_iff.1 hc)
  | timedOut _ _ _ => exact .refl
  | fault _ hr => exact hr.moves

/-- Of all that an expectation comes to, only the end of the output tells how the program ended. -/
theorem Verdict.tells {known : ExitStatus} (hv : Verdict h e l r l')
    (ha : (Answer.ofExcept .took r).status? = some known) : l'.session.status = some known := by
  cases hv with
  | found _ => cases ha
  | wholeOutput _ _ _ _ => cases ha
  | ended _ _ _ hc => exact (collect_status (collects_iff.1 hc)).trans ha
  | timedOut _ _ _ => cases ha
  | fault _ _ => cases ha

theorem expect_moves {steps : Nat} (hx : expect h steps p allowed l = some (r, l')) :
    MovesAll h l l' ∧ ∀ known, (Answer.ofExcept .took r).status? = some known →
      l'.session.status = some known := by
  by_cases hc : l.session.phase = .closed
  · rw [expect_of_closed hc] at hx
    cases hx
    exact ⟨.refl, nofun⟩
  · rw [expect_of_not_closed hc] at hx
    obtain ⟨readings, lk, hh, hv⟩ := await_sound hx
    exact ⟨hh.moves.trans hv.moves, fun known => hv.tells⟩

/-! ## Sending -/

theorem send_moves {bytes : List UInt8} {r : Except Failure Unit}
    (hs : send h bytes l = (r, l')) :
    MovesAll h l l' ∧ ∀ known, (Answer.ofExcept (fun _ => .done) r).status? = some known →
      l'.session.status = some known := by
  unfold send at hs
  cases hopen : l.session.inputOpen with
  | false =>
    rw [hopen] at hs
    cases hs
    exact ⟨.refl, nofun⟩
  | true =>
    rcases hw : h.write bytes l.world with ⟨written, w⟩
    have hmove : Moves h l { l with world := w } := .wrote hw
    rw [hopen, hw] at hs
    cases written with
    | ok _ =>
      cases hs
      exact ⟨.single hmove, nofun⟩
    | error error =>
      by_cases hpipe : error.kind = .brokenPipe
      · rcases hc : collect h Session.reapWait { l with world := w } with ⟨status, l''⟩
        simp only [hpipe, hc, if_true] at hs
        cases hs
        exact ⟨.head hmove (collect_moves hc), fun known ha => (collect_status hc).trans ha⟩
      · simp only [hpipe, if_false] at hs
        cases hs
        exact ⟨.single hmove, nofun⟩

/-! ## Ending -/

/-- A signal is sent by one call of the host, and only while no end of the program is known. No end
is told of. -/
theorem signal_cases {s : Signal} {r : Except Failure Unit} (hs : signal h s l = (r, l')) :
    (Answer.ofExcept (fun _ => .done) r).status? = none ∧
    (l' = l ∨ ∃ sent w, l.session.status = none ∧ h.signal s l.world = (sent, w) ∧
      l' = { l with world := w }) := by
  unfold signal at hs
  cases hpid : l.session.pid with
  | none =>
    rw [hpid] at hs
    cases hs
    exact ⟨rfl, .inl rfl⟩
  | some pid =>
    cases hstatus : l.session.status with
    | some known =>
      rw [hpid, hstatus] at hs
      cases hs
      exact ⟨rfl, .inl rfl⟩
    | none =>
      by_cases hlast : Session.lastPid < pid
      · simp only [hpid, hstatus, Option.isSome_none, Bool.false_eq_true, hlast, if_true,
          if_false] at hs
        cases hs
        exact ⟨rfl, .inl rfl⟩
      · rcases hsent : h.signal s l.world with ⟨sent, w⟩
        simp only [hpid, hstatus, Option.isSome_none, Bool.false_eq_true, hlast, if_false,
          hsent] at hs
        cases sent <;> cases hs <;> exact ⟨rfl, .inr ⟨_, w, rfl, rfl, rfl⟩⟩

theorem signal_moves {s : Signal} {r : Except Failure Unit} (hs : signal h s l = (r, l')) :
    MovesAll h l l' := by
  obtain ⟨-, rfl | ⟨sent, w, hstatus, hsent, rfl⟩⟩ := signal_cases hs
  · exact .refl
  · exact .single (.signalled hstatus hsent)

theorem signal_session {s : Signal} {r : Except Failure Unit} (hs : signal h s l = (r, l')) :
    l'.session = l.session := by
  obtain ⟨-, rfl | ⟨_, _, -, -, rfl⟩⟩ := signal_cases hs <;> rfl

/-- A session behind all that a close does before it uses force. -/
def staged (h : Host ω) (l : Live ω) : Live ω :=
  waitTerminated h (waitGracefully h (closeInput h l))

theorem waitGracefully_moves (l : Live ω) : MovesAll h l (waitGracefully h l) := by
  unfold waitGracefully
  split
  · exact collect_moves rfl
  · exact .refl

theorem waitTerminated_moves (l : Live ω) : MovesAll h l (waitTerminated h l) := by
  unfold waitTerminated
  split
  · exact (signal_moves rfl).trans (collect_moves rfl)
  · exact .refl

theorem staged_moves (hc : l.session.phase ≠ .closed) : MovesAll h l (staged h l) :=
  .head (.inputEnded hc) ((waitGracefully_moves _).trans (waitTerminated_moves _))

theorem collect_closing {status : Option ExitStatus} (hl : l.session.phase = .closing)
    (hc : collect h allowed l = (status, l')) : l'.session.phase = .closing := by
  rcases collect_cases hc with ⟨_, -, -, rfl⟩ | ⟨_, _, -, -, -, rfl⟩ | ⟨_, _, -, -, -, -, rfl⟩
  · exact hl
  · exact if_pos hl
  · exact hl

theorem waitGracefully_closing (hl : l.session.phase = .closing) :
    (waitGracefully h l).session.phase = .closing := by
  unfold waitGracefully
  split
  · exact collect_closing hl rfl
  · exact hl

theorem waitTerminated_closing (hl : l.session.phase = .closing) :
    (waitTerminated h l).session.phase = .closing := by
  unfold waitTerminated
  split
  · rcases hs : signal h .terminate l with ⟨r, l'⟩
    exact collect_closing (by rw [signal_session hs, hl]) rfl
  · exact hl

theorem staged_closing (l : Live ω) : (staged h l).session.phase = .closing :=
  waitTerminated_closing (waitGracefully_closing rfl)

section

variable (hc : l.session.phase ≠ .closed)

include hc

theorem close_of_known {status : ExitStatus}
    (hs : (staged h l).session.status = some status) :
    close h l = (.ok status, finish h status (staged h l)) := by
  rw [staged] at hs ⊢
  simp only [close, if_neg hc, hs]

theorem close_of_forced {status : ExitStatus} (hs : (staged h l).session.status = none)
    (hk : kill h (staged h l) = (.ok status, l')) :
    close h l = (.ok status, finish h status l') := by
  rw [staged] at hs hk
  simp only [close, if_neg hc, hs, hk]

theorem close_of_refused {f : Failure} (hs : (staged h l).session.status = none)
    (hk : kill h (staged h l) = (.error f, l')) : close h l = (.error f, l') := by
  rw [staged] at hs hk
  simp only [close, if_neg hc, hs, hk]

end

/-- The four ways of closing a session that is not closed: its program ended in the waits, or force
ended it, or force was refused, or its end was not told. -/
theorem close_cases {r : Except Failure ExitStatus} (hc : l.session.phase ≠ .closed)
    (hl : close h l = (r, l')) :
    (∃ status, (staged h l).session.status = some status ∧ r = .ok status ∧
      l' = finish h status (staged h l)) ∨
    (∃ status w w', (staged h l).session.status = none ∧ h.kill (staged h l).world = (.ok (), w) ∧
      h.reap w = (.ok status, w') ∧ r = .ok status ∧
      l' = finish h status { staged h l with world := w' }) ∨
    (∃ error w, (staged h l).session.status = none ∧ h.kill (staged h l).world = (.error error, w) ∧
      r = .error (.systemDuring "killing process" error) ∧ l' = { staged h l with world := w }) ∨
    (∃ error w w', (staged h l).session.status = none ∧ h.kill (staged h l).world = (.ok (), w) ∧
      h.reap w = (.error error, w') ∧ r = .error (.systemDuring "reaping process" error) ∧
      l' = { staged h l with world := w' }) := by
  cases hs : (staged h l).session.status with
  | some status =>
    rw [close_of_known hc hs] at hl
    cases hl
    exact .inl ⟨status, rfl, rfl, rfl⟩
  | none =>
    rcases hk : h.kill (staged h l).world with ⟨killed, w⟩
    cases killed with
    | error error =>
      have hforce : kill h (staged h l) =
          (.error (.systemDuring "killing process" error), { staged h l with world := w }) := by
        simp only [kill, hk]
      rw [close_of_refused hc hs hforce] at hl
      cases hl
      exact .inr (.inr (.inl ⟨error, w, rfl, rfl, rfl, rfl⟩))
    | ok _ =>
      rcases hr : h.reap w with ⟨reaped, w'⟩
      cases reaped with
      | ok status =>
        have hforce : kill h (staged h l) = (.ok status, { staged h l with world := w' }) := by
          simp only [kill, hk, hr]
        rw [close_of_forced hc hs hforce] at hl
        cases hl
        exact .inr (.inl ⟨status, w, w', rfl, rfl, hr, rfl, rfl⟩)
      | error error =>
        have hforce : kill h (staged h l) =
            (.error (.systemDuring "reaping process" error), { staged h l with world := w' }) := by
          simp only [kill, hk, hr]
        rw [close_of_refused hc hs hforce] at hl
        cases hl
        exact .inr (.inr (.inr ⟨error, w, w', rfl, rfl, hr, rfl, rfl⟩))

theorem close_of_closed (hc : l.session.phase = .closed) :
    close h l = (.ok (l.session.status.getD .unknown), l) := by
  rw [close, if_pos hc]

theorem close_moves {r : Except Failure ExitStatus} (hl : close h l = (r, l')) :
    MovesAll h l l' := by
  by_cases hc : l.session.phase = .closed
  · rw [close_of_closed hc] at hl
    cases hl
    exact .refl
  · have hstaged := staged_moves (h := h) hc
    have hphase := staged_closing (h := h) l
    rcases close_cases hc hl with ⟨status, hs, -, rfl⟩ | ⟨status, w, w', hs, hk, hr, -, rfl⟩ |
      ⟨error, w, hs, hk, -, rfl⟩ | ⟨error, w, w', hs, hk, hr, -, rfl⟩
    · exact .tail hstaged (.finished hphase hs)
    · exact .tail (.tail hstaged (.killed hphase hs hk)) (.reaped hphase hs hr)
    · exact .tail hstaged (.killed hphase hs hk)
    · exact .tail (.tail hstaged (.killed hphase hs hk)) (.unreaped hphase hs hr)

/-! ## Operations -/

variable {op : Operation} {a : Answer}

/-- Every operation is a number of moves, whether it fails or not. -/
theorem Performs.moves (hp : Performs h l op a l') : MovesAll h l l' := by
  cases hp with
  | send hs => exact (send_moves hs).1
  | sendLine hs => exact (send_moves hs).1
  | expect hx => exact (expect_moves hx).1
  | signal hs => exact signal_moves hs
  | close hl => exact close_moves hl

/-- An answer that tells how the program ended tells what the session knows from then on. -/
theorem Performs.tells {status : ExitStatus} (hp : Performs h l op a l')
    (hknown : l.session.phase = .closed → l.session.status ≠ none)
    (ha : a.status? = some status) : l'.session.status = some status := by
  cases hp with
  | send hs => exact (send_moves hs).2 status ha
  | sendLine hs => exact (send_moves hs).2 status ha
  | expect hx => exact (expect_moves hx).2 status ha
  | signal hs =>
    rw [(signal_cases hs).1] at ha
    cases ha
  | close hl =>
    by_cases hc : l.session.phase = .closed
    · rw [close_of_closed hc] at hl
      cases hl
      obtain ⟨known, hs⟩ := Option.ne_none_iff_exists'.1 (hknown hc)
      rw [hs] at ha ⊢
      exact ha
    · rcases close_cases hc hl with ⟨known, -, rfl, rfl⟩ | ⟨known, w, w', -, -, -, rfl, rfl⟩ |
        ⟨error, w, -, -, rfl, -⟩ | ⟨error, w, w', -, -, -, rfl, -⟩
      · exact ha
      · exact ha
      · cases ha
      · cases ha

/-- What every move keeps, every number of moves keeps. -/
theorem keeps_of_movesAll {P : Live ω → Prop} (hP : ∀ {l l' : Live ω}, Moves h l l' → P l → P l')
    (hm : MovesAll h l l') (hl : P l) : P l' := by
  induction hm with
  | refl => exact hl
  | tail _ hm ih => exact hP hm ih

theorem Runs.moves {past : List (Operation × Answer)} (hr : Runs h l past l') :
    MovesAll h l l' := by
  induction hr with
  | refl => exact .refl
  | cons hp _ ih => exact hp.moves.trans ih

end Live
end Parley

import Parley.Proofs.Session.Moves

/-!
# Parley.Proofs.Session.Lifecycle

The phases of a session, what is open in each of them, and the end of its program, over every run of
operations and over every host.

* `Orderly`: what the phase, the status and the open ends of a session have in common.
* `Moves.orderly`, `Moves.keeps_status`: no move breaks this, and none changes a status that is
  known.
* `Runs.eq_of_closed`: nothing changes a session that is closed.
* `close_failed`, `close_completes`: a close that fails leaves a session that can still be closed.
* `run_lifecycle`: all of this after any run of a session that has been started.
-/

namespace Parley
namespace Session

/-- What the phase, the status and the open ends of a session have in common. -/
structure Orderly (s : Session) : Prop where
  exited : ∀ {status : ExitStatus}, s.phase = .exited status → s.status = some status
  closed : s.phase = .closed → s.status ≠ none ∧ s.outputOpen = false ∧ s.errorsOpen = false
  inputClosed_iff : s.inputOpen = false ↔ s.phase = .closing ∨ s.phase = .closed

theorem fresh_orderly (settings : Settings) (target : String) (pid : Option Nat) :
    (fresh settings target pid).Orderly where
  exited := nofun
  closed := nofun
  inputClosed_iff := ⟨nofun, by rintro (h | h) <;> cases h⟩

/-- A session that has been started is fresh, with the number that the host has given. -/
theorem launch_ok {ω : Type} {h : Host ω} {settings : Settings} {target : String} {w w₀ : ω}
    {s : Session} (hl : launch h settings target w = (.ok s, w₀)) :
    ∃ pid, h.launch (commandOf settings target) w = (.ok pid, w₀) ∧
      s = fresh settings target pid := by
  rcases hpid : h.launch (commandOf settings target) w with ⟨launched, w'⟩
  cases launched with
  | error error =>
    rw [launch, hpid] at hl
    cases hl
  | ok pid =>
    rw [launch, hpid] at hl
    cases hl
    exact ⟨pid, rfl, rfl⟩

/-- A program whose end is learned leaves a session orderly. -/
theorem Orderly.ended {s : Session} (ho : s.Orderly) (hs : s.status = none) (status : ExitStatus) :
    ({ s with
        status := some status
        phase := if s.phase = .closing then .closing else .exited status } : Session).Orderly := by
  have hnot : s.phase ≠ .closed := fun hc => (ho.closed hc).1 hs
  by_cases hphase : s.phase = .closing
  · simp only [hphase, if_true]
    exact ⟨nofun, nofun, by simpa [hphase] using ho.inputClosed_iff⟩
  · simp only [hphase, if_false]
    exact ⟨fun h => by cases h; rfl, nofun, by simpa [hphase, hnot] using ho.inputClosed_iff⟩

end Session

namespace Live

variable {ω : Type} {h : Host ω} {l l' : Live ω} {past future : List (Operation × Answer)}
  {status : ExitStatus}

/-! ## One move -/

theorem finish_orderly (ho : l.session.Orderly) (hc : l.session.phase = .closing) :
    (finish h status l).session.Orderly where
  exited := nofun
  closed _ := ⟨nofun, rfl, rfl⟩
  inputClosed_iff := ⟨fun _ => .inr rfl, fun _ => ho.inputClosed_iff.2 (.inl hc)⟩

theorem Moves.orderly (hm : Moves h l l') (ho : l.session.Orderly) : l'.session.Orderly := by
  cases hm with
  | window _ => exact ⟨ho.exited, ho.closed, ho.inputClosed_iff⟩
  | outputEnded =>
    exact ⟨ho.exited, fun hc => ⟨(ho.closed hc).1, rfl, (ho.closed hc).2.2⟩, ho.inputClosed_iff⟩
  | errorsEnded =>
    exact ⟨ho.exited, fun hc => ⟨(ho.closed hc).1, (ho.closed hc).2.1, rfl⟩, ho.inputClosed_iff⟩
  | ended hs _ => exact ho.ended hs _
  | inputEnded _ => exact ⟨nofun, nofun, ⟨fun _ => .inl rfl, fun _ => rfl⟩⟩
  | reaped hc _ _ => exact finish_orderly (l := { l with world := _ }) ho hc
  | finished hc _ => exact finish_orderly ho hc
  | _ => exact ho

/-- How the program ended is recorded once and never again. -/
theorem Moves.keeps_status (hm : Moves h l l') (hs : l.session.status = some status) :
    l'.session.status = some status := by
  cases hm with
  | ended hnone _ => rw [hs] at hnone; cases hnone
  | reaped _ hnone _ => rw [hs] at hnone; cases hnone
  | finished _ hsome => exact hsome.symm.trans hs
  | _ => exact hs

/-! ## Whole runs -/

theorem orderly_of_movesAll (hm : MovesAll h l l') (ho : l.session.Orderly) : l'.session.Orderly :=
  keeps_of_movesAll (P := fun l => l.session.Orderly) Moves.orderly hm ho

theorem keeps_status_of_movesAll (hm : MovesAll h l l') (hs : l.session.status = some status) :
    l'.session.status = some status :=
  keeps_of_movesAll (P := fun l => l.session.status = some status) Moves.keeps_status hm hs

theorem Runs.orderly (hr : Runs h l past l') (ho : l.session.Orderly) : l'.session.Orderly :=
  orderly_of_movesAll hr.moves ho

theorem Runs.keeps_status (hr : Runs h l past l') (hs : l.session.status = some status) :
    l'.session.status = some status :=
  keeps_status_of_movesAll hr.moves hs

/-- All answers of a run that tell how the program ended tell what the session knows behind it. -/
theorem Runs.tells (hr : Runs h l past l') (ho : l.session.Orderly) {done : Operation × Answer}
    (hdone : done ∈ past) (ha : done.2.status? = some status) :
    l'.session.status = some status := by
  induction hr with
  | refl => cases hdone
  | cons hp hrest ih =>
    have ho' := orderly_of_movesAll hp.moves ho
    rcases List.mem_cons.1 hdone with rfl | hmem
    · exact hrest.keeps_status (hp.tells (fun hc => (ho.closed hc).1) ha)
    · exact ih ho' hmem

/-! ## Closed sessions -/

theorem send_of_closed (ho : l.session.Orderly) (hc : l.session.phase = .closed)
    (bytes : List UInt8) : send h bytes l = (.error .sessionClosed, l) := by
  have hinput := ho.inputClosed_iff.2 (.inr hc)
  simp [send, hinput]

theorem signal_of_closed (ho : l.session.Orderly) (hc : l.session.phase = .closed) {s : Signal}
    {r : Except Failure Unit} (hs : signal h s l = (r, l')) : l' = l := by
  obtain ⟨-, rfl | ⟨_, _, hnone, -, -⟩⟩ := signal_cases hs
  · rfl
  · exact absurd hnone (ho.closed hc).1

theorem close_of_closed_status (ho : l.session.Orderly) (hc : l.session.phase = .closed) :
    ∃ status, l.session.status = some status ∧ close h l = (.ok status, l) := by
  obtain ⟨status, hs⟩ := Option.ne_none_iff_exists'.1 (ho.closed hc).1
  exact ⟨status, hs, by rw [close_of_closed hc, hs]; rfl⟩

theorem Performs.eq_of_closed {op : Operation} {a : Answer} (hp : Performs h l op a l')
    (ho : l.session.Orderly) (hc : l.session.phase = .closed) : l' = l := by
  cases hp with
  | send hs =>
    rw [send_of_closed ho hc] at hs
    cases hs
    rfl
  | sendLine hs =>
    rw [Live.sendLine, send_of_closed ho hc] at hs
    cases hs
    rfl
  | expect hx =>
    rw [expect_of_closed hc] at hx
    cases hx
    rfl
  | signal hs => exact signal_of_closed ho hc hs
  | close hl =>
    rw [close_of_closed hc] at hl
    cases hl
    rfl

/-- Nothing changes a session that is closed. -/
theorem Runs.eq_of_closed (hr : Runs h l future l') (ho : l.session.Orderly)
    (hc : l.session.phase = .closed) : l' = l := by
  induction hr with
  | refl => rfl
  | cons hp _ ih =>
    obtain rfl := hp.eq_of_closed ho hc
    exact ih ho hc

/-! ## Closing again -/

/-- A close that fails leaves the session half closed, with no end of its program. -/
theorem close_failed {f : Failure} (hl : close h l = (.error f, l')) :
    l'.session.phase = .closing ∧ l'.session.status = none := by
  by_cases hc : l.session.phase = .closed
  · rw [close_of_closed hc] at hl
    cases hl
  · have hphase := staged_closing (h := h) l
    rcases close_cases hc hl with ⟨_, -, h, -⟩ | ⟨_, _, _, -, -, -, h, -⟩ |
      ⟨error, w, hs, -, -, rfl⟩ | ⟨error, w, w', hs, -, -, -, rfl⟩
    · cases h
    · cases h
    · exact ⟨hphase, hs⟩
    · exact ⟨hphase, hs⟩

/-- A close that does not fail leaves the session closed, with the status that it answers. -/
theorem close_ok (hc : l.session.phase ≠ .closed) (hl : close h l = (.ok status, l')) :
    l'.session.phase = .closed ∧ l'.session.status = some status := by
  rcases close_cases hc hl with ⟨told, -, htold, rfl⟩ | ⟨told, _, _, -, -, -, htold, rfl⟩ |
    ⟨_, _, -, -, h, -⟩ | ⟨_, _, _, -, -, -, h, -⟩
  · cases htold
    exact ⟨rfl, rfl⟩
  · cases htold
    exact ⟨rfl, rfl⟩
  · cases h
  · cases h

/-- Where force is not refused a close completes, whatever was tried before. -/
theorem close_completes (ho : l.session.Orderly) (hkill : ∀ w, ∃ w', h.kill w = (.ok (), w'))
    (hreap : ∀ w, ∃ status w', h.reap w = (.ok status, w')) :
    ∃ status l', close h l = (.ok status, l') ∧ l'.session.phase = .closed ∧
      l'.session.status = some status := by
  by_cases hc : l.session.phase = .closed
  · obtain ⟨status, hs, hl⟩ := close_of_closed_status (h := h) ho hc
    exact ⟨status, l, hl, hc, hs⟩
  · rcases hl : close h l with ⟨r, l'⟩
    rcases close_cases hc hl with ⟨status, -, rfl, rfl⟩ | ⟨status, _, _, -, -, -, rfl, rfl⟩ |
      ⟨error, w, -, hk, -, -⟩ | ⟨error, w, w', -, -, hr, -, -⟩
    · exact ⟨status, _, rfl, rfl, rfl⟩
    · exact ⟨status, _, rfl, rfl, rfl⟩
    · obtain ⟨w', hok⟩ := hkill (staged h l).world
      rw [hk] at hok
      cases hok
    · obtain ⟨status, w'', hok⟩ := hreap w
      rw [hr] at hok
      cases hok

/-- A close of a session that knows how its program ended tells just that. -/
theorem close_tells (hs : l.session.status = some status) :
    (close h l).1 = .ok status := by
  by_cases hc : l.session.phase = .closed
  · rw [close_of_closed hc, hs]
    rfl
  · have hstaged : (staged h l).session.status = some status :=
      keeps_status_of_movesAll (staged_moves hc) hs
    rcases hl : close h l with ⟨r, l'⟩
    rcases close_cases hc hl with ⟨known, hknown, rfl, -⟩ | ⟨_, _, _, hnone, -⟩ |
      ⟨_, _, hnone, -⟩ | ⟨_, _, _, hnone, -⟩
    · rw [hstaged] at hknown
      cases hknown
      rfl
    · rw [hstaged] at hnone; cases hnone
    · rw [hstaged] at hnone; cases hnone
    · rw [hstaged] at hnone; cases hnone

/-! ## The lifecycle -/

/-- After any run of a session that has been started, over any host:

* how the program ended, once it is known, never changes; a close tells just that, and so does
  every other answer that tells of an end, before or later;
* a session whose program ended by itself, or that is closed, knows how it ended;
* the input is closed only while the session is being closed or is closed, and behind that so are
  both streams;
* a closed session stays as it is, refuses to send and to wait, and tells the status once more;
* a close that fails leaves the session half closed, and a later one completes on any host that
  does not refuse force, whatever was asked in between. -/
theorem run_lifecycle {settings : Settings} {target : String} {w w₀ : ω} {s : Session}
    (hl : Session.launch h settings target w = (.ok s, w₀)) (hr : Runs h ⟨s, w₀⟩ past l) :
    (∀ status, l.session.status = some status →
      (close h l).1 = .ok status ∧
      ∀ future l', Runs h l future l' → l'.session.status = some status ∧
        ∀ done ∈ future, ∀ told, done.2.status? = some told → told = status) ∧
    (∀ done ∈ past, ∀ told, done.2.status? = some told → l.session.status = some told) ∧
    (∀ status, l.session.phase = .exited status → l.session.status = some status) ∧
    (l.session.phase = .closed → l.session.status ≠ none ∧ l.session.inputOpen = false ∧
      l.session.outputOpen = false ∧ l.session.errorsOpen = false) ∧
    (l.session.inputOpen = false → l.session.phase = .closing ∨ l.session.phase = .closed) ∧
    (l.session.phase = .closed →
      (∀ bytes, send h bytes l = (.error .sessionClosed, l)) ∧
      (∀ line, sendLine h line l = (.error .sessionClosed, l)) ∧
      (∀ steps p allowed, expect h steps p allowed l = some (.error .sessionClosed, l)) ∧
      (∃ status, l.session.status = some status ∧ close h l = (.ok status, l)) ∧
      ∀ future l', Runs h l future l' → l' = l) ∧
    (∀ f l', close h l = (.error f, l') →
      l'.session.phase = .closing ∧ l'.session.status = none ∧
      ∀ future l'', Runs h l' future l'' → ∀ h' : Host ω,
        (∀ w, ∃ w', h'.kill w = (.ok (), w')) →
        (∀ w, ∃ status w', h'.reap w = (.ok status, w')) →
        ∃ status l₃, close h' l'' = (.ok status, l₃) ∧ l₃.session.phase = .closed ∧
          l₃.session.status = some status) := by
  have hfresh : s.Orderly := by
    obtain ⟨pid, -, rfl⟩ := Session.launch_ok hl
    exact Session.fresh_orderly settings target pid
  have ho : l.session.Orderly := hr.orderly hfresh
  refine ⟨?_, ?_, fun status => ho.exited, ?_, ho.inputClosed_iff.1, ?_, ?_⟩
  · intro status hs
    refine ⟨close_tells hs, ?_⟩
    intro future l' hfuture
    have hs' := hfuture.keeps_status hs
    refine ⟨hs', ?_⟩
    intro done hdone told htold
    have htells := hfuture.tells ho hdone htold
    rw [hs'] at htells
    cases htells
    rfl
  · intro done hdone told htold
    exact hr.tells hfresh hdone htold
  · intro hc
    exact ⟨(ho.closed hc).1, ho.inputClosed_iff.2 (.inr hc), (ho.closed hc).2⟩
  · intro hc
    exact ⟨send_of_closed ho hc, fun line => send_of_closed ho hc _,
      fun steps p allowed => expect_of_closed hc, close_of_closed_status ho hc,
      fun future l' hfuture => hfuture.eq_of_closed ho hc⟩
  · intro f l' hclose
    obtain ⟨hphase, hstatus⟩ := close_failed hclose
    have ho' : l'.session.Orderly := orderly_of_movesAll (close_moves hclose) ho
    refine ⟨hphase, hstatus, ?_⟩
    intro future l'' hfuture h' hkill hreap
    exact close_completes (hfuture.orderly ho') hkill hreap

/-- A host on which no program ends by itself, and which refuses force as often as its state
says. -/
def refusing : Host Nat where
  launch _ w := (.ok (some 7), w)
  now _ := .zero
  write _ w := (.error SystemError.brokenPipe, w)
  read _ _ w := (.nothing, w)
  readErrors _ w := (.nothing, w)
  closeInput w := w
  closeOutput w := w
  closeErrors w := w
  await _ w := (.running, w)
  signal _ w := (.ok (), w)
  kill w := if w = 0 then (.ok (), w) else (.error SystemError.accessDenied, w - 1)
  reap w := (.ok (.signaled 9), w)
  display _ w := w

/-- A session on that host, once its input has failed. -/
def refused : Live Nat := ⟨Session.fresh {} "" (some 7), 1⟩

/-- A session that cannot be written to, whose first close is refused, and whose second one is
not. -/
theorem run_lifecycle_refused :
    ∃ a f l l' l'', Session.launch refusing {} "" 1 = (.ok refused.session, 1) ∧
      Runs refusing refused [(.send [0x61], a)] l ∧
      close refusing l = (.error f, l') ∧ l'.session.phase = .closing ∧ l'.session.status = none ∧
      Runs refusing refused
        [(.send [0x61], a), (.close, .failed f), (.close, .ended (.signaled 9))] l'' ∧
      l''.session.phase = .closed ∧ l''.session.status = some (.signaled 9) ∧
      (close refusing l'').1 = .ok (.signaled 9) ∧ l''.session.errorsOpen = false ∧
      send refusing [0x61] l'' = (.error .sessionClosed, l'') ∧
      ∀ future l₃, Runs refusing l'' future l₃ → l₃ = l'' := by
  have hlaunch : Session.launch refusing {} "" 1 = (.ok refused.session, 1) := rfl
  obtain ⟨r, l, hsend⟩ : ∃ r l, send refusing [0x61] refused = (r, l) := ⟨_, _, rfl⟩
  obtain ⟨f, l', hrefused⟩ : ∃ f l', close refusing l = (.error f, l') := by
    cases hsend
    exact ⟨_, _, rfl⟩
  obtain ⟨l'', hclosed, hphase, hstatus⟩ : ∃ l'', close refusing l' = (.ok (.signaled 9), l'') ∧
      l''.session.phase = .closed ∧ l''.session.status = some (.signaled 9) := by
    cases hsend
    cases hrefused
    exact ⟨_, rfl, rfl, rfl⟩
  have hsent : Runs refusing refused [(.send [0x61], .ofExcept (fun _ => .done) r)] l :=
    .cons (.send hsend) .refl
  have hwhole : Runs refusing refused [(.send [0x61], .ofExcept (fun _ => .done) r),
      (.close, .failed f), (.close, .ended (.signaled 9))] l'' :=
    .cons (.send hsend) (.cons (.close hrefused) (.cons (.close hclosed) .refl))
  obtain ⟨-, -, -, -, -, -, hfails⟩ := run_lifecycle hlaunch hsent
  obtain ⟨hclosing, hnone, -⟩ := hfails f l' hrefused
  obtain ⟨hknown, -, -, hopen, -, hstays, -⟩ := run_lifecycle hlaunch hwhole
  obtain ⟨hnosend, -, -, -, hall⟩ := hstays hphase
  exact ⟨_, f, l, l', l'', hlaunch, hsent, hrefused, hclosing, hnone, hwhole, hphase, hstatus,
    (hknown _ hstatus).1, (hopen hphase).2.2.2, hnosend _, hall⟩

end Live
end Parley

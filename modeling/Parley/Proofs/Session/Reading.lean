import Parley.Session

/-!
# Parley.Proofs.Session.Reading

What one wait for output brings, and what it makes of a session.

* `Reading`: the outcomes of a wait; the end of the output comes with what was left on the second
  stream.
* `Session.hear`: a session behind an outcome.
* `Live.Reads`: a wait on a host, with all that it asks of the host.
* `Live.read_sound`, `Live.Reads.complete`: `Live.read` is such a wait, given enough steps.
-/

namespace Parley

/-- What one wait for output brings. -/
inductive Reading
  | chunk (stream : Stream) (bytes : List UInt8)
  /-- The second stream is at its end. -/
  | errorsEnded
  /-- The output is at its end. What the second stream still held was read with it, perhaps to the
  end. -/
  | outputEnded (drained : List (List UInt8)) (errorsEnded : Bool)
  | nothing
  | fault (error : SystemError)
deriving DecidableEq, Repr

namespace Session

/-- What is heard goes into the window. -/
def hearAll (chunks : List (List UInt8)) (s : Session) : Session :=
  { s with window := chunks.foldl (fun w chunk => w.append chunk) s.window }

/-- A session behind an outcome of a wait. -/
def hear (s : Session) : Reading → Session
  | .chunk _ bytes => s.hearAll [bytes]
  | .errorsEnded => { s with errorsOpen := false }
  | .outputEnded drained errorsEnded =>
    { s.hearAll drained with outputOpen := false, errorsOpen := s.errorsOpen && !errorsEnded }
  | .nothing => s
  | .fault _ => s

/-! ## What hearing leaves alone -/

variable {s : Session} {reading : Reading}

@[simp] theorem hear_phase : (s.hear reading).phase = s.phase := by
  cases reading <;> simp [hear, hearAll]

@[simp] theorem hear_inputOpen : (s.hear reading).inputOpen = s.inputOpen := by
  cases reading <;> simp [hear, hearAll]

@[simp] theorem hear_status : (s.hear reading).status = s.status := by
  cases reading <;> simp [hear, hearAll]

@[simp] theorem hear_timeout : (s.hear reading).timeout = s.timeout := by
  cases reading <;> simp [hear, hearAll]

@[simp] theorem hear_lineEnding : (s.hear reading).lineEnding = s.lineEnding := by
  cases reading <;> simp [hear, hearAll]

end Session

namespace Live

variable {ω : Type} {h : Host ω} {allowed : Duration} {l l' l'' : Live ω} {n m : Nat}

/-- The second stream is read until it ends or is silent for a while: the chunks that came, whether
it ended now, and what is left then. -/
inductive Drains (h : Host ω) : Live ω → List (List UInt8) → Bool → Live ω → Prop
  | closed {l : Live ω} : l.session.errorsOpen = false → Drains h l [] false l
  | silent {l : Live ω} {w : ω} :
      l.session.errorsOpen = true → h.readErrors Session.drainWait l.world = (.nothing, w) →
      Drains h l [] false { l with world := w }
  | ended {l : Live ω} {stream : Stream} {w : ω} :
      l.session.errorsOpen = true →
      h.readErrors Session.drainWait l.world = (.chunk stream [], w) →
      Drains h l [] true
        { session := { l.session with errorsOpen := false }, world := h.closeErrors w }
  | fault {l : Live ω} {e : SystemError} {w : ω} :
      l.session.errorsOpen = true → h.readErrors Session.drainWait l.world = (.fault e, w) →
      Drains h l [] true
        { session := { l.session with errorsOpen := false }, world := h.closeErrors w }
  | chunk {l l' : Live ω} {stream : Stream} {b : UInt8} {rest : List UInt8} {w : ω}
      {chunks : List (List UInt8)} {errorsEnded : Bool} :
      l.session.errorsOpen = true →
      h.readErrors Session.drainWait l.world = (.chunk stream (b :: rest), w) →
      Drains h (takeIn h (b :: rest) { l with world := w }) chunks errorsEnded l' →
      Drains h l ((b :: rest) :: chunks) errorsEnded l'

/-- A wait for output on a host. -/
inductive Reads (h : Host ω) (allowed : Duration) (l : Live ω) : Reading → Live ω → Prop
  | nothing {w : ω} :
      h.read l.session.errorsOpen allowed l.world = (.nothing, w) →
      Reads h allowed l .nothing { l with world := w }
  | chunk {stream : Stream} {b : UInt8} {rest : List UInt8} {w : ω} :
      h.read l.session.errorsOpen allowed l.world = (.chunk stream (b :: rest), w) →
      Reads h allowed l (.chunk stream (b :: rest)) (takeIn h (b :: rest) { l with world := w })
  | errorsEnded {w : ω} :
      h.read l.session.errorsOpen allowed l.world = (.chunk .errors [], w) →
      Reads h allowed l .errorsEnded
        { session := { l.session with errorsOpen := false }, world := h.closeErrors w }
  | outputEnded {w : ω} {drained : List (List UInt8)} {errorsEnded : Bool} {l' : Live ω} :
      h.read l.session.errorsOpen allowed l.world = (.chunk .output [], w) →
      Drains h { session := { l.session with outputOpen := false }, world := h.closeOutput w }
        drained errorsEnded l' →
      Reads h allowed l (.outputEnded drained errorsEnded) l'
  | fault {e : SystemError} {w : ω} :
      h.read l.session.errorsOpen allowed l.world = (.fault e, w) →
      Reads h allowed l (.fault e) { l with world := w }

/-! ## What a wait makes of the session -/

@[simp] theorem takeIn_session (bytes : List UInt8) :
    (takeIn h bytes l).session =
      { l.session with window := l.session.window.append bytes } := rfl

theorem Drains.session {chunks : List (List UInt8)} {errorsEnded : Bool}
    (hd : Drains h l chunks errorsEnded l') :
    l'.session = { l.session.hearAll chunks with
      errorsOpen := l.session.errorsOpen && !errorsEnded } := by
  induction hd with
  | closed hc => simp [Session.hearAll]
  | silent _ _ => simp [Session.hearAll]
  | ended _ _ => simp [Session.hearAll]
  | fault _ _ => simp [Session.hearAll]
  | chunk _ _ _ ih =>
    rw [ih]
    rfl

/-- The session behind a wait is the one that heard its outcome. -/
theorem Reads.session {reading : Reading} (hr : Reads h allowed l reading l') :
    l'.session = l.session.hear reading := by
  cases hr with
  | nothing _ => rfl
  | chunk _ => rfl
  | errorsEnded _ => rfl
  | outputEnded _ hd =>
    rw [hd.session]
    rfl
  | fault _ => rfl

/-! ## Steps -/

theorem drain_mono (hle : n ≤ m) (hd : drain h n l = some l') : drain h m l = some l' := by
  induction n generalizing m l with
  | zero => cases hd
  | succ n ih =>
    obtain ⟨k, rfl⟩ : ∃ k, m = k + 1 := ⟨m - 1, by omega⟩
    rw [drain] at hd ⊢
    by_cases ho : l.session.errorsOpen = true
    · have hopen : ¬ (!l.session.errorsOpen) = true := by simp [ho]
      rw [if_neg hopen] at hd ⊢
      rcases ha : h.readErrors Session.drainWait l.world with ⟨a, w⟩
      rw [ha] at hd
      cases a with
      | chunk stream bytes =>
        cases bytes with
        | nil => exact hd
        | cons b rest => exact ih (by omega) hd
      | nothing => exact hd
      | fault e => exact hd
    · have hclosed : (!l.session.errorsOpen) = true := by simp [ho]
      rw [if_pos hclosed] at hd ⊢
      exact hd

theorem drain_sound (hd : drain h n l = some l') :
    ∃ chunks errorsEnded, Drains h l chunks errorsEnded l' := by
  induction n generalizing l with
  | zero => cases hd
  | succ n ih =>
    rw [drain] at hd
    by_cases ho : l.session.errorsOpen = true
    · rw [if_neg (by simp [ho])] at hd
      rcases ha : h.readErrors Session.drainWait l.world with ⟨a, w⟩
      rw [ha] at hd
      cases a with
      | chunk stream bytes =>
        cases bytes with
        | nil =>
          cases hd
          exact ⟨[], true, .ended ho ha⟩
        | cons b rest =>
          obtain ⟨chunks, errorsEnded, hrest⟩ := ih hd
          exact ⟨_, errorsEnded, .chunk ho ha hrest⟩
      | nothing =>
        cases hd
        exact ⟨[], false, .silent ho ha⟩
      | fault e =>
        cases hd
        exact ⟨[], true, .fault ho ha⟩
    · rw [if_pos (by simp [ho])] at hd
      cases hd
      exact ⟨[], false, .closed (by simpa using ho)⟩

theorem Drains.complete {chunks : List (List UInt8)} {errorsEnded : Bool}
    (hd : Drains h l chunks errorsEnded l') : ∃ n, drain h n l = some l' := by
  induction hd with
  | closed hc => exact ⟨1, by simp [drain, hc]⟩
  | silent ho ha => exact ⟨1, by simp [drain, ho, ha]⟩
  | ended ho ha => exact ⟨1, by simp [drain, ho, ha]⟩
  | fault ho ha => exact ⟨1, by simp [drain, ho, ha]⟩
  | chunk ho ha _ ih =>
    obtain ⟨n, hn⟩ := ih
    exact ⟨n + 1, by simp [drain, ho, ha, hn]⟩

/-- What `Live.read` answers to an outcome. -/
def answer : Reading → Except Failure Unit
  | .fault e => .error (.systemDuring "reading from process" e)
  | _ => .ok ()

theorem read_mono {r : Except Failure Unit × Live ω} (hle : n ≤ m)
    (hr : read h n allowed l = some r) : read h m allowed l = some r := by
  unfold read at hr ⊢
  by_cases ho : l.session.outputOpen = true
  · have hopen : ¬ (!l.session.outputOpen) = true := by simp [ho]
    rw [if_neg hopen] at hr ⊢
    rcases ha : h.read l.session.errorsOpen allowed l.world with ⟨a, w⟩
    rw [ha] at hr
    cases a with
    | chunk stream bytes =>
      cases bytes with
      | cons b rest => cases stream <;> exact hr
      | nil =>
        cases stream with
        | errors => exact hr
        | output =>
          -- only behind the end of the output does a wait take steps of its own
          obtain ⟨l', hd, rfl⟩ := Option.map_eq_some_iff.1 hr
          exact Option.map_eq_some_iff.2 ⟨l', drain_mono hle hd, rfl⟩
    | nothing => exact hr
    | fault e => exact hr
  · have hclosed : (!l.session.outputOpen) = true := by simp [ho]
    rw [if_pos hclosed] at hr ⊢
    exact hr

/-- A wait of `Live.read` on a session whose output is open is a wait on the host. -/
theorem read_sound (ho : l.session.outputOpen = true) {r : Except Failure Unit}
    (hr : read h n allowed l = some (r, l')) :
    ∃ reading, Reads h allowed l reading l' ∧ r = answer reading := by
  rw [read, if_neg (by simp [ho])] at hr
  rcases ha : h.read l.session.errorsOpen allowed l.world with ⟨a, w⟩
  rw [ha] at hr
  cases a with
  | chunk stream bytes =>
    cases bytes with
    | cons b rest =>
      cases stream <;> cases hr <;> exact ⟨_, .chunk ha, rfl⟩
    | nil =>
      cases stream with
      | output =>
        obtain ⟨l'', hd, hl⟩ := Option.map_eq_some_iff.1 hr
        cases hl
        obtain ⟨drained, errorsEnded, hdrains⟩ := drain_sound hd
        exact ⟨_, .outputEnded ha hdrains, rfl⟩
      | errors =>
        cases hr
        exact ⟨_, .errorsEnded ha, rfl⟩
  | nothing =>
    cases hr
    exact ⟨_, .nothing ha, rfl⟩
  | fault e =>
    cases hr
    exact ⟨_, .fault ha, rfl⟩

theorem Reads.complete {reading : Reading} (ho : l.session.outputOpen = true)
    (hr : Reads h allowed l reading l') :
    ∃ n, read h n allowed l = some (answer reading, l') := by
  cases hr with
  | nothing ha => exact ⟨0, by simp [read, ho, ha, answer]⟩
  | chunk ha => exact ⟨0, by simp [read, ho, ha, answer]⟩
  | errorsEnded ha => exact ⟨0, by simp [read, ho, ha, answer]⟩
  | outputEnded ha hd =>
    obtain ⟨n, hn⟩ := hd.complete
    exact ⟨n, by simp [read, ho, ha, hn, answer]⟩
  | fault ha => exact ⟨0, by simp [read, ho, ha, answer]⟩

end Live
end Parley

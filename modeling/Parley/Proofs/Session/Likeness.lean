import Parley.Proofs.Session.Moves

/-!
# Parley.Proofs.Session.Likeness

Hosts that a session cannot tell apart. The states of one may hold more than those of the other, as
where a host notes what is asked of it; `f` takes the rest away.

* `Host.Resembles`: two hosts do the same, force apart; `Host.Mirrors`: force as well.
* `send_map`, `expect_map`, `signal_map`, `close_map`: then a session does the same on both.
* `Performs.resembling`, `Runs.mirrored`: what is done on one of them is done on the other.
-/

namespace Parley

variable {ω ω' : Type} {f : ω' → ω} {h' : Host ω'} {h : Host ω}

namespace Host

/-- Two hosts do the same once the program runs, as long as no force is used. -/
structure Resembles (f : ω' → ω) (h' : Host ω') (h : Host ω) : Prop where
  now (w : ω') : h.now (f w) = h'.now w
  write (bytes : List UInt8) (w : ω') : h.write bytes (f w) = Prod.map id f (h'.write bytes w)
  read (both : Bool) (allowed : Duration) (w : ω') :
    h.read both allowed (f w) = Prod.map id f (h'.read both allowed w)
  readErrors (allowed : Duration) (w : ω') :
    h.readErrors allowed (f w) = Prod.map id f (h'.readErrors allowed w)
  closeInput (w : ω') : h.closeInput (f w) = f (h'.closeInput w)
  closeOutput (w : ω') : h.closeOutput (f w) = f (h'.closeOutput w)
  closeErrors (w : ω') : h.closeErrors (f w) = f (h'.closeErrors w)
  await (allowed : Duration) (w : ω') :
    h.await allowed (f w) = Prod.map id f (h'.await allowed w)
  signal (s : Signal) (w : ω') : h.signal s (f w) = Prod.map id f (h'.signal s w)
  display (bytes : List UInt8) (w : ω') : h.display bytes (f w) = f (h'.display bytes w)

/-- Two hosts do the same once the program runs. -/
structure Mirrors (f : ω' → ω) (h' : Host ω') (h : Host ω) : Prop extends Resembles f h' h where
  kill (w : ω') : h.kill (f w) = Prod.map id f (h'.kill w)
  reap (w : ω') : h.reap (f w) = Prod.map id f (h'.reap w)

end Host

namespace Live

open Host

/-- A session on a host, as one on a host whose states hold less. -/
def map (f : ω' → ω) (l : Live ω') : Live ω := { session := l.session, world := f l.world }

@[simp] theorem map_id (l : Live ω) : l.map id = l := rfl

variable {l : Live ω'} {m : Live ω} {op : Operation} {a : Answer}
  {past : List (Operation × Answer)}

/-- What comes of an operation on one host comes of it on the other. -/
theorem exists_of_map {α : Type} {done : α × Live ω'} {r : α}
    (hd : Prod.map id (map f) done = (r, m)) : ∃ l', done = (r, l') ∧ l'.map f = m := by
  obtain ⟨r', l'⟩ := done
  cases hd
  exact ⟨l', rfl, rfl⟩

section

variable (hr : Resembles f h' h)

include hr

theorem takeIn_map (bytes : List UInt8) :
    takeIn h bytes (l.map f) = (takeIn h' bytes l).map f := by
  cases hecho : l.session.echo <;> simp [takeIn, map, hecho, hr.display]

theorem collect_map (allowed : Duration) :
    collect h allowed (l.map f) = Prod.map id (map f) (collect h' allowed l) := by
  unfold collect
  cases hs : l.session.status with
  | some status => simp only [map, hs]; rfl
  | none =>
    rcases ha : h'.await allowed l.world with ⟨ending, w⟩
    have ha' := hr.await allowed l.world
    rw [ha] at ha'
    cases ending <;> simp only [map, hs, ha'] <;> rfl

/-! ## Sending -/

theorem send_map (bytes : List UInt8) :
    send h bytes (l.map f) = Prod.map id (map f) (send h' bytes l) := by
  unfold send
  cases ho : l.session.inputOpen with
  | false => simp only [map, ho]; rfl
  | true =>
    rcases hw : h'.write bytes l.world with ⟨written, w⟩
    have hw' := hr.write bytes l.world
    rw [hw] at hw'
    cases written with
    | ok _ => simp only [map, ho, hw']; rfl
    | error error =>
      have hc := collect_map hr (l := { l with world := w }) Session.reapWait
      by_cases hpipe : error.kind = .brokenPipe
      · simp only [map] at hc
        simp only [map, ho, hw', hpipe, Prod.map, id, hc]
        rfl
      · simp only [map, ho, hw', hpipe, Prod.map, id]
        rfl

/-! ## Expecting -/

theorem drain_map (n : Nat) : drain h n (l.map f) = (drain h' n l).map (map f) := by
  induction n generalizing l with
  | zero => rfl
  | succ n ih =>
    rw [drain, drain]
    cases ho : l.session.errorsOpen with
    | false => simp only [map, ho]; rfl
    | true =>
      rcases ha : h'.readErrors Session.drainWait l.world with ⟨arrival, w⟩
      have ha' := hr.readErrors Session.drainWait l.world
      rw [ha] at ha'
      rcases arrival with ⟨stream, _ | ⟨b, rest⟩⟩ | _ | error
      · simp only [map, ho, ha', Prod.map, id, hr.closeErrors]; rfl
      · have htake := takeIn_map hr (l := { l with world := w }) (b :: rest)
        simp only [map] at htake
        simp only [map, ho, ha', Prod.map, id, htake]
        exact ih
      · simp only [map, ho, ha', Prod.map, id]; rfl
      · simp only [map, ho, ha', Prod.map, id, hr.closeErrors]; rfl

theorem read_map (n : Nat) (allowed : Duration) :
    read h n allowed (l.map f) = (read h' n allowed l).map (Prod.map id (map f)) := by
  unfold read
  cases ho : l.session.outputOpen with
  | false => simp only [map, ho]; rfl
  | true =>
    rcases ha : h'.read l.session.errorsOpen allowed l.world with ⟨arrival, w⟩
    have ha' := hr.read l.session.errorsOpen allowed l.world
    rw [ha] at ha'
    rcases arrival with ⟨_ | _, _ | ⟨b, rest⟩⟩ | _ | error
    · have hdrain := drain_map hr n (l :=
        { session := { l.session with outputOpen := false }, world := h'.closeOutput w })
      simp only [map] at hdrain
      simp only [map, ho, ha', Prod.map, id, hr.closeOutput, hdrain, Bool.not_true,
        Bool.false_eq_true, if_false, Option.map_map]
      rfl
    · have htake := takeIn_map hr (l := { l with world := w }) (b :: rest)
      simp only [map] at htake
      simp only [map, ho, ha', Prod.map, id, htake]
      rfl
    · simp only [map, ho, ha', Prod.map, id, hr.closeErrors]; rfl
    · have htake := takeIn_map hr (l := { l with world := w }) (b :: rest)
      simp only [map] at htake
      simp only [map, ho, ha', Prod.map, id, htake]
      rfl
    · simp only [map, ho, ha', Prod.map, id]; rfl
    · simp only [map, ho, ha', Prod.map, id]; rfl

theorem await_map (e : Expectation) (n : Nat) :
    await h e n (l.map f) = (await h' e n l).map (Prod.map id (map f)) := by
  induction n generalizing l with
  | zero => rfl
  | succ n ih =>
    rw [await, await]
    cases hfind : l.session.window.find? e.pattern with
    | some o => simp only [map, hfind]; rfl
    | none =>
      cases ho : l.session.outputOpen with
      | false =>
        have hc := collect_map hr (l := l) Session.reapWait
        rcases hcollect : collect h' Session.reapWait l with ⟨status, lc⟩
        rw [hcollect] at hc
        simp only [map] at hc
        simp only [map, hfind, ho, hc, Bool.not_false, if_true]
        cases e.pattern.isEnd <;> rfl
      | true =>
        have hnow := hr.now l.world
        cases hlate : e.isOverdue (h'.now l.world) with
        | true => simp only [map, hfind, ho, hnow, hlate]; rfl
        | false =>
          have hread := read_map hr n (l := l) (e.remaining (h'.now l.world))
          simp only [map] at hread
          simp only [map, hfind, ho, hnow, hlate, hread]
          rcases read h' n (e.remaining (h'.now l.world)) l with _ | ⟨_ | _, lr⟩
          · rfl
          · rfl
          · exact ih

theorem expect_map (n : Nat) (p : Pattern) (allowed : Duration) :
    expect h n p allowed (l.map f) = (expect h' n p allowed l).map (Prod.map id (map f)) := by
  by_cases hc : l.session.phase = .closed
  · rw [expect_of_closed hc, expect_of_closed (l := l.map f) hc]
    rfl
  · rw [expect_of_not_closed hc, expect_of_not_closed (l := l.map f) hc]
    have hnow := hr.now l.world
    simp only [map, hnow]
    exact await_map hr _ n

/-! ## Ending -/

theorem signal_map (s : Signal) :
    signal h s (l.map f) = Prod.map id (map f) (signal h' s l) := by
  rcases hs : h'.signal s l.world with ⟨sent, w⟩
  have hs' := hr.signal s l.world
  rw [hs] at hs'
  unfold signal
  cases hpid : l.session.pid with
  | none => simp only [map, hpid]; rfl
  | some pid =>
    cases hstatus : l.session.status with
    | some known => simp only [map, hpid, hstatus]; rfl
    | none =>
      by_cases hlast : Session.lastPid < pid
      · simp only [map, hpid, hstatus, hlast]; rfl
      · cases sent <;> simp only [map, hpid, hstatus, hlast, hs', hs] <;> rfl

theorem staged_map : staged h (l.map f) = (staged h' l).map f := by
  have hclose : closeInput h (l.map f) = (closeInput h' l).map f := by
    simp only [closeInput, map, hr.closeInput]
  have hgrace (l : Live ω') : waitGracefully h (l.map f) = (waitGracefully h' l).map f := by
    unfold waitGracefully
    rw [collect_map hr]
    exact (apply_ite (map f) _ _ _).symm
  have hrequest (l : Live ω') : waitTerminated h (l.map f) = (waitTerminated h' l).map f := by
    unfold waitTerminated
    rw [signal_map hr]
    simp only [Prod.map]
    rw [collect_map hr]
    exact (apply_ite (map f) _ _ _).symm
  rw [staged, hclose, hgrace, hrequest, staged]

/-! ## Operations -/

/-- What is done on one of two hosts that resemble each other is done on the other, unless it may
use force. -/
theorem Performs.resembling (hp : Performs h (l.map f) op a m) (hop : op ≠ .close) :
    ∃ l', Performs h' l op a l' ∧ l'.map f = m := by
  cases hp with
  | send hs =>
    rw [send_map hr] at hs
    obtain ⟨l', hs', hl'⟩ := exists_of_map hs
    exact ⟨l', .send hs', hl'⟩
  | sendLine hs =>
    rw [Live.sendLine, send_map hr] at hs
    obtain ⟨l', hs', hl'⟩ := exists_of_map hs
    exact ⟨l', .sendLine hs', hl'⟩
  | @expect steps p allowed r _ hx =>
    rw [expect_map hr] at hx
    obtain ⟨done, hx', hdone⟩ := Option.map_eq_some_iff.1 hx
    obtain ⟨l', rfl, hl'⟩ := exists_of_map hdone
    exact ⟨l', .expect hx', hl'⟩
  | signal hs =>
    rw [signal_map hr] at hs
    obtain ⟨l', hs', hl'⟩ := exists_of_map hs
    exact ⟨l', .signal hs', hl'⟩
  | close _ => exact absurd rfl hop

end

section

variable (hm : Mirrors f h' h)

include hm

theorem kill_map : kill h (l.map f) = Prod.map id (map f) (kill h' l) := by
  rcases hk : h'.kill l.world with ⟨killed, w⟩
  have hk' := hm.kill l.world
  rw [hk] at hk'
  cases killed with
  | error error => simp only [kill, map, hk, hk']; rfl
  | ok _ =>
    rcases hr : h'.reap w with ⟨reaped, w'⟩
    have hr' := hm.reap w
    rw [hr] at hr'
    cases reaped <;> simp only [kill, map, Prod.map, id, hk, hk', hr, hr']

theorem close_map : close h (l.map f) = Prod.map id (map f) (close h' l) := by
  by_cases hc : l.session.phase = .closed
  · rw [close_of_closed hc, close_of_closed (l := l.map f) hc]
    rfl
  · have hc' : (l.map f).session.phase ≠ .closed := hc
    have hfinish (status : ExitStatus) (l : Live ω') :
        finish h status (l.map f) = (finish h' status l).map f := by
      simp only [finish, map, hm.closeOutput, hm.closeErrors]
    have hstaged := staged_map hm.toResembles (l := l)
    cases hs : (staged h' l).session.status with
    | some status =>
      rw [close_of_known hc hs, close_of_known hc' (by rw [hstaged]; exact hs), hstaged, hfinish]
      rfl
    | none =>
      have hs' : (staged h (l.map f)).session.status = none := by rw [hstaged]; exact hs
      have hkill := kill_map hm (l := staged h' l)
      rw [← hstaged] at hkill
      rcases hk : kill h' (staged h' l) with ⟨killed, l'⟩
      rw [hk] at hkill
      cases killed with
      | ok status =>
        rw [close_of_forced hc hs hk, close_of_forced hc' hs' hkill, hfinish]
        rfl
      | error error => rw [close_of_refused hc hs hk, close_of_refused hc' hs' hkill]; rfl

theorem Performs.mirrored (hp : Performs h (l.map f) op a m) :
    ∃ l', Performs h' l op a l' ∧ l'.map f = m := by
  by_cases hop : op = .close
  · subst hop
    cases hp with
    | close hl =>
      rw [close_map hm] at hl
      obtain ⟨l', hl', rfl⟩ := exists_of_map hl
      exact ⟨l', .close hl', rfl⟩
  · exact hp.resembling hm.toResembles hop

/-- What is done on one of two hosts that do the same is done on the other. -/
theorem Runs.mirrored (hr : Runs h (l.map f) past m) :
    ∃ l', Runs h' l past l' ∧ l'.map f = m := by
  generalize hl : l.map f = start at hr
  induction hr generalizing l with
  | refl => exact ⟨l, .refl, hl⟩
  | cons hp _ ih =>
    subst hl
    obtain ⟨l₁, hp', hl₁⟩ := hp.mirrored hm
    obtain ⟨l', hr', hl'⟩ := ih hl₁
    exact ⟨l', .cons hp' hr', hl'⟩

end

end Live
end Parley

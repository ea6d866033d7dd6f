import Mathlib.Logic.Function.Iterate
import Mathlib.Tactic.ByContra
import Mathlib.Tactic.Choose
import Parley.Proofs.Session.Outcome

/-!
# Parley.Proofs.Session.Endless

Whether an expectation ends at all. On a host whose clock goes on for ever its deadline passes, so
that waiting for output cannot go on for ever; but the second stream, once the output has ended, is
read without a look at the clock.

* `TimePasses`: a host on which endless waiting takes endless time.
* `Chatters`: a second stream that never falls silent for as long as it is read at the end of the
  output.
* `Swamped`: an expectation whose console ends its output in time and chatters from there on.
* `expect_ends_iff`: on such a host these are the expectations that do not end.
-/

namespace Parley

/-- A property that can be kept for one more step can be kept for ever. -/
theorem exists_run {α : Type} {P : α → Prop} {R : α → α → Prop}
    (next : ∀ a, P a → ∃ b, R a b ∧ P b) {a : α} (ha : P a) :
    ∃ run : Nat → α, run 0 = a ∧ ∀ i, P (run i) ∧ R (run i) (run (i + 1)) := by
  choose! step hstep using next
  have hP : ∀ i, P (step^[i] a) := by
    intro i
    induction i with
    | zero => exact ha
    | succ i ih =>
      rw [Function.iterate_succ_apply']
      exact (hstep _ ih).2
  refine ⟨fun i => step^[i] a, rfl, ?_⟩
  intro i
  refine ⟨hP i, ?_⟩
  simp only [Function.iterate_succ_apply']
  exact (hstep _ (hP i)).1

namespace Live

variable {ω : Type} {h : Host ω} {e : Expectation} {p : Pattern} {allowed : Duration}
  {l l' lk : Live ω} {readings : List Reading}

/-- Waits without an end, none of them for no time at all, get past every moment. -/
def TimePasses (h : Host ω) : Prop :=
  ∀ run : Nat → Live ω,
    (∀ i, ∃ allowed reading, .zero < allowed ∧ Reads h allowed (run i) reading (run (i + 1))) →
    ∀ moment : Duration, ∃ i, moment ≤ h.now (run i).world

/-! ## The second stream -/

/-- The second stream brings something before it has been silent for long enough. -/
def Chats (h : Host ω) (l l' : Live ω) : Prop :=
  l.session.errorsOpen = true ∧ ∃ stream b rest w,
    h.readErrors Session.drainWait l.world = (.chunk stream (b :: rest), w) ∧
      l' = takeIn h (b :: rest) { l with world := w }

/-- The second stream brings something again and again, without an end. -/
def Chatters (h : Host ω) (l : Live ω) : Prop :=
  ∃ run : Nat → Live ω, run 0 = l ∧ ∀ i, Chats h (run i) (run (i + 1))

theorem drain_of_chats {n : Nat} (hc : Chats h l l') : drain h (n + 1) l = drain h n l' := by
  obtain ⟨hopen, _, _, _, _, ha, rfl⟩ := hc
  simp [drain, hopen, ha]

theorem chats_of_drain (hd : drain h 1 l = none) : ∃ l', Chats h l l' := by
  rw [drain] at hd
  by_cases ho : l.session.errorsOpen = true
  · rw [if_neg (by simp [ho])] at hd
    rcases ha : h.readErrors Session.drainWait l.world with ⟨a, w⟩
    rw [ha] at hd
    cases a with
    | chunk stream bytes =>
      cases bytes with
      | nil => cases hd
      | cons b rest => exact ⟨_, ho, stream, b, rest, w, ha, rfl⟩
    | nothing => cases hd
    | fault error => cases hd
  · rw [if_pos (by simp [ho])] at hd
    cases hd

theorem chatters_iff : Chatters h l ↔ ∀ n, drain h n l = none := by
  constructor
  · rintro ⟨run, rfl, hrun⟩ n
    induction n generalizing run with
    | zero => rfl
    | succ n ih =>
      rw [drain_of_chats (hrun 0)]
      exact ih (fun i => run (i + 1)) (fun i => hrun (i + 1))
  · intro hd
    have next : ∀ l, (∀ n, drain h n l = none) → ∃ l', Chats h l l' ∧ ∀ n, drain h n l' = none := by
      intro l hd
      obtain ⟨l', hc⟩ := chats_of_drain (hd 1)
      exact ⟨l', hc, fun n => by rw [← drain_of_chats hc, hd]⟩
    obtain ⟨run, hzero, hrun⟩ := exists_run next hd
    exact ⟨run, hzero, fun i => (hrun i).2⟩

theorem drains_or_chatters (h : Host ω) (l : Live ω) :
    (∃ chunks errorsEnded l', Drains h l chunks errorsEnded l') ∨ Chatters h l := by
  by_cases hd : ∀ n, drain h n l = none
  · exact .inr (chatters_iff.2 hd)
  · obtain ⟨n, hn⟩ := not_forall.1 hd
    obtain ⟨l', hl'⟩ := Option.ne_none_iff_exists'.1 hn
    obtain ⟨chunks, errorsEnded, hdrains⟩ := drain_sound hl'
    exact .inl ⟨chunks, errorsEnded, l', hdrains⟩

/-! ## Expectations that do not end -/

/-- The console ends its output before the expectation is due, and its second stream never falls
silent. -/
def Swamped (h : Host ω) (e : Expectation) (l : Live ω) : Prop :=
  ∃ readings lk w, Heard h e l readings lk ∧ ¬ Due h e lk ∧
    h.read lk.session.errorsOpen (e.remaining (h.now lk.world)) lk.world =
      (.chunk .output [], w) ∧
    Chatters h { session := { lk.session with outputOpen := false }, world := h.closeOutput w }

/-- A wait comes to its end, or the console has ended its output and chatters. -/
theorem reads_or_swamped (hd : ¬ Due h e l) :
    (∃ reading l', Reads h (e.remaining (h.now l.world)) l reading l') ∨ Swamped h e l := by
  rcases ha : h.read l.session.errorsOpen (e.remaining (h.now l.world)) l.world with ⟨a, w⟩
  cases a with
  | chunk stream bytes =>
    cases bytes with
    | cons b rest => exact .inl ⟨_, _, .chunk ha⟩
    | nil =>
      cases stream with
      | errors => exact .inl ⟨_, _, .errorsEnded ha⟩
      | output =>
        rcases drains_or_chatters h
            { session := { l.session with outputOpen := false }, world := h.closeOutput w } with
          ⟨_, _, _, hdrains⟩ | hchatters
        · exact .inl ⟨_, _, .outputEnded ha hdrains⟩
        · exact .inr ⟨[], l, w, .refl, hd, ha, hchatters⟩
  | nothing => exact .inl ⟨_, _, .nothing ha⟩
  | fault error => exact .inl ⟨_, _, .fault ha⟩

theorem Heard.await_none_iff (hh : Heard h e l readings lk) :
    (∀ n, await h e n l = none) ↔ ∀ n, await h e n lk = none := by
  have hiff (l : Live ω) :
      (∀ n, await h e n l = none) ↔ ∀ r, ¬ ∃ n, await h e n l = some r := by
    simp only [Option.eq_none_iff_forall_not_mem, Option.mem_def, not_exists]
    exact forall_comm
  simp only [hiff, hh.await_iff]

theorem Swamped.await_none (hs : Swamped h e l) (n : Nat) : await h e n l = none := by
  obtain ⟨readings, lk, w, hh, hd, ha, hchatters⟩ := hs
  refine hh.await_none_iff.2 ?_ n
  rintro (_ | n)
  · rfl
  · have hread : read h n (e.remaining (h.now lk.world)) lk = none := by
      simp [read, (not_due_iff.1 hd).2.1, ha, chatters_iff.1 hchatters n]
    rw [await_of_not_due hd, hread]

theorem not_due_of_await_none (hnone : ∀ n, await h e n l = none) : ¬ Due h e l := by
  intro hd
  obtain ⟨r, l', -, hall⟩ := await_of_due hd
  have hsome := hall 0
  rw [hnone] at hsome
  cases hsome

/-- An expectation that comes to no end makes another wait, behind which it still comes to none. -/
theorem reads_of_await_none (hs : ¬ Swamped h e l) (hnone : ∀ n, await h e n l = none) :
    ∃ l', (∃ reading, Reads h (e.remaining (h.now l.world)) l reading l') ∧
      ¬ Swamped h e l' ∧ ∀ n, await h e n l' = none := by
  have hd := not_due_of_await_none hnone
  obtain ⟨reading, l', hr⟩ := (reads_or_swamped hd).resolve_right hs
  have hans : ∀ error, reading ≠ .fault error := by
    rintro error rfl
    obtain ⟨n, hn⟩ := (Verdict.fault hd hr).complete
    rw [hnone] at hn
    cases hn
  refine ⟨l', ⟨reading, hr⟩, ?_, ?_⟩
  · rintro ⟨readings, lk, w, hh, hrest⟩
    exact hs ⟨_, lk, w, .cons hd hr hans hh, hrest⟩
  · have hh : Heard h e l [reading] l' := .cons hd hr hans .refl
    exact hh.await_none_iff.1 hnone

/-- On a host on which time passes an expectation ends, whatever its console does on either stream
and in whatever order, unless the console ends its output in time and its second stream never
falls silent from there on; and then it does not end, however long past its deadline. -/
theorem expect_ends_iff (ht : TimePasses h) (p : Pattern) (allowed : Duration) (l : Live ω) :
    (∃ steps r, expect h steps p allowed l = some r) ↔
      l.session.phase = .closed ∨ ¬ Swamped h ⟨p, h.now l.world, allowed⟩ l := by
  by_cases hc : l.session.phase = .closed
  · exact iff_of_true ⟨0, _, expect_of_closed hc⟩ (.inl hc)
  · simp only [expect_of_not_closed hc, hc, false_or]
    constructor
    · rintro ⟨steps, r, hr⟩ hs
      rw [hs.await_none] at hr
      cases hr
    · intro hs
      by_contra hnever
      have hnone : ∀ n, await h ⟨p, h.now l.world, allowed⟩ n l = none := by
        intro n
        by_contra hsome
        obtain ⟨r, hr⟩ := Option.ne_none_iff_exists'.1 hsome
        exact hnever ⟨n, r, hr⟩
      -- waiting goes on for ever, so that it gets past the deadline
      obtain ⟨run, -, hrun⟩ := exists_run
        (fun l (hl : ¬ Swamped h _ l ∧ _) => reads_of_await_none hl.1 hl.2) ⟨hs, hnone⟩
      have hd : ∀ i, ¬ Due h _ (run i) := fun i => not_due_of_await_none (hrun i).1.2
      have hwaits : ∀ i, ∃ allowed reading, .zero < allowed ∧
          Reads h allowed (run i) reading (run (i + 1)) := by
        intro i
        obtain ⟨reading, hr⟩ := (hrun i).2
        exact ⟨_, reading, Expectation.remaining_pos (not_due_iff.1 (hd i)).2.2, hr⟩
      obtain ⟨i, hi⟩ := ht run hwaits (h.now l.world + allowed)
      refine hd i (.inr (.inr ?_))
      have hle : (h.now l.world).nanos + allowed.nanos ≤ (h.now (run i).world).nanos := hi
      exact Nat.le_sub_of_add_le' hle

/-- A host on which each wait takes a millisecond and brings what is listed for it. -/
def babbling (arrivals : Nat → Arrival) : Host Nat where
  launch _ i := (.ok none, i)
  now i := .ofMillis i
  write _ i := (.ok (), i)
  read _ _ i := (arrivals i, i + 1)
  readErrors _ i := (arrivals i, i + 1)
  closeInput i := i
  closeOutput i := i
  closeErrors i := i
  await _ i := (.running, i)
  signal _ i := (.ok (), i)
  kill i := (.ok (), i)
  reap i := (.ok (.exited 1), i)
  display _ i := i

theorem drains_babbling {arrivals : Nat → Arrival} {l l' : Live Nat} {chunks : List (List UInt8)}
    {errorsEnded : Bool} (hd : Drains (babbling arrivals) l chunks errorsEnded l') :
    l.world ≤ l'.world := by
  induction hd with
  | closed _ => exact Nat.le_refl _
  | silent _ ha | ended _ ha | fault _ ha =>
    obtain ⟨-, rfl⟩ := Prod.mk.inj ha
    exact Nat.le_succ _
  | chunk _ ha _ ih =>
    obtain ⟨-, rfl⟩ := Prod.mk.inj ha
    exact Nat.le_trans (Nat.le_succ _) (by simpa [takeIn, babbling] using ih)

theorem reads_babbling {arrivals : Nat → Arrival} {l l' : Live Nat} {reading : Reading}
    (hr : Reads (babbling arrivals) allowed l reading l') : l.world < l'.world := by
  cases hr with
  | nothing ha | errorsEnded ha | fault ha =>
    obtain ⟨-, rfl⟩ := Prod.mk.inj ha
    exact Nat.lt_succ_self _
  | chunk ha =>
    obtain ⟨-, rfl⟩ := Prod.mk.inj ha
    simp [takeIn, babbling]
  | outputEnded ha hd =>
    obtain ⟨-, rfl⟩ := Prod.mk.inj ha
    exact drains_babbling hd

theorem timePasses_babbling (arrivals : Nat → Arrival) : TimePasses (babbling arrivals) := by
  intro run hrun moment
  have hworld : ∀ i, i ≤ (run i).world := by
    intro i
    induction i with
    | zero => exact Nat.zero_le _
    | succ i ih =>
      obtain ⟨_, _, -, hr⟩ := hrun i
      exact Nat.lt_of_le_of_lt ih (reads_babbling hr)
  refine ⟨moment.nanos, ?_⟩
  have hle : moment.nanos ≤ (run moment.nanos).world * 1000000 :=
    Nat.le_trans (hworld _) (Nat.le_mul_of_pos_right _ (by decide))
  exact hle

/-- A console that nothing was heard of yet. -/
def unheard : Live Nat := ⟨Session.fresh {} "" none, 0⟩

/-- The output ends, and the second stream still says something and falls silent. -/
def parting : Nat → Arrival
  | 0 => .chunk .output []
  | 1 => .chunk .errors [0x6F, 0x68]
  | _ => .nothing

/-- The second stream falls silent, and the expectation ends. -/
theorem expect_ends_iff_parting :
    TimePasses (babbling parting) ∧
      (∃ steps r, expect (babbling parting) steps (.literal "ok") (.ofSecs 1) unheard = some r) ∧
      ¬ Swamped (babbling parting) ⟨.literal "ok", .zero, .ofSecs 1⟩ unheard := by
  have hends : ∃ steps r,
      expect (babbling parting) steps (.literal "ok") (.ofSecs 1) unheard = some r :=
    ⟨4, _, rfl⟩
  have hnot := ((expect_ends_iff (timePasses_babbling parting) (.literal "ok") (.ofSecs 1)
    unheard).1 hends).resolve_left (by decide)
  exact ⟨timePasses_babbling parting, hends, hnot⟩

/-- The output ends, and the second stream goes on for ever. -/
def ceaseless : Nat → Arrival
  | 0 => .chunk .output []
  | _ => .chunk .errors [0x78]

/-- A second of time is allowed, it passes, and the expectation does not end. -/
theorem expect_ceaseless :
    TimePasses (babbling ceaseless) ∧ unheard.session.phase ≠ .closed ∧
      ∀ steps,
        expect (babbling ceaseless) steps (.literal "ok") (.ofSecs 1) unheard = none := by
  have hphase : unheard.session.phase ≠ .closed := by decide
  have hchats : ∀ l : Live Nat, l.session.errorsOpen = true ∧ 0 < l.world →
      ∃ l', Chats (babbling ceaseless) l l' ∧ l'.session.errorsOpen = true ∧ 0 < l'.world := by
    rintro ⟨s, i⟩ ⟨hopen, hi⟩
    obtain ⟨i, rfl⟩ : ∃ k, i = k + 1 := ⟨i - 1, by simp at hi; omega⟩
    exact ⟨_, ⟨hopen, .errors, 0x78, [], i + 2, rfl, rfl⟩, hopen, by simp [takeIn, babbling]⟩
  obtain ⟨run, hzero, hrun⟩ := exists_run hchats
    (a := ⟨{ unheard.session with outputOpen := false }, 1⟩) ⟨rfl, Nat.one_pos⟩
  have hswamped : Swamped (babbling ceaseless) ⟨.literal "ok", .zero, .ofSecs 1⟩ unheard :=
    ⟨[], unheard, 1, .refl, not_due_iff.2 ⟨rfl, rfl, rfl⟩, rfl, run, hzero, fun i => (hrun i).2⟩
  refine ⟨timePasses_babbling ceaseless, hphase, ?_⟩
  intro steps
  rw [expect_of_not_closed hphase]
  exact hswamped.await_none steps

end Live
end Parley

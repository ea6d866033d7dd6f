import Parley.Proofs.Session.Reading

/-!
# Parley.Proofs.Session.Outcome

How an expectation comes out, over every host and so over every order of what a console does.

* `Due`: whether an expectation stops where it is, without another wait.
* `Heard`: waits that went well, none of them made once the expectation was due.
* `Collects`: how the console ended, as far as that is found out.
* `Verdict`: what an expectation comes to behind the waits, and the session that it leaves.
* `expect_outcome`: an expectation comes to the verdict behind the first waits after which it is
  due, and to no other.
-/

namespace Parley
namespace Expectation

variable {e : Expectation} {now : Duration}

theorem isOverdue_iff :
    e.isOverdue now = true ↔ e.allowed.nanos ≤ now.nanos - e.start.nanos := by
  rw [isOverdue, decide_eq_true_iff]
  rfl

/-- An expectation that is not overdue has some time left. -/
theorem remaining_pos (hlate : e.isOverdue now = false) : .zero < e.remaining now := by
  have hnot : ¬ e.allowed.nanos ≤ now.nanos - e.start.nanos := by
    rw [← isOverdue_iff, hlate]
    simp
  have hpos : 0 < e.allowed.nanos - (now.nanos - e.start.nanos) := by omega
  exact hpos

end Expectation

namespace Live

variable {ω : Type} {h : Host ω} {e : Expectation} {p : Pattern} {allowed : Duration}
  {l l' lk : Live ω} {r : Except Failure Excerpt} {readings : List Reading} {n m : Nat}

/-- Whether an expectation stops without another wait: its pattern is in the text, the output is at
its end, or as much time has passed as is allowed. -/
def Due (h : Host ω) (e : Expectation) (l : Live ω) : Prop :=
  e.pattern.find? (Utf8.text l.session.window.bytes) ≠ none ∨ l.session.outputOpen = false ∨
    e.allowed.nanos ≤ (h.now l.world).nanos - e.start.nanos

/-- Waits for output, each for the time that was left. All of them went well, and the expectation
was due before none of them. -/
inductive Heard (h : Host ω) (e : Expectation) : Live ω → List Reading → Live ω → Prop
  | refl {l : Live ω} : Heard h e l [] l
  | cons {l l' lk : Live ω} {reading : Reading} {readings : List Reading} :
      ¬ Due h e l →
      Reads h ⟨e.allowed.nanos - ((h.now l.world).nanos - e.start.nanos)⟩ l reading l' →
      (∀ error, reading ≠ .fault error) → Heard h e l' readings lk →
      Heard h e l (reading :: readings) lk

/-- How the console ended, if that is known or is found out in a short while. -/
inductive Collects (h : Host ω) (l : Live ω) : Option ExitStatus → Live ω → Prop
  | known {status : ExitStatus} :
      l.session.status = some status → Collects h l (some status) l
  | ended {status : ExitStatus} {w : ω} :
      l.session.status = none → h.await (.ofMillis 200) l.world = (.ended status, w) →
      Collects h l (some status)
        { session :=
            { l.session with
              status := some status
              phase := if l.session.phase = .closing then .closing else .exited status }
          world := w }
  | unknown {ending : Ending} {w : ω} :
      l.session.status = none → h.await (.ofMillis 200) l.world = (ending, w) →
      (∀ status, ending ≠ .ended status) → Collects h l none { l with world := w }

/-- What an expectation comes to where it stops, and what it leaves. A match comes before the end
of the output, and the end of the output before the end of the time. A match takes its bytes from
the window and those in front of them, and the end of the output takes all, if it is what was waited
for. A failure tells all that is in the window. -/
inductive Verdict (h : Host ω) (e : Expectation) (l : Live ω) :
    Except Failure Excerpt → Live ω → Prop
  | found {o : Occurrence} {before matched rest : List UInt8} :
      e.pattern.find? (Utf8.text l.session.window.bytes) = some o →
      before = l.session.window.bytes.take o.start →
      matched = (l.session.window.bytes.drop o.start).take (o.stop - o.start) →
      rest = (l.session.window.bytes.drop o.start).drop (o.stop - o.start) →
      Verdict h e l
        (.ok
          { matched := String.ofList (Utf8.lossy matched)
            captures := o.captures
            before := String.ofList (Utf8.lossy before)
            rest := String.ofList (Utf8.lossy rest) })
        { l with session := { l.session with window := { l.session.window with bytes := rest } } }
  | wholeOutput {status : Option ExitStatus} {l' : Live ω} :
      e.pattern.find? (Utf8.text l.session.window.bytes) = none → l.session.outputOpen = false →
      e.pattern = .endOfOutput → Collects h l status l' →
      Verdict h e l
        (.ok
          { matched := ""
            captures := []
            before := String.ofList (Utf8.lossy l.session.window.bytes)
            rest := "" })
        { l' with session := { l'.session with window := { l.session.window with bytes := [] } } }
  | ended {status : Option ExitStatus} {l' : Live ω} :
      e.pattern.find? (Utf8.text l.session.window.bytes) = none → l.session.outputOpen = false →
      e.pattern ≠ .endOfOutput → Collects h l status l' →
      Verdict h e l
        (.error (.ended e.pattern.name status
          (String.ofList (Utf8.lossy l.session.window.bytes)))) l'
  | timedOut :
      e.pattern.find? (Utf8.text l.session.window.bytes) = none → l.session.outputOpen = true →
      e.allowed.nanos ≤ (h.now l.world).nanos - e.start.nanos →
      Verdict h e l
        (.error (.timedOut e.allowed e.pattern.name
          (String.ofList (Utf8.lossy l.session.window.bytes)))) l
  | fault {error : SystemError} {l' : Live ω} :
      ¬ Due h e l →
      Reads h ⟨e.allowed.nanos - ((h.now l.world).nanos - e.start.nanos)⟩ l (.fault error) l' →
      Verdict h e l (.error (.systemDuring "reading from process" error)) l'

/-! ## The parts of a step -/

theorem due_iff : Due h e l ↔ l.session.window.find? e.pattern ≠ none ∨
    l.session.outputOpen = false ∨ e.isOverdue (h.now l.world) = true := by
  rw [Due, Expectation.isOverdue_iff]
  rfl

theorem not_due_iff : ¬ Due h e l ↔ l.session.window.find? e.pattern = none ∧
    l.session.outputOpen = true ∧ e.isOverdue (h.now l.world) = false := by
  simp [due_iff]

theorem collects_iff {status : Option ExitStatus} :
    Collects h l status l' ↔ collect h Session.reapWait l = (status, l') := by
  constructor
  · intro hc
    cases hc with
    | known hs => rw [collect, hs]
    | ended hs ha => rw [collect, hs, Session.reapWait, ha]
    | @unknown ending w hs ha hnot =>
      rw [collect, hs, Session.reapWait, ha]
      cases ending with
      | ended status => exact absurd rfl (hnot status)
      | running => rfl
      | fault _ => rfl
  · intro hc
    rw [collect, Session.reapWait] at hc
    cases hs : l.session.status with
    | some known =>
      rw [hs] at hc
      cases hc
      exact .known hs
    | none =>
      rcases ha : h.await (.ofMillis 200) l.world with ⟨ending, w⟩
      rw [hs, ha] at hc
      cases ending with
      | ended status =>
        cases hc
        exact .ended hs ha
      | running =>
        cases hc
        exact .unknown hs ha nofun
      | fault _ =>
        cases hc
        exact .unknown hs ha nofun

/-- What is read goes on with the expectation, unless it is a fault. -/
theorem answer_eq_ok_iff {reading : Reading} :
    answer reading = .ok () ↔ ∀ error, reading ≠ .fault error := by
  cases reading <;> simp [answer]

/-! ## What the waits and the verdict make of the session -/

/-- A match that is taken out of the window is what was found. -/
theorem Verdict.of_find? {o : Occurrence} (hfind : l.session.window.find? e.pattern = some o) :
    Verdict h e l (.ok (l.session.window.take o).1)
      (l.update fun s => { s with window := (l.session.window.take o).2 }) :=
  .found hfind rfl rfl rfl

theorem Collects.window {status : Option ExitStatus} (hc : Collects h l status l') :
    l'.session.window = l.session.window := by
  cases hc <;> rfl

theorem Heard.session (hh : Heard h e l readings lk) :
    lk.session = readings.foldl Session.hear l.session := by
  induction hh with
  | refl => rfl
  | cons _ hr _ _ ih => rw [ih, hr.session, List.foldl_cons]

/-- A failure leaves the window as it was. -/
theorem Verdict.window_of_error {f : Failure} (hv : Verdict h e l (.error f) l') :
    l'.session.window = l.session.window := by
  cases hv with
  | ended _ _ _ hc => exact hc.window
  | timedOut _ _ _ => rfl
  | fault _ hr => rw [hr.session]; rfl

/-! ## Waiting is hearing -/

theorem await_of_not_due (hd : ¬ Due h e l) :
    await h e (n + 1) l =
      match read h n (e.remaining (h.now l.world)) l with
      | none => none
      | some (.ok (), l) => await h e n l
      | some (.error f, l) => some (.error f, l) := by
  obtain ⟨hfind, hopen, hlate⟩ := not_due_iff.1 hd
  cases hr : read h n (e.remaining (h.now l.world)) l with
  | none => simp [await, hfind, hopen, hlate, hr]
  | some answered =>
    obtain ⟨a, l'⟩ := answered
    cases a with
    | ok _ => simp [await, hfind, hopen, hlate, hr]
    | error f => simp [await, hfind, hopen, hlate, hr]

/-- Where an expectation is due it needs one step, and comes to its verdict. -/
theorem await_of_due (hd : Due h e l) :
    ∃ r l', Verdict h e l r l' ∧ ∀ n, await h e (n + 1) l = some (r, l') := by
  cases hfind : l.session.window.find? e.pattern with
  | some o =>
    refine ⟨_, _, .of_find? hfind, ?_⟩
    intro n
    rw [await, hfind]
    rfl
  | none =>
    cases hopen : l.session.outputOpen with
    | false =>
      rcases hc : collect h Session.reapWait l with ⟨status, l'⟩
      have hcollects := collects_iff.2 hc
      have hw := hcollects.window
      by_cases hend : e.pattern = .endOfOutput
      · refine ⟨_, _, .wholeOutput hfind hopen hend hcollects, ?_⟩
        intro n
        have hisEnd : e.pattern.isEnd = true := by rw [hend]; rfl
        rw [await, hfind]
        simp [hopen, hisEnd, hc, takeOut, hw, Window.takeAll, Window.clear, Window.shown]
      · refine ⟨_, _, .ended hfind hopen hend hcollects, ?_⟩
        intro n
        have hisEnd : e.pattern.isEnd = false := by
          cases hp : e.pattern with
          | endOfOutput => exact absurd hp hend
          | literal _ => rfl
          | regex _ => rfl
        rw [await, hfind]
        simp [hopen, hisEnd, hc, Session.unread, hw, Window.shown]
    | true =>
      have hover : e.isOverdue (h.now l.world) = true := by
        simpa [due_iff, hfind, hopen] using hd
      refine ⟨_, _, .timedOut hfind hopen (Expectation.isOverdue_iff.1 hover), ?_⟩
      intro n
      rw [await, hfind]
      simp [hopen, hover, Session.unread, Window.shown]

theorem Collects.unique {status status' : Option ExitStatus} {l'' : Live ω}
    (hc : Collects h l status l') (hc' : Collects h l status' l'') : status' = status ∧ l'' = l' :=
  Prod.mk.inj ((collects_iff.1 hc').symm.trans (collects_iff.1 hc))

theorem Verdict.unique {r' : Except Failure Excerpt} {l'' : Live ω} (hd : Due h e l)
    (hv : Verdict h e l r l') (hv' : Verdict h e l r' l'') : r' = r ∧ l'' = l' := by
  cases hv with
  | wholeOutput _ _ _ hc =>
    cases hv' with
    | wholeOutput _ _ _ hc' =>
      obtain ⟨-, rfl⟩ := hc.unique hc'
      exact ⟨rfl, rfl⟩
    | _ => simp_all
  | ended _ _ _ hc =>
    cases hv' with
    | ended _ _ _ hc' =>
      obtain ⟨rfl, rfl⟩ := hc.unique hc'
      exact ⟨rfl, rfl⟩
    | _ => simp_all
  | _ => cases hv' <;> simp_all

theorem await_mono {r : Except Failure Excerpt × Live ω} (hle : n ≤ m)
    (ha : await h e n l = some r) : await h e m l = some r := by
  induction n generalizing m l with
  | zero => cases ha
  | succ n ih =>
    obtain ⟨k, rfl⟩ : ∃ k, m = k + 1 := ⟨m - 1, by omega⟩
    by_cases hd : Due h e l
    · obtain ⟨_, _, -, hall⟩ := await_of_due hd
      rw [hall] at ha ⊢
      exact ha
    · rw [await_of_not_due hd] at ha ⊢
      cases hr : read h n (e.remaining (h.now l.world)) l with
      | none =>
        rw [hr] at ha
        cases ha
      | some answered =>
        obtain ⟨a, l'⟩ := answered
        rw [hr] at ha
        rw [read_mono (by omega) hr]
        cases a with
        | ok _ => exact ih (by omega) ha
        | error f => exact ha

theorem await_sound (ha : await h e n l = some (r, l')) :
    ∃ readings lk, Heard h e l readings lk ∧ Verdict h e lk r l' := by
  induction n generalizing l with
  | zero => cases ha
  | succ n ih =>
    by_cases hd : Due h e l
    · obtain ⟨r, l', hv, hall⟩ := await_of_due hd
      rw [hall] at ha
      cases ha
      exact ⟨[], l, .refl, hv⟩
    · rw [await_of_not_due hd] at ha
      have hopen := (not_due_iff.1 hd).2.1
      cases hr : read h n (e.remaining (h.now l.world)) l with
      | none =>
        rw [hr] at ha
        cases ha
      | some answered =>
        obtain ⟨a, l₁⟩ := answered
        obtain ⟨reading, hreads, rfl⟩ := read_sound hopen hr
        rw [hr] at ha
        cases hans : answer reading with
        | error f =>
          -- of all outcomes of a wait only a fault ends the expectation
          cases reading with
          | fault error =>
            cases hans
            cases ha
            exact ⟨[], l, .refl, .fault hd hreads⟩
          | _ => cases hans
        | ok _ =>
          rw [hans] at ha
          obtain ⟨readings, lk, hh, hv⟩ := ih ha
          exact ⟨_, lk, .cons hd hreads (answer_eq_ok_iff.1 hans) hh, hv⟩

theorem Verdict.complete (hv : Verdict h e l r l') : ∃ n, await h e n l = some (r, l') := by
  by_cases hd : Due h e l
  · obtain ⟨r₀, l₀, hv₀, hall⟩ := await_of_due hd
    obtain ⟨rfl, rfl⟩ := hv.unique hd hv₀
    exact ⟨1, hall 0⟩
  · cases hv with
    | found hfind => exact absurd (.inl (by simp [hfind])) hd
    | wholeOutput _ hopen _ _ => exact absurd (.inr (.inl hopen)) hd
    | ended _ hopen _ _ => exact absurd (.inr (.inl hopen)) hd
    | timedOut _ _ hover => exact absurd (.inr (.inr hover)) hd
    | @fault error l' _ hr =>
      obtain ⟨n, hn⟩ : ∃ n, read h n (e.remaining (h.now l.world)) l =
          some (answer (.fault error), l') :=
        hr.complete (not_due_iff.1 hd).2.1
      exact ⟨n + 1, by rw [await_of_not_due hd, hn]; rfl⟩

/-- What an expectation comes to behind waits it comes to. -/
theorem Heard.await_iff {r : Except Failure Excerpt × Live ω} (hh : Heard h e l readings lk) :
    (∃ n, await h e n l = some r) ↔ ∃ n, await h e n lk = some r := by
  induction hh with
  | refl => exact Iff.rfl
  | @cons l l' lk reading readings hd hr hans _ ih =>
    obtain ⟨m, hm⟩ : ∃ m, read h m (e.remaining (h.now l.world)) l = some (.ok (), l') := by
      rw [← answer_eq_ok_iff.2 hans]
      exact hr.complete (not_due_iff.1 hd).2.1
    rw [← ih]
    constructor
    · rintro ⟨_ | n, hn⟩
      · cases hn
      · rw [await_of_not_due hd] at hn
        cases hread : read h n _ _ with
        | none =>
          rw [hread] at hn
          cases hn
        | some answered =>
          -- a wait that has ended ends alike however many steps it is given
          have hsame := read_mono (Nat.le_max_left n m) hread
          rw [read_mono (Nat.le_max_right n m) hm] at hsame
          cases hsame
          rw [hread] at hn
          exact ⟨n, hn⟩
    · rintro ⟨n, hn⟩
      refine ⟨max n m + 1, ?_⟩
      rw [await_of_not_due hd, read_mono (Nat.le_max_right n m) hm]
      exact await_mono (Nat.le_max_left n m) hn

theorem Heard.complete (hh : Heard h e l readings lk) (hv : Verdict h e lk r l') :
    ∃ n, await h e n l = some (r, l') := hh.await_iff.2 hv.complete

/-! ## The outcome -/

theorem expect_of_closed (hc : l.session.phase = .closed) :
    expect h n p allowed l = some (.error .sessionClosed, l) := by
  rw [expect, if_pos hc]

theorem expect_of_not_closed (hc : l.session.phase ≠ .closed) :
    expect h n p allowed l = await h ⟨p, h.now l.world, allowed⟩ n l := by
  rw [expect, if_neg hc]

/-- More steps leave a result as it is. -/
theorem expect_mono {r : Except Failure Excerpt × Live ω} (hle : n ≤ m)
    (hr : expect h n p allowed l = some r) : expect h m p allowed l = some r := by
  by_cases hc : l.session.phase = .closed
  · rw [expect_of_closed hc] at hr ⊢
    exact hr
  · rw [expect_of_not_closed hc] at hr ⊢
    exact await_mono hle hr

/-- On a session that is not closed an expectation comes to the verdict behind the first waits after
which it is due, if there are such, and to nothing else. The session there is the one that heard
them all. No failure takes anything from its window, and the two that tell what is unread tell all of
it; time runs out only while the output is open; and neither the end of the time nor that of the
output is reported if the pattern is there. On a session that is closed there is no waiting. -/
theorem expect_outcome (h : Host ω) (p : Pattern) (allowed : Duration) (l : Live ω) :
    (l.session.phase ≠ .closed → ∀ r l',
      ((∃ steps, expect h steps p allowed l = some (r, l')) ↔
        ∃ readings lk, Heard h ⟨p, h.now l.world, allowed⟩ l readings lk ∧
          Verdict h ⟨p, h.now l.world, allowed⟩ lk r l') ∧
      ∀ readings lk, Heard h ⟨p, h.now l.world, allowed⟩ l readings lk →
        Verdict h ⟨p, h.now l.world, allowed⟩ lk r l' →
          lk.session = readings.foldl Session.hear l.session ∧
          (∀ f, r = .error f → l'.session.window = lk.session.window) ∧
          (∀ a q u, r = .error (.timedOut a q u) →
            lk.session.outputOpen = true ∧
              p.find? (Utf8.text lk.session.window.bytes) = none ∧ a = allowed ∧
              u = String.ofList (Utf8.lossy lk.session.window.bytes)) ∧
          (∀ q status u, r = .error (.ended q status u) →
            lk.session.outputOpen = false ∧
              p.find? (Utf8.text lk.session.window.bytes) = none ∧
              u = String.ofList (Utf8.lossy lk.session.window.bytes))) ∧
    (l.session.phase = .closed →
      ∀ steps, expect h steps p allowed l = some (.error .sessionClosed, l)) := by
  refine ⟨?_, fun hc steps => expect_of_closed hc⟩
  intro hc r l'
  refine ⟨⟨?_, ?_⟩, ?_⟩
  · rintro ⟨steps, hr⟩
    rw [expect_of_not_closed hc] at hr
    exact await_sound hr
  · rintro ⟨readings, lk, hh, hv⟩
    obtain ⟨n, hn⟩ := hh.complete hv
    exact ⟨n, by rw [expect_of_not_closed hc, hn]⟩
  · intro readings lk hh hv
    refine ⟨hh.session, ?_, ?_, ?_⟩
    · rintro f rfl
      exact hv.window_of_error
    · rintro a q u rfl
      cases hv with
      | timedOut hfind hopen _ => exact ⟨hopen, hfind, rfl, rfl⟩
    · rintro q status u rfl
      cases hv with
      | ended hfind hopen _ _ => exact ⟨hopen, hfind, rfl⟩

/-- A host on which both streams bring what is listed, a second after one another. -/
def playing : Host (List Arrival) where
  launch _ w := (.ok none, w)
  now w := .ofSecs (60 - w.length)
  write _ w := (.ok (), w)
  read _ _ w := (w.head?.getD .nothing, w.tail)
  readErrors _ w := (w.head?.getD .nothing, w.tail)
  closeInput w := w
  closeOutput w := w
  closeErrors w := w
  await _ w := (.ended (.exited 1), w)
  signal _ w := (.ok (), w)
  kill w := (.ok (), w)
  reap w := (.ok (.exited 1), w)
  display _ w := w

/-- A session with a console of which nothing was heard yet. -/
def listening (w : List Arrival) : Live (List Arrival) := ⟨Session.fresh {} "" none, w⟩

/-- The output ends while the second stream still holds a text. -/
def halfHeard : List Arrival :=
  [.chunk .output [], .chunk .errors [0x6F, 0x6B, 0x21], .nothing]

/-- The output ends inside a character. -/
def cutShort : List Arrival := [.chunk .output [0x76, 0x34, 0xE2], .chunk .output [], .nothing]

/-- What the second stream still held is the pattern; the time is over first; the output ends first;
its end is waited for; and the session is closed. -/
theorem expect_outcome_reached :
    (∀ w, (listening w).session.phase ≠ .closed) ∧
    (∃ readings lk l',
      Heard playing ⟨.literal "ok", .ofSecs 57, .ofSecs 5⟩ (listening halfHeard) readings lk ∧
      Verdict playing ⟨.literal "ok", .ofSecs 57, .ofSecs 5⟩ lk
        (.ok { matched := "ok", before := "", rest := "!" }) l' ∧
      l'.session.outputOpen = false ∧ l'.session.window.bytes = [0x21]) ∧
    (∃ readings lk l',
      Heard playing ⟨.literal "ok", .ofSecs 57, .ofSecs 1⟩ (listening cutShort) readings lk ∧
      Verdict playing ⟨.literal "ok", .ofSecs 57, .ofSecs 1⟩ lk
        (.error (.timedOut (.ofSecs 1) "ok" "v4\uFFFD")) l' ∧
      l'.session.window.bytes = [0x76, 0x34, 0xE2]) ∧
    (∃ readings lk l',
      Heard playing ⟨.literal "ok", .ofSecs 57, .ofSecs 5⟩ (listening cutShort) readings lk ∧
      Verdict playing ⟨.literal "ok", .ofSecs 57, .ofSecs 5⟩ lk
        (.error (.ended "ok" (some (.exited 1)) "v4\uFFFD")) l' ∧
      l'.session.window.bytes = [0x76, 0x34, 0xE2]) ∧
    (∃ readings lk l',
      Heard playing ⟨.endOfOutput, .ofSecs 57, .ofSecs 5⟩ (listening cutShort) readings lk ∧
      Verdict playing ⟨.endOfOutput, .ofSecs 57, .ofSecs 5⟩ lk
        (.ok { matched := "", before := "v4\uFFFD", rest := "" }) l' ∧
      l'.session.status = some (.exited 1) ∧ l'.session.window.bytes = []) ∧
    ((listening []).update fun s => { s with phase := .closed }).session.phase = .closed ∧
    expect playing 1 (.literal "ok") (.ofSecs 1)
        ((listening []).update fun s => { s with phase := .closed }) =
      some (.error .sessionClosed,
        (listening []).update fun s => { s with phase := .closed }) := by
  have hphase (w : List Arrival) : (listening w).session.phase ≠ .closed := nofun
  have hreached (p : Pattern) (allowed : Duration) (w : List Arrival)
      (r : Except Failure Excerpt) (Q : Live (List Arrival) → Prop)
      (hr : ∃ l', expect playing 4 p allowed (listening w) = some (r, l') ∧ Q l') :
      ∃ readings lk l', Heard playing ⟨p, playing.now w, allowed⟩ (listening w) readings lk ∧
        Verdict playing ⟨p, playing.now w, allowed⟩ lk r l' ∧ Q l' := by
    obtain ⟨l', hr, hq⟩ := hr
    obtain ⟨readings, lk, hh, hv⟩ :=
      ((expect_outcome playing p allowed (listening w)).1 (hphase w) r l').1.1 ⟨4, hr⟩
    exact ⟨readings, lk, l', hh, hv, hq⟩
  refine ⟨hphase, ?_, ?_, ?_, ?_, rfl, ?_⟩
  · exact hreached (.literal "ok") (.ofSecs 5) halfHeard _ _ ⟨_, rfl, rfl, rfl⟩
  · exact hreached (.literal "ok") (.ofSecs 1) cutShort _ _ ⟨_, rfl, rfl⟩
  · exact hreached (.literal "ok") (.ofSecs 5) cutShort _ _ ⟨_, rfl, rfl⟩
  · exact hreached .endOfOutput (.ofSecs 5) cutShort _ _ ⟨_, rfl, rfl, rfl⟩
  · exact (expect_outcome playing (.literal "ok") (.ofSecs 1) _).2 rfl 1

end Live
end Parley

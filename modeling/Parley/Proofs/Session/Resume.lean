import Parley.Proofs.Session.Moves
import Parley.Proofs.Session.Timeline
import Parley.Proofs.Window.Ahead

/-!
# Parley.Proofs.Session.Resume

An expectation behind one that failed. The first one has read and waited, it may have seen the end
of the output and of the program; to the second one it is as if it had been asked for at once.

* `Gets`: an expectation gets an excerpt.
* `Gets.alike`: two sessions to which the rest is the same get the same until the same moment.
* `Heard.follow`: an expectation with more time hears what one with less has heard, until it has
  found what it is for.
* `expect_resumed`: so an expectation that failed changes nothing for the next one.
-/

namespace Parley

namespace Expectation

variable {e : Expectation} {now : Duration}

/-- The moment at which the time is over, in nanoseconds. -/
def deadline (e : Expectation) : Nat := e.start.nanos + e.allowed.nanos

/-- An expectation that began no later than now. -/
def Started (e : Expectation) (now : Duration) : Prop := e.start.nanos ≤ now.nanos

theorem isOverdue_iff_deadline (hs : e.Started now) :
    e.isOverdue now = true ↔ e.deadline ≤ now.nanos := by
  rw [isOverdue_iff, deadline]
  rw [Started] at hs
  omega

theorem lt_deadline (hs : e.Started now) (hlate : e.isOverdue now = false) :
    now.nanos < e.deadline := by
  have hnot := mt (isOverdue_iff_deadline hs).2 (by simp [hlate])
  omega

theorem now_add_remaining (hs : e.Started now) (hlate : e.isOverdue now = false) :
    now.nanos + (e.remaining now).nanos = e.deadline := by
  have hlt := lt_deadline hs hlate
  have hrem : (e.remaining now).nanos = e.allowed.nanos - (now.nanos - e.start.nanos) := rfl
  rw [hrem]
  rw [Started] at hs
  rw [deadline] at hlt ⊢
  omega

end Expectation

namespace Live

variable {ω : Type} {h : Host ω} {t : Timeline} {place : ω → Nat} {e e' : Expectation}
  {l l' l₁ l₂ l₂' lk m : Live ω} {readings : List Reading} {x x' : Excerpt} {o : Occurrence}

/-! ## What an expectation gets -/

/-- An expectation gets an excerpt. -/
def Gets (h : Host ω) (e : Expectation) (l : Live ω) (x : Excerpt) (l' : Live ω) : Prop :=
  ∃ n, await h e n l = some (.ok x, l')

/-- A session from which an occurrence was taken. -/
def behind (o : Occurrence) (l : Live ω) : Live ω :=
  l.update fun s => { s with window := (l.session.window.take o).2 }

theorem gets_of_find? (hf : l.session.window.find? e.pattern = some o) :
    Gets h e l (l.session.window.take o).1 (behind o l) := (Verdict.of_find? hf).complete

theorem Gets.unique (hg : Gets h e l x l₂) (hg' : Gets h e l x' l₂') : x = x' ∧ l₂ = l₂' := by
  obtain ⟨n, hn⟩ := hg
  obtain ⟨m, hm⟩ := hg'
  have hsame := await_mono (Nat.le_max_left n m) hn
  rw [await_mono (Nat.le_max_right n m) hm] at hsame
  cases hsame
  exact ⟨rfl, rfl⟩

theorem Heard.gets_iff (hh : Heard h e l readings m) : Gets h e l x l₂ ↔ Gets h e m x l₂ :=
  hh.await_iff

theorem Heard.eq_of_due (hh : Heard h e l readings lk) (hd : Due h e l) : lk = l := by
  cases hh with
  | refl => rfl
  | cons hnot _ _ _ => exact absurd hd hnot

theorem Gets.exists_found (hend : e.pattern.isEnd = false) (hg : Gets h e l x l₂) :
    ∃ readings lk o, Heard h e l readings lk ∧ lk.session.window.find? e.pattern = some o ∧
      x = (lk.session.window.take o).1 ∧ l₂ = behind o lk := by
  obtain ⟨n, hn⟩ := hg
  obtain ⟨readings, lk, hh, hv⟩ := await_sound hn
  cases hv with
  | found hfind hbefore hmatched hrest =>
    subst hbefore hmatched hrest
    exact ⟨readings, lk, _, hh, hfind, rfl, rfl⟩
  | wholeOutput _ _ hend' _ =>
    rw [hend'] at hend
    cases hend

theorem not_gets_of_ended (hend : e.pattern.isEnd = false)
    (hnone : l.session.window.find? e.pattern = none) (hopen : l.session.outputOpen = false) :
    ¬ Gets h e l x l₂ := by
  intro hg
  obtain ⟨readings, lk, o, hh, hfind, -, -⟩ := hg.exists_found hend
  rw [hh.eq_of_due (.inr (.inl hopen)), hnone] at hfind
  cases hfind

/-! ## Two sessions to which the rest is the same -/

/-- What one expectation still gets in time the other one hears too, if it has as much time. -/
theorem Alike.hears {reading : Reading} (hp : KeepsTo h t place) (ha : Alike h t place l l')
    (hs : e.Started (h.now l.world)) (hs' : e'.Started (h.now l'.world))
    (hdead : e.deadline ≤ e'.deadline) (hd : ¬ Due h e l)
    (hnone : l.session.window.find? e'.pattern = none)
    (hc : t.catches (place l.world) e.deadline = true)
    (hr : Reads h (e.remaining (h.now l.world)) l reading l₁) :
    ¬ Due h e' l' ∧ ∃ l₁', Reads h (e'.remaining (h.now l'.world)) l' reading l₁' ∧
      Level h place l₁ l₁' := by
  obtain ⟨-, hopen, hlate⟩ := not_due_iff.1 hd
  have hlt := ha.lt_of_catches hc (Expectation.lt_deadline hs hlate)
  have hlate' : e'.isOverdue (h.now l'.world) = false := by
    rw [Bool.eq_false_iff, Ne, Expectation.isOverdue_iff_deadline hs']
    omega
  refine ⟨not_due_iff.2 ⟨by rw [← ha.window, hnone], by rw [← ha.outputOpen, hopen], hlate'⟩, ?_⟩
  have htill := Expectation.now_add_remaining hs hlate
  have htill' := Expectation.now_add_remaining hs' hlate'
  refine ha.reads hp ?_ ?_ hr
  · rw [htill']
    exact fun _ => t.catches_of_le hdead hc
  · rw [htill, hc]
    intro hmiss
    cases hmiss

theorem Reads.started {reading : Reading} {allowed : Duration} (hp : KeepsTo h t place)
    (hs : e.Started (h.now l.world)) (hr : Reads h allowed l reading l₁) :
    e.Started (h.now l₁.world) := by
  obtain ⟨_, -, -, hle⟩ := hr.onward hp
  exact Nat.le_trans hs hle

theorem Heard.started (hp : KeepsTo h t place) (hs : e'.Started (h.now l.world))
    (hh : Heard h e l readings lk) : e'.Started (h.now lk.world) := by
  obtain ⟨_, -, -, hle⟩ := hh.onward hp
  exact Nat.le_trans hs hle

/-- Where one finds its pattern the other one finds it, if it has the same time. -/
theorem Heard.alike (hp : KeepsTo h t place) (hpat : e'.pattern = e.pattern)
    (hdead : e'.deadline = e.deadline) (hs : e.Started (h.now l.world))
    (hs' : e'.Started (h.now l'.world)) (ha : Alike h t place l l')
    (hh : Heard h e l readings lk) (hfound : lk.session.window.find? e.pattern ≠ none) :
    ∃ lk', Heard h e' l' readings lk' ∧ SameView place lk lk' := by
  induction hh generalizing l' with
  | refl => exact ⟨l', .refl, ha.toSameView⟩
  | @cons l l₁ lk reading readings hd hr hans hh ih =>
    replace hr : Reads h (e.remaining (h.now l.world)) l reading l₁ := hr
    obtain ⟨hnone, -, hlate⟩ := not_due_iff.1 hd
    have htill := Expectation.now_add_remaining hs hlate
    cases hc : t.catches (place l.world) e.deadline with
    | true =>
      obtain ⟨hd', l₁', hr', hl⟩ :=
        ha.hears hp hs hs' hdead.ge hd (by rw [hpat, hnone]) hc hr
      obtain ⟨lk', hh', hv⟩ :=
        ih (hr.started hp hs) (hr'.started hp hs') hl.alike hfound
      exact ⟨lk', .cons hd' hr' hans hh', hv⟩
    | false =>
      -- nothing came, so the time is over and the pattern is not there
      obtain ⟨hsession, -, hnow⟩ := hr.missed hp (by rw [htill, hc])
      have hover : e.isOverdue (h.now l₁.world) = true :=
        (Expectation.isOverdue_iff_deadline (hr.started hp hs)).2 (by omega)
      rw [hh.eq_of_due (due_iff.2 (.inr (.inr hover))), hsession] at hfound
      exact absurd hnone hfound

theorem Gets.alike (hp : KeepsTo h t place) (hend : e.pattern.isEnd = false)
    (hpat : e'.pattern = e.pattern) (hdead : e'.deadline = e.deadline)
    (hs : e.Started (h.now l.world)) (hs' : e'.Started (h.now l'.world))
    (ha : Alike h t place l l') (hg : Gets h e l x l₂) :
    ∃ l₂', Gets h e' l' x l₂' ∧ SameView place l₂ l₂' := by
  obtain ⟨readings, lk, o, hh, hfind, rfl, rfl⟩ := hg.exists_found hend
  obtain ⟨lk', hh', hv⟩ := hh.alike hp hpat hdead hs hs' ha (by simp [hfind])
  refine ⟨behind o lk', ?_, ?_⟩
  · rw [hh'.gets_iff, hv.window]
    exact gets_of_find? (by rw [← hv.window, hpat, hfind])
  · exact ⟨congrArg (fun w => (w.take o).2) hv.window, hv.outputOpen, hv.errorsOpen, hv.placed⟩

/-! ## An expectation with more time -/

/-- An expectation with more time hears what one with less has heard: up to where it has found what
it is for, or up to the end. -/
theorem Heard.follow (hp : KeepsTo h t place) (hdead : e.deadline ≤ e'.deadline)
    (hs : e.Started (h.now l.world)) (hs' : e'.Started (h.now l'.world))
    (ha : Alike h t place l l') (hh : Heard h e l readings lk) :
    ∃ before m behind heard m', Heard h e l before m ∧ Heard h e m behind lk ∧
      Heard h e' l' heard m' ∧ Alike h t place m m' ∧
      (m.session.window.find? e'.pattern ≠ none ∨ m = lk) := by
  induction hh generalizing l' with
  | refl => exact ⟨[], _, [], [], l', .refl, .refl, .refl, ha, .inr rfl⟩
  | @cons l l₁ lk reading readings hd hr hans hh ih =>
    replace hr : Reads h (e.remaining (h.now l.world)) l reading l₁ := hr
    by_cases hnone : l.session.window.find? e'.pattern = none
    · have htill := Expectation.now_add_remaining hs (not_due_iff.1 hd).2.2
      cases hc : t.catches (place l.world) e.deadline with
      | true =>
        obtain ⟨hd', l₁', hr', hl⟩ := ha.hears hp hs hs' hdead hd hnone hc hr
        obtain ⟨before, m, behind, heard, m', hbefore, hbehind, hheard, hm, hwhere⟩ :=
          ih (hr.started hp hs) (hr'.started hp hs') hl.alike
        exact ⟨_, m, behind, _, m', .cons hd hr hans hbefore, hbehind,
          .cons hd' hr' hans hheard, hm, hwhere⟩
      | false =>
        -- the first one has waited in vain, and the other one has not waited yet
        have hl : Alike h t place l₁ l' := ha.missed hp hr (by rw [htill, hc])
        obtain ⟨before, m, behind, heard, m', hbefore, hbehind, hheard, hm, hwhere⟩ :=
          ih (hr.started hp hs) hs' hl
        exact ⟨_, m, behind, heard, m', .cons hd hr hans hbefore, hbehind, hheard, hm, hwhere⟩
    · exact ⟨[], l, _, [], l', .refl, .cons hd hr hans hh, .refl, ha, .inl hnone⟩

/-! ## What is unread -/

/-- What is unread of the first `n` outcomes: in the window, or not heard yet. -/
def unread (t : Timeline) (place : ω → Nat) (n : Nat) (l : Live ω) : List UInt8 :=
  l.session.window.bytes ++ t.data (place l.world) (n - place l.world)

theorem unread_behind {n : Nat} :
    unread t place n (behind o l) =
      (l.session.window.take o).2.bytes ++ t.data (place l.world) (n - place l.world) := rfl

/-- All that is to come has room in the window. -/
def Roomy (t : Timeline) (place : ω → Nat) (l : Live ω) : Prop :=
  ∀ n, l.session.window.Admits (t.data (place l.world) n)

/-- A text that fits has room. -/
theorem roomy_of_opening {k : Nat}
    (hs : ∀ i, place l.world + k ≤ i → (t.arrival i).bytes = [])
    (ho : Utf8.Opening (l.session.window.bytes ++ t.data (place l.world) k))
    (hlen : (l.session.window.bytes ++ t.data (place l.world) k).length ≤
      l.session.window.capacity) : Roomy t place l := by
  intro n
  have hpre := (List.prefix_append_right_inj l.session.window.bytes).2
    (Timeline.data_isPrefix_of_silent hs n)
  exact Window.admits_of_opening (ho.of_prefix hpre) (hpre.length_le.trans hlen)

theorem Heard.data_eq (hp : KeepsTo h t place) (hh : Heard h e l readings lk) {n : Nat}
    (hn : place lk.world ≤ n) :
    t.data (place l.world) (n - place l.world) =
      (Reading.chunks readings).flatten ++ t.data (place lk.world) (n - place lk.world) := by
  obtain ⟨k, hk, hdata, -⟩ := hh.onward hp
  rw [hk] at hn ⊢
  rw [Timeline.data_sub hn, hdata]

theorem Heard.admits (hp : KeepsTo h t place) (hh : Heard h e l readings lk)
    (hroom : Roomy t place l) : l.session.window.Admits (Reading.chunks readings).flatten := by
  obtain ⟨k, -, hdata, -⟩ := hh.onward hp
  rw [hdata]
  exact hroom k

theorem Heard.roomy (hp : KeepsTo h t place) (hh : Heard h e l readings lk)
    (hroom : Roomy t place l) : Roomy t place lk := by
  intro n
  obtain ⟨k, hk, hdata, -⟩ := hh.onward hp
  have hall := hroom (k + n)
  rw [Timeline.data_add, ← hdata, ← hk] at hall
  rw [hh.window]
  exact hall.appendAll

/-- Two expectations got the same, and what is unread behind them is the same: whatever it is once
it is mended, and to the byte if no more than a text was unread in `l`. -/
structure SameGain (t : Timeline) (place : ω → Nat) (l : Live ω) (x : Excerpt) (l₂ : Live ω)
    (x' : Excerpt) (l₂' : Live ω) : Prop where
  before : x.before = x'.before
  matched : x.matched = x'.matched
  mended {n : Nat} : place l₂.world ≤ n → place l₂'.world ≤ n →
    Utf8.mended (unread t place n l₂) = Utf8.mended (unread t place n l₂')
  bytes {n : Nat} : place l₂.world ≤ n → place l₂'.world ≤ n →
    Utf8.Opening (unread t place n l) → unread t place n l₂ = unread t place n l₂'

theorem SameView.sameGain (hv : SameView place l₂ l₂') : SameGain t place l x l₂ x l₂' where
  before := rfl
  matched := rfl
  mended _ _ := by rw [unread, unread, hv.window, hv.placed]
  bytes _ _ _ := by rw [unread, unread, hv.window, hv.placed]

theorem Heard.unread_eq (hp : KeepsTo h t place) (hh : Heard h e l readings lk)
    (hroom : Roomy t place l) {n : Nat} (hn : place lk.world ≤ n)
    (ho : Utf8.Opening (unread t place n l)) : unread t place n lk = unread t place n l := by
  rw [unread, hh.data_eq hp hn, ← List.append_assoc] at ho
  have hheld := (hh.admits hp hroom).appendAll_of_opening (ho.of_prefix (List.prefix_append _ _))
  rw [unread, unread, hh.data_eq hp hn, hh.window, hheld, List.append_assoc]

theorem SameGain.of_heard (hp : KeepsTo h t place) (hh : Heard h e l readings m)
    (hroom : Roomy t place l) (hg : SameGain t place m x l₂ x' l₂')
    (hle : place m.world ≤ place l₂.world) : SameGain t place l x l₂ x' l₂' where
  before := hg.before
  matched := hg.matched
  mended := hg.mended
  bytes hn hn' ho := hg.bytes hn hn' (by rwa [hh.unread_eq hp hroom (Nat.le_trans hle hn) ho])

theorem Heard.take_ahead {q : String} {m' : Live ω} (hp : KeepsTo h t place)
    (hh : Heard h e m readings lk) (hroom : Roomy t place m) (hm : SameView place m m')
    (hl : SameView place lk l₁) (hfind : m.session.window.find? (.literal q) ≠ none) :
    ∃ o, l₁.session.window.find? (.literal q) = some o ∧
      m'.session.window.find? (.literal q) = some o ∧
      SameGain t place m (l₁.session.window.take o).1 (behind o l₁)
        (m'.session.window.take o).1 (behind o m') := by
  obtain ⟨front, rest, hleft⟩ : ∃ front rest,
      Pattern.Leftmost q.toList m.session.window.text front rest := by
    rcases Pattern.find?_literal_cases q m.session.window.text with
      ⟨front, rest, hleft, -⟩ | ⟨-, hnone⟩
    · exact ⟨front, rest, hleft⟩
    · exact absurd hnone hfind
  obtain ⟨o, ho, ho', htaken, hmended, hraw⟩ := Window.take_ahead hleft (hh.admits hp hroom)
  rw [← hh.window, hl.window] at ho' htaken hmended hraw
  have hrest {n : Nat} (hn : place l₁.world ≤ n) :
      t.data (place m'.world) (n - place m'.world) =
        (Reading.chunks readings).flatten ++ t.data (place l₁.world) (n - place l₁.world) := by
    rw [← hm.placed, ← hl.placed]
    exact hh.data_eq hp (by rwa [hl.placed])
  refine ⟨o, ho', by rw [← hm.window, ho], ?_⟩
  rw [← hm.window]
  refine ⟨(congrArg Prod.fst htaken).symm, (congrArg Prod.snd htaken).symm, ?_, ?_⟩
  · intro n hn _
    rw [unread_behind, unread_behind, ← hm.window, hrest hn]
    exact (hmended _).symm
  · intro n hn _ hall
    rw [unread, hm.placed, hrest hn, ← List.append_assoc] at hall
    rw [unread_behind, unread_behind, ← hm.window, hrest hn, ← List.append_assoc,
      hraw (hall.of_prefix (List.prefix_append _ _))]

/-! ## The expectation behind one that failed -/

theorem Heard.phase (hh : Heard h e l readings lk) : lk.session.phase = l.session.phase := by
  induction hh with
  | refl => rfl
  | cons _ hr _ _ ih => rw [ih, hr.session, Session.hear_phase]

/-- Asking for the end of the program takes nothing from its output. -/
theorem collect_sameView (hp : KeepsTo h t place) {status : Option ExitStatus}
    {patience : Duration} (hc : collect h patience l = (status, l')) :
    SameView place l l' ∧ (l.session.phase ≠ .closed → l'.session.phase ≠ .closed) := by
  have hplace := hp.await patience l.world
  rcases collect_cases hc with ⟨_, -, -, rfl⟩ | ⟨new, w, -, ha, -, rfl⟩ | ⟨_, w, -, ha, -, -, rfl⟩
  · exact ⟨⟨rfl, rfl, rfl, rfl⟩, id⟩
  · rw [ha] at hplace
    refine ⟨⟨rfl, rfl, rfl, hplace.symm⟩, fun _ => ?_⟩
    change (if _ then _ else _) ≠ _
    split <;> simp
  · rw [ha] at hplace
    exact ⟨⟨rfl, rfl, rfl, hplace.symm⟩, id⟩

/-- The time from the start of an expectation, if it has that much, to the deadline of one that
starts in the session that it has left. -/
def spanning (h : Host ω) (a b : Duration) (l l₁ : Live ω) : Duration :=
  ⟨max a.nanos ((h.now l₁.world).nanos - (h.now l.world).nanos + b.nanos)⟩

/-- Two expectations, one behind the other or in its place, get the same or both get nothing. -/
def GainAlike (h : Host ω) (t : Timeline) (place : ω → Nat) (e₁ : Expectation) (l₁ : Live ω)
    (e : Expectation) (l : Live ω) : Prop :=
  (∃ x l₂ x' l₂', Gets h e₁ l₁ x l₂ ∧ Gets h e l x' l₂' ∧ SameGain t place l x l₂ x' l₂') ∨
    (∀ x l₂, ¬ Gets h e₁ l₁ x l₂) ∧ ∀ x l₂, ¬ Gets h e l x l₂

theorem gainAlike_of_found {q : String} {e₁ : Expectation} {before behind' heard : List Reading}
    {m' : Live ω} (hp : KeepsTo h t place) (hroom : Roomy t place l)
    (hpat : e'.pattern = .literal q) (hpat₁ : e₁.pattern = .literal q)
    (hbefore : Heard h e l before m) (hbehind : Heard h e m behind' lk)
    (hheard : Heard h e' l heard m') (hm : SameView place m m') (hl : SameView place lk l₁)
    (hfind : m.session.window.find? (.literal q) ≠ none) : GainAlike h t place e₁ l₁ e' l := by
  obtain ⟨o, ho, ho', hg⟩ := hbehind.take_ahead hp (hbefore.roomy hp hroom) hm hl hfind
  obtain ⟨k, hk, -, -⟩ := hbehind.onward hp
  have hle : place m.world ≤ place (behind o l₁).world := by
    change _ ≤ place l₁.world
    rw [← hl.placed]
    omega
  exact .inl ⟨_, _, _, _, gets_of_find? (by rw [hpat₁, ho]),
    hheard.gets_iff.2 (gets_of_find? (by rw [hpat, ho'])), hg.of_heard hp hbefore hroom hle⟩

theorem gainAlike_of_ended {e₁ : Expectation} {heard : List Reading} {m' : Live ω}
    (hend : e'.pattern.isEnd = false) (hpat : e₁.pattern = e'.pattern)
    (hheard : Heard h e' l heard m') (hm : SameView place l₁ m')
    (hnone : l₁.session.window.find? e'.pattern = none) (hopen : l₁.session.outputOpen = false) :
    GainAlike h t place e₁ l₁ e' l := by
  refine .inr ⟨fun x l₂ => ?_, fun x l₂ => ?_⟩
  · exact not_gets_of_ended (by rw [hpat, hend]) (by rw [hpat, hnone]) hopen
  · rw [hheard.gets_iff]
    exact not_gets_of_ended hend (by rw [← hm.window, hnone]) (by rw [← hm.outputOpen, hopen])

/-- Where the first has left off for want of time, both go on alike. -/
theorem gainAlike_of_alike {e₁ : Expectation} {heard : List Reading} {m' : Live ω}
    (hp : KeepsTo h t place) (hend : e'.pattern.isEnd = false) (hpat : e₁.pattern = e'.pattern)
    (hdead : e₁.deadline = e'.deadline) (hs : e₁.Started (h.now l₁.world))
    (hs' : e'.Started (h.now m'.world)) (hheard : Heard h e' l heard m')
    (hm : Alike h t place l₁ m') : GainAlike h t place e₁ l₁ e' l := by
  have hend₁ : e₁.pattern.isEnd = false := by rw [hpat, hend]
  by_cases hget : ∃ x l₂, Gets h e₁ l₁ x l₂
  · obtain ⟨x, l₂, hg⟩ := hget
    obtain ⟨l₂', hg', hv⟩ := hg.alike hp hend₁ hpat.symm hdead.symm hs hs' hm
    exact .inl ⟨x, l₂, x, l₂', hg, hheard.gets_iff.2 hg', hv.sameGain⟩
  · refine .inr ⟨fun x l₂ hg => hget ⟨x, l₂, hg⟩, fun x l₂ hg => ?_⟩
    obtain ⟨l₂', hg', -⟩ := (hheard.gets_iff.1 hg).alike hp hend hpat hdead hs' hs hm.symm
    exact hget ⟨x, l₂', hg'⟩

theorem Verdict.sameView (hp : KeepsTo h t place) {f : Failure}
    (hv : Verdict h e lk (.error f) l₁) (hkind : f.isTimeout = true ∨ f.isTermination = true) :
    SameView place lk l₁ ∧ (lk.session.phase ≠ .closed → l₁.session.phase ≠ .closed) := by
  cases hv with
  | ended _ _ _ hc => exact collect_sameView hp (collects_iff.1 hc)
  | timedOut _ _ _ => exact ⟨⟨rfl, rfl, rfl, rfl⟩, id⟩
  | fault _ _ => rcases hkind with hkind | hkind <;> cases hkind

theorem gainAlike_of_failed {p q : String} {a b : Duration} {f : Failure} (hp : KeepsTo h t place)
    (hroom : Roomy t place l) (hh : Heard h ⟨.literal p, h.now l.world, a⟩ l readings lk)
    (hv : Verdict h ⟨.literal p, h.now l.world, a⟩ lk (.error f) l₁)
    (hkind : f.isTimeout = true ∨ f.isTermination = true) :
    GainAlike h t place ⟨.literal q, h.now l₁.world, b⟩ l₁
      ⟨.literal q, h.now l.world, spanning h a b l l₁⟩ l := by
  have hs : (⟨.literal p, h.now l.world, a⟩ : Expectation).Started (h.now l.world) := Nat.le_refl _
  have hs' : (⟨.literal q, h.now l.world, spanning h a b l l₁⟩ : Expectation).Started
      (h.now l.world) := Nat.le_refl _
  have hdead : (⟨.literal p, h.now l.world, a⟩ : Expectation).deadline ≤
      (⟨.literal q, h.now l.world, spanning h a b l l₁⟩ : Expectation).deadline :=
    Nat.add_le_add_left (Nat.le_max_left _ _) _
  obtain ⟨before, m, behind', heard, m', hbefore, hbehind, hheard, hm, hwhere⟩ :=
    hh.follow hp hdead hs hs' (Level.alike ⟨⟨rfl, rfl, rfl, rfl⟩, rfl⟩)
  have hl := (hv.sameView hp hkind).1
  -- the one with more time has found its literal on the way, or has come as far as the other
  by_cases hnone : m.session.window.find? (.literal q) = none
  · obtain rfl := hwhere.resolve_left (fun hfind => hfind hnone)
    cases hv with
    | ended _ hopen _ hc =>
      exact gainAlike_of_ended rfl rfl hheard (hl.symm.trans hm.toSameView)
        (by rw [← hl.window, hnone]) (by rw [← hl.outputOpen, hopen])
    | timedOut _ _ hover =>
      have hpast : (h.now l.world).nanos + a.nanos ≤ (h.now l₁.world).nanos :=
        (Expectation.isOverdue_iff_deadline (hh.started hp hs)).1 (Expectation.isOverdue_iff.2 hover)
      refine gainAlike_of_alike hp rfl rfl ?_ (Nat.le_refl _) (hheard.started hp hs') hheard hm
      change (h.now l₁.world).nanos + b.nanos = (h.now l.world).nanos +
        max a.nanos ((h.now l₁.world).nanos - (h.now l.world).nanos + b.nanos)
      omega
    | fault _ _ => rcases hkind with hkind | hkind <;> cases hkind
  · exact gainAlike_of_found hp hroom rfl rfl hbefore hbehind hheard hm.toSameView hl hnone

/-- An expectation of a literal that failed, since the time or the output was over, changes nothing
for the next one. That one gets its literal exactly if it would have got it in the first place, with
the time of both; what stands before it is the same; and so is what is then unread, in the window
or still to come. -/
theorem expect_resumed (hp : KeepsTo h t place) (hphase : l.session.phase ≠ .closed)
    (hroom : Roomy t place l) (p q : String) (a b : Duration) {steps : Nat} {f : Failure}
    (hfail : expect h steps (.literal p) a l = some (.error f, l₁))
    (hkind : f.isTimeout = true ∨ f.isTermination = true) :
    ((∃ n x l₂, expect h n (.literal q) b l₁ = some (.ok x, l₂)) ↔
      ∃ n x l₂, expect h n (.literal q) (spanning h a b l l₁) l = some (.ok x, l₂)) ∧
    ∀ n x l₂ n' x' l₂', expect h n (.literal q) b l₁ = some (.ok x, l₂) →
      expect h n' (.literal q) (spanning h a b l l₁) l = some (.ok x', l₂') →
      SameGain t place l x l₂ x' l₂' := by
  rw [expect_of_not_closed hphase] at hfail
  obtain ⟨readings, lk, hh, hv⟩ := await_sound hfail
  have hphase₁ := (hv.sameView hp hkind).2 (by rwa [hh.phase])
  have hgain := gainAlike_of_failed (q := q) (b := b) hp hroom hh hv hkind
  simp only [expect_of_not_closed hphase, expect_of_not_closed hphase₁]
  rcases hgain with ⟨x, l₂, x', l₂', hg, hg', hsame⟩ | ⟨hnot, hnot'⟩
  · obtain ⟨n, hn⟩ := hg
    obtain ⟨n', hn'⟩ := hg'
    refine ⟨iff_of_true ⟨n, x, l₂, hn⟩ ⟨n', x', l₂', hn'⟩, ?_⟩
    intro k y m₂ k' y' m₂' hk hk'
    obtain ⟨rfl, rfl⟩ := Gets.unique ⟨n, hn⟩ ⟨k, hk⟩
    obtain ⟨rfl, rfl⟩ := Gets.unique ⟨n', hn'⟩ ⟨k', hk'⟩
    exact hsame
  · refine ⟨iff_of_false ?_ ?_, ?_⟩
    · rintro ⟨n, x, l₂, hn⟩
      exact hnot x l₂ ⟨n, hn⟩
    · rintro ⟨n, x, l₂, hn⟩
      exact hnot' x l₂ ⟨n, hn⟩
    · intro n x l₂ _ _ _ hn _
      exact absurd ⟨n, hn⟩ (hnot x l₂)

/-- A session that nothing was heard of yet. -/
def begun : Live (Nat × Duration) := ⟨Session.fresh {} "" none, 0, .zero⟩

/-- The halves of a character, with a third of a second between them. -/
def halves : Timeline :=
  .timed ([.chunk .output [0xE2, 0x9C], .chunk .output [0x93, 0x6F, 0x6B, 0x21]].getD · .nothing)
    (· * 300000000)

/-- The output ends inside a word, and the rest of it is on the second stream. -/
def lastWords : Timeline :=
  .fed ([.chunk .output [0x6F], .chunk .output [], .chunk .errors [0x6B, 0x21]].getD · .nothing)
    (· * 1000000)

theorem roomy_halves : Roomy halves Prod.fst begun := by
  refine roomy_of_opening (k := 2) ?_ ⟨['✓', 'o', 'k', '!'], by decide⟩ (by decide)
  intro i hi
  obtain ⟨i, rfl⟩ := Nat.exists_eq_add_of_le' hi
  rfl

theorem roomy_lastWords : Roomy lastWords Prod.fst begun := by
  refine roomy_of_opening (k := 3) ?_ ⟨['o', 'k', '!'], by decide⟩ (by decide)
  intro i hi
  obtain ⟨i, rfl⟩ := Nat.exists_eq_add_of_le' hi
  rfl

/-- The first expectation gives up inside a character, or the console ends under it; the second one
gets what it would have got. -/
theorem expect_resumed_halves :
    begun.session.phase ≠ .closed ∧
      (KeepsTo halves.host halves Prod.fst ∧ Roomy halves Prod.fst begun ∧ ∃ f l₁ x l₂,
        expect halves.host 3 (.literal "no") (.ofMillis 100) begun = some (.error f, l₁) ∧
        f.isTimeout = true ∧
        expect halves.host 3 (.literal "ok") (.ofSecs 1) l₁ = some (.ok x, l₂) ∧
        x.before = "✓" ∧ ∃ n x' l₂',
          expect halves.host n (.literal "ok")
              (spanning halves.host (.ofMillis 100) (.ofSecs 1) begun l₁) begun =
            some (.ok x', l₂') ∧
          SameGain halves Prod.fst begun x l₂ x' l₂') ∧
      KeepsTo lastWords.host lastWords Prod.fst ∧ Roomy lastWords Prod.fst begun ∧ ∃ f l₁ x l₂,
        expect lastWords.host 4 (.literal "no") (.ofSecs 1) begun = some (.error f, l₁) ∧
        f.isTermination = true ∧
        expect lastWords.host 1 (.literal "ok") .zero l₁ = some (.ok x, l₂) ∧
        x.before = "" ∧ ∃ n x' l₂',
          expect lastWords.host n (.literal "ok")
              (spanning lastWords.host (.ofSecs 1) .zero begun l₁) begun = some (.ok x', l₂') ∧
          SameGain lastWords Prod.fst begun x l₂ x' l₂' := by
  have hphase : begun.session.phase ≠ .closed := by decide
  refine ⟨hphase, ⟨keepsTo_host halves, roomy_halves, ?_⟩, keepsTo_host lastWords,
    roomy_lastWords, ?_⟩
  · obtain ⟨f, l₁, x, l₂, hfail, htime, hget, hbefore⟩ : ∃ f l₁ x l₂,
        expect halves.host 3 (.literal "no") (.ofMillis 100) begun = some (.error f, l₁) ∧
        f.isTimeout = true ∧
        expect halves.host 3 (.literal "ok") (.ofSecs 1) l₁ = some (.ok x, l₂) ∧
        x.before = "✓" := ⟨_, _, _, _, rfl, rfl, rfl, rfl⟩
    obtain ⟨hiff, hsame⟩ := expect_resumed (keepsTo_host halves) hphase roomy_halves "no" "ok"
      (.ofMillis 100) (.ofSecs 1) hfail (.inl htime)
    obtain ⟨n, x', l₂', hget'⟩ := hiff.1 ⟨3, x, l₂, hget⟩
    exact ⟨f, l₁, x, l₂, hfail, htime, hget, hbefore, n, x', l₂', hget',
      hsame 3 x l₂ n x' l₂' hget hget'⟩
  · obtain ⟨f, l₁, x, l₂, hfail, hended, hget, hbefore⟩ : ∃ f l₁ x l₂,
        expect lastWords.host 4 (.literal "no") (.ofSecs 1) begun = some (.error f, l₁) ∧
        f.isTermination = true ∧
        expect lastWords.host 1 (.literal "ok") .zero l₁ = some (.ok x, l₂) ∧
        x.before = "" := ⟨_, _, _, _, rfl, rfl, rfl, rfl⟩
    obtain ⟨hiff, hsame⟩ := expect_resumed (keepsTo_host lastWords) hphase roomy_lastWords
      "no" "ok" (.ofSecs 1) .zero hfail (.inr hended)
    obtain ⟨n, x', l₂', hget'⟩ := hiff.1 ⟨1, x, l₂, hget⟩
    exact ⟨f, l₁, x, l₂, hfail, hended, hget, hbefore, n, x', l₂', hget',
      hsame 1 x l₂ n x' l₂' hget hget'⟩

end Live
end Parley

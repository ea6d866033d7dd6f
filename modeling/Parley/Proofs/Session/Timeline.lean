import Parley.Proofs.Session.Merging
import Parley.Proofs.Session.Outcome

/-!
# Parley.Proofs.Session.Timeline

Waiting on a console whose doings are settled beforehand, so that only when it is read is up to the
session.

* `Timeline`: the outcomes of waiting, in their order, and which of them a wait still gets.
* `KeepsTo`: a host on which every wait gets the next outcome of a timeline, or none in time.
* `Heard.forward`: what waits bring is the data of the outcomes that they have used up.
* `Alike`: two sessions to which the rest of a timeline is the same.
* `Alike.reads`: they hear the same, whatever their clocks show.
-/

namespace Parley

def Arrival.bytes : Arrival → List UInt8
  | .chunk _ bytes => bytes
  | .nothing | .fault _ => []

/-- What comes of waiting, one outcome after the other. Moments are counted in nanoseconds. -/
structure Timeline where
  arrival : Nat → Arrival
  /-- When an outcome comes. -/
  moment : Nat → Nat
  /-- Whether a wait that goes on until some moment still gets an outcome. -/
  catches : Nat → Nat → Bool
  /-- A longer wait gets what a shorter one gets. -/
  catches_of_le {i till till' : Nat} :
    till ≤ till' → catches i till = true → catches i till' = true
  /-- What comes to a longer wait only does not come before the shorter one is over. -/
  le_moment {i till till' : Nat} :
    catches i till = false → catches i till' = true → till ≤ moment i

namespace Timeline

variable {t : Timeline} {i j now till k m n : Nat} {a b : Arrival}

/-- Outcomes that come whenever they are waited for, each at a moment of its own. -/
def fed (arrival : Nat → Arrival) (moment : Nat → Nat) : Timeline where
  arrival := arrival
  moment := moment
  catches _ _ := true
  catches_of_le _ h := h
  le_moment h _ := by cases h

/-- Outcomes that a wait gets if they come before it is over. -/
def timed (arrival : Nat → Arrival) (moment : Nat → Nat) : Timeline where
  arrival := arrival
  moment := moment
  catches i till := moment i ≤ till
  catches_of_le hle h := by simp only [decide_eq_true_eq] at h ⊢; omega
  le_moment h _ := by simp only [decide_eq_false_iff_not] at h; omega

/-- The bytes of `n` outcomes, from an outcome on. -/
def data (t : Timeline) (i : Nat) : Nat → List UInt8
  | 0 => []
  | n + 1 => (t.arrival i).bytes ++ t.data (i + 1) n

@[simp] theorem data_zero : t.data i 0 = [] := rfl

@[simp] theorem data_one : t.data i 1 = (t.arrival i).bytes := List.append_nil _

theorem data_add : t.data i (k + n) = t.data i k ++ t.data (i + k) n := by
  induction k generalizing i with
  | zero => simp
  | succ k ih =>
    rw [Nat.succ_add, data, data, ih, List.append_assoc, Nat.add_assoc, Nat.add_comm 1 k]

theorem data_sub (hle : i + k ≤ n) :
    t.data i (n - i) = t.data i k ++ t.data (i + k) (n - (i + k)) := by
  rw [← data_add]
  congr 1
  omega

theorem data_isPrefix_of_silent (hs : ∀ j, i + k ≤ j → (t.arrival j).bytes = []) (n : Nat) :
    t.data i n <+: t.data i k := by
  have hnil {j : Nat} (hj : i + k ≤ j) (m : Nat) : t.data j m = [] := by
    induction m generalizing j with
    | zero => rfl
    | succ m ih => rw [data, hs j hj, ih (Nat.le_succ_of_le hj), List.append_nil]
  rcases Nat.le_total n k with hle | hle
  · obtain ⟨m, rfl⟩ := Nat.exists_eq_add_of_le hle
    rw [data_add]
    exact List.prefix_append _ _
  · obtain ⟨m, rfl⟩ := Nat.exists_eq_add_of_le hle
    rw [data_add, hnil (Nat.le_refl _)]
    exact ⟨[], by simp⟩

/-- A wait from `now` until `till`, before which `i` outcomes were used up: what it brings, how many
are used up then, and what time it is. -/
inductive Wait (t : Timeline) (i now till : Nat) : Arrival → Nat → Nat → Prop
  | caught : t.catches i till = true →
      Wait t i now till (t.arrival i) (i + 1) (max now (t.moment i))
  | missed : t.catches i till = false → Wait t i now till .nothing i till

theorem Wait.unique (h : t.Wait i now till a j m) (h' : t.Wait i now till b k n) :
    a = b ∧ j = k ∧ m = n := by
  cases h <;> cases h' <;> simp_all

theorem Wait.transfer {now' till' : Nat}
    (hcaught : t.catches i till = true →
      t.catches i till' = true ∧ max now (t.moment i) = max now' (t.moment i))
    (hmissed : t.catches i till = false → t.catches i till' = false ∧ till = till')
    (h : t.Wait i now till a j m) : t.Wait i now' till' a j m := by
  cases h with
  | caught hc =>
    rw [(hcaught hc).2]
    exact .caught (hcaught hc).1
  | missed hc =>
    rw [(hmissed hc).2]
    exact .missed (hmissed hc).1

theorem Wait.forward (h : t.Wait i now till a j m) (hle : now ≤ till) :
    ∃ k, j = i + k ∧ a.bytes = t.data i k ∧ now ≤ m := by
  cases h with
  | caught _ => exact ⟨1, rfl, data_one.symm, Nat.le_max_left _ _⟩
  | missed _ => exact ⟨0, rfl, rfl, hle⟩

end Timeline

/-- A host on which every wait gets the next outcome of a timeline if it still can, and otherwise
takes as long as it may. `place` says how many outcomes were used up. Nothing else uses one up, and
but for waiting the clock stands still. -/
structure KeepsTo {ω : Type} (h : Host ω) (t : Timeline) (place : ω → Nat) : Prop where
  read (both : Bool) (allowed : Duration) (w : ω) :
    t.Wait (place w) (h.now w).nanos ((h.now w).nanos + allowed.nanos)
      (h.read both allowed w).1 (place (h.read both allowed w).2)
      (h.now (h.read both allowed w).2).nanos
  readErrors (allowed : Duration) (w : ω) :
    t.Wait (place w) (h.now w).nanos ((h.now w).nanos + allowed.nanos)
      (h.readErrors allowed w).1 (place (h.readErrors allowed w).2)
      (h.now (h.readErrors allowed w).2).nanos
  display (bytes : List UInt8) (w : ω) :
    place (h.display bytes w) = place w ∧ h.now (h.display bytes w) = h.now w
  closeOutput (w : ω) : place (h.closeOutput w) = place w ∧ h.now (h.closeOutput w) = h.now w
  closeErrors (w : ω) : place (h.closeErrors w) = place w ∧ h.now (h.closeErrors w) = h.now w
  await (allowed : Duration) (w : ω) : place (h.await allowed w).2 = place w

variable {ω : Type} {h : Host ω} {t : Timeline} {place : ω → Nat} {w w' w'' : ω}

/-! ## What waits use up -/

/-- Between two states of a host some outcomes were used up, with these bytes as their data. -/
def Onward (h : Host ω) (t : Timeline) (place : ω → Nat) (w : ω) (bytes : List UInt8) (w' : ω) :
    Prop :=
  ∃ k, place w' = place w + k ∧ bytes = t.data (place w) k ∧ (h.now w).nanos ≤ (h.now w').nanos

/-- Between two states of a host no outcome was used up and no time passed. -/
def Still (h : Host ω) (place : ω → Nat) (w w' : ω) : Prop :=
  place w' = place w ∧ h.now w' = h.now w

namespace Onward

variable {bytes bytes' : List UInt8}

theorem refl (w : ω) : Onward h t place w [] w := ⟨0, rfl, rfl, Nat.le_refl _⟩

theorem trans (ho : Onward h t place w bytes w') (ho' : Onward h t place w' bytes' w'') :
    Onward h t place w (bytes ++ bytes') w'' := by
  obtain ⟨k, hplace, rfl, hnow⟩ := ho
  obtain ⟨n, hplace', rfl, hnow'⟩ := ho'
  refine ⟨k + n, by omega, ?_, Nat.le_trans hnow hnow'⟩
  rw [Timeline.data_add, hplace]

theorem still (ho : Onward h t place w bytes w') (hs : Still h place w' w'') :
    Onward h t place w bytes w'' := by
  obtain ⟨k, hplace, hdata, hnow⟩ := ho
  exact ⟨k, hs.1.trans hplace, hdata, by rwa [hs.2]⟩

end Onward

namespace KeepsTo

variable {allowed : Duration} {a : Arrival}

theorem onward_read (hp : KeepsTo h t place) {both : Bool}
    (ha : h.read both allowed w = (a, w')) : Onward h t place w a.bytes w' := by
  have hwait := hp.read both allowed w
  rw [ha] at hwait
  exact hwait.forward (Nat.le_add_right _ _)

theorem onward_readErrors (hp : KeepsTo h t place)
    (ha : h.readErrors allowed w = (a, w')) : Onward h t place w a.bytes w' := by
  have hwait := hp.readErrors allowed w
  rw [ha] at hwait
  exact hwait.forward (Nat.le_add_right _ _)

theorem still_takeIn (hp : KeepsTo h t place) (bytes : List UInt8) (l : Live ω) :
    Still h place l.world (Live.takeIn h bytes l).world := by
  unfold Live.takeIn
  split
  · exact hp.display _ _
  · exact ⟨rfl, rfl⟩

end KeepsTo

/-- The chunks that waits bring. -/
def Reading.chunks (readings : List Reading) : List (List UInt8) :=
  (readings.flatMap Reading.deliveries).map Prod.snd

/-- A host on which a timeline and the clock are all that there is. -/
def Timeline.host (t : Timeline) : Host (Nat × Duration) :=
  let wait (allowed : Duration) (w : Nat × Duration) : Arrival × Nat × Duration :=
    let till := w.2.nanos + allowed.nanos
    if t.catches w.1 till then (t.arrival w.1, w.1 + 1, ⟨max w.2.nanos (t.moment w.1)⟩)
    else (.nothing, w.1, ⟨till⟩)
  { launch _ w := (.ok none, w)
    now w := w.2
    write _ w := (.ok (), w)
    read _ allowed w := wait allowed w
    readErrors allowed w := wait allowed w
    closeInput w := w
    closeOutput w := w
    closeErrors w := w
    await allowed w := (.running, w.1, w.2 + allowed)
    signal _ w := (.ok (), w)
    kill w := (.ok (), w)
    reap w := (.ok (.exited 1), w)
    display _ w := w }

theorem keepsTo_host (t : Timeline) : KeepsTo t.host t Prod.fst := by
  have hwait (allowed : Duration) (w : Nat × Duration) :
      t.Wait w.1 w.2.nanos (w.2.nanos + allowed.nanos) (t.host.readErrors allowed w).1
        (t.host.readErrors allowed w).2.1 (t.host.readErrors allowed w).2.2.nanos := by
    simp only [Timeline.host]
    split
    · next hc => exact .caught hc
    · next hc => exact .missed (by simpa using hc)
  exact ⟨fun _ => hwait, hwait, fun _ _ => ⟨rfl, rfl⟩, fun _ => ⟨rfl, rfl⟩, fun _ => ⟨rfl, rfl⟩,
    fun _ _ => rfl⟩

namespace Live

variable {e : Expectation} {allowed allowed' : Duration} {l l' l₁ lk : Live ω} {a : Arrival}
  {chunks : List (List UInt8)} {errorsEnded : Bool} {reading : Reading} {readings : List Reading}
  {bytes : List UInt8}

theorem Drains.onward (hp : KeepsTo h t place) (hd : Drains h l chunks errorsEnded l₁) :
    Onward h t place l.world chunks.flatten l₁.world := by
  induction hd with
  | closed _ => exact .refl _
  | silent _ ha => exact hp.onward_readErrors ha
  | ended _ ha | fault _ ha => exact (hp.onward_readErrors ha).still (hp.closeErrors _)
  | chunk _ ha _ ih => exact ((hp.onward_readErrors ha).still (hp.still_takeIn _ _)).trans ih

theorem Reads.onward (hp : KeepsTo h t place) (hr : Reads h allowed l reading l₁) :
    Onward h t place l.world (Reading.chunks [reading]).flatten l₁.world := by
  cases hr with
  | nothing ha | fault ha => exact hp.onward_read ha
  | chunk ha =>
    refine Onward.still ?_ (hp.still_takeIn _ _)
    simpa [Reading.chunks, Reading.deliveries, Arrival.bytes] using hp.onward_read ha
  | errorsEnded ha => exact (hp.onward_read ha).still (hp.closeErrors _)
  | outputEnded ha hd =>
    have ho := ((hp.onward_read ha).still (hp.closeOutput _)).trans (hd.onward hp)
    simpa [Reading.chunks, Reading.deliveries, Arrival.bytes, Function.comp_def] using ho

theorem Heard.onward (hp : KeepsTo h t place) (hh : Heard h e l readings lk) :
    Onward h t place l.world (Reading.chunks readings).flatten lk.world := by
  induction hh with
  | refl => exact .refl _
  | cons _ hr _ _ ih => simpa [Reading.chunks] using (hr.onward hp).trans ih

theorem Heard.window (hh : Heard h e l readings lk) :
    lk.session.window = l.session.window.appendAll (Reading.chunks readings) := by
  rw [hh.session, Session.foldl_hear_window]
  rfl

/-! ## Sessions to which the rest is the same -/

/-- Two sessions that hold the same and have come to the same place. -/
structure SameView (place : ω → Nat) (l l' : Live ω) : Prop where
  window : l.session.window = l'.session.window
  outputOpen : l.session.outputOpen = l'.session.outputOpen
  errorsOpen : l.session.errorsOpen = l'.session.errorsOpen
  placed : place l.world = place l'.world

/-- They have come there at the same time. -/
structure Level (h : Host ω) (place : ω → Nat) (l l' : Live ω) : Prop
    extends SameView place l l' where
  now : h.now l.world = h.now l'.world

/-- They have come there at the same time, or both have waited for the next outcome in vain. -/
structure Alike (h : Host ω) (t : Timeline) (place : ω → Nat) (l l' : Live ω) : Prop
    extends SameView place l l' where
  clock : h.now l.world = h.now l'.world ∨
    t.catches (place l.world) (h.now l.world).nanos = false ∧
      t.catches (place l.world) (h.now l'.world).nanos = false

theorem SameView.trans (hv : SameView place l l₁) (hv' : SameView place l₁ l') :
    SameView place l l' :=
  ⟨hv.window.trans hv'.window, hv.outputOpen.trans hv'.outputOpen,
    hv.errorsOpen.trans hv'.errorsOpen, hv.placed.trans hv'.placed⟩

theorem SameView.symm (hv : SameView place l l') : SameView place l' l :=
  ⟨hv.window.symm, hv.outputOpen.symm, hv.errorsOpen.symm, hv.placed.symm⟩

theorem Level.alike (hl : Level h place l l') : Alike h t place l l' := ⟨hl.toSameView, .inl hl.now⟩

theorem Alike.symm (ha : Alike h t place l l') : Alike h t place l' l := by
  refine ⟨ha.toSameView.symm, ?_⟩
  rw [← ha.placed]
  exact ha.clock.imp Eq.symm And.symm

theorem Alike.max_moment (ha : Alike h t place l l') {till : Nat}
    (hc : t.catches (place l.world) till = true) :
    max (h.now l.world).nanos (t.moment (place l.world)) =
      max (h.now l'.world).nanos (t.moment (place l.world)) := by
  rcases ha.clock with hnow | ⟨hmiss, hmiss'⟩
  · rw [hnow]
  · -- it comes to neither before both have waited in vain
    rw [Nat.max_eq_right (t.le_moment hmiss hc), Nat.max_eq_right (t.le_moment hmiss' hc)]

/-! ## One wait of both -/

namespace Level

theorem takeIn (hp : KeepsTo h t place) (hl : Level h place l l') (bytes : List UInt8) :
    Level h place (takeIn h bytes l) (takeIn h bytes l') where
  window := by simp only [takeIn_session, hl.window]
  outputOpen := by simp only [takeIn_session, hl.outputOpen]
  errorsOpen := by simp only [takeIn_session, hl.errorsOpen]
  placed := by rw [(hp.still_takeIn bytes l).1, (hp.still_takeIn bytes l').1, hl.placed]
  now := by rw [(hp.still_takeIn bytes l).2, (hp.still_takeIn bytes l').2, hl.now]

theorem closeOutput (hp : KeepsTo h t place) (hl : Level h place l l') :
    Level h place
      { session := { l.session with outputOpen := false }, world := h.closeOutput l.world }
      { session := { l'.session with outputOpen := false }, world := h.closeOutput l'.world } where
  window := hl.window
  outputOpen := rfl
  errorsOpen := hl.errorsOpen
  placed := by rw [(hp.closeOutput _).1, (hp.closeOutput _).1, hl.placed]
  now := by rw [(hp.closeOutput _).2, (hp.closeOutput _).2, hl.now]

theorem closeErrors (hp : KeepsTo h t place) (hl : Level h place l l') :
    Level h place
      { session := { l.session with errorsOpen := false }, world := h.closeErrors l.world }
      { session := { l'.session with errorsOpen := false }, world := h.closeErrors l'.world } where
  window := hl.window
  outputOpen := hl.outputOpen
  errorsOpen := rfl
  placed := by rw [(hp.closeErrors _).1, (hp.closeErrors _).1, hl.placed]
  now := by rw [(hp.closeErrors _).2, (hp.closeErrors _).2, hl.now]

end Level

/-- Two waits, one of each session, bring the same and leave both at the same place and time. -/
def SameAnswer (h : Host ω) (place : ω → Nat) (l l' : Live ω) (answered answered' : Arrival × ω) :
    Prop :=
  ∀ a w, answered = (a, w) → ∃ w', answered' = (a, w') ∧
    Level h place { l with world := w } { l' with world := w' }

theorem SameView.sameAnswer (hv : SameView place l l') {answered answered' : Arrival × ω}
    {i now till now' till' : Nat}
    (hw : t.Wait i now till answered.1 (place answered.2) (h.now answered.2).nanos)
    (hw' : t.Wait i now' till' answered'.1 (place answered'.2) (h.now answered'.2).nanos)
    (hsame : ∀ {a j m}, t.Wait i now till a j m → t.Wait i now' till' a j m) :
    SameAnswer h place l l' answered answered' := by
  rintro a w rfl
  obtain ⟨ha, hplace, hnow⟩ := (hsame hw).unique hw'
  refine ⟨answered'.2, ?_, ⟨hv.window, hv.outputOpen, hv.errorsOpen, hplace⟩, ?_⟩
  · rw [show a = answered'.1 from ha]
  · exact congrArg Duration.mk hnow

theorem Level.sameAnswer_readErrors (hp : KeepsTo h t place) (hl : Level h place l l')
    (allowed : Duration) :
    SameAnswer h place l l' (h.readErrors allowed l.world) (h.readErrors allowed l'.world) := by
  have hwait := hp.readErrors allowed l.world
  rw [hl.placed, hl.now] at hwait
  exact hl.toSameView.sameAnswer hwait (hp.readErrors allowed l'.world) id

theorem Drains.level (hp : KeepsTo h t place) (hl : Level h place l l')
    (hd : Drains h l chunks errorsEnded l₁) :
    ∃ l₁', Drains h l' chunks errorsEnded l₁' ∧ Level h place l₁ l₁' := by
  induction hd generalizing l' with
  | closed hc => exact ⟨l', .closed (hl.errorsOpen ▸ hc), hl⟩
  | silent ho ha =>
    obtain ⟨w', ha', hl₁⟩ := hl.sameAnswer_readErrors hp _ _ _ ha
    exact ⟨_, .silent (hl.errorsOpen ▸ ho) ha', hl₁⟩
  | ended ho ha =>
    obtain ⟨w', ha', hl₁⟩ := hl.sameAnswer_readErrors hp _ _ _ ha
    exact ⟨_, .ended (hl.errorsOpen ▸ ho) ha', hl₁.closeErrors hp⟩
  | fault ho ha =>
    obtain ⟨w', ha', hl₁⟩ := hl.sameAnswer_readErrors hp _ _ _ ha
    exact ⟨_, .fault (hl.errorsOpen ▸ ho) ha', hl₁.closeErrors hp⟩
  | chunk ho ha _ ih =>
    obtain ⟨w', ha', hl₁⟩ := hl.sameAnswer_readErrors hp _ _ _ ha
    obtain ⟨l₁', hd', hl₂⟩ := ih (hl₁.takeIn hp _)
    exact ⟨l₁', .chunk (hl.errorsOpen ▸ ho) ha' hd', hl₂⟩

theorem Reads.level (hp : KeepsTo h t place)
    (hsame : SameAnswer h place l l' (h.read l.session.errorsOpen allowed l.world)
      (h.read l'.session.errorsOpen allowed' l'.world))
    (hr : Reads h allowed l reading l₁) :
    ∃ l₁', Reads h allowed' l' reading l₁' ∧ Level h place l₁ l₁' := by
  cases hr with
  | nothing ha =>
    obtain ⟨w', ha', hl⟩ := hsame _ _ ha
    exact ⟨_, .nothing ha', hl⟩
  | chunk ha =>
    obtain ⟨w', ha', hl⟩ := hsame _ _ ha
    exact ⟨_, .chunk ha', hl.takeIn hp _⟩
  | errorsEnded ha =>
    obtain ⟨w', ha', hl⟩ := hsame _ _ ha
    exact ⟨_, .errorsEnded ha', hl.closeErrors hp⟩
  | outputEnded ha hd =>
    obtain ⟨w', ha', hl⟩ := hsame _ _ ha
    obtain ⟨l₁', hd', hl₁⟩ := hd.level hp (hl.closeOutput hp)
    exact ⟨l₁', .outputEnded ha' hd', hl₁⟩
  | fault ha =>
    obtain ⟨w', ha', hl⟩ := hsame _ _ ha
    exact ⟨_, .fault ha', hl⟩

/-- A wait that gets the next outcome gets the same for both, if the other one still gets it too;
and so does one that gets nothing until the same moment. -/
theorem Alike.reads (hp : KeepsTo h t place) (ha : Alike h t place l l')
    (hcaught : t.catches (place l.world) ((h.now l.world).nanos + allowed.nanos) = true →
      t.catches (place l.world) ((h.now l'.world).nanos + allowed'.nanos) = true)
    (hmissed : t.catches (place l.world) ((h.now l.world).nanos + allowed.nanos) = false →
      (h.now l.world).nanos + allowed.nanos = (h.now l'.world).nanos + allowed'.nanos)
    (hr : Reads h allowed l reading l₁) :
    ∃ l₁', Reads h allowed' l' reading l₁' ∧ Level h place l₁ l₁' := by
  have hwait' := hp.read l'.session.errorsOpen allowed' l'.world
  rw [← ha.placed] at hwait'
  refine hr.level hp (ha.toSameView.sameAnswer (hp.read _ _ _) hwait'
    (Timeline.Wait.transfer ?_ ?_))
  · exact fun hc => ⟨hcaught hc, ha.max_moment hc⟩
  · exact fun hm => ⟨by rw [← hmissed hm, hm], hmissed hm⟩

/-- A wait that does not get the next outcome leaves the session where it was. -/
theorem Reads.missed (hp : KeepsTo h t place) (hr : Reads h allowed l reading l₁)
    (hm : t.catches (place l.world) ((h.now l.world).nanos + allowed.nanos) = false) :
    l₁.session = l.session ∧ place l₁.world = place l.world ∧
      (h.now l₁.world).nanos = (h.now l.world).nanos + allowed.nanos := by
  have hnothing := hp.read l.session.errorsOpen allowed l.world
  obtain ⟨ha, hplace, hnow⟩ := hnothing.unique (.missed hm)
  cases hr with
  | nothing hread =>
    rw [hread] at hplace hnow
    exact ⟨rfl, hplace, hnow⟩
  | chunk hread | errorsEnded hread | outputEnded hread _ | fault hread =>
    rw [hread] at ha
    cases ha

theorem Alike.lt_of_catches (ha : Alike h t place l l') {till : Nat}
    (hc : t.catches (place l.world) till = true) (hlt : (h.now l.world).nanos < till) :
    (h.now l'.world).nanos < till := by
  rcases ha.clock with hnow | ⟨-, hmiss⟩
  · rwa [← hnow]
  · by_contra hle
    rw [t.catches_of_le (Nat.le_of_not_lt hle) hc] at hmiss
    cases hmiss

/-- What does not come in time for one of them has not come yet to the other. -/
theorem Alike.catches_eq_false (ha : Alike h t place l l') {till : Nat}
    (hc : t.catches (place l.world) till = false) (hle : (h.now l.world).nanos ≤ till) :
    t.catches (place l.world) (h.now l'.world).nanos = false := by
  rcases ha.clock with hnow | ⟨-, hmiss⟩
  · rw [← hnow, Bool.eq_false_iff]
    intro hcaught
    rw [t.catches_of_le hle hcaught] at hc
    cases hc
  · exact hmiss

/-- One that has waited in vain is to the other one as it was. -/
theorem Alike.missed (hp : KeepsTo h t place) (ha : Alike h t place l l')
    (hr : Reads h allowed l reading l₁)
    (hm : t.catches (place l.world) ((h.now l.world).nanos + allowed.nanos) = false) :
    Alike h t place l₁ l' := by
  obtain ⟨hsession, hplace, hnow⟩ := hr.missed hp hm
  refine ⟨⟨?_, ?_, ?_, hplace.trans ha.placed⟩, .inr ⟨?_, ?_⟩⟩
  · rw [hsession, ha.window]
  · rw [hsession, ha.outputOpen]
  · rw [hsession, ha.errorsOpen]
  · rw [hplace, hnow, hm]
  · rw [hplace]
    exact ha.catches_eq_false hm (Nat.le_add_right _ _)

end Live
end Parley

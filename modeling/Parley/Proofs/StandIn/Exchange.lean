import Parley.Proofs.Pattern.Literal
import Parley.Proofs.Session.Outcome
import Parley.Proofs.StandIn.Hosted
import Parley.Proofs.Window.Append
import Parley.Proofs.Window.Pursuit

/-!
# Parley.Proofs.StandIn.Exchange

One expectation of a session with a stand-in. Whatever the chunks, what counts is the text that is
unread in the window together with what the stand-in still prints before it waits.

* `InStep`: the session talks, and this text is `text`.
* `Advances`: a read settles the wait for a pattern or leaves less to read.
* `Hosted.settles`: reading goes on until the pattern is there or nothing is left to read.
* `Hosted.expect_found`, `Hosted.expect_silent`, `Hosted.expect_gone`: a literal is found where it
  stands leftmost in the text, and otherwise the time runs out or the output ends.
* `Hosted.expect_end`: the end of the output, once the stand-in has ended.
-/

namespace Parley
namespace StandIn

open Utf8 Live Pattern

variable {ω : Type} {h : Host ω} {settings : Settings} {f : Faults} {port : String}
  {view : ω → Dialogue} {e : Expectation} {l l' lk : Live ω} {text before after : List Char}
  {begun : ω} {o : Option Outcome}

/-- A session that can be talked to. -/
structure Talking (settings : Settings) (s : Session) : Prop where
  phase : s.phase = .running
  inputOpen : s.inputOpen = true
  status : s.status = none
  timeout : s.timeout = settings.timeout
  lineEnding : s.lineEnding = settings.lineEnding

theorem Talking.hear {s : Session} (ht : Talking settings s) (reading : Reading) :
    Talking settings (s.hear reading) where
  phase := by rw [Session.hear_phase, ht.phase]
  inputOpen := by rw [Session.hear_inputOpen, ht.inputOpen]
  status := by rw [Session.hear_status, ht.status]
  timeout := by rw [Session.hear_timeout, ht.timeout]
  lineEnding := by rw [Session.hear_lineEnding, ht.lineEnding]

theorem Talking.with_window {s : Session} (ht : Talking settings s) (window : Window) :
    Talking settings { s with window } :=
  ⟨ht.phase, ht.inputOpen, ht.status, ht.timeout, ht.lineEnding⟩

/-- A session talks, and `text` is what is unread: what its window holds, and behind it what the
stand-in still prints before it waits. -/
structure InStep (settings : Settings) (view : ω → Dialogue) (l : Live ω) (text : List Char) :
    Prop where
  talking : Talking settings l.session
  bytes : l.session.window.bytes ++ (view l.world).unread = encode text
  fits : (encode text).length ≤ l.session.window.capacity
  capacity : settings.capacity ≤ l.session.window.capacity

/-- Where reading for a pattern stops. -/
inductive Settled (h : Host ω) (view : ω → Dialogue) (e : Expectation) (l : Live ω) : Prop
  /-- The pattern is there. -/
  | found {o : Occurrence} :
      l.session.window.find? e.pattern = some o → l.session.outputOpen = true →
      (view l.world).spent = false → Settled h view e l
  /-- Nothing is left to read, and the stand-in waits. -/
  | silent :
      l.session.window.find? e.pattern = none → l.session.outputOpen = true →
      (view l.world).unread = [] → (view l.world).left = false →
      e.isOverdue (h.now l.world) = true → Settled h view e l
  /-- The stand-in has ended, and all of its output was read. -/
  | gone :
      l.session.window.find? e.pattern = none → l.session.outputOpen = false →
      (view l.world).unread = [] → (view l.world).left = true → (view l.world).spent = true →
      Settled h view e l

/-- What a wait for a pattern keeps: the text, and how the stand-in has come out. -/
structure Going (settings : Settings) (view : ω → Dialogue) (f : Faults) (o : Option Outcome)
    (l : Live ω) (text : List Char) : Prop where
  inStep : InStep settings view l text
  faults : (view l.world).faults = f
  outcome : (view l.world).outcome = o

/-- Whether the stand-in has ended stays as it is while its output is read. -/
theorem Going.left_eq (hg : Going settings view f o l text) :
    (view l.world).left = o.any (· != .stuck) := by
  rw [Dialogue.left, hg.outcome]

theorem Hosted.view_takeIn (hh : Hosted h settings f port view) (bytes : List UInt8) :
    view (takeIn h bytes l).world = view l.world := by
  unfold takeIn
  split
  · exact hh.display bytes l.world
  · rfl

theorem waits_takeIn {bytes : List UInt8} (hw : Waits h begun l.world) :
    Waits h begun (takeIn h bytes l).world := by
  unfold takeIn
  split
  · exact hw.display bytes
  · exact hw

/-- Behind the end of the output the second stream brings nothing more. -/
theorem Hosted.drains (hh : Hosted h settings f port view) (l : Live ω) :
    ∃ errorsEnded l', Drains h l [] errorsEnded l' ∧ view l'.world = view l.world := by
  by_cases ho : l.session.errorsOpen = true
  · obtain ⟨harrival, hview⟩ := hh.readErrors Session.drainWait l.world
    rcases ha : h.readErrors Session.drainWait l.world with ⟨a, w⟩
    rw [ha] at harrival hview
    rcases harrival with rfl | ⟨stream, rfl⟩
    · exact ⟨false, _, .silent ho ha, hview⟩
    · exact ⟨true, _, .ended ho ha, by rw [hh.closeErrors, hview]⟩
  · exact ⟨false, l, .closed (by simpa using ho), rfl⟩

/-- A chunk goes from the stand-in to the window. -/
theorem Going.chunk (hh : Hosted h settings f port view)
    (hg : Going settings view f o l text) {bytes rest : List UInt8} {w : ω}
    (hsplit : (view l.world).unread = bytes ++ rest)
    (hview : view w = { view l.world with unread := rest }) :
    Going settings view f o (takeIn h bytes { l with world := w }) text := by
  have hall := hg.inStep.bytes
  rw [hsplit, ← List.append_assoc] at hall
  have hwindow : (l.session.window.append bytes).bytes = l.session.window.bytes ++ bytes :=
    Window.append_of_prefix ⟨rest, hall⟩ hg.inStep.fits
  have hafter : view (takeIn h bytes { l with world := w }).world =
      { view l.world with unread := rest } := by rw [hh.view_takeIn, hview]
  exact {
    inStep := {
      talking := hg.inStep.talking.hear (.chunk .output bytes)
      bytes := by rw [hafter, takeIn, hwindow, hall]
      fits := by
        have := hg.inStep.fits
        rwa [takeIn, Window.append_capacity]
      capacity := by
        have := hg.inStep.capacity
        rwa [takeIn, Window.append_capacity] }
    faults := by rw [hafter]; exact hg.faults
    outcome := by rw [hafter]; exact hg.outcome }

/-- Nothing but ends of streams, or nothing at all, was read. -/
theorem Going.idle (hg : Going settings view f o l text) {reading : Reading}
    (hsession : l'.session = l.session.hear reading)
    (hwindow : l'.session.window = l.session.window) {spent : Bool}
    (hview : view l'.world = { view l.world with spent }) : Going settings view f o l' text where
  inStep := {
    talking := by rw [hsession]; exact hg.inStep.talking.hear reading
    bytes := by rw [hwindow, hview]; exact hg.inStep.bytes
    fits := by rw [hwindow]; exact hg.inStep.fits
    capacity := by rw [hwindow]; exact hg.inStep.capacity }
  faults := by rw [hview]; exact hg.faults
  outcome := by rw [hview]; exact hg.outcome

/-- A wait for a pattern, begun in some state of the host; the output goes on. -/
structure Reaching (h : Host ω) (settings : Settings) (view : ω → Dialogue) (begun : ω)
    (e : Expectation) (l : Live ω) : Prop where
  waits : Waits h begun l.world
  outputOpen : l.session.outputOpen = true
  spent : (view l.world).spent = false
  start : e.start = h.now begun
  allowed : e.allowed = settings.timeout

/-- What can still be read: bytes, and the end of the second stream. -/
def leftToRead (view : ω → Dialogue) (l : Live ω) : Nat :=
  (view l.world).unread.length + l.session.errorsOpen.toNat

theorem Hosted.settled_of_due (hh : Hosted h settings f port view)
    (hr : Reaching h settings view begun e l) (hd : Due h e l) : Settled h view e l := by
  cases hfind : l.session.window.find? e.pattern with
  | some o => exact .found hfind hr.outputOpen hr.spent
  | none =>
    have hlate : e.isOverdue (h.now l.world) = true := by
      simpa [due_iff, hfind, hr.outputOpen] using hd
    have hidle : ¬ (view l.world).Pending := by
      intro hpending
      have htime := hh.inTime begun _ hr.waits hpending
      rw [Expectation.isOverdue_iff, hr.allowed, hr.start] at hlate
      exact absurd hlate (Nat.not_le_of_lt htime)
    obtain ⟨hunread, hleft⟩ : (view l.world).unread = [] ∧ (view l.world).left = false := by
      simpa [Dialogue.Pending, hr.spent] using hidle
    exact .silent hfind hr.outputOpen hunread hleft hlate

/-! ## One read -/

/-- A read goes well, and it settles the wait or leaves less to read. -/
def Advances (h : Host ω) (settings : Settings) (view : ω → Dialogue) (f : Faults)
    (o : Option Outcome) (begun : ω) (e : Expectation) (l : Live ω) (text : List Char) : Prop :=
  ∃ reading l', Reads h (e.remaining (h.now l.world)) l reading l' ∧ answer reading = .ok () ∧
    Going settings view f o l' text ∧
    (Settled h view e l' ∨
      Reaching h settings view begun e l' ∧ leftToRead view l' < leftToRead view l)

section

variable {w : ω}

theorem advances_chunk (hh : Hosted h settings f port view)
    (hg : Going settings view f o l text) (hr : Reaching h settings view begun e l)
    {b : UInt8} {bytes rest : List UInt8}
    (ha : h.read l.session.errorsOpen (e.remaining (h.now l.world)) l.world =
      (.chunk .output (b :: bytes), w))
    (hsplit : (view l.world).unread = b :: bytes ++ rest)
    (hview : view w = { view l.world with unread := rest }) :
    Advances h settings view f o begun e l text := by
  have hwaits := hr.waits.read l.session.errorsOpen (e.remaining (h.now l.world))
  rw [ha] at hwaits
  have htaken : view (takeIn h (b :: bytes) { l with world := w }).world =
      { view l.world with unread := rest } := by rw [hh.view_takeIn, hview]
  refine ⟨_, _, .chunk ha, rfl, hg.chunk hh hsplit hview, .inr ⟨?_, ?_⟩⟩
  · exact {
      waits := waits_takeIn hwaits
      outputOpen := by rw [takeIn_session, ← hr.outputOpen]
      spent := by rw [htaken]; exact hr.spent
      start := hr.start
      allowed := hr.allowed }
  · rw [leftToRead, leftToRead, htaken, hsplit, List.length_append, List.length_cons,
      takeIn_session]
    simp only
    omega

theorem advances_outputEnded (hh : Hosted h settings f port view)
    (hg : Going settings view f o l text)
    (hfind : l.session.window.find? e.pattern = none)
    (ha : h.read l.session.errorsOpen (e.remaining (h.now l.world)) l.world =
      (.chunk .output [], w))
    (hunread : (view l.world).unread = []) (hleft : (view l.world).left = true)
    (hview : view w = { view l.world with spent := true }) :
    Advances h settings view f o begun e l text := by
  obtain ⟨errorsEnded, l', hdrains, hdrained⟩ := hh.drains
    { session := { l.session with outputOpen := false }, world := h.closeOutput w }
  have hreads : Reads h (e.remaining (h.now l.world)) l _ l' := .outputEnded ha hdrains
  have hsession := hreads.session
  have hwindow : l'.session.window = l.session.window := by rw [hsession]; rfl
  have hview' : view l'.world = { view l.world with spent := true } := by
    rw [hdrained, hh.closeOutput, hview]
  have hgone : (view l'.world).left = true := by rw [hview']; exact hleft
  refine ⟨_, l', hreads, rfl, hg.idle hsession hwindow hview', .inl ?_⟩
  exact .gone (by rw [hwindow, hfind]) (by rw [hsession]; rfl) (by rw [hview', hunread]) hgone
    (by rw [hview'])

theorem advances_errorsEnded (hh : Hosted h settings f port view)
    (hg : Going settings view f o l text) (hr : Reaching h settings view begun e l)
    (ha : h.read l.session.errorsOpen (e.remaining (h.now l.world)) l.world =
      (.chunk .errors [], w))
    (herrors : l.session.errorsOpen = true) (hview : view w = view l.world) :
    Advances h settings view f o begun e l text := by
  have hwaits := hr.waits.read l.session.errorsOpen (e.remaining (h.now l.world))
  rw [ha] at hwaits
  have hreads : Reads h (e.remaining (h.now l.world)) l _ _ := .errorsEnded ha
  have hview' : view (h.closeErrors w) = view l.world := by rw [hh.closeErrors, hview]
  refine ⟨_, _, hreads, rfl, hg.idle hreads.session rfl hview', .inr ⟨?_, ?_⟩⟩
  · exact {
      waits := hwaits.closeErrors
      outputOpen := hr.outputOpen
      spent := by rw [hview']; exact hr.spent
      start := hr.start
      allowed := hr.allowed }
  · rw [leftToRead, leftToRead, hview', herrors]
    simp

/-- A wait that brings nothing has used up the time. -/
theorem advances_nothing (hh : Hosted h settings f port view)
    (hg : Going settings view f o l text) (hr : Reaching h settings view begun e l)
    (hfind : l.session.window.find? e.pattern = none)
    (hpos : Duration.zero < e.remaining (h.now l.world))
    (ha : h.read l.session.errorsOpen (e.remaining (h.now l.world)) l.world = (.nothing, w))
    (hunread : (view l.world).unread = []) (hleft : (view l.world).left = false)
    (hview : view w = view l.world) :
    Advances h settings view f o begun e l text := by
  have helapsed := hh.elapsed l.session.errorsOpen (e.remaining (h.now l.world)) l.world
  rw [ha] at helapsed
  have htime : 0 < e.allowed.nanos - ((h.now l.world).nanos - e.start.nanos) := hpos
  have htaken : e.allowed.nanos - ((h.now l.world).nanos - e.start.nanos) ≤
      (h.now w).nanos - (h.now l.world).nanos := helapsed rfl
  have hforward : e.start.nanos ≤ (h.now l.world).nanos := by
    rw [hr.start]
    exact hh.forward begun _ hr.waits
  have hlate : e.isOverdue (h.now w) = true := by
    rw [Expectation.isOverdue_iff]
    omega
  have hreads : Reads h (e.remaining (h.now l.world)) l _ _ := .nothing ha
  refine ⟨_, _, hreads, rfl, hg.idle hreads.session rfl hview, .inl ?_⟩
  exact .silent hfind hr.outputOpen (by rw [hview, hunread]) (by rw [hview, hleft]) hlate

end

/-- Every read of a wait that is not due advances it. -/
theorem Hosted.advances (hh : Hosted h settings f port view)
    (hg : Going settings view f o l text) (hr : Reaching h settings view begun e l)
    (hd : ¬ Due h e l) : Advances h settings view f o begun e l text := by
  obtain ⟨hfind, -, hlate⟩ := not_due_iff.1 hd
  have hpos : Duration.zero < e.remaining (h.now l.world) := by
    have hsoon : ¬ e.allowed.nanos ≤ (h.now l.world).nanos - e.start.nanos := by
      rw [← Expectation.isOverdue_iff, hlate]
      exact Bool.false_ne_true
    exact Nat.sub_pos_of_lt (Nat.lt_of_not_le hsoon)
  have hbrings := hh.read l.session.errorsOpen _ l.world hpos
  rcases ha : h.read l.session.errorsOpen (e.remaining (h.now l.world)) l.world with ⟨a, w⟩
  rw [ha] at hbrings
  generalize hv : view l.world = v at hbrings
  generalize hw : view w = v' at hbrings
  cases hbrings with
  | chunk hne hsplit =>
    obtain ⟨b, bytes, rfl⟩ := List.exists_cons_of_ne_nil hne
    subst hv
    exact advances_chunk hh hg hr ha hsplit hw
  | outputEnded hunread hleft =>
    subst hv
    exact advances_outputEnded hh hg hfind ha hunread hleft hw
  | errorsEnded herrors _ =>
    exact advances_errorsEnded hh hg hr ha herrors (hw.trans hv.symm)
  | nothing hunread hleft =>
    subst hv
    exact advances_nothing hh hg hr hfind hpos ha hunread hleft hw

/-- Reading for a pattern goes on until it is there or nothing is left to read. -/
theorem Hosted.settles (hh : Hosted h settings f port view)
    (hg : Going settings view f o l text) (hr : Reaching h settings view begun e l) :
    ∃ readings lk, Heard h e l readings lk ∧ Going settings view f o lk text ∧
      Settled h view e lk := by
  induction hn : leftToRead view l using Nat.strong_induction_on generalizing l with
  | _ n ih =>
    by_cases hd : Due h e l
    · exact ⟨[], l, .refl, hg, hh.settled_of_due hr hd⟩
    · obtain ⟨reading, l', hreads, hans, hg', hnext⟩ := hh.advances hg hr hd
      rcases hnext with hsettled | ⟨hr', hless⟩
      · exact ⟨_, l', .cons hd hreads (answer_eq_ok_iff.1 hans) .refl, hg', hsettled⟩
      · obtain ⟨readings, lk, hheard, hgk, hsettled⟩ := ih _ (hn ▸ hless) hg' hr' rfl
        exact ⟨_, lk, .cons hd hreads (answer_eq_ok_iff.1 hans) hheard, hgk, hsettled⟩

/-! ## Expectations -/

/-- A session in step whose output goes on. -/
structure Engaged (settings : Settings) (view : ω → Dialogue) (f : Faults) (o : Option Outcome)
    (l : Live ω) (text : List Char) : Prop where
  going : Going settings view f o l text
  outputOpen : l.session.outputOpen = true
  spent : (view l.world).spent = false

theorem Engaged.not_closed (hl : Engaged settings view f o l text) :
    l.session.phase ≠ .closed := by
  rw [hl.going.inStep.talking.phase]
  decide

theorem Hosted.expects (hh : Hosted h settings f port view)
    (hl : Engaged settings view f o l text) (p : Pattern) :
    ∃ lk, Going settings view f o lk text ∧
      Settled h view ⟨p, h.now l.world, settings.timeout⟩ lk ∧
      ∀ r l', Verdict h ⟨p, h.now l.world, settings.timeout⟩ lk r l' →
        ∃ n, expect h n p settings.timeout l = some (r, l') := by
  have hr : Reaching h settings view l.world ⟨p, h.now l.world, settings.timeout⟩ l :=
    ⟨.refl, hl.outputOpen, hl.spent, rfl, rfl⟩
  obtain ⟨readings, lk, hheard, hgk, hsettled⟩ := hh.settles hl.going hr
  refine ⟨lk, hgk, hsettled, ?_⟩
  intro r l' hv
  obtain ⟨n, hn⟩ := hheard.complete hv
  exact ⟨n, by rw [expect_of_not_closed hl.not_closed, hn]⟩

/-- A window whose front takes a literal from the text leaves the rest of the text. -/
theorem Going.take {s : String} {occurrence : Occurrence}
    (hg : Going settings view f o l text) (hleft : Leftmost s.toList text before after)
    (hfind : l.session.window.find? (.literal s) = some occurrence) :
    Going settings view f o
      (l.update fun s => { s with window := (l.session.window.take occurrence).2 }) after := by
  obtain ⟨ds, r, htext, hbytes, -, hrest⟩ := encode_text_append hg.inStep.bytes
  obtain ⟨before', after', hleft'⟩ := exists_leftmost (infix_of_find?_literal hfind)
  have hwhole : Leftmost s.toList text before' (after' ++ ds) := htext ▸ hleft'.append ds
  obtain ⟨rfl, rfl⟩ := hwhole.unique hleft
  have hocc := find?_literal_of_leftmost hleft'
  rw [show (Pattern.literal s).find? l.session.window.text = some occurrence from hfind,
    Option.some.injEq] at hocc
  have htaken := (Window.take_leftmost hleft' hbytes).2
  rw [← hocc] at htaken
  exact {
    inStep := {
      talking := hg.inStep.talking.with_window _
      bytes := by
        simp only [update, htaken]
        rw [List.append_assoc, hrest, encode_append]
      fits := by
        have hfits := hg.inStep.fits
        simp only [update, htaken]
        rw [hleft.text_eq] at hfits
        simp only [length_encode, size_append] at hfits ⊢
        omega
      capacity := by
        simp only [update, htaken]
        exact hg.inStep.capacity }
    faults := hg.faults
    outcome := hg.outcome }

/-- Once nothing is left to read, the window holds all of the text. -/
theorem Going.window_text (hg : Going settings view f o l text)
    (hunread : (view l.world).unread = []) : l.session.window.text = text := by
  have hbytes := hg.inStep.bytes
  rw [hunread, List.append_nil] at hbytes
  rw [Window.text, hbytes, text_encode]

theorem Going.text_prefix (hg : Going settings view f o l text) :
    l.session.window.text <+: text := by
  obtain ⟨ds, r, htext, -⟩ := encode_text_append hg.inStep.bytes
  exact ⟨ds, htext.symm⟩

/-- A literal that stands in the text is found where it stands leftmost. -/
theorem Hosted.expect_found (hh : Hosted h settings f port view)
    (hl : Engaged settings view f o l text) {s : String}
    (hleft : Leftmost s.toList text before after) :
    ∃ n excerpt l', expect h n (.literal s) settings.timeout l = some (.ok excerpt, l') ∧
      Engaged settings view f o l' after := by
  obtain ⟨lk, hgk, hsettled, hverdict⟩ := hh.expects hl (.literal s)
  have hnone (hfind : lk.session.window.find? (.literal s) = none)
      (hunread : (view lk.world).unread = []) : False := by
    have hsome := find?_literal_of_leftmost hleft
    rw [← hgk.window_text hunread] at hsome
    rw [Window.find?, hsome] at hfind
    cases hfind
  cases hsettled with
  | found hfind hopen hover =>
    obtain ⟨n, hn⟩ := hverdict _ _ (.of_find? hfind)
    exact ⟨n, _, _, hn, hgk.take hleft hfind, hopen, hover⟩
  | silent hfind _ hunread _ _ => exact (hnone hfind hunread).elim
  | gone hfind _ hunread _ _ => exact (hnone hfind hunread).elim

/-- A literal that does not stand in the text of a stand-in that waits is waited for in vain. -/
theorem Hosted.expect_silent (hh : Hosted h settings f port view)
    (hl : Engaged settings view f none l text) {s : String} (hnot : ¬ s.toList <:+: text) :
    ∃ n unread l', expect h n (.literal s) settings.timeout l =
      some (.error (.timedOut settings.timeout s unread), l') := by
  obtain ⟨lk, hgk, hsettled, hverdict⟩ := hh.expects hl (.literal s)
  cases hsettled with
  | found hfind _ _ =>
    exact absurd ((infix_of_find?_literal hfind).trans hgk.text_prefix.isInfix) hnot
  | silent hfind hopen _ _ hlate =>
    obtain ⟨n, hn⟩ := hverdict _ _ (.timedOut hfind hopen (Expectation.isOverdue_iff.1 hlate))
    exact ⟨n, _, _, hn⟩
  | gone _ _ _ hleft _ =>
    rw [hgk.left_eq] at hleft
    cases hleft

/-- A literal that does not stand in the text of a stand-in that has ended is missed when the output
ends. -/
theorem Hosted.expect_gone (hh : Hosted h settings f port view) {code : Nat}
    (hl : Engaged settings view f (some (.exit code)) l text) {s : String}
    (hnot : ¬ s.toList <:+: text) :
    ∃ n status unread l', expect h n (.literal s) settings.timeout l =
      some (.error (.ended s status unread), l') := by
  obtain ⟨lk, hgk, hsettled, hverdict⟩ := hh.expects hl (.literal s)
  cases hsettled with
  | found hfind _ _ =>
    exact absurd ((infix_of_find?_literal hfind).trans hgk.text_prefix.isInfix) hnot
  | silent _ _ _ hleft _ =>
    rw [hgk.left_eq] at hleft
    cases hleft
  | gone hfind hopen _ _ _ =>
    rcases hc : collect h Session.reapWait lk with ⟨status, l'⟩
    obtain ⟨n, hn⟩ := hverdict _ _ (.ended hfind hopen nofun (collects_iff.2 hc))
    exact ⟨n, _, _, _, hn⟩

/-- The end of the output comes once a stand-in has ended, and its end is recorded. -/
theorem Hosted.expect_end (hh : Hosted h settings f port view) {code : Nat}
    (hl : Engaged settings view f (some (.exit code)) l text) :
    ∃ n excerpt l', expect h n .endOfOutput settings.timeout l = some (.ok excerpt, l') ∧
      l'.session.status = some (.exited code) ∧ l'.session.phase ≠ .closed := by
  obtain ⟨lk, hgk, hsettled, hverdict⟩ := hh.expects hl .endOfOutput
  cases hsettled with
  | found hfind _ _ => cases hfind
  | silent _ _ _ hleft _ =>
    rw [hgk.left_eq] at hleft
    cases hleft
  | gone hfind hopen _ _ hover =>
    have hawait := hh.await Session.reapWait lk.world code hgk.outcome hover
    rcases ha : h.await Session.reapWait lk.world with ⟨ending, w⟩
    rw [ha] at hawait
    simp only at hawait
    subst hawait
    have hc : collect h Session.reapWait lk = (some (.exited code),
        { session := { lk.session with
            status := some (.exited code), phase := .exited (.exited code) }
          world := w }) := by
      rw [collect, hgk.inStep.talking.status, ha]
      simp [hgk.inStep.talking.phase]
    obtain ⟨n, hn⟩ := hverdict _ _ (.wholeOutput hfind hopen rfl (collects_iff.2 hc))
    exact ⟨n, _, _, hn, rfl, by simp⟩

/-! ## Lines -/

/-- A line that is sent with its ending, as the stand-in reads it. -/
structure Sendable (line : String) (ending : LineEnding) : Prop where
  trim : Text.trim (line ++ ending.terminator).toList = line.toList
  nonempty : line.isEmpty = false
  single : splitLines [] (line ++ ending.terminator).toUTF8.toList =
    [(line ++ ending.terminator).toUTF8.toList]

/-- A line that is sent is heard, and what the stand-in then prints comes behind the text. -/
theorem Hosted.sends (hh : Hosted h settings f port view)
    (hl : Engaged settings view f none l text) {line : String}
    (hline : Sendable line settings.lineEnding) {writes : List String}
    (hhear : (view l.world).hear (line ++ settings.lineEnding.terminator).toUTF8.toList =
      { (view l.world).say writes with outcome := o })
    (hfits : size (text ++ writes.flatMap String.toList) ≤ settings.capacity) :
    ∃ w, sendLine h line l = (.ok (), { l with world := w }) ∧
      Engaged settings view f o { l with world := w } (text ++ writes.flatMap String.toList) := by
  obtain ⟨hok, hview⟩ := hh.write _ l.world hl.going.outcome hline.single
  rcases hw : h.write (line ++ settings.lineEnding.terminator).toUTF8.toList l.world with ⟨r, w⟩
  rw [hw] at hok hview
  simp only at hok hview
  subst hok
  have htalking := hl.going.inStep.talking
  refine ⟨w, ?_, ⟨⟨⟨htalking, ?_, ?_, hl.going.inStep.capacity⟩, ?_, ?_⟩, hl.outputOpen, ?_⟩⟩
  · rw [sendLine, htalking.lineEnding, send, htalking.inputOpen, hw]
    rfl
  · rw [hview, hhear, encode_append, ← hl.going.inStep.bytes, List.append_assoc]
    rfl
  · rw [length_encode]
    exact hfits.trans hl.going.inStep.capacity
  · rw [hview, hhear]
    exact hl.going.faults
  · rw [hview, hhear]
  · rw [hview, hhear]
    exact hl.spent

end StandIn
end Parley

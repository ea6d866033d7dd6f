import Parley.Proofs.Session.Stage
import Parley.Proofs.StandIn.Bench
import Parley.Proofs.StandIn.Exchange
import Parley.Script.Smoke

/-!
# Parley.Proofs.Script.Smoke

The smoke script against the stand-in. Behind every step that has passed only prompts and blank
lines are unread, so no step can take the reply to an earlier one for its own, and the step at which
the script fails is the one whose line meets a fault.

* `Asks`: a step that sends a line and waits for a text that comes with a reply or not at all.
* `Asks.crashes`, `Asks.muted`, `Asks.answered`, `Asks.farewell`: what such a step comes to.
* `questions_comeTo`: steps one after another, from a leftover on.
* `smoke_localises_faults`: what the whole script comes to.
-/

namespace Parley
namespace Smoke

open StandIn Utf8 Pattern Scene

/-- What can be unread behind a step that has passed. -/
def leftovers : List (List Char) := ["\n\nv4> ".toList, "\nv4> ".toList]

/-- Room enough for what is left over, a reply and a prompt. -/
def room : Nat := 100

/-- What the stand-in prints when it has heard a line. -/
def replyTo (line : String) : List Char :=
  ((respond line).1 ++ [StandIn.prompt]).flatMap String.toList

/-- A step that sends a line and waits for a text; without a reply the text is not there, whether
another prompt comes or not. -/
structure Asks (step : Step) (line text : String) : Prop where
  send : step.send = some line
  expect : step.expect = [.literal text]
  timeout : step.timeout = none
  sendable : ∀ ending, ending ≠ .cr → Sendable line ending
  absent : ∀ t ∈ leftovers, ¬ text.toList <:+: t ++ StandIn.prompt.toList
  small : ∀ t ∈ leftovers, size (t ++ replyTo line) ≤ room

variable {ω : Type} {h : Host ω} {settings : Settings} {f : Faults} {port : String}
  {view : ω → Dialogue} {audience : Bool} {step : Step} {line text : String}
  {s s' : Session × Scene ω} {t : List Char} {o : Option Outcome}

/-- A script is played where a stand-in runs that goes wrong in some ways. -/
structure Played (h : Host ω) (settings : Settings) (f : Faults) (port : String)
    (view : ω → Dialogue) : Prop where
  hosted : Hosted h settings f port view
  room : room ≤ settings.capacity
  lineEnding : settings.lineEnding ≠ .cr

theorem engaged_tellOf (hh : Hosted h settings f port view)
    (hl : Engaged settings view f o (live s) t) (e : Event) :
    Engaged settings view f o (live (tellOf h audience e s)) t := by
  have hview : view (live (tellOf h audience e s)).world = view (live s).world := by
    simp only [live, tellOf, Scene.tell]
    split
    · exact hh.display _ _
    · rfl
  exact {
    going := {
      inStep := {
        talking := hl.going.inStep.talking
        bytes := by rw [hview]; exact hl.going.inStep.bytes
        fits := hl.going.inStep.fits
        capacity := hl.going.inStep.capacity }
      faults := by rw [hview]; exact hl.going.faults
      outcome := by rw [hview]; exact hl.going.outcome }
    outputOpen := hl.outputOpen
    spent := by rw [hview]; exact hl.spent }

/-- The line of a step is sent, and what the stand-in then prints comes behind the leftover. -/
theorem Asks.sends (hp : Played h settings f port view) (ha : Asks step line text)
    (hl : Engaged settings view f none (live s) t) (ht : t ∈ leftovers) {writes : List String}
    (hhear : (view (live s).world).hear (line ++ settings.lineEnding.terminator).toUTF8.toList =
      { (view (live s).world).say writes with outcome := o })
    (hless : size (writes.flatMap String.toList) ≤ size (replyTo line)) :
    ∃ s₁, Sends h settings audience step s s₁ ∧
      Engaged settings view f o (live s₁) (t ++ writes.flatMap String.toList) := by
  have hfits : size (t ++ writes.flatMap String.toList) ≤ settings.capacity := by
    have hsmall := ha.small t ht
    have hroom := hp.room
    rw [size_append] at hsmall ⊢
    omega
  obtain ⟨w, hsent, hl'⟩ := hp.hosted.sends hl (ha.sendable _ hp.lineEnding) hhear hfits
  exact ⟨_, sends_line ha.send hsent, hl'⟩

theorem Asks.allowed (ha : Asks step line text) (hs : Talking settings s.1) :
    step.timeout.getD s.1.timeout = settings.timeout := by
  rw [ha.timeout, Option.getD_none, hs.timeout]

/-- A step finds what the wait for its text does. -/
theorem Asks.finds (ha : Asks step line text) {s₁ : Session × Scene ω} {l' : Live ω} {n : Nat}
    {excerpt : Excerpt} (hs : Talking settings s.1)
    (hx : (live s₁).expect h n (.literal text) settings.timeout = some (.ok excerpt, l')) :
    ExpectsAll h settings audience (step.timeout.getD s.1.timeout) none step.expect s₁
      (.ok (some excerpt)) (put l' s₁) := by
  rw [ha.expect, ha.allowed hs]
  exact .taken hx .none_left

/-- A step fails as the wait for its text does. -/
theorem Asks.fails (ha : Asks step line text) {s₁ : Session × Scene ω} {l' : Live ω} {n : Nat}
    {cause : Failure} (hs : Talking settings s.1) (hsent : Sends h settings audience step s s₁)
    (hx : (live s₁).expect h n (.literal text) settings.timeout = some (.error cause, l')) :
    Plays h settings audience step s (.error cause) (put l' s₁) := by
  refine Plays.failed hsent ?_
  rw [ha.expect, ha.allowed hs]
  exact .missed hx

/-- A line at which the stand-in crashes ends the output without the text. -/
theorem Asks.crashes (hp : Played h settings f port view) (ha : Asks step line text)
    (hl : Engaged settings view f none (live s) t) (ht : t ∈ leftovers)
    (hc : f.crashOn = some line) :
    ∃ cause s', cause.kind = .termination ∧
      Plays h settings audience step s (.error cause) s' := by
  have hsendable := ha.sendable _ hp.lineEnding
  have hcrash : (view (live s).world).faults.crashOn = some line := by rw [hl.going.faults, hc]
  have hhear : (view (live s).world).hear (line ++ settings.lineEnding.terminator).toUTF8.toList =
      { (view (live s).world).say [] with outcome := some (.exit crashCode) } := by
    rw [Dialogue.hear_crash hsendable.trim hsendable.nonempty hcrash]
    simp [Dialogue.say]
  obtain ⟨s₁, hsent, hl'⟩ := ha.sends hp hl ht hhear (Nat.zero_le _)
  have hnot : ¬ text.toList <:+: t ++ [].flatMap String.toList := by
    rw [List.flatMap_nil, List.append_nil]
    exact fun hin => ha.absent t ht (hin.trans (List.prefix_append _ _).isInfix)
  obtain ⟨n, status, unread, l', hx⟩ := hp.hosted.expect_gone hl' hnot
  exact ⟨_, _, rfl, ha.fails hl.going.inStep.talking hsent hx⟩

/-- A line to which the stand-in gives no reply brings another prompt and then nothing. -/
theorem Asks.muted (hp : Played h settings f port view) (ha : Asks step line text)
    (hl : Engaged settings view f none (live s) t) (ht : t ∈ leftovers)
    (hc : f.crashOn ≠ some line) (hm : f.muteOn = some line) :
    ∃ cause s', cause.kind = .timeout ∧ Plays h settings audience step s (.error cause) s' := by
  have hsendable := ha.sendable _ hp.lineEnding
  have hcrash : (view (live s).world).faults.crashOn ≠ some line := by rwa [hl.going.faults]
  have hmute : (view (live s).world).faults.muteOn = some line := by rw [hl.going.faults, hm]
  have hhear : (view (live s).world).hear (line ++ settings.lineEnding.terminator).toUTF8.toList =
      { (view (live s).world).say [StandIn.prompt] with outcome := none } := by
    rw [Dialogue.hear_mute hsendable.trim hsendable.nonempty hcrash hmute, ← hl.going.outcome]
    rfl
  have hless : size ([StandIn.prompt].flatMap String.toList) ≤ size (replyTo line) := by
    simp [replyTo]
  obtain ⟨s₁, hsent, hl'⟩ := ha.sends hp hl ht hhear hless
  have hnot : ¬ text.toList <:+: t ++ [StandIn.prompt].flatMap String.toList := by
    rw [List.flatMap_singleton]
    exact ha.absent t ht
  obtain ⟨n, unread, l', hx⟩ := hp.hosted.expect_silent hl' hnot
  exact ⟨_, _, rfl, ha.fails hl.going.inStep.talking hsent hx⟩

/-- A reply is taken up to the text, and only a leftover stays behind it. -/
theorem Asks.answered (hp : Played h settings f port view) (ha : Asks step line text)
    (hl : Engaged settings view f none (live s) t) (ht : t ∈ leftovers)
    (hc : f.crashOn ≠ some line) (hm : f.muteOn ≠ some line)
    (hr : (respond line).2 = .prompt) (hexit : step.expectExit = false)
    {before after : List Char} (hleft : Leftmost text.toList (t ++ replyTo line) before after) :
    ∃ last s', Plays h settings audience step s (.ok last) s' ∧
      Engaged settings view f none (live s') after := by
  have hsendable := ha.sendable _ hp.lineEnding
  have hcrash : (view (live s).world).faults.crashOn ≠ some line := by rwa [hl.going.faults]
  have hmute : (view (live s).world).faults.muteOn ≠ some line := by rwa [hl.going.faults]
  have hhear : (view (live s).world).hear (line ++ settings.lineEnding.terminator).toUTF8.toList =
      { (view (live s).world).say ((respond line).1 ++ [StandIn.prompt]) with
        outcome := none } := by
    rw [Dialogue.hear_reply hsendable.trim hsendable.nonempty hcrash hmute hr, ← hl.going.outcome]
    rfl
  obtain ⟨s₁, hsent, hl'⟩ := ha.sends hp hl ht hhear (Nat.le_refl _)
  obtain ⟨n, excerpt, l', hx, hl''⟩ := hp.hosted.expect_found hl' hleft
  exact ⟨_, _, Plays.passed hsent (ha.finds hl.going.inStep.talking hx) hexit, hl''⟩

/-- A reply with which the stand-in ends is taken up to the text, and then the output ends. -/
theorem Asks.farewell (hp : Played h settings f port view) (ha : Asks step line text)
    (hl : Engaged settings view f none (live s) t) (ht : t ∈ leftovers)
    (hc : f.crashOn ≠ some line) (hm : f.muteOn ≠ some line) {code : Nat}
    (hr : (respond line).2 = .exit code) (hexit : step.expectExit = true)
    {before after : List Char}
    (hleft : Leftmost text.toList (t ++ (respond line).1.flatMap String.toList) before after) :
    ∃ last s', Plays h settings audience step s (.ok last) s' ∧
      s'.1.status = some (.exited code) ∧ s'.1.phase ≠ .closed := by
  have hsendable := ha.sendable _ hp.lineEnding
  have hcrash : (view (live s).world).faults.crashOn ≠ some line := by rwa [hl.going.faults]
  have hmute : (view (live s).world).faults.muteOn ≠ some line := by rwa [hl.going.faults]
  have hhear := Dialogue.hear_last hsendable.trim hsendable.nonempty hcrash hmute hr
  have hless : size ((respond line).1.flatMap String.toList) ≤ size (replyTo line) := by
    simp [replyTo]
  obtain ⟨s₁, hsent, hl'⟩ := ha.sends hp hl ht hhear hless
  obtain ⟨n, excerpt, l', hx, hl''⟩ := hp.hosted.expect_found hl' hleft
  obtain ⟨m, excerpt', l'', hend, hstatus, hphase⟩ := hp.hosted.expect_end hl''
  rw [← ha.allowed hl.going.inStep.talking] at hend
  exact ⟨_, _, Plays.exited hsent (ha.finds hl.going.inStep.talking hx) hexit hend, hstatus,
    hphase⟩

/-! ## The steps of the script -/

/-- The lines of the script. -/
def lines : List String := script.steps.filterMap (·.send)

theorem trim_line : ∀ line ∈ lines, ∀ e ∈ ["\n", "\r\n"],
    line.isEmpty = false ∧ Text.trim (line ++ e).toList = line.toList := by
  decide

theorem splitLines_line : ∀ line ∈ lines, ∀ e ∈ ["\n", "\r\n"],
    splitLines [] (encode (line ++ e).toList) = [encode (line ++ e).toList] := by
  decide

/-- A line of the script is read as one line and trimmed to what was sent. -/
theorem sendable_line (hline : line ∈ lines) (ending : LineEnding) (hending : ending ≠ .cr) :
    Sendable line ending := by
  have hmem : ending.terminator ∈ ["\n", "\r\n"] := by
    cases ending with
    | lf => decide
    | crlf => decide
    | cr => exact absurd rfl hending
  obtain ⟨hnonempty, htrim⟩ := trim_line line hline _ hmem
  refine ⟨htrim, hnonempty, ?_⟩
  rw [toList_toUTF8]
  exact splitLines_line line hline _ hmem

/-- A step whose line is answered with its text, and where only a leftover follows the text. -/
structure Answered (step : Step) (line text : String) : Prop extends Asks step line text where
  next : (respond line).2 = .prompt
  expectExit : step.expectExit = false
  leftmost : ∀ t ∈ leftovers, ∃ before, ∃ after ∈ leftovers,
    Leftmost text.toList (t ++ replyTo line) before after

/-- A step whose line is answered with its text and makes the stand-in end. -/
structure Dismissed (step : Step) (line text : String) : Prop extends Asks step line text where
  next : (respond line).2 = .exit 0
  expectExit : step.expectExit = true
  leftmost : ∀ t ∈ leftovers, ∃ before after,
    Leftmost text.toList (t ++ (respond line).1.flatMap String.toList) before after

/-- A text that ends its line in a reply is found there, if it stands nowhere before. -/
theorem answered_of_reply {name praise lead : String} (hline : line ∈ lines)
    (hr : respond line = ([lead ++ text ++ "\n"], .prompt))
    (habsent : ∀ t ∈ leftovers, literalFrom text.toList 0 (t ++ StandIn.prompt.toList) = none)
    (hfirst : ∀ t ∈ leftovers,
      literalFrom text.toList 0 (t ++ lead.toList ++ text.toList.dropLast) = none)
    (hsmall : ∀ t ∈ leftovers, size (t ++ replyTo line) ≤ room) :
    Answered (ask name line text praise) line text where
  send := rfl
  expect := rfl
  timeout := rfl
  sendable := sendable_line hline
  absent := fun t ht => literalFrom_eq_none_iff.1 (habsent t ht)
  small := hsmall
  next := by rw [hr]
  expectExit := rfl
  leftmost := by
    intro t ht
    refine ⟨t ++ lead.toList, "\nv4> ".toList, by decide, ?_⟩
    have hsplit : t ++ replyTo line =
        t ++ lead.toList ++ (text.toList ++ "\nv4> ".toList) := by
      simp [replyTo, hr, StandIn.prompt]
    rw [hsplit]
    exact leftmost_of_not_infix (literalFrom_eq_none_iff.1 (hfirst t ht))

/-- The steps between the start and the end of the script. -/
def questions : List Step := (script.steps.drop 1).take 6

theorem answered_question : ∀ step ∈ questions, ∃ line text, Answered step line text := by
  have hok {name line praise : String} (hline : line ∈ lines)
      (hr : respond line = ([" " ++ acknowledgement ++ "\n"], .prompt))
      (hsmall : ∀ t ∈ leftovers, size (t ++ replyTo line) ≤ room) :
      ∃ line' text, Answered (ask name line acknowledgement praise) line' text :=
    ⟨line, acknowledgement, answered_of_reply hline hr (by decide) (by decide) hsmall⟩
  have hping : respond ".ping" = (["" ++ pingReply ++ "\n"], .prompt) := by decide
  intro step hstep
  simp only [questions, script, List.drop_succ_cons, List.drop_zero, List.take_succ_cons,
    List.take_zero, List.mem_cons, List.not_mem_nil, or_false] at hstep
  rcases hstep with rfl | rfl | rfl | rfl | rfl | rfl
  · exact hok (by decide) (by decide) (by decide)
  · exact hok (by decide) (by decide) (by decide)
  · exact hok (by decide) (by decide) (by decide)
  · exact hok (by decide) (by decide) (by decide)
  · exact hok (by decide) (by decide) (by decide)
  · exact ⟨_, _, answered_of_reply (by decide) hping (by decide) (by decide) (by decide)⟩

/-- The step at the end of the script. -/
def parting : Step :=
  { ask "Exit REPL" "bye" Smoke.farewell "Exit works" with expectExit := true }

theorem dismissed_parting : Dismissed parting "bye" Smoke.farewell where
  send := rfl
  expect := rfl
  timeout := rfl
  sendable := sendable_line (by decide)
  absent := by
    have hnone : ∀ t ∈ leftovers,
        literalFrom Smoke.farewell.toList 0 (t ++ StandIn.prompt.toList) = none := by decide
    exact fun t ht => literalFrom_eq_none_iff.1 (hnone t ht)
  small := by decide
  next := by decide
  expectExit := rfl
  leftmost := by
    have hnone : ∀ t ∈ leftovers,
        literalFrom Smoke.farewell.toList 0 (t ++ Smoke.farewell.toList.dropLast) = none := by
      decide
    intro t ht
    exact ⟨t, ['\n'], leftmost_of_not_infix (literalFrom_eq_none_iff.1 (hnone t ht))⟩

/-- The step at the start of the script. -/
def opening : Step where
  name := "REPL start-up"
  expect := [.literal Smoke.banner, .literal ready]
  passedMessage := some "REPL started successfully"

theorem steps_eq : script.steps = opening :: (questions ++ [parting]) := rfl

/-! ## The start -/

/-- What the stand-in prints between the first text that is waited for and the port. -/
def greeting : String := " v0.1.0\nConnected to "

/-- What it prints between the port and the second text. -/
def notice : String :=
  "Type 'bye' or press Ctrl+D to exit\nType '.help' for help\n\nResetting device...\n"

theorem banner_eq (hf : f.noBanner = false) :
    (StandIn.banner f port ++ [StandIn.prompt]).flatMap String.toList =
      Smoke.banner.toList ++ (greeting.toList ++ port.toList ++ '\n' :: notice.toList ++
        (ready.toList ++ "\n\nv4> ".toList)) := by
  simp [StandIn.banner, hf, greeting, notice, Smoke.banner, ready, StandIn.prompt, version]

/-- Behind the first text the second one stands leftmost, unless the port has it too. -/
theorem leftmost_ready (hport : ¬ ready.toList <:+: port.toList) :
    Leftmost ready.toList
      (greeting.toList ++ port.toList ++ '\n' :: notice.toList ++
        (ready.toList ++ "\n\nv4> ".toList))
      (greeting.toList ++ port.toList ++ '\n' :: notice.toList) "\n\nv4> ".toList := by
  refine leftmost_of_not_infix ?_
  intro hin
  rw [List.append_assoc, List.cons_append] at hin
  rcases infix_of_separator (by decide) hin with hleft | hright
  · exact hport (infix_of_head_notMem (by decide) hleft)
  · have hnone : literalFrom ready.toList 0 (notice.toList ++ ready.toList.dropLast) = none := by
      decide
    exact literalFrom_eq_none_iff.1 hnone hright

/-- A stand-in that keeps its banner to itself lets the start take too long. -/
theorem opening_silent (hh : Hosted h settings f port view)
    (hl : Engaged settings view f none (live s) StandIn.prompt.toList) :
    ∃ cause s', cause.kind = .timeout ∧
      Plays h settings audience opening s (.error cause) s' := by
  have hnone : literalFrom Smoke.banner.toList 0 StandIn.prompt.toList = none := by decide
  obtain ⟨n, unread, l', hx⟩ := hh.expect_silent hl (literalFrom_eq_none_iff.1 hnone)
  have htimeout : settings.timeout = s.1.timeout := hl.going.inStep.talking.timeout.symm
  rw [htimeout] at hx
  exact ⟨_, _, rfl, Plays.failed (sends_nothing rfl) (.missed hx)⟩

/-- Behind the start only a leftover is unread. -/
theorem opening_passes (hh : Hosted h settings f port view)
    (hport : ¬ ready.toList <:+: port.toList) (hf : f.noBanner = false)
    (hl : Engaged settings view f none (live s)
      ((StandIn.banner f port ++ [StandIn.prompt]).flatMap String.toList)) :
    ∃ last s', Plays h settings audience opening s (.ok last) s' ∧ ∃ t ∈ leftovers,
      Engaged settings view f none (live s') t := by
  rw [banner_eq hf] at hl
  obtain ⟨n, excerpt, l', hx, hl'⟩ := hh.expect_found hl (leftmost_append _ _)
  obtain ⟨m, excerpt', l'', hx', hl''⟩ := hh.expect_found hl' (leftmost_ready hport)
  have htimeout : settings.timeout = s.1.timeout := hl.going.inStep.talking.timeout.symm
  rw [htimeout] at hx hx'
  have htaken : ExpectsAll h settings audience s.1.timeout none opening.expect s
      (.ok (some excerpt')) (put l'' (put l' s)) :=
    .taken hx (.taken hx' .none_left)
  exact ⟨_, _, Plays.passed (sends_nothing rfl) htaken rfl, _, by decide, hl''⟩

/-! ## The script -/

/-- Whether a step sends a line at which the stand-in goes wrong. -/
def meetsFault (f : Faults) (step : Step) : Bool :=
  step.send.isSome && (f.crashOn == step.send || f.muteOn == step.send)

/-- Steps from a position on fail at the first line at which the stand-in goes wrong, or they pass
and the stand-in ends as it should. -/
def ComesTo (f : Faults) (index : Nat) (steps : List Step) (r : Except Failure (List String))
    (s : Session × Scene ω) : Prop :=
  match steps.findIdx? (meetsFault f) with
  | some k => ∃ step cause, steps[k]? = some step ∧
      r = .error (.inStep (index + k) step.name cause) ∧
      cause.kind = if f.crashOn = step.send then .termination else .timeout
  | none => r = .ok (steps.map (·.name)) ∧ s.1.status = some (.exited 0) ∧ s.1.phase ≠ .closed

theorem ComesTo.cons {index : Nat} {steps : List Step} {r : Except Failure (List String)}
    (hm : meetsFault f step = false) (hr : ComesTo f (index + 1) steps r s) :
    ComesTo f index (step :: steps) (r.map (step.name :: ·)) s := by
  unfold ComesTo at hr ⊢
  rw [List.findIdx?_cons, hm]
  simp only [Bool.false_eq_true, if_false]
  cases hk : steps.findIdx? (meetsFault f) with
  | none =>
    rw [hk] at hr
    obtain ⟨rfl, hstatus, hphase⟩ := hr
    exact ⟨rfl, hstatus, hphase⟩
  | some k =>
    rw [hk] at hr
    obtain ⟨step', cause, hstep', rfl, hkind⟩ := hr
    refine ⟨step', cause, hstep', ?_, hkind⟩
    rw [show index + (k + 1) = index + 1 + k by omega]
    rfl

/-- A step that sends a faulty line ends the script. -/
theorem Asks.comesTo (hp : Played h settings f port view) (ha : Asks step line text)
    (hl : Engaged settings view f none (live s) t) (ht : t ∈ leftovers)
    (hm : meetsFault f step = true) (index : Nat) (rest : List Step) :
    ∃ r s', PlaysAll h settings audience index (step :: rest) s r s' ∧
      ComesTo f index (step :: rest) r s' := by
  have hfind : (step :: rest).findIdx? (meetsFault f) = some 0 := by
    rw [List.findIdx?_cons, hm, if_pos rfl]
  have hl₁ : Engaged settings view f none
      (live (tellOf h audience (.stepStarted index step) s)) t := engaged_tellOf hp.hosted hl _
  have hfails : ∃ cause s',
      cause.kind = (if f.crashOn = step.send then .termination else .timeout) ∧
      Plays h settings audience step (tellOf h audience (.stepStarted index step) s)
        (.error cause) s' := by
    rw [ha.send]
    by_cases hc : f.crashOn = some line
    · rw [if_pos hc]
      exact ha.crashes hp hl₁ ht hc
    · rw [if_neg hc]
      have hmute : f.muteOn = some line := by simpa [meetsFault, ha.send, hc] using hm
      exact ha.muted hp hl₁ ht hc hmute
  obtain ⟨cause, s', hkind, hplays⟩ := hfails
  refine ⟨_, _, .failed hplays, ?_⟩
  unfold ComesTo
  rw [hfind]
  exact ⟨step, cause, rfl, rfl, hkind⟩

/-- A step that sends no faulty line passes, and the script goes on behind it. -/
theorem Answered.passes (hp : Played h settings f port view) (ha : Answered step line text)
    (hl : Engaged settings view f none (live s) t) (ht : t ∈ leftovers)
    (hm : meetsFault f step = false) (index : Nat) :
    ∃ last s₁, Plays h settings audience step (tellOf h audience (.stepStarted index step) s)
        (.ok last) s₁ ∧ ∃ t' ∈ leftovers,
      Engaged settings view f none
        (live (tellOf h audience (.stepPassed index step last) s₁)) t' := by
  obtain ⟨hc, hmute⟩ : f.crashOn ≠ some line ∧ f.muteOn ≠ some line := by
    simpa [meetsFault, ha.send] using hm
  obtain ⟨before, after, hafter, hleft⟩ := ha.leftmost t ht
  obtain ⟨last, s₁, hplays, hl'⟩ := ha.answered hp (engaged_tellOf hp.hosted hl _) ht hc hmute
    ha.next ha.expectExit hleft
  exact ⟨last, s₁, hplays, after, hafter, engaged_tellOf hp.hosted hl' _⟩

theorem Dismissed.comesTo (hp : Played h settings f port view) (ha : Dismissed step line text)
    (hl : Engaged settings view f none (live s) t) (ht : t ∈ leftovers)
    (hm : meetsFault f step = false) (index : Nat) :
    ∃ r s', PlaysAll h settings audience index [step] s r s' ∧ ComesTo f index [step] r s' := by
  obtain ⟨hc, hmute⟩ : f.crashOn ≠ some line ∧ f.muteOn ≠ some line := by
    simpa [meetsFault, ha.send] using hm
  obtain ⟨before, after, hleft⟩ := ha.leftmost t ht
  obtain ⟨last, s₁, hplays, hstatus, hphase⟩ := ha.farewell hp (engaged_tellOf hp.hosted hl _) ht
    hc hmute ha.next ha.expectExit hleft
  refine ⟨_, _, .passed hplays .none_left, ?_⟩
  unfold ComesTo
  rw [List.findIdx?_cons, hm]
  exact ⟨rfl, hstatus, hphase⟩

/-- Questions and the parting, from a leftover on. -/
theorem questions_comeTo (hp : Played h settings f port view)
    (hl : Engaged settings view f none (live s) t) (ht : t ∈ leftovers) (index : Nat)
    {steps : List Step} (hsteps : ∀ step ∈ steps, ∃ line text, Answered step line text) :
    ∃ r s', PlaysAll h settings audience index (steps ++ [parting]) s r s' ∧
      ComesTo f index (steps ++ [parting]) r s' := by
  induction steps generalizing s t index with
  | nil =>
    rw [List.nil_append]
    cases hm : meetsFault f parting with
    | true => exact dismissed_parting.toAsks.comesTo hp hl ht hm index []
    | false => exact dismissed_parting.comesTo hp hl ht hm index
  | cons step steps ih =>
    obtain ⟨line, text, ha⟩ := hsteps step List.mem_cons_self
    cases hm : meetsFault f step with
    | true => exact ha.toAsks.comesTo hp hl ht hm index (steps ++ [parting])
    | false =>
      obtain ⟨last, s₁, hplays, t', ht', hl'⟩ := ha.passes hp hl ht hm index
      obtain ⟨r, s', hrest, hcomes⟩ := ih hl' ht' (index + 1) fun step hmem =>
        hsteps step (List.mem_cons_of_mem _ hmem)
      exact ⟨_, s', .passed hplays hrest, hcomes.cons hm⟩

/-- A session that has just been started is in step with the stand-in. -/
theorem engaged_fresh {pid : Option Nat} {w : ω} (hview : view w = .fresh f port)
    (hcapacity : (bytesOf (StandIn.banner f port ++ [StandIn.prompt])).length ≤ settings.capacity) :
    Engaged settings view f none ⟨Session.fresh settings port pid, w⟩
      ((StandIn.banner f port ++ [StandIn.prompt]).flatMap String.toList) where
  going := {
    inStep := {
      talking := ⟨rfl, rfl, rfl, rfl, rfl⟩
      bytes := by rw [hview]; rfl
      fits := hcapacity.trans (Nat.le_max_left _ _)
      capacity := Nat.le_max_left _ _ }
    faults := by rw [hview]; rfl
    outcome := by rw [hview]; rfl }
  outputOpen := rfl
  spent := by rw [hview]; rfl

/-- The script is launched on a stand-in, and the session is in step with it. -/
theorem launches (hh : Hosted h settings f port view)
    (hcapacity : (bytesOf (StandIn.banner f port ++ [StandIn.prompt])).length ≤ settings.capacity)
    (begun : ω) :
    ∃ session world, Session.launch h settings port begun = (.ok session, world) ∧
      Engaged settings view f none ⟨session, world⟩
        ((StandIn.banner f port ++ [StandIn.prompt]).flatMap String.toList) := by
  obtain ⟨pid, hpid, hview⟩ := hh.launch begun
  rcases hw : h.launch (Session.commandOf settings port) begun with ⟨answer, world⟩
  rw [hw] at hpid hview
  simp only at hpid hview
  subst hpid
  exact ⟨_, world, by rw [Session.launch, hw], engaged_fresh hview hcapacity⟩

/-- What the stand-in prints first needs more room than any later step does. -/
theorem room_le (hf : f.noBanner = false)
    (hcapacity : (bytesOf (StandIn.banner f port ++ [StandIn.prompt])).length ≤ settings.capacity) :
    room ≤ settings.capacity := by
  rw [bytesOf, banner_eq hf, length_encode] at hcapacity
  have hsize : room ≤ size Smoke.banner.toList + size greeting.toList + size notice.toList +
      size ready.toList := by decide
  simp only [size_append, size_cons] at hcapacity
  omega

/-- The script against a stand-in, as it comes out: at the start if there is no banner, else at the
first step whose line meets a fault, else with all steps passed. -/
def Localised (f : Faults) (result : Except Failure Report) : Prop :=
  if f.noBanner then
    ∃ cause, result = .error (.inStep 0 "REPL start-up" cause) ∧ cause.kind = .timeout
  else
    match script.steps.findIdx? (meetsFault f) with
    | some k => ∃ step cause, script.steps[k]? = some step ∧
        result = .error (.inStep k step.name cause) ∧
        cause.kind = if f.crashOn = step.send then .termination else .timeout
    | none => result = .ok
        { script := "v4-repl", passed := script.steps.map (·.name), status := some (.exited 0) }

/-- A script whose steps come to what they should, launched on a stand-in with a banner. -/
theorem ComesTo.localised {session : Session} {world : ω} {scene begun : Scene ω}
    {r : Except Failure (List String)} (hf : f.noBanner = false)
    (hbegun : begun = Scene.tell h audience (.scriptStarted script port) scene)
    (hlaunch : Session.launch h settings port begun.world = (.ok session, world))
    (hall : PlaysAll h settings audience 0 script.steps (session, { begun with world }) r s)
    (hcomes : ComesTo f 0 script.steps r s) :
    ∃ n, ∀ patience lost, n ≤ patience →
      Localised f
        (script.play (Session.stage h patience lost settings audience) port scene).1 := by
  rw [ComesTo] at hcomes
  simp only [Localised, hf, Bool.false_eq_true, if_false]
  cases hk : script.steps.findIdx? (meetsFault f) with
  | some k =>
    rw [hk] at hcomes
    obtain ⟨step, cause, hstep, hr, hkind⟩ := hcomes
    rw [hr, Nat.zero_add] at hall
    obtain ⟨n, hn⟩ := play_failed hbegun hlaunch hall
    exact ⟨n, fun patience lost hle => ⟨step, cause, hstep, hn patience lost hle, hkind⟩⟩
  | none =>
    rw [hk] at hcomes
    obtain ⟨hr, hstatus, hphase⟩ := hcomes
    rw [hr] at hall
    exact play_passed hbegun hlaunch hall hstatus hphase

/-- The script localises every fault of the stand-in, whatever its port and its lines of fault are
and however its output is cut into chunks. -/
theorem smoke_localises_faults (hh : Hosted h settings f port view)
    (hport : ¬ "Device ready".toList <:+: port.toList) (hending : settings.lineEnding ≠ .cr)
    (hcapacity : (bytesOf (StandIn.banner f port ++ [StandIn.prompt])).length ≤ settings.capacity)
    (audience : Bool) (scene : Scene ω) :
    ∃ n, ∀ patience lost, n ≤ patience →
      Localised f
        (script.play (Session.stage h patience lost settings audience) port scene).1 := by
  obtain ⟨begun, hbegun⟩ :
      ∃ begun, begun = Scene.tell h audience (.scriptStarted script port) scene := ⟨_, rfl⟩
  obtain ⟨session, world, hlaunch, hfresh⟩ := launches hh hcapacity begun.world
  have htold : Engaged settings view f none
      (live (tellOf h audience (.stepStarted 0 opening) (session, { begun with world }))) _ :=
    engaged_tellOf hh hfresh _
  cases hf : f.noBanner with
  | true =>
    have hsilent : (StandIn.banner f port ++ [StandIn.prompt]).flatMap String.toList =
        StandIn.prompt.toList := by simp [StandIn.banner, hf]
    rw [hsilent] at htold
    obtain ⟨cause, s', hkind, hplays⟩ := opening_silent hh htold
    have hall : PlaysAll h settings audience 0 script.steps (session, { begun with world })
        (.error (.inStep 0 opening.name cause)) _ := .failed hplays
    obtain ⟨n, hn⟩ := play_failed hbegun hlaunch hall
    refine ⟨n, ?_⟩
    intro patience lost hle
    rw [Localised, if_pos hf]
    exact ⟨cause, hn patience lost hle, hkind⟩
  | false =>
    have hp : Played h settings f port view := ⟨hh, room_le hf hcapacity, hending⟩
    obtain ⟨last, s₁, hplays, t, ht, hl⟩ := opening_passes hh hport hf htold
    obtain ⟨r, s', hrest, hcomes⟩ :=
      questions_comeTo hp (engaged_tellOf hh hl (.stepPassed 0 opening last)) ht 1 answered_question
    have hall : PlaysAll h settings audience 0 script.steps (session, { begun with world })
        (r.map (opening.name :: ·)) s' := by
      rw [steps_eq]
      exact .passed hplays hrest
    have hcomesAll : ComesTo f 0 script.steps (r.map (opening.name :: ·)) s' := by
      rw [steps_eq]
      exact hcomes.cons rfl
    exact hcomesAll.localised hf hbegun hlaunch hall

/-- A stand-in whose output comes in pieces of a few bytes, and which crashes at the third line. -/
theorem smoke_localises_crash :
    Hosted (bench { crashOn := some "5 sq" } "COM3") {} { crashOn := some "5 sq" } "COM3"
        (·.dialogue) ∧
      ¬ "Device ready".toList <:+: "COM3".toList ∧ ({} : Settings).lineEnding ≠ .cr ∧
      (bytesOf (StandIn.banner { crashOn := some "5 sq" } "COM3" ++ [StandIn.prompt])).length ≤
        ({} : Settings).capacity ∧
      ∃ n, ∀ patience lost, n ≤ patience → ∃ cause,
        (script.play
            (Session.stage (bench { crashOn := some "5 sq" } "COM3") patience lost {} true) "COM3"
            { world := { dialogue := .fresh {} "COM3", cuts := [2, 0, 7, 40, 1] } }).1 =
          .error (.inStep 3 "Use defined word: 5 sq" cause) ∧ cause.kind = .termination := by
  have hh : Hosted (bench { crashOn := some "5 sq" } "COM3") {} { crashOn := some "5 sq" } "COM3"
      (·.dialogue) := bench_hosted (by decide)
  have hport : ¬ "Device ready".toList <:+: "COM3".toList := by decide
  have hending : ({} : Settings).lineEnding ≠ .cr := by decide
  have hcapacity : (bytesOf (StandIn.banner { crashOn := some "5 sq" } "COM3" ++
      [StandIn.prompt])).length ≤ ({} : Settings).capacity := by
    decide +kernel
  obtain ⟨n, hn⟩ := smoke_localises_faults hh hport hending hcapacity true
    { world := { dialogue := .fresh {} "COM3", cuts := [2, 0, 7, 40, 1] } }
  have hfirst : script.steps.findIdx? (meetsFault { crashOn := some "5 sq" }) = some 3 := by decide
  refine ⟨hh, hport, hending, hcapacity, n, ?_⟩
  intro patience lost hle
  have hl := hn patience lost hle
  rw [Localised, if_neg (by decide), hfirst] at hl
  obtain ⟨step, cause, hstep, hr, hkind⟩ := hl
  obtain rfl : _ = step := Option.some.inj hstep
  exact ⟨cause, hr, hkind⟩

end Smoke
end Parley

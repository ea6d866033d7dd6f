import Parley.Proofs.Session.Likeness
import Parley.Proofs.Session.Recorded

/-!
# Parley.Proofs.Session.Reaping

No signal and no force reaches a program that has been reaped: the number of a reaped program may
belong to another one by then.

* `Host.Reaping`: a host that reaps a program only as it tells of its end, or by force.
* `Host.Spares`: calls none of which strikes a program that has been reaped.
* `Host.unforced`: a host that refuses force. All operations but `close` do the same on it, and
  so does a close up to its last stage.
* `Timely`: so far a program has been spared, and the session knows when it has been reaped.
* `Performs.timely`, `run_spares_reaped`: every operation keeps it so, in any order.
-/

namespace Parley
namespace Host

variable {ω : Type}

/-- A signal or force. -/
def Call.Strikes : Call → Prop
  | .signal _ _ => True
  | .kill _ => True
  | _ => False

/-- A call that may reap the program: it waits for the end until it comes, or uses force. -/
def Call.Reaps : Call → Prop
  | .await _ (.ended _) => True
  | .kill (.ok _) => True
  | .reap (.ok _) => True
  | _ => False

/-- A host starts a program that has not been reaped, reaps it only as it tells of its end or ends
it by force, and tells of the end that it has brought by force. -/
structure Reaping (h : Host ω) (reaped : ω → Prop) : Prop where
  launch {command : Command} {pid : Option Nat} {w w' : ω} :
    h.launch command w = (.ok pid, w') → ¬ reaped w'
  only {call : Call} {w w' : ω} : h.Makes w call w' → ¬ reaped w → reaped w' → call.Reaps
  reap {w w' : ω} : h.kill w = (.ok (), w') → ∃ status w'', h.reap w' = (.ok status, w'')

/-- Calls one after another, from a state on. None of them strikes a program that has been
reaped. -/
inductive Spares (h : Host ω) (reaped : ω → Prop) (w₀ : ω) : List Call → ω → Prop
  | start : Spares h reaped w₀ [] w₀
  | next {log : List Call} {call : Call} {w w' : ω} :
      Spares h reaped w₀ log w → (call.Strikes → ¬ reaped w) → h.Makes w call w' →
      Spares h reaped w₀ (log ++ [call]) w'

/-- A host that refuses force, and does the same otherwise. -/
def unforced (h : Host ω) : Host ω :=
  { h with
    kill := fun w => (.error .accessDenied, w)
    reap := fun w => (.error .accessDenied, w) }

theorem unforced_resembles (h : Host ω) : Resembles id h.unforced h := by
  constructor <;> intros <;> rfl

theorem recorded_mirrors (h : Host ω) : Mirrors Prod.fst h.recorded h := by
  refine ⟨?_, ?_, ?_⟩
  · constructor <;> intros <;> rfl
  · intros; rfl
  · intros; rfl

/-- A call that was noted has been made. -/
theorem of_note {α : Type} {call : α → Call} {log : List Call} {done : α × ω} {a : α}
    {w : ω × List Call} (hn : note call log done = (a, w)) :
    done = (a, w.1) ∧ w.2 = log ++ [call a] := by
  cases hn
  exact ⟨rfl, rfl⟩

end Host

namespace Live

open Host

variable {ω : Type} {h : Host ω} {reaped : ω → Prop} {w₀ : ω} {l l' : Live (ω × List Call)}
  {op : Operation} {a : Answer} {past : List (Operation × Answer)}

/-- The calls so far have spared the program, and the session knows how it ended if it has been
reaped. -/
structure Timely (h : Host ω) (reaped : ω → Prop) (w₀ : ω) (l : Live (ω × List Call)) : Prop where
  spares : h.Spares reaped w₀ l.world.2 l.world.1
  knows : reaped l.world.1 → l.session.status ≠ none

/-! ## One call -/

section

variable {s : Session} {w : ω × List Call} (ht : Timely h reaped w₀ l) (hh : h.Reaping reaped)

include ht hh

/-- One more call is in time if it strikes only while no end is known, and if the session notes the
end as the call reaps the program. -/
theorem Timely.after (call : Call) (hc : h.Makes l.world.1 call w.1)
    (hlog : w.2 = l.world.2 ++ [call]) (hstrikes : call.Strikes → l.session.status = none)
    (hreaps : call.Reaps → s.status ≠ none)
    (hkeeps : l.session.status ≠ none → s.status ≠ none) :
    Timely h reaped w₀ { session := s, world := w } where
  spares := by
    rw [hlog]
    exact .next ht.spares (fun hs hr => ht.knows hr (hstrikes hs)) hc
  knows hr := by
    by_cases hbefore : reaped l.world.1
    · exact hkeeps (ht.knows hbefore)
    · exact hreaps (hh.only hc hbefore hr)

/-- A call that neither strikes nor reaps is always in time. -/
theorem Timely.harmless (call : Call) (hc : h.Makes l.world.1 call w.1)
    (hlog : w.2 = l.world.2 ++ [call]) (hstrikes : ¬ call.Strikes) (hreaps : ¬ call.Reaps)
    (hs : s.status = l.session.status) :
    Timely h reaped w₀ { session := s, world := w } :=
  ht.after hh call hc hlog (absurd · hstrikes) (absurd · hreaps) (by rw [hs]; exact id)

theorem Timely.finish {status : ExitStatus} : Timely h reaped w₀ (finish h.recorded status l) :=
  have houtput : Timely h reaped w₀
      { session := l.session, world := h.recorded.closeOutput l.world } :=
    ht.harmless hh .closeOutput rfl rfl id id rfl
  houtput.after hh .closeErrors rfl rfl nofun nofun fun _ => nofun

end

/-! ## One operation -/

/-- Without force every move is in time: a signal is sent only while no end is known, and an end
that is told of is noted at once. -/
theorem Moves.timely (hm : Moves h.recorded.unforced l l') (hh : h.Reaping reaped)
    (ht : Timely h reaped w₀ l) : Timely h reaped w₀ l' := by
  cases hm with
  | window _ => exact ⟨ht.spares, ht.knows⟩
  | shown bytes => exact ht.harmless hh (.display bytes) rfl rfl id id rfl
  | @wrote bytes r _ hw =>
    obtain ⟨hmade, hlog⟩ := of_note hw
    exact ht.harmless hh (.write bytes r) hmade hlog id id rfl
  | @heard both allowed a _ ha =>
    obtain ⟨hmade, hlog⟩ := of_note ha
    exact ht.harmless hh (.read both allowed a) hmade hlog id id rfl
  | @heardErrors allowed a _ ha =>
    obtain ⟨hmade, hlog⟩ := of_note ha
    exact ht.harmless hh (.readErrors allowed a) hmade hlog id id rfl
  | outputEnded => exact ht.harmless hh .closeOutput rfl rfl id id rfl
  | errorsEnded => exact ht.harmless hh .closeErrors rfl rfl id id rfl
  | @signalled s r _ hs hsent =>
    obtain ⟨hmade, hlog⟩ := of_note hsent
    exact ht.after hh (.signal s r) hmade hlog (fun _ => hs) nofun id
  | @waited allowed ending _ ha hne =>
    obtain ⟨hmade, hlog⟩ := of_note ha
    have hreaps : ¬ (Call.await allowed ending).Reaps := by
      cases ending with
      | ended status => exact absurd rfl (hne status)
      | running => exact id
      | fault _ => exact id
    exact ht.harmless hh (.await allowed ending) hmade hlog id hreaps rfl
  | @ended allowed status _ _ ha =>
    obtain ⟨hmade, hlog⟩ := of_note ha
    exact ht.after hh (.await allowed (.ended status)) hmade hlog nofun (fun _ => nofun)
      (fun _ => nofun)
  | inputEnded _ => exact ht.harmless hh .closeInput rfl rfl id id rfl
  | killed _ _ hk =>
    -- force is refused here, and the host stays as it was
    cases hk
    exact ht
  | unreaped _ _ hr =>
    cases hr
    exact ht
  | reaped _ _ hr => cases hr
  | finished _ _ => exact ht.finish hh

theorem timely_of_movesAll (hh : h.Reaping reaped) (hm : MovesAll h.recorded.unforced l l')
    (ht : Timely h reaped w₀ l) : Timely h reaped w₀ l' :=
  keeps_of_movesAll (P := fun l => Timely h reaped w₀ l) (fun hm => hm.timely hh) hm ht

/-- Force is used only behind all waits, while no end is known; and then the end is noted with it,
or force was refused and has reaped nothing. -/
theorem close_timely {r : Except Failure ExitStatus} (hl : close h.recorded l = (r, l'))
    (hh : h.Reaping reaped) (ht : Timely h reaped w₀ l) : Timely h reaped w₀ l' := by
  by_cases hc : l.session.phase = .closed
  · rw [close_of_closed hc] at hl
    cases hl
    exact ht
  · have hsame : staged h.recorded l = staged h.recorded.unforced l := by
      simpa using staged_map (unforced_resembles h.recorded) (l := l)
    have hstaged : Timely h reaped w₀ (staged h.recorded l) := by
      rw [hsame]
      exact timely_of_movesAll hh (staged_moves hc) ht
    rcases close_cases hc hl with ⟨_, -, -, rfl⟩ | ⟨status, w, w', hs, hk, hr, -, rfl⟩ |
      ⟨error, w, hs, hk, -, rfl⟩ | ⟨error, w, w', -, hk, hr, -, -⟩
    · exact hstaged.finish hh
    · -- the end is noted only behind both calls, but nothing looks at it in between
      obtain ⟨hkilled, hkillLog⟩ := of_note hk
      obtain ⟨hreaped, hreapLog⟩ := of_note hr
      let told : Session := { (staged h.recorded l).session with status := some status }
      have hforced : Timely h reaped w₀ { session := told, world := w } :=
        hstaged.after hh (.kill (.ok ())) hkilled hkillLog (fun _ => hs) (fun _ => nofun)
          (fun _ => nofun)
      have hasked : Timely h reaped w₀ { session := told, world := w' } :=
        hforced.after hh (.reap (.ok status)) hreaped hreapLog nofun (fun _ => nofun) id
      exact hasked.finish hh
    · obtain ⟨hkilled, hkillLog⟩ := of_note hk
      exact hstaged.after hh (.kill (.error error)) hkilled hkillLog (fun _ => hs) nofun id
    · obtain ⟨hkilled, -⟩ := of_note hk
      obtain ⟨hunreaped, -⟩ := of_note hr
      obtain ⟨status, w'', hok⟩ := hh.reap hkilled
      rw [hok] at hunreaped
      cases hunreaped

theorem Performs.timely (hp : Performs h.recorded l op a l') (hh : h.Reaping reaped)
    (ht : Timely h reaped w₀ l) : Timely h reaped w₀ l' := by
  by_cases hop : op = .close
  · subst hop
    cases hp with
    | close hl => exact close_timely hl hh ht
  · obtain ⟨l'', hp', rfl⟩ := hp.resembling (unforced_resembles h.recorded) (l := l) hop
    exact timely_of_movesAll hh hp'.moves ht

theorem Runs.timely (hr : Runs h.recorded l past l') (hh : h.Reaping reaped)
    (ht : Timely h reaped w₀ l) : Timely h reaped w₀ l' := by
  induction hr with
  | refl => exact ht
  | cons hp _ ih => exact ih (hp.timely hh ht)

/-! ## From the start to the end -/

theorem fresh_timely {settings : Settings} {target : String} {pid : Option Nat} {command : Command}
    {w : ω} (hh : h.Reaping reaped) (hl : h.launch command w = (.ok pid, w₀)) :
    Timely h reaped w₀ (logged ⟨.fresh settings target pid, w₀⟩ []) where
  spares := .start
  knows hr := absurd hr (hh.launch hl)

/-- A session that is given up uses force only while no end is known. -/
theorem abandon_spares (ht : Timely h reaped w₀ l) :
    ∃ more, abandon h.recorded l = (abandon h ⟨l.session, l.world.1⟩, l.world.2 ++ more) ∧
      h.Spares reaped w₀ (l.world.2 ++ more) (abandon h ⟨l.session, l.world.1⟩) := by
  cases hs : l.session.status with
  | some status =>
    refine ⟨[], ?_, ?_⟩
    · simp [abandon, hs]
    · simpa [abandon, hs] using ht.spares
  | none =>
    refine ⟨[.kill (h.kill l.world.1).1], ?_, ?_⟩
    · simp [abandon, hs, recorded, note]
    · simp only [abandon, hs, Option.isNone_none, if_true]
      exact .next ht.spares (fun _ hr => ht.knows hr hs) rfl

/-- After any run of a session that has been started, on a host that reaps a program only as it
tells of its end or ends it by force, and whatever it answers:

* a program that has been reaped is known to have ended, so that nothing else is done to it;
* no signal that was sent, alone or in a close, and no use of force, has struck a program that had
  been reaped by then;
* nor does a session that is given up behind the run use force on one. -/
theorem run_spares_reaped {settings : Settings} {target : String} {w : ω} {s : Session}
    {l : Live ω} (hh : h.Reaping reaped)
    (hl : Session.launch h settings target w = (.ok s, w₀)) (hr : Runs h ⟨s, w₀⟩ past l) :
    (reaped l.world → l.session.status ≠ none) ∧
    ∃ log, Runs h.recorded (logged ⟨s, w₀⟩ []) past (l.logged log) ∧
      h.Spares reaped w₀ log l.world ∧
      ∃ more, abandon h.recorded (l.logged log) = (abandon h l, log ++ more) ∧
        h.Spares reaped w₀ (log ++ more) (abandon h l) := by
  obtain ⟨pid, hlaunch, rfl⟩ := Session.launch_ok hl
  obtain ⟨⟨session, world, log⟩, hrecorded, rfl⟩ := Runs.mirrored (recorded_mirrors h)
    (l := logged ⟨.fresh settings target pid, w₀⟩ []) hr
  have ht := hrecorded.timely hh (fresh_timely hh hlaunch)
  exact ⟨ht.knows, log, hrecorded, ht.spares, abandon_spares ht⟩

/-- A program that only force can end, and that is saved from it a few times. -/
inductive Shielded
  | running (refusals : Nat)
  | reaped
deriving DecidableEq, Repr

/-- A host on which such a program has been started. The number of a program that has been reaped
is free. -/
def shielded : Host Shielded where
  launch _
    | .running n => (.ok (some 7), .running n)
    | .reaped => (.ok (some 7), .running 0)
  now _ := .zero
  write _ w := (.ok (), w)
  read _ _ w := (.nothing, w)
  readErrors _ w := (.nothing, w)
  closeInput w := w
  closeOutput w := w
  closeErrors w := w
  await _
    | .running n => (.running, .running n)
    | .reaped => (.ended (.signaled 9), .reaped)
  signal _
    | .running n => (.ok (), .running n)
    | .reaped => (.error (.numbered 3), .reaped)
  kill
    | .running 0 => (.ok (), .reaped)
    | .running (n + 1) => (.error .accessDenied, .running n)
    | .reaped => (.error (.numbered 22), .reaped)
  reap
    | .running n => (.error (.numbered 10), .running n)
    | .reaped => (.ok (.signaled 9), .reaped)
  display _ w := w

theorem shielded_reaping : shielded.Reaping (· = .reaped) where
  launch {_ _ w _} hl := by cases w <;> cases hl <;> nofun
  only {call w w'} hc hnot hr := by
    subst hr
    cases w with
    | reaped => exact absurd rfl hnot
    | running n =>
      cases call <;> cases n <;> cases hc
      all_goals trivial
  reap {w _} hk := by
    rcases w with (_ | n) | _ <;> cases hk
    exact ⟨_, _, rfl⟩

/-- A session on that host. -/
def unharmed : Live Shielded := ⟨.fresh {} "" (some 7), .running 1⟩

/-- A program that is saved from force in the first close, and reaped in the second one. Nothing
more is sent to it. -/
theorem run_spares_reaped_shielded :
    ∃ f l log more,
      Session.launch shielded {} "" (.running 1) = (.ok unharmed.session, .running 1) ∧
      Runs shielded unharmed
        [(.signal .terminate, .done), (.close, .failed f), (.signal .kill, .done),
          (.close, .ended (.signaled 9)), (.signal .kill, .done)] l ∧
      l.world = .reaped ∧ l.session.status ≠ none ∧
      Runs shielded.recorded (unharmed.logged [])
        [(.signal .terminate, .done), (.close, .failed f), (.signal .kill, .done),
          (.close, .ended (.signaled 9)), (.signal .kill, .done)] (l.logged log) ∧
      shielded.Spares (· = .reaped) (.running 1) log .reaped ∧
      abandon shielded.recorded (l.logged log) = (.reaped, log ++ more) ∧
      shielded.Spares (· = .reaped) (.running 1) (log ++ more) .reaped := by
  have hlaunch : Session.launch shielded {} "" (.running 1) =
      (.ok unharmed.session, .running 1) := rfl
  obtain ⟨l₁, hfirst⟩ : ∃ l₁, signal shielded .terminate unharmed = (.ok (), l₁) := ⟨_, rfl⟩
  obtain ⟨f, l₂, hrefused⟩ : ∃ f l₂, close shielded l₁ = (.error f, l₂) := by
    cases hfirst
    exact ⟨_, _, rfl⟩
  obtain ⟨l₃, hsecond⟩ : ∃ l₃, signal shielded .kill l₂ = (.ok (), l₃) := by
    cases hfirst
    cases hrefused
    exact ⟨_, rfl⟩
  obtain ⟨l₄, hclosed⟩ : ∃ l₄, close shielded l₃ = (.ok (.signaled 9), l₄) := by
    cases hfirst
    cases hrefused
    cases hsecond
    exact ⟨_, rfl⟩
  obtain ⟨l, hthird, hworld⟩ : ∃ l, signal shielded .kill l₄ = (.ok (), l) ∧
      l.world = .reaped := by
    cases hfirst
    cases hrefused
    cases hsecond
    cases hclosed
    exact ⟨_, rfl, rfl⟩
  have hruns : Runs shielded unharmed
      [(.signal .terminate, .done), (.close, .failed f), (.signal .kill, .done),
        (.close, .ended (.signaled 9)), (.signal .kill, .done)] l :=
    .cons (.signal hfirst) (.cons (.close hrefused) (.cons (.signal hsecond)
      (.cons (.close hclosed) (.cons (.signal hthird) .refl))))
  obtain ⟨hknows, log, hrecorded, hspares, more, habandon, hgiven⟩ :=
    run_spares_reaped shielded_reaping hlaunch hruns
  have hgone : abandon shielded l = .reaped := by
    obtain ⟨status, hs⟩ := Option.ne_none_iff_exists'.1 (hknows hworld)
    simp [abandon, hs, hworld]
  rw [hworld] at hspares
  rw [hgone] at habandon hgiven
  exact ⟨f, l, log, more, hlaunch, hruns, hworld, hknows hworld, hrecorded, hspares, habandon,
    hgiven⟩

end Live
end Parley

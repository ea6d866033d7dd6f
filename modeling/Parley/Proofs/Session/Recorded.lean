import Parley.Proofs.Session.Lifecycle

/-!
# Parley.Proofs.Session.Recorded

What a session asks of its host once its program runs, call by call.

* `Call`, `Makes`: the calls with what is answered, and where each takes the host.
* `recorded`: a host that notes the calls made of it and does the same otherwise.
* `Honest`: a host that tells of an end only as it was, and takes no end back.
* `Moves.truthful`: what a session knows of the end of its program stays how it ended.
-/

namespace Parley
namespace Host

/-- A call of a host whose program runs, and what is answered. -/
inductive Call
  | write (bytes : List UInt8) (answer : Except SystemError Unit)
  | read (both : Bool) (allowed : Duration) (answer : Arrival)
  | readErrors (allowed : Duration) (answer : Arrival)
  | closeInput
  | closeOutput
  | closeErrors
  | await (allowed : Duration) (answer : Ending)
  | signal (s : Signal) (answer : Except SystemError Unit)
  | kill (answer : Except SystemError Unit)
  | reap (answer : Except SystemError ExitStatus)
  | display (bytes : List UInt8)
deriving Repr

/-- Force, or the end that it should bring, is refused. -/
def Call.Refused : Call → Prop
  | .kill (.error _) => True
  | .reap (.error _) => True
  | _ => False

variable {ω : Type}

/-- A call takes a host from one state to another. -/
def Makes (h : Host ω) (w : ω) : Call → ω → Prop
  | .write bytes answer, w' => h.write bytes w = (answer, w')
  | .read both allowed answer, w' => h.read both allowed w = (answer, w')
  | .readErrors allowed answer, w' => h.readErrors allowed w = (answer, w')
  | .closeInput, w' => h.closeInput w = w'
  | .closeOutput, w' => h.closeOutput w = w'
  | .closeErrors, w' => h.closeErrors w = w'
  | .await allowed answer, w' => h.await allowed w = (answer, w')
  | .signal s answer, w' => h.signal s w = (answer, w')
  | .kill answer, w' => h.kill w = (answer, w')
  | .reap answer, w' => h.reap w = (answer, w')
  | .display bytes, w' => h.display bytes w = w'

/-- Adds a call to those that were noted. -/
def note {α : Type} (call : α → Call) (log : List Call) (done : α × ω) : α × (ω × List Call) :=
  (done.1, (done.2, log ++ [call done.1]))

/-- A host that notes the calls made of it, the last one at the end. -/
def recorded (h : Host ω) : Host (ω × List Call) where
  launch command w := ((h.launch command w.1).1, ((h.launch command w.1).2, w.2))
  now w := h.now w.1
  write bytes w := note (.write bytes) w.2 (h.write bytes w.1)
  read both allowed w := note (.read both allowed) w.2 (h.read both allowed w.1)
  readErrors allowed w := note (.readErrors allowed) w.2 (h.readErrors allowed w.1)
  closeInput w := (h.closeInput w.1, w.2 ++ [.closeInput])
  closeOutput w := (h.closeOutput w.1, w.2 ++ [.closeOutput])
  closeErrors w := (h.closeErrors w.1, w.2 ++ [.closeErrors])
  await allowed w := note (.await allowed) w.2 (h.await allowed w.1)
  signal s w := note (.signal s) w.2 (h.signal s w.1)
  kill w := note .kill w.2 (h.kill w.1)
  reap w := note .reap w.2 (h.reap w.1)
  display bytes w := (h.display bytes w.1, w.2 ++ [.display bytes])

/-- A program has ended in some way, and its end has been asked for. -/
def Gone {ω : Type} (ended : ω → Option ExitStatus) (reaped : ω → Prop) (status : ExitStatus)
    (w : ω) : Prop :=
  ended w = some status ∧ reaped w

/-- A host gives a program a number that signals can be sent to, tells of the end of the program
only as it was and once it has been asked for, and takes neither back. -/
structure Honest (h : Host ω) (ended : ω → Option ExitStatus) (reaped : ω → Prop) : Prop where
  launch {command : Command} {pid : Option Nat} {w w' : ω} :
    h.launch command w = (.ok pid, w') → ∃ n, pid = some n ∧ n ≤ Session.lastPid
  await {allowed : Duration} {status : ExitStatus} {w w' : ω} :
    h.await allowed w = (.ended status, w') → Gone ended reaped status w'
  reap {status : ExitStatus} {w w' : ω} :
    h.reap w = (.ok status, w') → Gone ended reaped status w'
  keeps_ended {call : Call} {status : ExitStatus} {w w' : ω} :
    h.Makes w call w' → ended w = some status → ended w' = some status
  keeps_reaped {call : Call} {w w' : ω} : h.Makes w call w' → reaped w → reaped w'

theorem Honest.keeps_gone {h : Host ω} {ended : ω → Option ExitStatus} {reaped : ω → Prop}
    {call : Call} {status : ExitStatus} {w w' : ω} (hh : h.Honest ended reaped)
    (hc : h.Makes w call w') (hg : Gone ended reaped status w) : Gone ended reaped status w' :=
  ⟨hh.keeps_ended hc hg.1, hh.keeps_reaped hc hg.2⟩

end Host

namespace Live

open Host

variable {ω : Type} {h : Host ω} {ended : ω → Option ExitStatus} {reaped : ω → Prop} {l l' : Live ω}
  {past : List (Operation × Answer)} {status : ExitStatus}

/-- A session on a recorded host that has noted some calls. -/
def logged (l : Live ω) (log : List Call) : Live (ω × List Call) :=
  { session := l.session, world := (l.world, log) }

/-- What a session knows of the end of its program is how it ended. -/
def Truthful (ended : ω → Option ExitStatus) (reaped : ω → Prop) (l : Live ω) : Prop :=
  ∀ status : ExitStatus, l.session.status = some status → Gone ended reaped status l.world

/-- A call from which the session learns nothing of an end leaves what it knows true. -/
theorem Truthful.after (ht : Truthful ended reaped l) (hh : h.Honest ended reaped) (call : Call)
    (hc : h.Makes l.world call l'.world) (hs : l'.session.status = l.session.status) :
    Truthful ended reaped l' := by
  intro status hstatus
  exact hh.keeps_gone hc (ht status (hs.symm.trans hstatus))

theorem finish_truthful (hh : h.Honest ended reaped) (hg : Gone ended reaped status l.world) :
    Truthful ended reaped (finish h status l) := by
  intro told htold
  cases htold
  have houtput : h.Makes l.world .closeOutput (h.closeOutput l.world) := rfl
  have herrors : h.Makes (h.closeOutput l.world) .closeErrors (finish h status l).world := rfl
  exact hh.keeps_gone herrors (hh.keeps_gone houtput hg)

theorem Moves.truthful (hh : h.Honest ended reaped) (hm : Moves h l l')
    (ht : Truthful ended reaped l) : Truthful ended reaped l' := by
  cases hm with
  | window _ => exact ht
  | shown bytes => exact ht.after hh (.display bytes) rfl rfl
  | wrote hw => exact ht.after hh (.write _ _) hw rfl
  | heard ha => exact ht.after hh (.read _ _ _) ha rfl
  | heardErrors ha => exact ht.after hh (.readErrors _ _) ha rfl
  | outputEnded => exact ht.after hh .closeOutput rfl rfl
  | errorsEnded => exact ht.after hh .closeErrors rfl rfl
  | signalled _ hs => exact ht.after hh (.signal _ _) hs rfl
  | waited ha _ => exact ht.after hh (.await _ _) ha rfl
  | ended _ ha =>
    intro told htold
    cases htold
    exact hh.await ha
  | inputEnded _ => exact ht.after hh .closeInput rfl rfl
  | killed _ _ hk => exact ht.after hh (.kill _) hk rfl
  | unreaped _ _ hr => exact ht.after hh (.reap _) hr rfl
  | reaped _ _ hr => exact finish_truthful hh (hh.reap hr)
  | finished _ hs => exact finish_truthful hh (ht _ hs)

/-- What a session has once it is started stays: the number that signals are sent to, the way to
bring it to its end, and how long it usually waits. -/
theorem Moves.keeps_terms (hm : Moves h l l') :
    l'.session.pid = l.session.pid ∧ l'.session.teardown = l.session.teardown ∧
      l'.session.timeout = l.session.timeout := by
  cases hm <;> exact ⟨rfl, rfl, rfl⟩

theorem keeps_terms_of_movesAll (hm : MovesAll h l l') :
    l'.session.pid = l.session.pid ∧ l'.session.teardown = l.session.teardown ∧
      l'.session.timeout = l.session.timeout := by
  induction hm with
  | refl => exact ⟨rfl, rfl, rfl⟩
  | tail _ hm ih =>
    obtain ⟨hpid, hteardown, htimeout⟩ := hm.keeps_terms
    exact ⟨hpid.trans ih.1, hteardown.trans ih.2.1, htimeout.trans ih.2.2⟩

theorem fresh_truthful {settings : Settings} {target : String} {pid : Option Nat} {w : ω} :
    Truthful ended reaped ⟨.fresh settings target pid, w⟩ := by
  intro status hs
  cases hs

theorem truthful_of_movesAll (hh : h.Honest ended reaped) (hm : MovesAll h l l')
    (ht : Truthful ended reaped l) : Truthful ended reaped l' :=
  keeps_of_movesAll (P := fun l => Truthful ended reaped l) (Moves.truthful hh) hm ht

end Live
end Parley

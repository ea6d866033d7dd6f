import Parley.Proofs.StandIn.Hosted

/-!
# Parley.Proofs.StandIn.Bench

A host with nothing on it but the stand-in. Its output is cut as a list of lengths says, and the
clock goes on only when there is nothing to read.

* `bench`: the host.
* `Bench.read_cases`: all that a read on it can do.
* `bench_hosted`: the stand-in runs on it, whatever the lengths are.
-/

namespace Parley
namespace StandIn

structure Bench where
  dialogue : Dialogue
  clock : Duration := .zero
  /-- How many bytes besides the first one the next reads bring. -/
  cuts : List Nat := []

namespace Bench

/-- What can be read: a piece of the output, the end of it, or nothing before the time is up. -/
def read (allowed : Duration) (b : Bench) : Arrival × Bench :=
  match b.dialogue.unread with
  | [] =>
    if b.dialogue.left then
      (.chunk .output [], { b with dialogue := { b.dialogue with spent := true } })
    else (.nothing, { b with clock := b.clock + allowed })
  | first :: rest =>
    let more := b.cuts.headD 0
    (.chunk .output (first :: rest.take more),
      { b with dialogue := { b.dialogue with unread := rest.drop more }, cuts := b.cuts.tail })

/-- How the stand-in has ended, if it has. -/
def ending (b : Bench) : Ending :=
  match b.dialogue.outcome with
  | some (.exit code) => .ended (.exited code)
  | _ => .running

end Bench

def bench (f : Faults) (port : String) : Host Bench where
  launch _ b := (.ok none, { b with dialogue := .fresh f port })
  now b := b.clock
  write line b := (.ok (), { b with dialogue := b.dialogue.hear line })
  read _ := Bench.read
  readErrors _ b := (.nothing, b)
  closeInput b := { b with dialogue := b.dialogue.hearEnd }
  closeOutput b := b
  closeErrors b := b
  await _ b := (b.ending, b)
  signal _ b := (.ok (), b)
  kill b := (.ok (), b)
  reap b := (.ok .unknown, b)
  display _ b := b

variable {f : Faults} {port : String} {b begun : Bench} {allowed : Duration}

/-- All that a read can do. -/
theorem Bench.read_cases (allowed : Duration) (b : Bench) :
    (∃ first rest, b.dialogue.unread = first :: rest ∧
      b.read allowed = (.chunk .output (first :: rest.take (b.cuts.headD 0)),
        { b with
          dialogue := { b.dialogue with unread := rest.drop (b.cuts.headD 0) }
          cuts := b.cuts.tail })) ∨
    (b.dialogue.unread = [] ∧ b.dialogue.left = true ∧
      b.read allowed =
        (.chunk .output [], { b with dialogue := { b.dialogue with spent := true } })) ∨
    (b.dialogue.unread = [] ∧ b.dialogue.left = false ∧
      b.read allowed = (.nothing, { b with clock := b.clock + allowed })) := by
  rw [Bench.read]
  cases b.dialogue.unread with
  | cons first rest => exact .inl ⟨first, rest, rfl, rfl⟩
  | nil =>
    cases hl : b.dialogue.left with
    | true => exact .inr (.inl ⟨rfl, rfl, rfl⟩)
    | false => exact .inr (.inr ⟨rfl, rfl, rfl⟩)

/-- Time passes on the bench, and none of it while there is something to read. -/
theorem bench_waits (hw : Waits (bench f port) begun b) :
    begun.clock.nanos ≤ b.clock.nanos ∧ (b.dialogue.Pending → b.clock = begun.clock) := by
  induction hw with
  | refl => exact ⟨Nat.le_refl _, fun _ => rfl⟩
  | @read b _ allowed _ ih =>
    change begun.clock.nanos ≤ (b.read allowed).2.clock.nanos ∧
      ((b.read allowed).2.dialogue.Pending → (b.read allowed).2.clock = begun.clock)
    rcases b.read_cases allowed with
      ⟨first, rest, hunread, hread⟩ | ⟨hunread, hleft, hread⟩ | ⟨hunread, hleft, hread⟩
    · rw [hread]
      have hpending : b.dialogue.Pending := .inl (by rw [hunread]; exact List.cons_ne_nil _ _)
      exact ⟨ih.1, fun _ => ih.2 hpending⟩
    · rw [hread]
      have hspent : ¬ Dialogue.Pending { b.dialogue with spent := true } := by
        simp [Dialogue.Pending, hunread]
      exact ⟨ih.1, fun hp => absurd hp hspent⟩
    · rw [hread]
      have hidle : ¬ b.dialogue.Pending := by simp [Dialogue.Pending, hunread, hleft]
      exact ⟨ih.1.trans (Nat.le_add_right _ _), fun hp => absurd hp hidle⟩
  | display _ _ ih => exact ih
  | closeErrors _ ih => exact ih

theorem bench_hosted {settings : Settings} (hpos : Duration.zero < settings.timeout) :
    Hosted (bench f port) settings f port (·.dialogue) where
  launch b := ⟨none, rfl, rfl⟩
  write _ _ _ _ := ⟨rfl, rfl⟩
  read withErrors allowed b _ := by
    change b.dialogue.Brings withErrors (b.read allowed).1 (b.read allowed).2.dialogue
    rcases b.read_cases allowed with
      ⟨first, rest, hunread, hread⟩ | ⟨hunread, hleft, hread⟩ | ⟨hunread, hleft, hread⟩
    · rw [hread]
      refine .chunk (List.cons_ne_nil _ _) ?_
      rw [hunread, List.cons_append, List.take_append_drop]
    · rw [hread]
      exact .outputEnded hunread hleft
    · rw [hread]
      exact .nothing hunread hleft
  readErrors _ _ := ⟨.inl rfl, rfl⟩
  await _ b code ho _ := by
    change b.ending = _
    rw [Bench.ending, ho]
  closeOutput _ := rfl
  closeErrors _ := rfl
  display _ _ := rfl
  elapsed withErrors allowed b hn := by
    change allowed ≤ (b.read allowed).2.clock - b.clock
    change (b.read allowed).1 = .nothing at hn
    rcases b.read_cases allowed with
      ⟨first, rest, -, hread⟩ | ⟨-, -, hread⟩ | ⟨-, -, hread⟩
    · rw [hread] at hn
      cases hn
    · rw [hread] at hn
      cases hn
    · rw [hread]
      exact Nat.le_of_eq (Nat.add_sub_cancel_left _ _).symm
  forward _ _ hw := (bench_waits hw).1
  inTime begun b hw hp := by
    change b.clock - begun.clock < settings.timeout
    rw [(bench_waits hw).2 hp]
    change begun.clock.nanos - begun.clock.nanos < settings.timeout.nanos
    rw [Nat.sub_self]
    exact hpos

end StandIn
end Parley

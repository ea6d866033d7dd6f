import Parley.Proofs.Utf8.Opening
import Parley.StandIn

/-!
# Parley.Proofs.StandIn.Dialogue

The stand-in as somebody meets it who talks to it, one line at a time: what it has printed and is
about to print before it waits for the next line, and how it has come out.

* `Dialogue.hear`, `Dialogue.hearEnd`: what it makes of a line and of the end of its input.
* `play_eq_hearLines`: a dialogue whose lines are those of a whole input prints what the stand-in
  prints for that input, and comes out as it does.
* `Dialogue.hear_crash`, `Dialogue.hear_mute`, `Dialogue.hear_reply`, `Dialogue.hear_last`: what it
  makes of a line that is sent.
-/

namespace Parley
namespace StandIn

/-- The bytes of texts that are written one behind the other. -/
def bytesOf (writes : List String) : List UInt8 := Utf8.encode (writes.flatMap String.toList)

@[simp] theorem bytesOf_nil : bytesOf [] = [] := rfl

@[simp] theorem bytesOf_append (writes more : List String) :
    bytesOf (writes ++ more) = bytesOf writes ++ bytesOf more := by
  simp [bytesOf]

structure Dialogue where
  faults : Faults
  /-- What is printed before the next line is waited for, less what was read of it. -/
  unread : List UInt8
  /-- How it has come out; it waits for a line if it has not. -/
  outcome : Option Outcome := none
  /-- Whether the end of its output was seen. -/
  spent : Bool := false
deriving DecidableEq, Repr

namespace Dialogue

/-- A stand-in that has been started and nothing else. -/
def fresh (f : Faults) (port : String) : Dialogue where
  faults := f
  unread := bytesOf (banner f port ++ [prompt])

def say (writes : List String) (d : Dialogue) : Dialogue :=
  { d with unread := d.unread ++ bytesOf writes }

/-- What it makes of the bytes of a line. -/
def hear (line : List UInt8) (d : Dialogue) : Dialogue :=
  if Utf8.isText line then
    let t := turn d.faults (Utf8.text line)
    match t.next with
    | .prompt => d.say (t.writes ++ [prompt])
    | .exit code => { d.say t.writes with outcome := some (.exit code) }
  else { d with outcome := some .notText }

/-- What it makes of the end of its input. -/
def hearEnd (d : Dialogue) : Dialogue :=
  { d.say [farewell] with outcome := some (if d.faults.stuck then .stuck else .exit 0) }

/-- What it makes of lines, and of the end behind them if it comes so far. -/
def hearLines : List (List UInt8) → Dialogue → Dialogue
  | [], d => d.hearEnd
  | line :: rest, d =>
    let d := d.hear line
    if d.outcome.isNone then hearLines rest d else d

/-- Whether it has ended. A stand-in that is stuck has not. -/
def left (d : Dialogue) : Bool := d.outcome.any (· != .stuck)

variable {d : Dialogue}

@[simp] theorem say_faults {writes : List String} : (d.say writes).faults = d.faults := rfl

@[simp] theorem say_outcome {writes : List String} : (d.say writes).outcome = d.outcome := rfl

@[simp] theorem say_unread {writes : List String} :
    (d.say writes).unread = d.unread ++ bytesOf writes := rfl

theorem say_say (writes more : List String) : (d.say writes).say more = d.say (writes ++ more) := by
  simp [say]

theorem hear_of_prompt {line : List UInt8} (ht : Utf8.isText line = true)
    (hn : (turn d.faults (Utf8.text line)).next = .prompt) :
    d.hear line = d.say ((turn d.faults (Utf8.text line)).writes ++ [prompt]) := by
  rw [hear, if_pos ht]
  simp only [hn]

theorem hear_of_exit {line : List UInt8} {code : Nat} (ht : Utf8.isText line = true)
    (hn : (turn d.faults (Utf8.text line)).next = .exit code) :
    d.hear line = { d.say (turn d.faults (Utf8.text line)).writes with
      outcome := some (.exit code) } := by
  rw [hear, if_pos ht]
  simp only [hn]

theorem hear_of_not_text {line : List UInt8} (ht : Utf8.isText line = false) :
    d.hear line = { d with outcome := some .notText } := by
  rw [hear, if_neg (by simp [ht])]

/-! ## Lines that are sent -/

/-- What a stand-in does with a line, once what is blank around it is gone. -/
theorem turn_of_trim {f : Faults} {line : String} {cs : List Char}
    (ht : Text.trim cs = line.toList) (hne : line.isEmpty = false) :
    turn f cs =
      if f.crashOn = some line then { next := .exit crashCode }
      else if f.muteOn = some line then {}
      else
        { waitMillis := f.delayMillis.getD 0, writes := (respond line).1
          next := (respond line).2 } := by
  simp only [turn, ht, String.ofList_toList, hne, Bool.false_eq_true, if_false]

section

variable {line ending : String}

/-- What a sent line comes to is settled by the turn that the stand-in takes on it. -/
theorem hear_sent {t : Turn} (hturn : turn d.faults (line ++ ending).toList = t) :
    d.hear (line ++ ending).toUTF8.toList =
      match t.next with
      | .prompt => d.say (t.writes ++ [prompt])
      | .exit code => { d.say t.writes with outcome := some (.exit code) } := by
  rw [hear, Utf8.toList_toUTF8, if_pos (Utf8.isText_encode _), Utf8.text_encode, hturn]

theorem hear_crash (ht : Text.trim (line ++ ending).toList = line.toList)
    (hne : line.isEmpty = false) (hc : d.faults.crashOn = some line) :
    d.hear (line ++ ending).toUTF8.toList = { d with outcome := some (.exit crashCode) } := by
  rw [hear_sent (turn_of_trim ht hne), if_pos hc]
  simp [say]

theorem hear_mute (ht : Text.trim (line ++ ending).toList = line.toList)
    (hne : line.isEmpty = false) (hc : d.faults.crashOn ≠ some line)
    (hm : d.faults.muteOn = some line) :
    d.hear (line ++ ending).toUTF8.toList = d.say [prompt] := by
  rw [hear_sent (turn_of_trim ht hne), if_neg hc, if_pos hm]
  rfl

/-- A line at which nothing goes wrong is answered and followed by a prompt. -/
theorem hear_reply (ht : Text.trim (line ++ ending).toList = line.toList)
    (hne : line.isEmpty = false) (hc : d.faults.crashOn ≠ some line)
    (hm : d.faults.muteOn ≠ some line) (hr : (respond line).2 = .prompt) :
    d.hear (line ++ ending).toUTF8.toList = d.say ((respond line).1 ++ [prompt]) := by
  rw [hear_sent (turn_of_trim ht hne), if_neg hc, if_neg hm]
  simp only [hr]

/-- A line that asks for the end is answered, and nothing follows. -/
theorem hear_last {code : Nat} (ht : Text.trim (line ++ ending).toList = line.toList)
    (hne : line.isEmpty = false) (hc : d.faults.crashOn ≠ some line)
    (hm : d.faults.muteOn ≠ some line) (hr : (respond line).2 = .exit code) :
    d.hear (line ++ ending).toUTF8.toList =
      { d.say (respond line).1 with outcome := some (.exit code) } := by
  rw [hear_sent (turn_of_trim ht hne), if_neg hc, if_neg hm]
  simp only [hr]

end

/-! ## Whole inputs -/

/-- Behind a prompt a dialogue goes on as the transcript from that prompt on does. -/
theorem hearLines_say_prompt (lines : List (List UInt8)) (ho : d.outcome = none) :
    (hearLines lines (d.say [prompt])).unread =
        d.unread ++ bytesOf (transcript d.faults lines).1 ∧
      (hearLines lines (d.say [prompt])).outcome = some (transcript d.faults lines).2 := by
  induction lines generalizing d with
  | nil =>
    refine ⟨?_, rfl⟩
    change d.unread ++ bytesOf [prompt] ++ bytesOf [farewell] =
      d.unread ++ bytesOf [prompt, farewell]
    rw [List.append_assoc, ← bytesOf_append, List.singleton_append]
  | cons line rest ih =>
    rw [hearLines, transcript]
    cases ht : Utf8.isText line with
    | false =>
      rw [hear_of_not_text ht]
      exact ⟨rfl, rfl⟩
    | true =>
      cases hn : (turn d.faults (Utf8.text line)).next with
      | prompt =>
        have hhear : (d.say [prompt]).hear line =
            ((d.say [prompt]).say (turn d.faults (Utf8.text line)).writes).say [prompt] := by
          rw [say_say]
          exact hear_of_prompt ht hn
        have hnone :
            ((d.say [prompt]).say (turn d.faults (Utf8.text line)).writes).outcome = none := ho
        obtain ⟨hunread, hout⟩ := ih hnone
        simp only [hhear, say_outcome, ho, Option.isNone_none, if_true, hunread, hout, hn]
        simp [bytesOf]
      | exit code =>
        have hhear : (d.say [prompt]).hear line =
            { (d.say [prompt]).say (turn d.faults (Utf8.text line)).writes with
              outcome := some (.exit code) } := hear_of_exit ht hn
        simp only [hhear, hn]
        simp [bytesOf]

end Dialogue

/-- A dialogue over the lines of an input prints what the stand-in prints for the whole input, and
comes out as it does. -/
theorem play_eq_hearLines (f : Faults) (port : String) (input : List UInt8) :
    bytesOf (play f port input).1 =
        (Dialogue.hearLines (splitLines [] input) (.fresh f port)).unread ∧
      some (play f port input).2 =
        (Dialogue.hearLines (splitLines [] input) (.fresh f port)).outcome := by
  let begun : Dialogue := { faults := f, unread := bytesOf (banner f port) }
  have hfresh : Dialogue.fresh f port = begun.say [prompt] := by
    simp [Dialogue.fresh, Dialogue.say, begun]
  obtain ⟨hunread, hout⟩ :=
    Dialogue.hearLines_say_prompt (d := begun) (splitLines [] input) rfl
  rw [hfresh, hunread, hout, play]
  exact ⟨bytesOf_append _ _, rfl⟩

end StandIn
end Parley

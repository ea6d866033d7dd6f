import Parley.Proofs.StandIn.Dialogue
import Parley.Proofs.Text.Lines
import Parley.StandIn.CommandLine

/-!
# Parley.Proofs.StandIn.Transcript

What the stand-in prints for a whole input, told by the lines of the input: one prompt and one reply
for each line up to the first one that stops it, and one prompt and a farewell if none does.

* `Stops`, `reply`: what a line comes to, once what is blank around it is gone.
* `Transcript`: what is printed for lines, from the first prompt on, and how it comes out.
* `turn_spec`: the turn that the stand-in takes on a line.
* `play_transcript`: every run on a text prints the banner and a transcript.
-/

namespace Parley
namespace StandIn

open Utf8

/-! ## The lines of an input -/

/-- The lines of an input, without what is blank around them. -/
def heard (input : String) : List String := (Text.lines input).map Text.trimString

/-- The lines at which a stand-in is asked to end. -/
def leaves : List String := ["bye", "quit", ".exit"]

/-- Lines that stop a stand-in, and the code with which it then ends. -/
inductive Stops (f : Faults) (line : String) : Nat → Prop
  | crash : line ≠ "" → f.crashOn = some line → Stops f line 3
  | leave : line ∈ leaves → f.crashOn ≠ some line → f.muteOn ≠ some line → Stops f line 0

/-- What is printed behind the prompt for a line. -/
def reply (f : Faults) (line : String) : String :=
  if line = "" ∨ f.crashOn = some line ∨ f.muteOn = some line then ""
  else if line ∈ leaves then "Goodbye!\n"
  else String.join (respond line).1

/-- A prompt and a reply for each of some lines. -/
def replies (f : Faults) (lines : List String) : String :=
  String.join (lines.map fun line => "v4> " ++ reply f line)

/-- What is printed for lines, from the first prompt on, and how it comes out. -/
inductive Transcript (f : Faults) (lines : List String) : String → Outcome → Prop
  /-- A line stops it, and none before that. -/
  | stopped {front rest : List String} {line : String} {code : Nat} :
      lines = front ++ line :: rest → (∀ l ∈ front, ∀ c, ¬ Stops f l c) → Stops f line code →
      Transcript f lines (replies f (front ++ [line])) (.exit code)
  /-- No line stops it. -/
  | ended : (∀ l ∈ lines, ∀ c, ¬ Stops f l c) →
      Transcript f lines (replies f lines ++ "v4> Goodbye!\n")
        (if f.stuck then .stuck else .exit 0)

/-- The lines that a stand-in prints first. -/
def greeting (f : Faults) (port : String) : String :=
  if f.noBanner then ""
  else "V4 REPL v0.1.0\nConnected to " ++ port ++ "\nType 'bye' or press Ctrl+D to exit\n" ++
    "Type '.help' for help\n\nResetting device...\nDevice ready\n\n"

/-! ## Bytes of lines -/

variable {f : Faults} {line : String} {lines : List String} {cs l : List Char} {x : List UInt8}

theorem splitLines_append (h : 10 ∉ x) (line rest : List UInt8) :
    splitLines line (x ++ rest) = splitLines (x.reverse ++ line) rest := by
  induction x generalizing line with
  | nil => rfl
  | cons b x ih =>
    rw [List.mem_cons, not_or] at h
    rw [List.cons_append, splitLines, if_neg (by simpa using Ne.symm h.1), ih h.2]
    simp

theorem splitLines_encode (h : '\n' ∉ l) :
    splitLines [] (encode l) = if l = [] then [] else [encode l] := by
  rw [← List.append_nil (encode l), splitLines_append (newline_not_mem_encode h), splitLines]
  cases l with
  | nil => rfl
  | cons c l => simp [encodeChar_ne_nil]

theorem splitLines_encode_cons (h : '\n' ∉ l) (rest : List Char) :
    splitLines [] (encode (l ++ '\n' :: rest)) =
      encode (l ++ ['\n']) :: splitLines [] (encode rest) := by
  have hfeed : encodeChar '\n' = [10] := by decide
  rw [encode_append, encode_cons, hfeed, splitLines_append (newline_not_mem_encode h),
    List.singleton_append, splitLines, if_pos (beq_self_eq_true _), encode_append, encode_cons, hfeed]
  simp

/-! ## One line -/

theorem respond_of_mem_leaves (h : line ∈ leaves) :
    String.join (respond line).1 = "Goodbye!\n" ∧ (respond line).2 = .exit 0 := by
  simp only [leaves, List.mem_cons, List.not_mem_nil, or_false] at h
  rcases h with rfl | rfl | rfl <;> exact ⟨rfl, rfl⟩

theorem respond_of_not_mem_leaves (h : line ∉ leaves) : (respond line).2 = .prompt := by
  have hstay : ¬ (line = "bye" ∨ line = "quit" ∨ line = ".exit") := by simpa [leaves] using h
  rw [respond, if_neg hstay]
  repeat' split
  all_goals rfl

/-- What the stand-in prints for a line and whether it goes on depend on nothing but that line, once
what is blank around it is gone. -/
theorem turn_spec (f : Faults) (cs : List Char) :
    String.join (turn f cs).writes = reply f (String.ofList (Text.trim cs)) ∧
    ((turn f cs).next = .prompt ∧ (∀ c, ¬ Stops f (String.ofList (Text.trim cs)) c) ∨
      ∃ code, (turn f cs).next = .exit code ∧ Stops f (String.ofList (Text.trim cs)) code) := by
  generalize hline : String.ofList (Text.trim cs) = line
  have htrim : Text.trim cs = line.toList := by rw [← hline, String.toList_ofList]
  by_cases hempty : line = ""
  · have hturn : turn f cs = {} := by simp [turn, htrim, hempty]
    have hstay : ∀ c, ¬ Stops f line c := by
      rintro _ (⟨hne, -⟩ | ⟨hleave, -, -⟩)
      · exact hne hempty
      · rw [hempty] at hleave
        exact absurd hleave (by decide)
    rw [hturn, reply, if_pos (.inl hempty)]
    exact ⟨rfl, .inl ⟨rfl, hstay⟩⟩
  have hturn := Dialogue.turn_of_trim (f := f) htrim (by simpa using hempty)
  by_cases hcrash : f.crashOn = some line
  · rw [hturn, if_pos hcrash, reply, if_pos (.inr (.inl hcrash))]
    exact ⟨rfl, .inr ⟨3, rfl, .crash hempty hcrash⟩⟩
  by_cases hmute : f.muteOn = some line
  · have hstay : ∀ c, ¬ Stops f line c := by
      rintro _ (⟨-, hc⟩ | ⟨-, -, hm⟩)
      · exact hcrash hc
      · exact hm hmute
    rw [hturn, if_neg hcrash, if_pos hmute, reply, if_pos (.inr (.inr hmute))]
    exact ⟨rfl, .inl ⟨rfl, hstay⟩⟩
  have hsound : ¬ (line = "" ∨ f.crashOn = some line ∨ f.muteOn = some line) := by
    simp [hempty, hcrash, hmute]
  rw [hturn, if_neg hcrash, if_neg hmute, reply, if_neg hsound]
  by_cases hleave : line ∈ leaves
  · obtain ⟨hwrites, hnext⟩ := respond_of_mem_leaves hleave
    rw [if_pos hleave]
    exact ⟨hwrites, .inr ⟨0, hnext, .leave hleave hcrash hmute⟩⟩
  · have hstay : ∀ c, ¬ Stops f line c := by
      rintro _ (⟨-, hc⟩ | ⟨hl, -, -⟩)
      · exact hcrash hc
      · exact hleave hl
    rw [if_neg hleave]
    exact ⟨rfl, .inl ⟨respond_of_not_mem_leaves hleave, hstay⟩⟩

/-! ## All lines -/

theorem replies_cons (f : Faults) (line : String) (lines : List String) :
    replies f (line :: lines) = "v4> " ++ reply f line ++ replies f lines := by
  simp [replies]

/-- A line that does not stop the stand-in comes in front of any transcript. -/
theorem Transcript.cons {printed : String} {outcome : Outcome} (hline : ∀ c, ¬ Stops f line c)
    (h : Transcript f lines printed outcome) :
    Transcript f (line :: lines) ("v4> " ++ reply f line ++ printed) outcome := by
  cases h with
  | stopped hlines hfront hstop =>
    rw [← replies_cons, ← List.cons_append]
    refine .stopped (congrArg (line :: ·) hlines) ?_ hstop
    rw [List.forall_mem_cons]
    exact ⟨hline, hfront⟩
  | ended hall =>
    rw [← String.append_assoc, ← replies_cons]
    refine .ended ?_
    rw [List.forall_mem_cons]
    exact ⟨hline, hall⟩

theorem Stops.unique {c c' : Nat} (h : Stops f line c) (h' : Stops f line c') : c = c' := by
  cases h with
  | crash _ hc =>
    cases h' with
    | crash _ _ => rfl
    | leave _ hc' _ => exact absurd hc hc'
  | leave _ hc _ =>
    cases h' with
    | crash _ hc' => exact absurd hc' hc
    | leave _ _ _ => rfl

/-- There is one first line that stops the stand-in. -/
theorem eq_of_first_stop {front front' rest rest' : List String} {line line' : String} {c c' : Nat}
    (heq : front ++ line :: rest = front' ++ line' :: rest')
    (hfront : ∀ l ∈ front, ∀ c, ¬ Stops f l c) (hfront' : ∀ l ∈ front', ∀ c, ¬ Stops f l c)
    (h : Stops f line c) (h' : Stops f line' c') : front = front' ∧ line = line' := by
  rcases List.append_eq_append_iff.1 heq with ⟨more, rfl, hmore⟩ | ⟨more, rfl, hmore⟩
  · cases more with
    | nil => exact ⟨(List.append_nil front).symm, (List.cons.inj hmore).1⟩
    | cons l more =>
      obtain ⟨rfl, -⟩ := List.cons.inj hmore
      exact absurd h (hfront' line (List.mem_append_right front List.mem_cons_self) c)
  · cases more with
    | nil => exact ⟨List.append_nil front', (List.cons.inj hmore).1.symm⟩
    | cons l more =>
      obtain ⟨rfl, -⟩ := List.cons.inj hmore
      exact absurd h' (hfront line' (List.mem_append_right front' List.mem_cons_self) c')

/-- Lines have one transcript. -/
theorem Transcript.unique {p p' : String} {o o' : Outcome} (h : Transcript f lines p o)
    (h' : Transcript f lines p' o') : p = p' ∧ o = o' := by
  cases h with
  | stopped hlines hfront hstop =>
    cases h' with
    | stopped hlines' hfront' hstop' =>
      obtain ⟨rfl, rfl⟩ := eq_of_first_stop (hlines.symm.trans hlines') hfront hfront' hstop hstop'
      exact ⟨rfl, congrArg Outcome.exit (hstop.unique hstop')⟩
    | ended hall => exact absurd hstop (hall _ (hlines ▸ by simp) _)
  | ended hall =>
    cases h' with
    | stopped hlines' _ hstop' => exact absurd hstop' (hall _ (hlines' ▸ by simp) _)
    | ended _ => exact ⟨rfl, rfl⟩

/-- One more line in front of an input. -/
theorem transcript_encode_cons {rest : List (List UInt8)}
    (h : Transcript f lines (String.join (transcript f rest).1) (transcript f rest).2)
    (l : List Char) :
    Transcript f (String.ofList (Text.trim l) :: lines)
      (String.join (transcript f (encode l :: rest)).1) (transcript f (encode l :: rest)).2 := by
  obtain ⟨hwrites, hnext⟩ := turn_spec f l
  rw [transcript, if_pos (isText_encode l), text_encode]
  rcases hnext with ⟨hnext, hstay⟩ | ⟨code, hnext, hstop⟩
  · simp only [hnext, String.join_cons, String.join_append, hwrites, ← String.append_assoc]
    exact h.cons hstay
  · have hone : Transcript f (String.ofList (Text.trim l) :: lines)
        (replies f ([] ++ [String.ofList (Text.trim l)])) (.exit code) :=
      .stopped rfl (fun _ h => absurd h List.not_mem_nil) hstop
    simp only [hnext, String.join_cons, hwrites]
    simpa [replies, prompt] using hone

/-- From the first prompt on, the stand-in prints the transcript of the lines. -/
theorem transcript_encode (f : Faults) (cs : List Char) :
    Transcript f ((Text.linesOf cs).map fun l => String.ofList (Text.trim l))
      (String.join (transcript f (splitLines [] (encode cs))).1)
      (transcript f (splitLines [] (encode cs))).2 := by
  have hend : Transcript f [] (String.join (transcript f []).1) (transcript f []).2 :=
    .ended fun _ h => absurd h List.not_mem_nil
  induction cs using Text.linewise with
  | last l hl =>
    rw [Text.linesOf_of_not_mem hl, splitLines_encode hl]
    split
    · exact hend
    · exact transcript_encode_cons hend l
  | line l rest hl ih =>
    have hcons := transcript_encode_cons ih (l ++ ['\n'])
    rw [Text.trim_append_blank rfl, ← Text.trim_chomp] at hcons
    rw [Text.linesOf_append_cons hl, splitLines_encode_cons hl]
    exact hcons

theorem join_banner (f : Faults) (port : String) :
    String.join (banner f port) = greeting f port := by
  rw [banner, greeting]
  split
  · rfl
  · rw [← String.toList_inj]
    simp [version]

/-- Every run on a text prints the banner, unless it is to keep that to itself, and the one transcript
that there is of the lines, and comes out as that says. The program ends with the code of the
outcome, or not at all. A blank line is no place for a fault: nothing is printed for it, the run goes
on, and nothing is waited for. -/
theorem play_transcript (f : Faults) (port input : String) :
    (∃ printed,
      String.join (play f port input.toUTF8.toList).1 = greeting f port ++ printed ∧
      (∀ p o, Transcript f (heard input) p o ↔
        p = printed ∧ o = (play f port input.toUTF8.toList).2) ∧
      ∀ arguments e, Request.ofArguments arguments = .repl port → Faults.ofEnvironment e = f →
        (∀ code, (play f port input.toUTF8.toList).2 = .exit code →
          run arguments e input.toUTF8.toList =
            some { exit := code, output := greeting f port ++ printed }) ∧
        ((play f port input.toUTF8.toList).2 = .stuck →
          run arguments e input.toUTF8.toList = none)) ∧
    ∀ line, Text.trim line = [] → turn f line = {} := by
  refine ⟨?_, ?_⟩
  · have hlines : heard input =
        (Text.linesOf input.toList).map fun l => String.ofList (Text.trim l) := by
      simp [heard, Text.lines, Text.trimString, Function.comp_def]
    have htranscript := transcript_encode f input.toList
    rw [← hlines, ← toList_toUTF8] at htranscript
    have hjoin : String.join (play f port input.toUTF8.toList).1 = greeting f port ++
        String.join (transcript f (splitLines [] input.toUTF8.toList)).1 := by
      rw [play, ← join_banner, ← String.join_append]
    refine ⟨_, hjoin, ?_, ?_⟩
    · intro p o
      constructor
      · exact fun h => h.unique htranscript
      · rintro ⟨rfl, rfl⟩
        exact htranscript
    · intro arguments e hrequest hfaults
      rw [← hjoin]
      constructor
      · intro code hcode
        simp only [run, hrequest, hfaults, hcode]
      · intro hstuck
        simp only [run, hrequest, hfaults, hstuck]
  · intro line hblank
    simp [turn, hblank]

/-- A blank line, one that gets no reply, one that gets one, and a farewell without a line feed at
which the stand-in crashes. -/
theorem play_transcript_crash :
    ∃ (f : Faults) (e : Environment) (input : String),
      f = { crashOn := some "bye", muteOn := some "hush" } ∧
      e = { vars := [("V4_SIM_CRASH_ON", "bye"), ("V4_SIM_MUTE_ON", "hush")] } ∧
      input = "\n hush \r\n.ping\n\tbye" ∧ heard input = ["", "hush", ".ping", "bye"] ∧
      Request.ofArguments ["repl", "--port", "p"] = .repl "p" ∧ Faults.ofEnvironment e = f ∧
      run ["repl", "--port", "p"] e input.toUTF8.toList = some {
        exit := 3
        output := greeting f "p" ++ "v4> v4> v4> Device is responsive\nv4> " } ∧
      Text.trim " \t".toList = [] ∧ turn f " \t".toList = {} := by
  let f : Faults := { crashOn := some "bye", muteOn := some "hush" }
  let e : Environment := { vars := [("V4_SIM_CRASH_ON", "bye"), ("V4_SIM_MUTE_ON", "hush")] }
  let input := "\n hush \r\n.ping\n\tbye"
  have hheard : heard input = ["", "hush", ".ping"] ++ ["bye"] := by decide +kernel
  have hfront : ∀ l ∈ ["", "hush", ".ping"], ∀ c, ¬ Stops f l c := by
    have hcrash : ∀ l ∈ ["", "hush", ".ping"], f.crashOn ≠ some l := by decide
    have hleave : ∀ l ∈ ["", "hush", ".ping"], l ∉ leaves := by decide
    rintro l hl _ (⟨-, hc⟩ | ⟨hl', -, -⟩)
    · exact hcrash l hl hc
    · exact hleave l hl hl'
  have htranscript : Transcript f (heard input) (replies f (["", "hush", ".ping"] ++ ["bye"]))
      (.exit 3) :=
    .stopped hheard hfront (.crash (by decide) rfl)
  have hreplies : replies f (["", "hush", ".ping"] ++ ["bye"]) =
      "v4> v4> v4> Device is responsive\nv4> " := by decide +kernel
  have hrequest : Request.ofArguments ["repl", "--port", "p"] = .repl "p" := by decide +kernel
  have hfaults : Faults.ofEnvironment e = f := by decide +kernel
  have hblank : Text.trim " \t".toList = [] := by decide +kernel
  obtain ⟨⟨printed, -, honly, hrun⟩, hstill⟩ := play_transcript f "p" input
  obtain ⟨rfl, hexit⟩ := (honly _ _).1 htranscript
  have hends := (hrun _ e hrequest hfaults).1 3 hexit.symm
  rw [hreplies] at hends
  exact ⟨f, e, input, rfl, rfl, rfl, hheard, hrequest, hfaults, hends, hblank, hstill _ hblank⟩

end StandIn
end Parley

import Mathlib.Data.List.Basic
import Parley.Failure
import Parley.Proofs.Text.Lines
import Parley.Proofs.Utf8.Encode

/-!
# Parley.Proofs.Failure.Snippet

What can be read back from a framed output. A reader goes by the place of a row alone: the first row
and the last one are the frame's, and if the first says that lines are hidden, the second one says
how many. All others are lines of output behind a bar, whatever they look like.

* `numbers`: the numbers that a row states.
* `read?`: the reader.
* `splitOn_frame_of_short`, `splitOn_frame_of_long`: the rows of a frame.
* `read_frame`: the reader finds what was framed.
-/

namespace Parley
namespace Snippet

/-! ## Reading a frame -/

/-- The numbers in a row. -/
def numbers (row : List Char) : List Nat :=
  ((row.splitOnP (!·.isDigit)).filter (!·.isEmpty)).map (Nat.ofDigitChars 10 · 0)

/-- A row without its bar. -/
def unbar? (row : List Char) : Option String := (['│', ' '].isPrefixOf? row).map String.ofList

/-- What a frame says. -/
structure Report where
  /-- How many bytes the output has. -/
  bytes : Nat
  /-- How many lines the output has, and how many of them are hidden, if some are. -/
  cut : Option (Nat × Nat) := none
  /-- The lines that are shown. -/
  lines : List String
deriving DecidableEq, Repr

/-- Reads a frame. The first row and the last one go, and the second one too if the first states two
numbers; the others lose their bars. -/
def read? (text : String) : Option Report :=
  match text.toList.splitOn '\n' with
  | [] => none
  | first :: rest =>
    match numbers first, rest.dropLast with
    | [bytes], inner => (inner.mapM unbar?).map fun lines => { bytes, lines }
    | [bytes, total], second :: inner =>
      match numbers second with
      | [hidden] => (inner.mapM unbar?).map fun lines => { bytes, cut := some (total, hidden), lines }
      | _ => none
    | _, _ => none

/-! ## Numbers -/

variable {a b lead : List Char} {c : Char}

theorem numbers_append_cons (hc : c.isDigit = false) :
    numbers (a ++ c :: b) = numbers a ++ numbers b := by
  rw [numbers, List.splitOnP_append_cons a b (by rw [hc]; rfl), List.filter_append,
    List.map_append]
  rfl

theorem numbers_append_of_not_digit (h : lead.all (!·.isDigit) = true) :
    numbers (lead ++ b) = numbers b := by
  induction lead with
  | nil => rfl
  | cons c lead ih =>
    rw [List.all_cons, Bool.and_eq_true, Bool.not_eq_true'] at h
    have hfirst := numbers_append_cons (a := []) (b := lead ++ b) h.1
    rw [List.cons_append, ← ih h.2]
    exact hfirst

theorem numbers_toDigits (n : Nat) : numbers (Nat.toDigits 10 n) = [n] := by
  have hdigits : ∀ d ∈ Nat.toDigits 10 n, (!d.isDigit) = false := by
    intro d hd
    rw [Nat.isDigit_of_mem_toDigits (by decide) (by decide) hd]
    rfl
  rw [numbers, List.splitOnP_eq_singleton hdigits, List.filter_cons_of_pos (by simp)]
  simp [Nat.ofDigitChars_ten_toDigits]

/-- A number behind a text without numbers, and in front of one. -/
theorem numbers_between (lead tail b : List Char) (n : Nat)
    (hlead : lead.all (!·.isDigit) = true) (htail : tail.all (!·.isDigit) = true)
    (hne : tail ≠ []) :
    numbers (lead ++ (Nat.toDigits 10 n ++ (tail ++ b))) = n :: numbers b := by
  obtain ⟨c, tail, rfl⟩ := List.exists_cons_of_ne_nil hne
  rw [List.all_cons, Bool.and_eq_true, Bool.not_eq_true'] at htail
  rw [numbers_append_of_not_digit hlead, List.cons_append, numbers_append_cons htail.1,
    numbers_toDigits, numbers_append_of_not_digit htail.2, List.singleton_append]

/-- A number in a text that holds no other one. -/
theorem numbers_around (lead tail : List Char) (n : Nat) (hlead : lead.all (!·.isDigit) = true)
    (htail : tail.all (!·.isDigit) = true) (hne : tail ≠ []) :
    numbers (lead ++ (Nat.toDigits 10 n ++ tail)) = [n] := by
  have h := numbers_between lead tail [] n hlead htail hne
  rw [List.append_nil] at h
  exact h

/-! ## The rows of the frame itself -/

theorem toList_header (n : Nat) : (header n).toList =
    "┌─ buffer (".toList ++ (Nat.toDigits 10 n ++ " bytes) ──────────────────────".toList) := by
  unfold header
  simp only [String.toList_append, Nat.toString_eq_repr, Nat.toList_repr, List.append_assoc]

theorem toList_longHeader (n m : Nat) : (longHeader n m).toList =
    "┌─ buffer (".toList ++ (Nat.toDigits 10 n ++ (" bytes, ".toList ++ (Nat.toDigits 10 m ++
      " lines) ─────────────".toList))) := by
  unfold longHeader
  simp only [String.toList_append, Nat.toString_eq_repr, Nat.toList_repr, List.append_assoc]

theorem toList_hiddenLine (n : Nat) : (hiddenLine n).toList =
    "│ ... (".toList ++ (Nat.toDigits 10 n ++ " lines hidden)".toList) := by
  unfold hiddenLine bar
  simp only [String.toList_append, Nat.toString_eq_repr, Nat.toList_repr, ← List.append_assoc]
  rfl

theorem numbers_header (n : Nat) : numbers (header n).toList = [n] := by
  rw [toList_header]
  exact numbers_around _ _ n (by decide) (by decide) (by decide)

theorem numbers_longHeader (n m : Nat) : numbers (longHeader n m).toList = [n, m] := by
  have h := numbers_around [] " lines) ─────────────".toList m (by decide) (by decide) (by decide)
  rw [toList_longHeader, numbers_between _ _ _ n (by decide) (by decide) (by decide)]
  exact congrArg (n :: ·) h

theorem numbers_hiddenLine (n : Nat) : numbers (hiddenLine n).toList = [n] := by
  rw [toList_hiddenLine]
  exact numbers_around _ _ n (by decide) (by decide) (by decide)

theorem newline_not_mem_toDigits (n : Nat) : '\n' ∉ Nat.toDigits 10 n := by
  intro h
  cases Nat.isDigit_of_mem_toDigits (by decide) (by decide) h

theorem splitOn_header (n : Nat) : (header n).toList.splitOn '\n' = [(header n).toList] := by
  refine List.splitOn_eq_singleton ?_
  simp only [toList_header, List.mem_append, newline_not_mem_toDigits]
  decide

theorem splitOn_longHeader (n m : Nat) :
    (longHeader n m).toList.splitOn '\n' = [(longHeader n m).toList] := by
  refine List.splitOn_eq_singleton ?_
  simp only [toList_longHeader, List.mem_append, newline_not_mem_toDigits]
  decide

theorem splitOn_hiddenLine (n : Nat) :
    (hiddenLine n).toList.splitOn '\n' = [(hiddenLine n).toList] := by
  refine List.splitOn_eq_singleton ?_
  simp only [toList_hiddenLine, List.mem_append, newline_not_mem_toDigits]
  decide

theorem splitOn_footer : footer.toList.splitOn '\n' = [footer.toList] :=
  List.splitOn_eq_singleton (by decide +kernel)

/-! ## The rows of the output -/

variable {ls : List String} {output : String}

/-- The row of a line of output. -/
def barredRow (l : String) : List Char := bar.toList ++ l.toList

theorem unbar?_barredRow (l : String) : unbar? (barredRow l) = some l := by
  have h : ['│', ' '].isPrefixOf? (barredRow l) = some l.toList :=
    List.isPrefixOf?_eq_some_iff_append_eq.2 rfl
  rw [unbar?, h, Option.map_some, String.ofList_toList]

theorem mapM_unbar? (ls : List String) : (ls.map barredRow).mapM unbar? = some ls := by
  induction ls with
  | nil => rfl
  | cons l ls ih => simp [unbar?_barredRow, ih]

theorem toList_barred (hne : ls ≠ []) :
    (barred ls).toList = ['\n'].intercalate (ls.map barredRow) := by
  induction ls with
  | nil => exact absurd rfl hne
  | cons l ls ih =>
    cases ls with
    | nil => simp [barred, barredRow]
    | cons k ls =>
      have h := ih (List.cons_ne_nil k ls)
      rw [List.map_cons] at h
      rw [List.map_cons, List.map_cons, List.intercalate_cons_cons, ← h]
      simp [barred, barredRow]

/-- Lines that hold no line feed have one row each. -/
theorem splitOn_barred (hne : ls ≠ []) (hls : ∀ l ∈ ls, '\n' ∉ l.toList) :
    (barred ls).toList.splitOn '\n' = ls.map barredRow := by
  rw [toList_barred hne]
  refine List.splitOn_intercalate '\n' ?_ (by simpa using hne)
  intro row hrow
  obtain ⟨l, hl, rfl⟩ := List.mem_map.1 hrow
  rw [barredRow, List.mem_append, not_or]
  exact ⟨by decide, hls l hl⟩

/-! ## Whole frames -/

/-- Texts one below the other have the rows of each of them. -/
theorem splitOn_intercalate_newline {texts : List String} (hne : texts ≠ []) :
    ("\n".intercalate texts).toList.splitOn '\n' =
      texts.flatMap fun text => text.toList.splitOn '\n' := by
  induction texts with
  | nil => exact absurd rfl hne
  | cons text texts ih =>
    by_cases hlast : texts = []
    · simp [hlast]
    · rw [List.flatMap_cons, ← ih hlast, ← List.splitOn_append_cons_self,
        String.intercalate_cons_of_ne_nil hlast]
      simp

theorem newline_not_mem_of_mem_lines : ∀ l ∈ Text.lines output, '\n' ∉ l.toList := by
  intro l hl
  obtain ⟨cs, hcs, rfl⟩ := List.mem_map.1 hl
  rw [String.toList_ofList]
  exact Text.newline_not_mem_of_mem_linesOf cs hcs

theorem lines_ne_nil (h : output ≠ "") : Text.lines output ≠ [] := by
  have hne : output.toList ≠ [] := by simpa using h
  simpa [Text.lines] using Text.linesOf_ne_nil hne

/-- The rows of a frame around a whole output. -/
theorem splitOn_frame_of_short (hne : output ≠ "")
    (h : output.utf8ByteSize ≤ shortBytes ∨ (Text.lines output).length ≤ tailLines) :
    (frame output).toList.splitOn '\n' =
      (header output.utf8ByteSize).toList ::
        ((Text.lines output).map barredRow ++ [footer.toList]) := by
  have hrows := splitOn_barred (lines_ne_nil hne) newline_not_mem_of_mem_lines
  rw [frame, if_neg (by simpa using hne), if_pos (by simpa using h),
    splitOn_intercalate_newline (List.cons_ne_nil _ _)]
  simp [splitOn_header, hrows, splitOn_footer]

/-- The rows of a frame around the end of an output. -/
theorem splitOn_frame_of_long {hidden shown : List String}
    (hlines : Text.lines output = hidden ++ shown) (hhidden : hidden ≠ [])
    (hshown : shown.length = tailLines) (hbytes : shortBytes < output.utf8ByteSize) :
    (frame output).toList.splitOn '\n' =
      (longHeader output.utf8ByteSize (Text.lines output).length).toList ::
        (hiddenLine hidden.length).toList :: (shown.map barredRow ++ [footer.toList]) := by
  have hne : output ≠ "" := by
    rintro rfl
    exact absurd hbytes (by decide)
  have hlength : (Text.lines output).length = hidden.length + tailLines := by
    rw [hlines, List.length_append, hshown]
  have hlong : tailLines < (Text.lines output).length := by
    have := List.length_pos_iff.2 hhidden
    omega
  have hfeeds : ∀ l ∈ shown, '\n' ∉ l.toList := by
    intro l hl
    exact newline_not_mem_of_mem_lines l (hlines ▸ List.mem_append_right hidden hl)
  have hrows := splitOn_barred (List.ne_nil_of_length_eq_add_one hshown) hfeeds
  have hcount : (Text.lines output).length - tailLines = hidden.length := by omega
  have hdrop : (Text.lines output).drop hidden.length = shown := by rw [hlines, List.drop_left]
  rw [frame, if_neg (by simpa using hne), if_neg (by simp; omega),
    splitOn_intercalate_newline (List.cons_ne_nil _ _)]
  simp [splitOn_longHeader, splitOn_hiddenLine, splitOn_footer, hcount, hdrop, hrows]

/-- A failure that carries output ends its message with the output in its frame, however many steps
it is wrapped in. -/
theorem frame_isSuffix_message {f : Failure} (h : f.unread? = some output) :
    ∃ lead, f.message = lead ++ frame output := by
  induction f with
  | timedOut allowed pattern unread =>
    cases h
    unfold Failure.message Failure.evidence
    exact ⟨_, (String.append_assoc ..).symm⟩
  | ended pattern status unread =>
    cases h
    unfold Failure.message Failure.evidence
    exact ⟨_, (String.append_assoc ..).symm⟩
  | inStep index name cause ih =>
    obtain ⟨lead, hlead⟩ := ih h
    unfold Failure.message
    rw [hlead]
    exact ⟨_, (String.append_assoc ..).symm⟩
  | launch _ => cases h
  | system _ => cases h
  | systemDuring _ _ => cases h
  | badRegex _ => cases h
  | sessionClosed => cases h
  | settings _ => cases h

/-- The message of a failure with output ends in a frame, and what is read from the frame is true of
the output, whatever the output looks like. The frame states the number of bytes. Around an output
of at most 500 bytes or 6 lines it shows all lines. Around any other it shows the last 6, and states
the number of lines and of those that are hidden. -/
theorem read_frame (output : String) (hne : output ≠ "") :
    (∀ f : Failure, f.unread? = some output → ∃ lead, f.message = lead ++ frame output) ∧
    (output.utf8ByteSize ≤ 500 ∨ (Text.lines output).length ≤ 6 →
      read? (frame output) =
        some { bytes := output.utf8ByteSize, lines := Text.lines output }) ∧
    (500 < output.utf8ByteSize → 6 < (Text.lines output).length →
      ∃ hidden shown, Text.lines output = hidden ++ shown ∧ shown.length = 6 ∧
        hidden.length + 6 = (Text.lines output).length ∧
        read? (frame output) = some {
          bytes := output.utf8ByteSize
          cut := some ((Text.lines output).length, hidden.length)
          lines := shown }) := by
  refine ⟨fun f => frame_isSuffix_message, ?_, ?_⟩
  · intro hshort
    rw [read?, splitOn_frame_of_short hne hshort]
    simp only [numbers_header, List.dropLast_concat, mapM_unbar?, Option.map_some]
  · intro hbytes hmany
    obtain ⟨hidden, shown, hlines, hshown⟩ : ∃ hidden shown,
        Text.lines output = hidden ++ shown ∧ shown.length = 6 :=
      ⟨_, _, (List.take_append_drop ((Text.lines output).length - 6) _).symm, by
        rw [List.length_drop]
        omega⟩
    have hcount : hidden.length + 6 = (Text.lines output).length := by
      rw [hlines, List.length_append, hshown]
    have hhidden : hidden ≠ [] := List.ne_nil_of_length_pos (by omega)
    have hinner : ((hiddenLine hidden.length).toList ::
        (shown.map barredRow ++ [footer.toList])).dropLast =
          (hiddenLine hidden.length).toList :: shown.map barredRow := by
      rw [← List.cons_append, List.dropLast_concat]
    refine ⟨hidden, shown, hlines, hshown, hcount, ?_⟩
    rw [read?, splitOn_frame_of_long hlines hhidden hshown hbytes]
    simp only [numbers_longHeader, hinner, numbers_hiddenLine, mapM_unbar?, Option.map_some]

/-- Behind a first line of any length come seven more: an empty one, and those that are shown, which
look like a frame, hold carriage returns or are empty. -/
def disguised (first : List Char) : String :=
  String.ofList (first ++ '\n' :: ['\r', '\n', '┌', '\n', '│', ' ', '.', '.', '.', '\n', '└', '\n',
    'a', '\r', 'b', '\n', '\n', 'z', '\r'])

theorem lines_disguised {first : List Char} (hn : '\n' ∉ first) (hr : '\r' ∉ first) :
    Text.lines (disguised first) =
      [String.ofList first, ""] ++ ["┌", "│ ...", "└", "a\rb", "", "z\r"] := by
  have hchomp : Text.chomp first = first := by
    rcases Text.chomp_cases first with h | h
    · exact h.symm
    · exact absurd (h ▸ by simp) hr
  rw [Text.lines, disguised, String.toList_ofList, Text.linesOf_append_cons hn, hchomp]
  rfl

theorem utf8ByteSize_disguised (first : List Char) :
    (disguised first).utf8ByteSize = Utf8.size first + 26 := by
  rw [Utf8.utf8ByteSize_eq_size, disguised, String.toList_ofList, Utf8.size_append]
  rfl

theorem read_frame_disguised :
    ∃ first : List Char, first = List.replicate 500 'x' ∧ disguised first ≠ "" ∧
      500 < (disguised first).utf8ByteSize ∧ 6 < (Text.lines (disguised first)).length ∧
      read? (frame (disguised first)) = some {
        bytes := 526
        cut := some (8, 2)
        lines := ["┌", "│ ...", "└", "a\rb", "", "z\r"] } ∧
      (Failure.ended "ok" none (disguised first)).unread? = some (disguised first) ∧
      ∃ lead, (Failure.ended "ok" none (disguised first)).message =
        lead ++ frame (disguised first) := by
  obtain ⟨first, hfirst, hsize, hn, hr⟩ : ∃ first, first = List.replicate 500 'x' ∧
      Utf8.size first = 500 ∧ '\n' ∉ first ∧ '\r' ∉ first :=
    ⟨_, rfl, by decide +kernel, by decide +kernel, by decide +kernel⟩
  have hlines := lines_disguised hn hr
  have hbytes := utf8ByteSize_disguised first
  have hne : disguised first ≠ "" := by
    intro h
    rw [h, String.utf8ByteSize_empty] at hbytes
    omega
  have hmany : (Text.lines (disguised first)).length = 8 := by rw [hlines]; rfl
  obtain ⟨hends, -, hlong⟩ := read_frame (disguised first) hne
  obtain ⟨hidden, shown, hsplit, hshown, -, hread⟩ := hlong (by omega) (by omega)
  obtain ⟨rfl, rfl⟩ := List.append_inj' (hlines.symm.trans hsplit) hshown.symm
  rw [hbytes, hsize, hmany] at hread
  exact ⟨first, hfirst, hne, by omega, by omega, hread, rfl, hends _ rfl⟩

end Snippet
end Parley

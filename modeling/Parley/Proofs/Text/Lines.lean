import Mathlib.Data.List.Induction
import Parley.Text.Blank
import Parley.Text.Lines

/-!
# Parley.Proofs.Text.Lines

A text line by line: what comes up to the first line feed, and the text behind it.

* `linewise`: induction over a text by its lines.
* `linesOf_append_cons`, `linesOf_of_not_mem`: a line that a line feed ends, and one that ends with
  the text.
* `newline_not_mem_of_mem_linesOf`: no line of a text holds a line feed.
* `trim_append_blank`: white space at the end of a text is trimmed away.
-/

namespace Parley
namespace Text

variable {cs l rest line : List Char} {c : Char} {done : List (List Char)}

/-- A text has no line feed, or it is a line, a line feed and a text. -/
theorem linewise {motive : List Char → Prop} (last : ∀ l, '\n' ∉ l → motive l)
    (line : ∀ l rest, '\n' ∉ l → motive rest → motive (l ++ '\n' :: rest)) (cs : List Char) :
    motive cs := by
  induction h : cs.length using Nat.strongRecOn generalizing cs with
  | ind n ih =>
    by_cases hmem : '\n' ∈ cs
    · obtain ⟨l, rest, rfl, hl⟩ := List.eq_append_cons_of_mem hmem
      refine line l rest hl (ih rest.length ?_ rest rfl)
      rw [← h, List.length_append, List.length_cons]
      omega
    · exact last cs hmem

/-! ## Lines -/

/-- A line without the carriage return at its end, if it has one there. -/
def chomp (l : List Char) : List Char := endLine l.reverse

theorem chomp_cases (l : List Char) : l = chomp l ∨ l = chomp l ++ ['\r'] := by
  rw [chomp]
  induction l using List.reverseRecOn with
  | nil => exact .inl rfl
  | append_singleton l c =>
    rw [List.reverse_append, List.reverse_singleton, List.singleton_append]
    by_cases hc : c = '\r'
    · exact .inr (by simp [hc, endLine])
    · exact .inl (by simp [endLine, hc])

theorem linesFrom_append (hl : '\n' ∉ l) (rest : List Char) :
    linesFrom done line (l ++ rest) = linesFrom done (l.reverse ++ line) rest := by
  induction l generalizing line with
  | nil => rfl
  | cons c l ih =>
    rw [List.mem_cons, not_or] at hl
    rw [List.cons_append, linesFrom, if_neg (by simpa using Ne.symm hl.1), ih hl.2]
    simp

theorem linesFrom_eq (done : List (List Char)) (line cs : List Char) :
    linesFrom done line cs = done.reverse ++ linesFrom [] line cs := by
  induction cs generalizing done line with
  | nil =>
    rw [linesFrom, linesFrom]
    split <;> simp
  | cons c cs ih =>
    rw [linesFrom, linesFrom]
    split
    · rw [ih, ih [endLine line]]
      simp
    · exact ih done (c :: line)

theorem linesOf_of_not_mem (hl : '\n' ∉ l) : linesOf l = if l = [] then [] else [l] := by
  rw [linesOf, ← List.append_nil l, linesFrom_append hl, List.append_nil, List.append_nil, linesFrom]
  simp only [List.isEmpty_iff, List.reverse_eq_nil_iff, List.reverse_reverse]
  split <;> rfl

theorem linesOf_append_cons (hl : '\n' ∉ l) :
    linesOf (l ++ '\n' :: rest) = chomp l :: linesOf rest := by
  rw [linesOf, linesFrom_append hl, linesFrom, if_pos (beq_self_eq_true _), linesFrom_eq,
    List.append_nil]
  rfl

theorem newline_not_mem_of_mem_linesOf : ∀ l ∈ linesOf cs, '\n' ∉ l := by
  induction cs using linewise with
  | last l hl =>
    rw [linesOf_of_not_mem hl]
    split
    · exact fun _ h => absurd h List.not_mem_nil
    · intro k hk
      rw [List.mem_singleton.1 hk]
      exact hl
  | line l rest hl ih =>
    rw [linesOf_append_cons hl]
    intro k hk
    rcases List.mem_cons.1 hk with rfl | hmem
    · intro hin
      rcases chomp_cases l with h | h
      · exact hl (h ▸ hin)
      · exact hl (h ▸ List.mem_append_left _ hin)
    · exact ih k hmem

theorem linesOf_ne_nil (h : cs ≠ []) : linesOf cs ≠ [] := by
  induction cs using linewise with
  | last l hl =>
    rw [linesOf_of_not_mem hl, if_neg h]
    exact List.cons_ne_nil _ _
  | line l rest hl _ =>
    rw [linesOf_append_cons hl]
    exact List.cons_ne_nil _ _

/-! ## White space -/

theorem trim_append_blank (hc : isBlank c = true) : trim (cs ++ [c]) = trim cs := by
  have hend (x : List Char) : trimEnd (x ++ [c]) = trimEnd x := by
    rw [trimEnd, List.reverse_append, List.reverse_singleton, List.singleton_append,
      List.dropWhile_cons_of_pos hc, trimEnd]
  have hone : [c].dropWhile isBlank = [] := List.dropWhile_cons_of_pos hc
  rw [trim, trim, List.dropWhile_append]
  split
  · next h => rw [hone, List.isEmpty_iff.1 h]
  · exact hend _

/-- What ends a line is white space. -/
theorem trim_chomp (l : List Char) : trim (chomp l) = trim l := by
  rcases chomp_cases l with h | h
  · rw [← h]
  · conv_rhs => rw [h, trim_append_blank rfl]

end Text
end Parley

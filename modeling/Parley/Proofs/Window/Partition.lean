import Parley.Proofs.Pattern.Bounded
import Parley.Proofs.Utf8.Mended
import Parley.Proofs.Window.Pursuit

/-!
# Parley.Proofs.Window.Partition

What a match takes from a window and what it leaves, put together, is what the window has shown.

* `find?_cuts`: a pattern is found only at a part of the text of a window, and a literal at no later
  place than it must be.
* `take_partitions`: the match and both its sides, in the excerpt and in the window.
-/

namespace Parley
namespace Window

open Utf8 Pattern

variable {w : Window} {p : Pattern} {o : Occurrence}

theorem find?_cuts (hp : ∀ e, p = .regex e → e.Bounded) (hfind : w.find? p = some o) :
    p ≠ .endOfOutput ∧ ∃ before matched after, o.Cuts w.text before matched after ∧
      ∀ s, p = .literal s → matched = s.toList ∧
        ∀ b a, w.text = b ++ (s.toList ++ a) → o.start ≤ size b := by
  cases p with
  | literal s =>
    rcases find?_literal_cases s w.text with ⟨before, after, hleft, hsome⟩ | ⟨-, hnone⟩
    · have ho : some o = some _ := hfind.symm.trans hsome
      cases ho
      refine ⟨nofun, before, s.toList, after, hleft.cuts, ?_⟩
      intro t ht
      cases ht
      exact ⟨rfl, fun b a hba => hleft.size_le hba⟩
    · have ho : some o = none := hfind.symm.trans hnone
      cases ho
  | regex e =>
    obtain ⟨before, matched, after, hcuts⟩ := (hp e rfl).cuts hfind
    exact ⟨nofun, before, matched, after, hcuts, nofun⟩
  | endOfOutput => cases hfind

/-- A pattern that is found in a window, whatever the window holds behind its text, is not the end
of the output, and it cuts the text in three:

* for a literal, the middle is the literal itself, and the literal stands nowhere further to the
  front; for a regular expression, all that is asked of its engine is that a match lies in the text,
  between characters;
* the excerpt holds the middle, the groups that were found, what stands before the middle, and all
  that the window shows behind it; put together these are what the window has shown;
* behind the match the window holds the rest of the text, and its counters stay. -/
theorem take_partitions (hp : ∀ e, p = .regex e → e.Bounded) (hfind : w.find? p = some o) :
    p ≠ .endOfOutput ∧ ∃ before matched after : List Char,
      o.Cuts w.text before matched after ∧
      (∀ s, p = .literal s → matched = s.toList ∧
        ∀ b a, w.text = b ++ (s.toList ++ a) → o.start ≤ size b) ∧
      (w.take o).1 =
        { matched := String.ofList matched
          captures := o.captures
          before := String.ofList before
          rest := String.ofList (w.take o).2.shown } ∧
      before ++ (matched ++ (w.take o).2.shown) = w.shown ∧
      (w.take o).2.text = after ∧
      (w.take o).2.received = w.received ∧ (w.take o).2.discarded = w.discarded ∧
      (w.take o).2.capacity = w.capacity := by
  obtain ⟨hend, before, matched, after, hcuts, hliteral⟩ := find?_cuts hp hfind
  obtain ⟨r, hr⟩ := encode_text_isPrefix w.bytes
  have hbytes : w.bytes = encode before ++ (encode matched ++ (encode after ++ r)) := by
    rw [← hr, show Utf8.text w.bytes = _ from hcuts.text_eq]
    simp
  have hshown : before ++ (matched ++ lossy (encode after ++ r)) = w.shown := by
    rw [shown, hbytes, lossy_behind before, lossy_behind matched]
  have htext : Utf8.text (encode after ++ r) = after := by
    have hwhole := hcuts.text_eq
    rw [Window.text, hbytes, text_behind before, text_behind matched] at hwhole
    exact List.append_cancel_left (List.append_cancel_left hwhole)
  rw [take_of_cuts hcuts hr.symm]
  exact ⟨hend, before, matched, after, hcuts, hliteral, rfl, hshown, htext, rfl, rfl, rfl⟩

/-- Text, a malformed part, more text, and a character that has begun. -/
def mixed : Window where
  bytes := [0xC3, 0xA9, 0x6F, 0x6F, 0x6B, 0x21, 0xFF, 0x61, 0xE2, 0x82]
  capacity := 16
  capacity_pos := by decide

/-- An expression with a group, in a window with bytes that are no text. -/
theorem take_partitions_mixed :
    ∃ (e : Regex.Compiled) (o : Occurrence) (before matched after : List Char),
      Regex.compile "(o+)k" = .ok e ∧ e.engine.Bounded ∧
      mixed.find? (.regex e.engine) = some o ∧
      o = { start := 2, stop := 5, captures := ["oo"] } ∧
      o.Cuts mixed.text before matched after ∧
      (mixed.take o).1 =
        { matched := "ook", captures := ["oo"], before := "é", rest := "!\uFFFDa\uFFFD" } ∧
      before ++ (matched ++ (mixed.take o).2.shown) = mixed.shown ∧
      (mixed.take o).2.text = after ∧ after = ['!'] := by
  obtain ⟨e, he, hfind⟩ : ∃ e, Regex.compile "(o+)k" = .ok e ∧
      mixed.find? (.regex e.engine) = some { start := 2, stop := 5, captures := ["oo"] } := by
    have hfound : (match Regex.compile "(o+)k" with
        | .ok e => mixed.find? (.regex e.engine)
        | .error _ => none) = some { start := 2, stop := 5, captures := ["oo"] } := by
      decide +kernel
    split at hfound
    · rename_i e he
      exact ⟨e, he, hfound⟩
    · cases hfound
  have hengine := Regex.compile_bounded he
  have hbounded : ∀ x, Pattern.regex e.engine = .regex x → x.Bounded := by
    intro x hx
    cases hx
    exact hengine
  obtain ⟨-, before, matched, after, hcuts, -, -, hshown, hafter, -⟩ :=
    take_partitions hbounded hfind
  exact ⟨e, _, before, matched, after, he, hengine, hfind, rfl, hcuts, by decide +kernel, hshown,
    hafter, hafter ▸ by decide +kernel⟩

end Window
end Parley

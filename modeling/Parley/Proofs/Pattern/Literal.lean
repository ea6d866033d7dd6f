import Parley.Pattern
import Parley.Proofs.Utf8.Opening

/-!
# Parley.Proofs.Pattern.Literal

Where a literal first stands in a text.

* `Occurrence.Cuts`: what an occurrence makes of a text.
* `Leftmost`: a literal stands behind a front of a text, and behind no shorter one.
* `literalFrom_eq_some_iff`: the search finds exactly this place.
* `Leftmost.append`: more text does not move it.
* `infix_of_separator`, `infix_of_head_notMem`: places where it cannot stand.
-/

namespace Parley

open Utf8

/-- An occurrence cuts a text into what stands before it, itself, and what follows. -/
structure Occurrence.Cuts (o : Occurrence) (text before matched after : List Char) : Prop where
  text_eq : text = before ++ (matched ++ after)
  start_eq : o.start = size before
  stop_eq : o.stop = size before + size matched

namespace Pattern

/-- The literal stands in the text behind `before`, and nowhere earlier; `after` follows it. -/
structure Leftmost (literal text before after : List Char) : Prop where
  text_eq : text = before ++ (literal ++ after)
  length_le : ∀ b a, text = b ++ (literal ++ a) → before.length ≤ b.length

variable {literal text before after : List Char}

theorem Leftmost.unique {before' after' : List Char} (h : Leftmost literal text before after)
    (h' : Leftmost literal text before' after') : before' = before ∧ after' = after := by
  have hlen : before'.length = before.length :=
    Nat.le_antisymm (h'.length_le _ _ h.text_eq) (h.length_le _ _ h'.text_eq)
  obtain ⟨hb, ha⟩ := List.append_inj (h'.text_eq.symm.trans h.text_eq) hlen
  exact ⟨hb, List.append_cancel_left ha⟩

/-- No place of the literal is further to the front, in bytes. -/
theorem Leftmost.size_le (h : Leftmost literal text before after) {b a : List Char}
    (hba : text = b ++ (literal ++ a)) : size before ≤ size b := by
  have hpre : before <+: b :=
    List.prefix_of_prefix_length_le ⟨_, h.text_eq.symm⟩ ⟨_, hba.symm⟩ (h.length_le b a hba)
  obtain ⟨t, rfl⟩ := hpre
  rw [size_append]
  exact Nat.le_add_right _ _

/-- A literal that stands wholly in the front of a text stands leftmost in the whole text. -/
theorem Leftmost.append (h : Leftmost literal text before after) (more : List Char) :
    Leftmost literal (text ++ more) before (after ++ more) := by
  refine ⟨by rw [h.text_eq]; simp only [List.append_assoc], ?_⟩
  intro b a hba
  by_contra hlt
  have htext : text.length = before.length + (literal.length + after.length) := by
    rw [h.text_eq, List.length_append, List.length_append]
  have hpre : b ++ literal <+: text := by
    have hb : b ++ literal <+: text ++ more := ⟨a, by rw [hba, List.append_assoc]⟩
    refine List.prefix_of_prefix_length_le hb (List.prefix_append _ _) ?_
    rw [List.length_append]
    omega
  obtain ⟨t, ht⟩ := hpre
  have hle := h.length_le b t (by rw [← ht, List.append_assoc])
  omega

theorem Leftmost.cuts (h : Leftmost literal text before after) :
    Occurrence.Cuts { start := size before, stop := size before + size literal } text before literal
      after :=
  ⟨h.text_eq, rfl, rfl⟩

theorem leftmost_append (literal after : List Char) :
    Leftmost literal (literal ++ after) [] after :=
  ⟨rfl, fun _ _ _ => Nat.zero_le _⟩

theorem leftmost_nil_of_prefix (h : literal <+: text) :
    ∃ after, Leftmost literal text [] after := by
  obtain ⟨after, rfl⟩ := h
  exact ⟨after, leftmost_append literal after⟩

theorem leftmost_cons_iff {c : Char} (h : ¬ literal <+: c :: text) :
    Leftmost literal (c :: text) (c :: before) after ↔ Leftmost literal text before after := by
  have hcut {b a : List Char} (hb : c :: text = b ++ (literal ++ a)) :
      ∃ b', b = c :: b' ∧ text = b' ++ (literal ++ a) := by
    cases b with
    | nil => exact absurd ⟨a, hb.symm⟩ h
    | cons d b' =>
      rw [List.cons_append, List.cons.injEq] at hb
      exact ⟨b', by rw [hb.1], hb.2⟩
  constructor
  · rintro ⟨htext, hle⟩
    refine ⟨List.cons_inj_right c |>.1 htext, ?_⟩
    intro b a hb
    exact Nat.le_of_succ_le_succ (hle (c :: b) a (by rw [hb, List.cons_append]))
  · rintro ⟨htext, hle⟩
    refine ⟨by rw [htext, List.cons_append], ?_⟩
    intro b a hb
    obtain ⟨b', rfl, hb'⟩ := hcut hb
    exact Nat.succ_le_succ (hle b' a hb')

/-- The search finds the leftmost place, counted in bytes. -/
theorem literalFrom_eq_some_iff {place n : Nat} :
    literalFrom literal place text = some n ↔
      ∃ before after, Leftmost literal text before after ∧ n = place + size before := by
  induction text generalizing place with
  | nil =>
    rw [literalFrom]
    constructor
    · intro h
      split at h
      · rename_i hnil
        rw [List.isEmpty_iff] at hnil
        cases h
        exact ⟨[], [], ⟨by rw [hnil]; rfl, fun _ _ _ => Nat.zero_le _⟩, rfl⟩
      · cases h
    · rintro ⟨before, after, h, rfl⟩
      obtain ⟨rfl, hrest⟩ := List.append_eq_nil_iff.1 h.text_eq.symm
      rw [(List.append_eq_nil_iff.1 hrest).1]
      rfl
  | cons c text ih =>
    rw [literalFrom]
    by_cases hpre : literal <+: c :: text
    · obtain ⟨rest, hrest⟩ := leftmost_nil_of_prefix hpre
      rw [if_pos (List.isPrefixOf_iff_prefix.2 hpre)]
      constructor
      · intro h
        cases h
        exact ⟨[], rest, hrest, rfl⟩
      · rintro ⟨before, after, h, rfl⟩
        rw [(hrest.unique h).1]
        rfl
    · rw [if_neg (mt List.isPrefixOf_iff_prefix.1 hpre), ih]
      constructor
      · rintro ⟨before, after, h, rfl⟩
        exact ⟨c :: before, after, (leftmost_cons_iff hpre).2 h, by simp; omega⟩
      · rintro ⟨before, after, h, rfl⟩
        cases before with
        | nil => exact absurd ⟨after, h.text_eq.symm⟩ hpre
        | cons d before =>
          obtain rfl : c = d := by
            have := h.text_eq
            rw [List.cons_append, List.cons.injEq] at this
            exact this.1
          exact ⟨before, after, (leftmost_cons_iff hpre).1 h, by simp; omega⟩

/-- Some place is leftmost if the literal stands anywhere. -/
theorem exists_leftmost (h : literal <:+: text) :
    ∃ before after, Leftmost literal text before after := by
  induction text with
  | nil =>
    rw [List.infix_nil] at h
    exact ⟨[], [], ⟨by rw [h]; rfl, fun _ _ _ => Nat.zero_le _⟩⟩
  | cons c text ih =>
    by_cases hpre : literal <+: c :: text
    · obtain ⟨rest, hrest⟩ := leftmost_nil_of_prefix hpre
      exact ⟨[], rest, hrest⟩
    · obtain ⟨before, after, hin⟩ := ih ((List.infix_cons_iff.1 h).resolve_left hpre)
      exact ⟨c :: before, after, (leftmost_cons_iff hpre).2 hin⟩

theorem literalFrom_eq_none_iff {place : Nat} :
    literalFrom literal place text = none ↔ ¬ literal <:+: text := by
  constructor
  · intro h hin
    obtain ⟨before, after, hleft⟩ := exists_leftmost hin
    rw [literalFrom_eq_some_iff.2 ⟨before, after, hleft, rfl⟩] at h
    cases h
  · intro h
    by_contra hsome
    obtain ⟨n, hn⟩ := Option.ne_none_iff_exists'.1 hsome
    obtain ⟨before, after, hleft, -⟩ := literalFrom_eq_some_iff.1 hn
    exact h ⟨before, after, by rw [hleft.text_eq, List.append_assoc]⟩

/-! ## Where a literal cannot stand -/

/-- A literal that is not there before its last character comes stands leftmost at its end. -/
theorem leftmost_of_not_infix (h : ¬ literal <:+: before ++ literal.dropLast) :
    Leftmost literal (before ++ (literal ++ after)) before after := by
  refine ⟨rfl, ?_⟩
  intro b a hba
  by_contra hlt
  have hpre : b ++ literal <+: before ++ (literal ++ after) := ⟨a, by rw [hba, List.append_assoc]⟩
  have hpre' : before ++ literal.dropLast <+: before ++ (literal ++ after) :=
    List.prefix_append_right_inj before |>.2 ((List.dropLast_prefix literal).trans ⟨after, rfl⟩)
  have hle : (b ++ literal).length ≤ (before ++ literal.dropLast).length := by
    rw [List.length_append, List.length_append, List.length_dropLast]
    omega
  obtain ⟨t, ht⟩ := List.prefix_of_prefix_length_le hpre hpre' hle
  exact h ⟨b, t, ht⟩

/-- A character that a literal lacks cuts a text in two; the literal stands on one of the sides. -/
theorem infix_of_separator {c : Char} {left right : List Char} (hc : c ∉ literal)
    (h : literal <:+: left ++ c :: right) : literal <:+: left ∨ literal <:+: right := by
  obtain ⟨x, y, hxy⟩ := h
  rw [List.append_assoc] at hxy
  rcases List.append_eq_append_iff.1 hxy with ⟨m, hleft, hm⟩ | ⟨m, rfl, hm⟩
  · rcases List.append_eq_append_iff.1 hm with ⟨k, hk, -⟩ | ⟨k, hk, hright⟩
    · exact .inl ⟨x, k, by rw [hleft, hk, List.append_assoc]⟩
    · cases k with
      | nil => exact .inl ⟨x, [], by rw [hleft, hk]; simp⟩
      | cons d k =>
        rw [List.cons_append, List.cons.injEq] at hright
        exact absurd (by rw [hk, hright.1]; simp) hc
  · cases m with
    | nil =>
      cases literal with
      | nil => exact .inl (List.nil_infix)
      | cons d l =>
        rw [List.nil_append, List.cons_append, List.cons.injEq] at hm
        exact absurd (by rw [hm.1]; simp) hc
    | cons d m =>
      rw [List.cons_append, List.cons.injEq] at hm
      exact .inr ⟨m, y, by rw [hm.2, List.append_assoc]⟩

/-- A text that lacks the first character of a literal can be left away in front. -/
theorem infix_of_head_notMem {c : Char} {rest left right : List Char} (hc : c ∉ left)
    (h : c :: rest <:+: left ++ right) : c :: rest <:+: right := by
  induction left with
  | nil => exact h
  | cons d left ih =>
    rw [List.cons_append, List.infix_cons_iff] at h
    rcases h with hpre | hin
    · exact absurd (by rw [(List.cons_prefix_cons.1 hpre).1]; simp) hc
    · exact ih (fun hmem => hc (List.mem_cons_of_mem d hmem)) hin

/-! ## Literals as patterns -/

/-- A literal is found where it stands leftmost. -/
theorem find?_literal_of_leftmost {s : String} (h : Leftmost s.toList text before after) :
    (Pattern.literal s).find? text =
      some { start := size before, stop := size before + size s.toList } := by
  have hfrom : literalFrom s.toList 0 text = some (0 + size before) :=
    literalFrom_eq_some_iff.2 ⟨before, after, h, rfl⟩
  simp only [find?, hfrom, Nat.zero_add, Option.map_some, utf8ByteSize_eq_size]

theorem find?_literal_eq_none_iff {s : String} :
    (Pattern.literal s).find? text = none ↔ ¬ s.toList <:+: text := by
  rw [find?, Option.map_eq_none_iff, literalFrom_eq_none_iff]

theorem infix_of_find?_literal {s : String} {o : Occurrence}
    (h : (Pattern.literal s).find? text = some o) : s.toList <:+: text := by
  by_contra hnot
  rw [find?_literal_eq_none_iff.2 hnot] at h
  cases h

/-- A literal stands leftmost in a text or not at all. -/
theorem find?_literal_cases (s : String) (text : List Char) :
    (∃ before after, Leftmost s.toList text before after ∧
      (Pattern.literal s).find? text =
        some { start := size before, stop := size before + size s.toList }) ∨
    (¬ s.toList <:+: text ∧ (Pattern.literal s).find? text = none) := by
  by_cases hin : s.toList <:+: text
  · obtain ⟨before, after, hleft⟩ := exists_leftmost hin
    exact .inl ⟨before, after, hleft, find?_literal_of_leftmost hleft⟩
  · exact .inr ⟨hin, find?_literal_eq_none_iff.2 hin⟩

end Pattern
end Parley

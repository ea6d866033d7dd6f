import Mathlib.Algebra.Order.Field.Basic
import Mathlib.Data.Rat.Floor
import Mathlib.Tactic.FieldSimp
import Mathlib.Tactic.Linarith
import Parley.Duration

/-!
# Parley.Proofs.Number.Nearest

Numbers of seconds against the spans that are made of them, on exact fractions.

* `Nearest`: a whole number is the nearest one to a fraction, and of two the even one.
* `nearest_divHalfEven`: division rounds to it.
* `Binary64.Spans`: a span is what a number of seconds rounds to, neither empty nor too long.
* `Duration.positive?_eq_some_iff`: a number of 64 bits makes the span that it rounds to, and none if
  there is no such span.
-/

namespace Parley

/-- A whole number nearest to a fraction; from half way it is even. -/
structure Nearest (q : ℚ) (n : ℕ) : Prop where
  near : |q - n| ≤ 1 / 2
  even_of_tie : |q - n| = 1 / 2 → Even n

variable {q : ℚ} {n m num den : ℕ} {e : ℤ} {negative : Bool} {x : Binary64} {d : Duration}

/-! ## Rounding -/

theorem Nearest.bounds (h : Nearest q n) : n - 1 / 2 ≤ q ∧ q ≤ n + 1 / 2 := by
  obtain ⟨hlow, hhigh⟩ := abs_le.1 h.near
  constructor <;> linarith

theorem Nearest.not_lt (h : Nearest q n) (h' : Nearest q m) : ¬ n < m := by
  intro hlt
  have hhigh := h.bounds.2
  have hlow := h'.bounds.1
  -- the fraction can only be half way between two neighbours, and one of them is odd
  have hle : (m : ℚ) ≤ (n + 1 : ℕ) := by push_cast; linarith
  have hnext : m = n + 1 := le_antisymm (by exact_mod_cast hle) hlt
  subst hnext
  push_cast at hlow
  have htie : q = n + 1 / 2 := by linarith
  have heven : Even n := h.even_of_tie (by rw [htie, add_sub_cancel_left, abs_of_pos (by norm_num)])
  have heven' : Even (n + 1) := h'.even_of_tie (by rw [htie]; push_cast; norm_num)
  exact Nat.even_add_one.1 heven' heven

theorem Nearest.unique (h : Nearest q n) (h' : Nearest q m) : n = m :=
  Nat.le_antisymm (Nat.not_lt.1 (h'.not_lt h)) (Nat.not_lt.1 (h.not_lt h'))

theorem nearest_of_lt (h : |q - n| < 1 / 2) : Nearest q n where
  near := h.le
  even_of_tie htie := absurd htie h.ne

theorem nearest_divHalfEven (num : ℕ) (h : 0 < den) :
    Nearest ((num : ℚ) / den) (divHalfEven num den) := by
  have hpos : (0 : ℚ) < den := by exact_mod_cast h
  have hsum : (num : ℚ) = den * (num / den : ℕ) + (num % den : ℕ) := by
    exact_mod_cast (Nat.div_add_mod num den).symm
  have hsplit : (num : ℚ) / den = (num / den : ℕ) + ((num % den : ℕ) : ℚ) / den := by
    rw [hsum]
    field_simp
  have hnonneg : 0 ≤ ((num % den : ℕ) : ℚ) / den := by positivity
  have hless : ((num % den : ℕ) : ℚ) / den < 1 := by
    rw [div_lt_one hpos]
    exact_mod_cast Nat.mod_lt num h
  rw [hsplit]
  generalize hf : ((num % den : ℕ) : ℚ) / den = f at hnonneg hless
  have htwice : ((2 * (num % den) : ℕ) : ℚ) = 2 * f * den := by
    rw [← hf]
    push_cast
    field_simp
  unfold divHalfEven
  dsimp only
  split
  · next hlow =>
    have hhalf : 2 * f * den < den := by rw [← htwice]; exact_mod_cast hlow
    have : f < 1 / 2 := by nlinarith
    refine nearest_of_lt ?_
    rw [add_sub_cancel_left, abs_of_nonneg hnonneg]
    exact this
  · split
    · next hhigh =>
      have hhalf : den < 2 * f * den := by rw [← htwice]; exact_mod_cast hhigh
      have : 1 / 2 < f := by nlinarith
      refine nearest_of_lt ?_
      rw [abs_lt]
      push_cast
      constructor <;> linarith
    · next hlow hhigh =>
      have heq : 2 * (num % den) = den := by omega
      have hhalf : f = 1 / 2 := by
        have : den = 2 * f * den := by rw [← htwice]; exact_mod_cast heq.symm
        nlinarith
      split
      · next heven =>
        refine ⟨?_, fun _ => Nat.even_iff.2 (by simpa using heven)⟩
        rw [add_sub_cancel_left, hhalf, abs_of_pos (by norm_num)]
      · next hodd =>
        refine ⟨?_, fun _ => ?_⟩
        · rw [hhalf, abs_le]
          push_cast
          constructor <;> linarith
        · rw [Nat.even_add_one, Nat.even_iff]
          simpa using hodd

theorem exists_nearest (h : 0 ≤ q) : ∃ n, Nearest q n := by
  have hnearest := nearest_divHalfEven q.num.toNat q.pos
  have hnum : ((q.num.toNat : ℕ) : ℚ) = q.num := by
    exact_mod_cast Int.toNat_of_nonneg (Rat.num_nonneg.2 h)
  rw [hnum, Rat.num_div_den] at hnearest
  exact ⟨_, hnearest⟩

theorem scaleTwo_den_pos (num : ℕ) (h : 0 < den) (e : ℤ) : 0 < (scaleTwo num den e).2 := by
  unfold scaleTwo
  split
  · exact h
  · exact Nat.mul_pos h (Nat.pow_pos (by decide))

theorem scaleTwo_div (num den : ℕ) (e : ℤ) :
    ((scaleTwo num den e).1 : ℚ) / (scaleTwo num den e).2 = num / den * 2 ^ e := by
  unfold scaleTwo
  split
  · next he =>
    obtain ⟨k, rfl⟩ := Int.eq_ofNat_of_zero_le he
    simp
    ring
  · next he =>
    obtain ⟨k, rfl⟩ : ∃ k : ℕ, e = -k := ⟨(-e).toNat, by omega⟩
    simp
    field_simp

/-! ## Numbers of seconds -/

namespace Binary64

/-- The exact value of a number, if it is finite. -/
def value? : Binary64 → Option ℚ
  | finite negative m e => some ((if negative then -1 else 1) * (m * 2 ^ e))
  | _ => none

/-- Whether 64 bits hold a number: its mantissa has at most 53 digits, and its power of two is one
of those that numbers are counted in. -/
def Proper : Binary64 → Prop
  | finite _ m e => m < 2 ^ 53 ∧ minExponent ≤ e ∧ e ≤ maxExponent
  | _ => True

/-- A span is what a number of seconds rounds to in nanoseconds. It is not empty, and shorter than
`2 ^ 64` seconds. -/
def Spans (x : Binary64) (d : Duration) : Prop :=
  ∃ q, x.value? = some q ∧ Nearest (q * 10 ^ 9) d.nanos ∧ 0 < d.nanos ∧ d.nanos < 2 ^ 64 * 10 ^ 9

/-- A number of seconds that is neither negative nor `2 ^ 64` or more is rounded to a span of
nanoseconds, which is not empty. -/
def Lasts (x : Binary64) (d : Duration) : Prop :=
  (∃ q, x.value? = some q ∧ 0 ≤ q ∧ q < 2 ^ 64 ∧ Nearest (q * 10 ^ 9) d.nanos) ∧ 0 < d.nanos

/-- A number below `2 ^ 64` is below it by one or more, since a mantissa has no room for so many
digits on both sides of the point. -/
theorem Proper.le_of_lt (hx : x.Proper) (hq : x.value? = some q) (hlt : q < 2 ^ 64) :
    q ≤ 2 ^ 64 - 1 := by
  cases x with
  | nan => cases hq
  | infinite negative => cases hq
  | finite negative m e =>
    obtain rfl := Option.some.inj hq
    have hpow : (0 : ℚ) < 2 ^ e := zpow_pos (by norm_num) e
    have hvalue : (0 : ℚ) ≤ m * 2 ^ e := by positivity
    cases negative with
    | true =>
      simp only [if_true] at hlt ⊢
      linarith
    | false =>
      simp only [Bool.false_eq_true, if_false, one_mul] at hlt ⊢
      rcases le_or_gt 0 e with he | he
      · obtain ⟨k, rfl⟩ := Int.eq_ofNat_of_zero_le he
        have hwhole : m * 2 ^ k < 2 ^ 64 := by exact_mod_cast hlt
        have hwhole' : m * 2 ^ k ≤ 2 ^ 64 - 1 := by omega
        have hcast : ((m * 2 ^ k : ℕ) : ℚ) ≤ (2 ^ 64 - 1 : ℕ) := by exact_mod_cast hwhole'
        push_cast at hcast
        exact hcast.trans (by norm_num)
      · have hm : (m : ℚ) < 2 ^ 53 := by exact_mod_cast hx.1
        have hsmall : (2 : ℚ) ^ e ≤ 1 := zpow_le_one_of_nonpos₀ (by norm_num) he.le
        nlinarith

theorem spans_iff (hx : x.Proper) : x.Spans d ↔ (∃ q, x.value? = some q ∧ 0 < q ∧ q < 2 ^ 64 ∧
    Nearest (q * 10 ^ 9) d.nanos) ∧ 0 < d.nanos := by
  constructor
  · rintro ⟨q, hq, hn, hpos, hlt⟩
    obtain ⟨hlow, hhigh⟩ := hn.bounds
    have hone : (1 : ℚ) ≤ d.nanos := by exact_mod_cast hpos
    have hroom : ((d.nanos + 1 : ℕ) : ℚ) ≤ (2 ^ 64 * 10 ^ 9 : ℕ) := by exact_mod_cast hlt
    push_cast at hroom
    exact ⟨⟨q, hq, by linarith, by linarith, hn⟩, hpos⟩
  · rintro ⟨⟨q, hq, -, hlt, hn⟩, hpos⟩
    have hle := hx.le_of_lt hq hlt
    have hlow := hn.bounds.1
    have hroom : (d.nanos : ℚ) < (2 ^ 64 * 10 ^ 9 : ℕ) := by push_cast; linarith
    exact ⟨q, hq, hn, hpos, by exact_mod_cast hroom⟩

end Binary64

namespace Duration

theorem nearest_nanosOf (m : ℕ) (e : ℤ) : Nearest (m * 2 ^ e * 10 ^ 9) (nanosOf m e) := by
  have h := nearest_divHalfEven (scaleTwo (m * 1000000000) 1 e).1
    (scaleTwo_den_pos (m * 1000000000) Nat.one_pos e)
  rw [scaleTwo_div] at h
  have hvalue : (m : ℚ) * 2 ^ e * 10 ^ 9 = (m * 1000000000 : ℕ) / (1 : ℕ) * 2 ^ e := by
    push_cast
    ring
  rw [hvalue]
  exact h

/-- A number of seconds has a span if it is neither negative nor `2 ^ 64` or more. -/
theorem ofSeconds?_eq_some_iff : ofSeconds? x = some d ↔
    ∃ q, x.value? = some q ∧ 0 ≤ q ∧ q < 2 ^ 64 ∧ Nearest (q * 10 ^ 9) d.nanos := by
  cases x with
  | nan => simp [ofSeconds?, Binary64.value?]
  | infinite negative => simp [ofSeconds?, Binary64.value?]
  | finite negative m e =>
    have hpow : (0 : ℚ) < 2 ^ e := zpow_pos (by norm_num) e
    have hden : (0 : ℚ) < (scaleTwo m 1 e).2 := by exact_mod_cast scaleTwo_den_pos m Nat.one_pos e
    have hvalue : ((scaleTwo m 1 e).1 : ℚ) = m * 2 ^ e * (scaleTwo m 1 e).2 := by
      rw [← div_eq_iff hden.ne', scaleTwo_div, Nat.cast_one, div_one]
    have hlarge : Nat.pow 2 64 * (scaleTwo m 1 e).2 ≤ (scaleTwo m 1 e).1 ↔
        (2 : ℚ) ^ 64 ≤ m * 2 ^ e := by
      rw [← mul_le_mul_iff_left₀ hden, ← hvalue]
      exact_mod_cast Iff.rfl
    have hnear : Nearest (m * 2 ^ e * 10 ^ 9) d.nanos ↔ (⟨nanosOf m e⟩ : Duration) = d := by
      constructor
      · intro h
        exact congrArg Duration.mk ((nearest_nanosOf m e).unique h)
      · rintro rfl
        exact nearest_nanosOf m e
    simp only [ofSeconds?, Binary64.value?, Option.some.injEq, exists_eq_left']
    by_cases hsign : (negative && m != 0) = true
    · obtain ⟨rfl, hm⟩ : negative = true ∧ m ≠ 0 := by simpa using hsign
      have hpos : (0 : ℚ) < m * 2 ^ e := by positivity
      have hneg : ¬ (0 : ℚ) ≤ -1 * (m * 2 ^ e) := by linarith
      rw [if_pos hsign, if_pos rfl]
      exact iff_of_false nofun fun h => hneg h.1
    · have hunsigned : (if negative = true then (-1 : ℚ) else 1) * (m * 2 ^ e) = m * 2 ^ e := by
        cases negative with
        | false => exact one_mul _
        | true =>
          have hm : m = 0 := by simpa using hsign
          simp [hm]
      have hnonneg : (0 : ℚ) ≤ m * 2 ^ e := by positivity
      rw [if_neg hsign, hunsigned]
      split
      · next hle => exact iff_of_false nofun fun h => not_lt.2 (hlarge.1 hle) h.2.1
      · next hlt => simp [hnear, hnonneg, not_le.1 (mt hlarge.2 hlt)]

theorem positive?_eq_some_iff_lasts : positive? x = some d ↔ x.Lasts d := by
  have hpos : (!d.isZero) = true ↔ 0 < d.nanos := by simp [isZero, Nat.pos_iff_ne_zero]
  rw [positive?, Option.filter_eq_some_iff, ofSeconds?_eq_some_iff, hpos, Binary64.Lasts]

/-- A number of 64 bits makes the span that it rounds to, and none if there is no such span. -/
theorem positive?_eq_some_iff (hx : x.Proper) : positive? x = some d ↔ x.Spans d := by
  rw [positive?_eq_some_iff_lasts, Binary64.Lasts, Binary64.spans_iff hx]
  refine and_congr_left fun hpos => exists_congr fun q => and_congr_right fun _ => ?_
  refine ⟨fun ⟨hnonneg, hlt, hn⟩ => ⟨?_, hlt, hn⟩, fun ⟨hq, hlt, hn⟩ => ⟨hq.le, hlt, hn⟩⟩
  have hone : (1 : ℚ) ≤ d.nanos := by exact_mod_cast hpos
  have hlow := hn.bounds.1
  linarith

end Duration
end Parley

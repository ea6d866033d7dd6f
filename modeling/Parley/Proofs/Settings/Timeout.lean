import Parley.CommandLine.Options
import Parley.Proofs.Number.Nearest
import Parley.Proofs.Settings.Overlay

/-!
# Parley.Proofs.Settings.Timeout

A number of seconds as a timeout, in each layer that can set one.

* `file_timeout_iff`, `seconds?_eq_some_iff`: the file and the environment take what spans something.
* `timeoutOfSeconds_eq_ok_iff`: the command line takes what is above zero before it is rounded.
* `timeouts_agree_iff`: so the layers agree but for numbers that round to nothing and for those of
  `2 ^ 64` and more, of which the first make an empty timeout and the second end the program.
-/

namespace Parley

open CommandLine (Halt)
open CommandLine.Options (timeoutOfSeconds timeoutOf)

variable {x : Binary64} {d : Duration} {s t name : String} {f : SettingsFile} {v : Variables}
  {base : Settings}

/-- A number above zero that makes no nanosecond when it is rounded. -/
def Binary64.Slight (x : Binary64) : Prop :=
  ∃ q, x.value? = some q ∧ 0 < q ∧ Nearest (q * 10 ^ 9) 0

/-- A number of `2 ^ 64` or more. -/
def Binary64.Endless (x : Binary64) : Prop := ∃ q, x.value? = some q ∧ 2 ^ 64 ≤ q

/-! ## Layer by layer -/

/-- A file is taken, with the span of the number as its timeout, if its other number can be taken. -/
theorem file_timeout_iff (hx : x.Proper) (hf : f.timeoutSeconds = some x) :
    (∃ s, f.overlay.settings base = .ok s ∧ s.timeout = d) ↔ x.Spans d ∧ f.capacity ≠ some 0 := by
  simp only [file_settings_eq_ok_iff, hf, ← Duration.positive?_eq_some_iff hx]
  constructor
  · rintro ⟨_, ⟨⟨hseconds, hcapacity⟩, rfl⟩, rfl⟩
    obtain ⟨d, hd⟩ := hseconds x rfl
    exact ⟨by simp [SettingsFile.upon, hd], hcapacity⟩
  · rintro ⟨hd, hcapacity⟩
    refine ⟨_, ⟨⟨?_, hcapacity⟩, rfl⟩, by simp [SettingsFile.upon, hd]⟩
    rintro _ ⟨rfl⟩
    exact ⟨d, hd⟩

theorem file_error (hx : x.Proper) (hf : f.timeoutSeconds = some x) (h : ¬ ∃ d, x.Spans d) :
    ∃ e, f.overlay.settings base = .error e := by
  cases hr : f.overlay.settings base with
  | error e => exact ⟨e, rfl⟩
  | ok s =>
    have hspans := ((file_timeout_iff hx hf).1 ⟨s, hr, rfl⟩).1
    exact absurd ⟨_, hspans⟩ h

theorem durationOf_text (ht : Binary64.ofText? (Text.trimString t) = some x) :
    Duration.ofText? (Text.trimString t) = Duration.positive? x := by
  rw [Duration.ofText?, ht, Option.bind_some]

theorem seconds?_eq_some_iff (hx : x.Proper) (hv : v.get? name = some t)
    (ht : Binary64.ofText? (Text.trimString t) = some x) :
    v.seconds? name = .ok (some d) ↔ x.Spans d := by
  rw [seconds?_eq_ok_iff, hv, ← Duration.positive?_eq_some_iff hx, Option.bind_some,
    durationOf_text ht]
  constructor
  · rintro ⟨-, hd⟩
    exact hd.symm
  · intro hd
    refine ⟨?_, hd.symm⟩
    rintro _ ⟨rfl⟩
    exact ⟨d, (durationOf_text ht).trans hd⟩

theorem seconds?_error (hx : x.Proper) (hv : v.get? name = some t)
    (ht : Binary64.ofText? (Text.trimString t) = some x) (h : ¬ ∃ d, x.Spans d) :
    ∃ e, v.seconds? name = .error e := by
  cases hr : v.seconds? name with
  | error e => exact ⟨e, rfl⟩
  | ok timeout =>
    obtain ⟨d, hd⟩ := (seconds?_eq_ok_iff.1 hr).1 t hv
    rw [durationOf_text ht, Duration.positive?_eq_some_iff hx] at hd
    exact absurd ⟨d, hd⟩ h

theorem timeoutOf_eq (hs : Binary64.ofText? s = some x) : timeoutOf s = timeoutOfSeconds x := by
  rw [timeoutOf, hs]

theorem timeoutOfSeconds_of_pos {q : ℚ} (hq : x.value? = some q) (hpos : 0 < q) :
    timeoutOfSeconds x =
      match Duration.ofSeconds? x with
      | some d => .ok d
      | none => .error .endlessTimeout := by
  cases x with
  | nan => cases hq
  | infinite negative => cases hq
  | finite negative m e =>
    obtain rfl := Option.some.inj hq
    have hpow : (0 : ℚ) < 2 ^ e := zpow_pos (by norm_num) e
    cases negative with
    | true =>
      have : (0 : ℚ) ≤ m * 2 ^ e := by positivity
      simp only [if_true] at hpos
      linarith
    | false =>
      cases m with
      | zero => simp at hpos
      | succ m => rfl

theorem timeoutOfSeconds_of_not_pos (h : ∀ q, x.value? = some q → q ≤ 0) :
    timeoutOfSeconds x = .error .wrongArguments := by
  cases x with
  | nan => rfl
  | infinite negative => rfl
  | finite negative m e =>
    cases negative with
    | true => rfl
    | false =>
      cases m with
      | zero => rfl
      | succ m =>
        have hpow : (0 : ℚ) < 2 ^ e := zpow_pos (by norm_num) e
        have hpos : (0 : ℚ) < (m + 1 : ℕ) * 2 ^ e := by positivity
        have hle := h _ rfl
        simp only [Bool.false_eq_true, if_false, one_mul] at hle
        linarith

theorem timeoutOfSeconds_eq_ok_iff : timeoutOfSeconds x = .ok d ↔
    ∃ q, x.value? = some q ∧ 0 < q ∧ q < 2 ^ 64 ∧ Nearest (q * 10 ^ 9) d.nanos := by
  by_cases h : ∃ q, x.value? = some q ∧ 0 < q
  · obtain ⟨q, hq, hpos⟩ := h
    have hspan : timeoutOfSeconds x = .ok d ↔ Duration.ofSeconds? x = some d := by
      rw [timeoutOfSeconds_of_pos hq hpos]
      cases Duration.ofSeconds? x <;> simp
    rw [hspan, Duration.ofSeconds?_eq_some_iff]
    simp [hq, hpos, hpos.le]
  · push Not at h
    rw [timeoutOfSeconds_of_not_pos h]
    refine iff_of_false nofun ?_
    rintro ⟨q, hq, hpos, -⟩
    exact absurd (h q hq) (not_le.2 hpos)

theorem timeoutOfSeconds_eq_endless_iff :
    timeoutOfSeconds x = .error .endlessTimeout ↔ x.Endless := by
  by_cases h : ∃ q, x.value? = some q ∧ 0 < q
  · obtain ⟨q, hq, hpos⟩ := h
    have hendless : x.Endless ↔ 2 ^ 64 ≤ q := by simp [Binary64.Endless, hq]
    rw [timeoutOfSeconds_of_pos hq hpos, hendless]
    cases hd : Duration.ofSeconds? x with
    | some d =>
      obtain ⟨q', hq', -, hlt, -⟩ := Duration.ofSeconds?_eq_some_iff.1 hd
      obtain rfl : q' = q := Option.some.inj (hq'.symm.trans hq)
      exact iff_of_false nofun (not_le.2 hlt)
    | none =>
      refine iff_of_true rfl (not_lt.1 ?_)
      intro hlt
      obtain ⟨n, hn⟩ := exists_nearest (q := q * 10 ^ 9) (by positivity)
      have hsome : Duration.ofSeconds? x = some ⟨n⟩ :=
        Duration.ofSeconds?_eq_some_iff.2 ⟨q, hq, hpos.le, hlt, hn⟩
      rw [hd] at hsome
      cases hsome
  · push Not at h
    rw [timeoutOfSeconds_of_not_pos h]
    refine iff_of_false nofun ?_
    rintro ⟨q, hq, hlarge⟩
    have := h q hq
    linarith

/-! ## All layers -/

theorem timeoutOfSeconds_eq_zero_iff : timeoutOfSeconds x = .ok .zero ↔ x.Slight := by
  rw [timeoutOfSeconds_eq_ok_iff]
  refine exists_congr fun q => and_congr_right fun _ => and_congr_right fun _ => ?_
  refine ⟨And.right, fun hn => ⟨?_, hn⟩⟩
  have hhigh := hn.bounds.2
  push_cast at hhigh
  linarith

/-- The layers read one number, each from a text or a value of its own. The file and the environment
take it exactly if it rounds to a span that is neither empty nor too long, as this span, and fail
otherwise. The command line takes what they take; but it takes a number that rounds to nothing too, as
an empty span, and at a number of `2 ^ 64` or more it ends the program. Where a number is neither, all
layers agree, and only there. -/
theorem timeouts_agree_iff (hx : x.Proper) (hs : Binary64.ofText? s = some x)
    (hf : f.timeoutSeconds = some x) (hv : v.get? name = some t)
    (ht : Binary64.ofText? (Text.trimString t) = some x) (base : Settings) :
    (∀ d, (∃ s, f.overlay.settings base = .ok s ∧ s.timeout = d) ↔
      x.Spans d ∧ f.capacity ≠ some 0) ∧
    (∀ d, v.seconds? name = .ok (some d) ↔ x.Spans d) ∧
    ((¬ ∃ d, x.Spans d) → (∃ e, f.overlay.settings base = .error e) ∧
      ∃ e, v.seconds? name = .error e) ∧
    (∀ d, x.Spans d → timeoutOf s = .ok d) ∧
    (timeoutOf s = .ok .zero ↔ x.Slight) ∧
    (timeoutOf s = .error .endlessTimeout ↔ x.Endless) ∧
    ((∀ d, timeoutOf s = .ok d ↔ x.Spans d) ∧ timeoutOf s ≠ .error .endlessTimeout ↔
      ¬ x.Slight ∧ ¬ x.Endless) := by
  have hspans {d : Duration} : x.Spans d ↔ timeoutOf s = .ok d ∧ 0 < d.nanos := by
    rw [Binary64.spans_iff hx, timeoutOf_eq hs, timeoutOfSeconds_eq_ok_iff]
  have hslight : timeoutOf s = .ok .zero ↔ x.Slight := by
    rw [timeoutOf_eq hs, timeoutOfSeconds_eq_zero_iff]
  have hendless : timeoutOf s = .error .endlessTimeout ↔ x.Endless := by
    rw [timeoutOf_eq hs, timeoutOfSeconds_eq_endless_iff]
  refine ⟨fun d => file_timeout_iff hx hf, fun d => seconds?_eq_some_iff hx hv ht,
    fun h => ⟨file_error hx hf h, seconds?_error hx hv ht h⟩, fun d h => (hspans.1 h).1, hslight,
    hendless, ?_, ?_⟩
  · rintro ⟨hagree, hends⟩
    refine ⟨fun h => ?_, mt hendless.2 hends⟩
    exact absurd (hspans.1 ((hagree _).1 (hslight.2 h))).2 (lt_irrefl 0)
  · rintro ⟨hnot, hends⟩
    refine ⟨fun d => ⟨fun hd => hspans.2 ⟨hd, ?_⟩, fun h => (hspans.1 h).1⟩, mt hendless.1 hends⟩
    refine Nat.pos_of_ne_zero fun hzero => hnot (hslight.1 ?_)
    rw [hd]
    exact congrArg Except.ok (congrArg Duration.mk hzero)

/-- Two and a half seconds, with blanks around them in the environment, in a file that sets something
else too. -/
theorem timeouts_agree_iff_fraction :
    ∃ (x : Binary64) (f : SettingsFile) (v : Variables), x.Proper ∧
      Binary64.ofText? "2.5" = some x ∧ f.timeoutSeconds = some x ∧
      v.get? "timeout" = some " 25e-1 " ∧
      Binary64.ofText? (Text.trimString " 25e-1 ") = some x ∧
      x.Spans (.ofMillis 2500) ∧ v.seconds? "timeout" = .ok (some (.ofMillis 2500)) ∧
      (∃ s, f.overlay.settings {} = .ok s ∧ s.timeout = .ofMillis 2500) ∧
      ∀ d, timeoutOf "2.5" = .ok d ↔ x.Spans d := by
  let x : Binary64 := .finite false 5629499534213120 (-51)
  let f : SettingsFile := { timeoutSeconds := some x, capacity := some 1024 }
  let v : Variables := { environment := ⟨[("V4_REPL_CHECK_TIMEOUT", " 25e-1 ")]⟩ }
  have hx : x.Proper := ⟨by decide, by decide, by decide⟩
  have hs : Binary64.ofText? "2.5" = some x := by decide +kernel
  have hv : v.get? "timeout" = some " 25e-1 " := by decide +kernel
  have ht : Binary64.ofText? (Text.trimString " 25e-1 ") = some x := by decide +kernel
  have hseconds : v.seconds? "timeout" = .ok (some (.ofMillis 2500)) := by decide +kernel
  obtain ⟨hfile, hvariable, -, hline, hslight, hendless, hagree⟩ :=
    timeouts_agree_iff hx hs (f := f) rfl hv ht {}
  have hspans := (hvariable _).1 hseconds
  have hline := hline _ hspans
  have hneither : ¬ x.Slight ∧ ¬ x.Endless := by
    rw [← hslight, ← hendless, hline]
    decide
  exact ⟨x, f, v, hx, hs, rfl, hv, ht, hspans, hseconds, (hfile _).2 ⟨hspans, by decide⟩,
    (hagree.2 hneither).1⟩

/-- A tenth of a nanosecond and more than `2 ^ 64` seconds, on the command line and in the other two
layers. -/
theorem timeouts_differ :
    ∃ tiny huge : Binary64,
      Binary64.ofText? "1e-10" = some tiny ∧ Binary64.ofText? "2e19" = some huge ∧
      tiny.Proper ∧ huge.Proper ∧
      timeoutOf "1e-10" = .ok .zero ∧ timeoutOf "2e19" = .error .endlessTimeout ∧
      Duration.ofText? "1e-10" = none ∧ Duration.ofText? "2e19" = none ∧
      (∃ f, SettingsFile.timeout? tiny = .error f) ∧ ∃ f, SettingsFile.timeout? huge = .error f := by
  refine ⟨.finite false 7737125245533627 (-86), .finite false 4882812500000000 12, ?_⟩
  refine ⟨by decide +kernel, by decide +kernel, ⟨by decide, by decide, by decide⟩,
    ⟨by decide, by decide, by decide⟩, by decide +kernel, by decide +kernel, by decide +kernel,
    by decide +kernel, ⟨_, rfl⟩, ⟨_, rfl⟩⟩

end Parley

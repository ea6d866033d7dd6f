import Parley.Proofs.Number.Nearest
import Parley.Proofs.Settings.Overlay

/-!
# Parley.Proofs.Settings.Usable

What a layer leaves behind when it cannot be taken.

* `Timed`, `Named`: a layer sets no timeout and no line ending but such as there are.
* `SettingsFile.lay_cases`, `Variables.lay_cases`: where a layer stops, and what is set by then.
* `Settings.Usable`: settings that a console can be started with.
* `overlays_usable`: a layer stops at the first key that it cannot take. The keys before that one are
  set, no other part of the settings has changed, and the settings can still be used.
-/

namespace Parley

/-- A text is a number of seconds that can be waited for. -/
def Duration.Told (t : String) (d : Duration) : Prop :=
  ∃ x, Binary64.ofText? (Text.trimString t) = some x ∧ x.Lasts d

variable {x : Binary64} {d : Duration} {n : Nat} {t name : String} {f : SettingsFile}
  {v : Variables} {base : Settings}

/-! ## One value -/

theorem Duration.positive?_eq_none_iff : Duration.positive? x = none ↔ ¬ ∃ d, x.Lasts d := by
  simp only [Option.eq_none_iff_forall_ne_some, ne_eq, positive?_eq_some_iff_lasts, not_exists]

theorem Duration.ofText?_trim_eq_some_iff :
    Duration.ofText? (Text.trimString t) = some d ↔ Duration.Told t d := by
  simp only [ofText?, Option.bind_eq_some_iff, positive?_eq_some_iff_lasts, Told]

/-- The words that name a line ending. -/
def LineEnding.words : List String := ["lf", "crlf", "cr"]

theorem LineEnding.lookup_names_eq_none_iff : names.lookup name = none ↔ name ∉ words := by
  simp [List.lookup_eq_none_iff, names, words]

theorem LineEnding.exists_ofText_eq_ok_iff :
    (∃ l, LineEnding.ofText t = .ok l) ↔ t.map Char.toLower ∈ words := by
  rw [← not_iff_not, ← lookup_names_eq_none_iff, ofText]
  cases names.lookup (t.map Char.toLower) <;> simp

theorem LineEnding.ofText_of_notMem (h : t.map Char.toLower ∉ words) :
    LineEnding.ofText t = .error
      ("unknown line ending '" ++ t.map Char.toLower ++ "' (expected lf, crlf or cr)") := by
  rw [ofText, lookup_names_eq_none_iff.2 h]

/-! ## The file -/

/-- A file sets no timeout, or one that can be waited for. -/
def SettingsFile.Timed (f : SettingsFile) : Prop := ∀ x ∈ f.timeoutSeconds, ∃ d, x.Lasts d

/-- The timeout that a file sets. -/
def SettingsFile.timeout (f : SettingsFile) : Option Duration :=
  f.timeoutSeconds.bind Duration.positive?

theorem SettingsFile.mapM_timeout? (h : f.Timed) :
    f.timeoutSeconds.mapM timeout? = .ok f.timeout := by
  refine mapM_timeout?_eq_ok_iff.2 ⟨?_, rfl⟩
  intro x hx
  obtain ⟨d, hd⟩ := h x hx
  exact ⟨d, Duration.positive?_eq_some_iff_lasts.2 hd⟩

theorem SettingsFile.lay_of_timeout (hx : x ∈ f.timeoutSeconds) (h : ¬ ∃ d, x.Lasts d) :
    f.overlay.lay base =
      (.error (.settings ("timeout_secs must be positive, got " ++ x.text)),
        f.beforeTimeout base) := by
  have hfault : f.timeoutSeconds.mapM timeout? =
      .error (.settings ("timeout_secs must be positive, got " ++ x.text)) := by
    rw [Option.mem_def.1 hx, Option.mapM_some, timeout?, Duration.positive?_eq_none_iff.2 h]
    rfl
  rw [lay_overlay, hfault]

theorem SettingsFile.lay_of_capacity (h : f.Timed) (hzero : f.capacity = some 0) :
    f.overlay.lay base =
      (.error (.settings "buffer_max_size must be greater than zero"),
        f.beforeCapacity f.timeout base) := by
  have hfault : f.capacity.mapM capacity? =
      .error (.settings "buffer_max_size must be greater than zero") := by
    rw [hzero]
    rfl
  rw [lay_overlay, mapM_timeout? h, hfault]

theorem SettingsFile.lay_of_taken (h : f.Timed) (hzero : f.capacity ≠ some 0) :
    f.overlay.lay base = (.ok (), f.upon f.timeout f.capacity base) := by
  rw [lay_overlay, mapM_timeout? h, mapM_capacity?_eq_ok_iff.2 ⟨hzero, rfl⟩]

/-- A file stops at its timeout, or at its capacity, or is taken. -/
theorem SettingsFile.lay_cases (f : SettingsFile) (base : Settings) :
    (∃ x ∈ f.timeoutSeconds, (¬ ∃ d, x.Lasts d) ∧ f.overlay.lay base =
      (.error (.settings ("timeout_secs must be positive, got " ++ x.text)),
        f.beforeTimeout base)) ∨
    (f.Timed ∧ f.capacity = some 0 ∧ f.overlay.lay base =
      (.error (.settings "buffer_max_size must be greater than zero"),
        f.beforeCapacity f.timeout base)) ∨
    (f.Timed ∧ f.capacity ≠ some 0 ∧
      f.overlay.lay base = (.ok (), f.upon f.timeout f.capacity base)) := by
  by_cases h : f.Timed
  · by_cases hzero : f.capacity = some 0
    · exact .inr (.inl ⟨h, hzero, lay_of_capacity h hzero⟩)
    · exact .inr (.inr ⟨h, hzero, lay_of_taken h hzero⟩)
  · simp only [Timed, not_forall] at h
    obtain ⟨x, hx, hnot⟩ := h
    exact .inl ⟨x, hx, hnot, lay_of_timeout hx hnot⟩

/-! ## The environment -/

/-- The environment sets no timeout, or one that can be waited for. -/
def Variables.Timed (v : Variables) : Prop := ∀ t ∈ v.get? "timeout", ∃ d, Duration.Told t d

/-- The environment names no line ending, or one that there is. -/
def Variables.Named (v : Variables) : Prop :=
  ∀ t ∈ v.get? "line_ending", t.map Char.toLower ∈ LineEnding.words

/-- The timeout that the environment sets. -/
def Variables.timeout (v : Variables) : Option Duration :=
  (v.get? "timeout").bind fun t => Duration.ofText? (Text.trimString t)

theorem Variables.seconds?_of_timed (h : v.Timed) : v.seconds? "timeout" = .ok v.timeout := by
  refine seconds?_eq_ok_iff.2 ⟨?_, rfl⟩
  intro t ht
  obtain ⟨d, hd⟩ := h t ht
  exact ⟨d, Duration.ofText?_trim_eq_some_iff.2 hd⟩

theorem Variables.lay_of_timeout (ht : t ∈ v.get? "timeout") (h : ¬ ∃ d, Duration.Told t d) :
    v.overlay.lay base =
      (.error (.settings
        (v.nameOf "timeout" ++ " must be a positive number of seconds, got '" ++ t ++ "'")),
        v.beforeTimeout base) := by
  have hnone : Duration.ofText? (Text.trimString t) = none := by
    simp only [Option.eq_none_iff_forall_ne_some, ne_eq, Duration.ofText?_trim_eq_some_iff]
    exact not_exists.1 h
  rw [lay_overlay, seconds?, Option.mem_def.1 ht]
  simp only [hnone]

theorem Variables.lay_of_ending (h : v.Timed) (ht : t ∈ v.get? "line_ending")
    (hword : t.map Char.toLower ∉ LineEnding.words) :
    v.overlay.lay base =
      (.error (.settings
        ("unknown line ending '" ++ t.map Char.toLower ++ "' (expected lf, crlf or cr)")),
        v.beforeEnding v.timeout base) := by
  rw [lay_overlay, seconds?_of_timed h, ending?, Option.mem_def.1 ht]
  simp only [LineEnding.ofText_of_notMem hword]

theorem Variables.exists_lay_of_taken (h : v.Timed) (hn : v.Named) :
    ∃ ending, v.overlay.lay base = (.ok (), v.upon v.timeout ending base) := by
  have hending := ending?_eq_ok_iff.2
    ⟨fun t ht => LineEnding.exists_ofText_eq_ok_iff.2 (hn t ht), rfl⟩
  exact ⟨_, by rw [lay_overlay, seconds?_of_timed h, hending]⟩

/-- The environment stops at its timeout, or at its line ending, or is taken. -/
theorem Variables.lay_cases (v : Variables) (base : Settings) :
    (∃ t ∈ v.get? "timeout", (¬ ∃ d, Duration.Told t d) ∧ v.overlay.lay base =
      (.error (.settings
        (v.nameOf "timeout" ++ " must be a positive number of seconds, got '" ++ t ++ "'")),
        v.beforeTimeout base)) ∨
    (v.Timed ∧ ∃ t ∈ v.get? "line_ending", t.map Char.toLower ∉ LineEnding.words ∧
      v.overlay.lay base =
        (.error (.settings
          ("unknown line ending '" ++ t.map Char.toLower ++ "' (expected lf, crlf or cr)")),
          v.beforeEnding v.timeout base)) ∨
    (v.Timed ∧ v.Named ∧ ∃ ending, v.overlay.lay base = (.ok (), v.upon v.timeout ending base)) := by
  by_cases h : v.Timed
  · by_cases hn : v.Named
    · exact .inr (.inr ⟨h, hn, exists_lay_of_taken h hn⟩)
    · simp only [Named, not_forall] at hn
      obtain ⟨t, ht, hword⟩ := hn
      exact .inr (.inl ⟨h, t, ht, hword, lay_of_ending h ht hword⟩)
  · simp only [Timed, not_forall] at h
    obtain ⟨t, ht, hnot⟩ := h
    exact .inl ⟨t, ht, hnot, lay_of_timeout ht hnot⟩

/-! ## What can be used -/

/-- A console can be started with settings, and waited for: the timeout is not empty, and there is
room for output. -/
structure Settings.Usable (s : Settings) : Prop where
  timeout_pos : 0 < s.timeout.nanos
  capacity_pos : 0 < s.capacity

theorem SettingsFile.timeout_pos (hd : d ∈ f.timeout) : 0 < d.nanos := by
  obtain ⟨x, -, hx⟩ := Option.bind_eq_some_iff.1 hd
  exact (Duration.positive?_eq_some_iff_lasts.1 hx).2

theorem Variables.timeout_pos (hd : d ∈ v.timeout) : 0 < d.nanos := by
  obtain ⟨t, -, ht⟩ := Option.bind_eq_some_iff.1 hd
  obtain ⟨x, -, hx⟩ := Duration.ofText?_trim_eq_some_iff.1 ht
  exact hx.2

section

variable (hb : base.Usable)

include hb

theorem Settings.Usable.getD_timeout_pos {timeout : Option Duration}
    (h : ∀ d ∈ timeout, 0 < d.nanos) : 0 < (timeout.getD base.timeout).nanos := by
  cases timeout with
  | none => exact hb.timeout_pos
  | some d => exact h d rfl

theorem SettingsFile.usable_lay : (f.overlay.lay base).2.Usable := by
  have htimeout : 0 < (f.timeout.getD base.timeout).nanos :=
    hb.getD_timeout_pos fun d hd => timeout_pos hd
  rcases f.lay_cases base with ⟨x, -, -, hlay⟩ | ⟨-, -, hlay⟩ | ⟨-, hzero, hlay⟩
  · rw [hlay]
    exact ⟨hb.timeout_pos, hb.capacity_pos⟩
  · rw [hlay]
    exact ⟨htimeout, hb.capacity_pos⟩
  · rw [hlay]
    refine ⟨htimeout, ?_⟩
    cases hcapacity : f.capacity with
    | none => exact hb.capacity_pos
    | some n =>
      rw [hcapacity] at hzero
      exact Nat.pos_of_ne_zero fun hn => hzero (congrArg some hn)

theorem Variables.usable_lay : (v.overlay.lay base).2.Usable := by
  have htimeout : 0 < (v.timeout.getD base.timeout).nanos :=
    hb.getD_timeout_pos fun d hd => timeout_pos hd
  rcases v.lay_cases base with ⟨t, -, -, hlay⟩ | ⟨-, t, -, -, hlay⟩ | ⟨-, -, ending, hlay⟩
  · rw [hlay]
    exact ⟨hb.timeout_pos, hb.capacity_pos⟩
  · rw [hlay]
    exact ⟨htimeout, hb.capacity_pos⟩
  · rw [hlay]
    exact ⟨htimeout, hb.capacity_pos⟩

end

theorem SettingsFile.lay_fails_iff :
    (∃ e, (f.overlay.lay base).1 = .error e) ↔ ¬ f.Timed ∨ f.capacity = some 0 := by
  rcases f.lay_cases base with ⟨x, hx, hnot, hlay⟩ | ⟨-, hzero, hlay⟩ | ⟨h, hzero, hlay⟩
  · exact iff_of_true ⟨_, by rw [hlay]⟩ (.inl fun h => hnot (h x hx))
  · exact iff_of_true ⟨_, by rw [hlay]⟩ (.inr hzero)
  · rw [hlay]
    exact iff_of_false nofun (not_or.2 ⟨not_not.2 h, hzero⟩)

theorem Variables.lay_fails_iff :
    (∃ e, (v.overlay.lay base).1 = .error e) ↔ ¬ v.Timed ∨ ¬ v.Named := by
  rcases v.lay_cases base with ⟨t, ht, hnot, hlay⟩ | ⟨-, t, ht, hword, hlay⟩ | ⟨h, hn, ending, hlay⟩
  · exact iff_of_true ⟨_, by rw [hlay]⟩ (.inl fun h => hnot (h t ht))
  · exact iff_of_true ⟨_, by rw [hlay]⟩ (.inr fun hn => hword (hn t ht))
  · rw [hlay]
    exact iff_of_false nofun (not_or.2 ⟨not_not.2 h, not_not.2 hn⟩)

/-- A file and an environment over settings that can be used, whatever they hold:

* a file fails exactly if its timeout is a number that cannot be waited for, or its capacity is none;
* at its timeout it stops with the command set and nothing else; at its capacity also with the
  timeout, the echo and the line ending; so the key that it stops at and all those behind it, the
  teardown and the variables for the console among them, leave no trace;
* the environment fails exactly if its timeout is no number that can be waited for, or its line
  ending is not one by name;
* at its timeout it stops with the program set and nothing else; at its line ending also with the
  timeout and the echo;
* behind each of the two, taken or not, the settings can be used. -/
theorem overlays_usable (hb : base.Usable) (f : SettingsFile) (v : Variables) :
    ((∃ e, (f.overlay.lay base).1 = .error e) ↔ ¬ f.Timed ∨ f.capacity = some 0) ∧
    (∀ x ∈ f.timeoutSeconds, (¬ ∃ d, x.Lasts d) → f.overlay.lay base =
      (.error (.settings ("timeout_secs must be positive, got " ++ x.text)),
        { base with
          binary := f.binary.getD base.binary
          subcommand := f.subcommand.getD base.subcommand
          portFlag := f.portFlag.getD base.portFlag })) ∧
    (f.Timed → f.capacity = some 0 → f.overlay.lay base =
      (.error (.settings "buffer_max_size must be greater than zero"),
        { base with
          binary := f.binary.getD base.binary
          subcommand := f.subcommand.getD base.subcommand
          portFlag := f.portFlag.getD base.portFlag
          timeout := f.timeout.getD base.timeout
          echo := f.echo.getD base.echo
          lineEnding := f.lineEnding.getD base.lineEnding })) ∧
    ((∃ e, (v.overlay.lay base).1 = .error e) ↔ ¬ v.Timed ∨ ¬ v.Named) ∧
    (∀ t ∈ v.get? "timeout", (¬ ∃ d, Duration.Told t d) → v.overlay.lay base =
      (.error (.settings
        (v.nameOf "timeout" ++ " must be a positive number of seconds, got '" ++ t ++ "'")),
        { base with binary := (v.get? "binary").getD base.binary })) ∧
    (v.Timed → ∀ t ∈ v.get? "line_ending", t.map Char.toLower ∉ LineEnding.words →
      v.overlay.lay base =
        (.error (.settings
          ("unknown line ending '" ++ t.map Char.toLower ++ "' (expected lf, crlf or cr)")),
          { base with
            binary := (v.get? "binary").getD base.binary
            timeout := v.timeout.getD base.timeout
            echo := (v.flag? "echo").getD base.echo })) ∧
    (f.overlay.lay base).2.Usable ∧ (v.overlay.lay base).2.Usable := by
  refine ⟨SettingsFile.lay_fails_iff, ?_, SettingsFile.lay_of_capacity, Variables.lay_fails_iff, ?_,
    ?_, SettingsFile.usable_lay hb, Variables.usable_lay hb⟩
  · intro x hx hnot
    exact SettingsFile.lay_of_timeout hx hnot
  · intro t ht hnot
    exact Variables.lay_of_timeout ht hnot
  · intro h t ht hword
    exact Variables.lay_of_ending h ht hword

/-- A file with both numbers wrong, one with only the second wrong, and an environment with a wrong
line ending, each over the defaults. -/
theorem overlays_usable_refused :
    ∃ (f g : SettingsFile) (v : Variables), ({} : Settings).Usable ∧
      (∃ x ∈ f.timeoutSeconds, ¬ ∃ d, x.Lasts d) ∧ f.capacity = some 0 ∧
      g.Timed ∧ g.capacity = some 0 ∧
      v.Timed ∧ (∃ t ∈ v.get? "line_ending", t.map Char.toLower ∉ LineEnding.words) ∧
      (f.overlay.lay {}).2 = { binary := "v4" } ∧
      (g.overlay.lay {}).2 = { binary := "v4", timeout := .ofMillis 2500, echo := false } ∧
      (v.overlay.lay {}).2 = { timeout := .ofSecs 5, echo := false } ∧
      (f.overlay.lay {}).2.Usable ∧ (g.overlay.lay {}).2.Usable ∧ (v.overlay.lay {}).2.Usable := by
  let x : Binary64 := .finite true 6755399441055744 (-52)
  let y : Binary64 := .finite false 5629499534213120 (-51)
  let f : SettingsFile :=
    { binary := some "v4", timeoutSeconds := some x, echo := some false, capacity := some 0 }
  let g : SettingsFile := { f with timeoutSeconds := some y }
  let v : Variables := { environment := ⟨[("V4_REPL_CHECK_ECHO", "off"),
    ("V4_REPL_CHECK_LINE_ENDING", "lfcr"), ("V4_REPL_CHECK_TIMEOUT", " 5 ")]⟩ }
  have hb : ({} : Settings).Usable := ⟨by decide, by decide⟩
  have hx : ¬ ∃ d, x.Lasts d := Duration.positive?_eq_none_iff.1 (by decide +kernel)
  have hy : Duration.positive? y = some (.ofMillis 2500) := by decide +kernel
  have hg : g.Timed := by
    rintro _ ⟨rfl⟩
    exact ⟨_, Duration.positive?_eq_some_iff_lasts.1 hy⟩
  have ht : v.get? "timeout" = some " 5 " := by decide +kernel
  have htold : Duration.ofText? (Text.trimString " 5 ") = some (.ofSecs 5) := by decide +kernel
  have hv : v.Timed := by
    rw [Variables.Timed, ht]
    rintro _ ⟨rfl⟩
    exact ⟨_, Duration.ofText?_trim_eq_some_iff.1 htold⟩
  have hending : v.get? "line_ending" = some "lfcr" := by decide +kernel
  have hword : "lfcr".map Char.toLower ∉ LineEnding.words := by decide +kernel
  obtain ⟨-, hf, -, -, -, hnamed, hused, husedv⟩ := overlays_usable hb f v
  obtain ⟨-, -, hzero, -, -, -, husedg, -⟩ := overlays_usable hb g v
  have htimeout : v.timeout = some (.ofSecs 5) := by
    rw [Variables.timeout, ht, Option.bind_some, htold]
  have hecho : v.flag? "echo" = some false := by decide +kernel
  have hbinary : v.get? "binary" = none := by decide +kernel
  refine ⟨f, g, v, hb, ⟨x, rfl, hx⟩, rfl, hg, rfl, hv, ⟨_, hending, hword⟩, ?_, ?_, ?_, hused,
    husedg, husedv⟩
  · rw [hf x rfl hx]
    rfl
  · have hspan : g.timeout = some (.ofMillis 2500) := hy
    rw [hzero hg rfl, hspan]
    rfl
  · rw [hnamed hv _ hending hword, htimeout, hecho, hbinary]
    rfl

end Parley

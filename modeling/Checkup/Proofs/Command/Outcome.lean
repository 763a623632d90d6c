import Checkup.Command
import Checkup.Proofs.Config.Settings
import Checkup.Proofs.Pipeline.Limit

/-!
# How a check ends

A check prints its whole report, or else nothing at all: everything that can go wrong for good does
so before a program is started or a request is sent.

* `Config.Settings.apiKey_trim`: settings have a key that is left as it is by taking blanks off it,
  so that `Review.Client.ofSettings_accepted`: a client takes all settings there are.
* `Pipeline.run_readable` and `Pipeline.run_unreadable`: what a checkup comes to where all is
  written.
* `Command.run_complete_or_traceless` puts them together for the command line.
-/

namespace Checkup

/-! ## Settings that a client takes -/

namespace Config.Settings

variable {p : Properties} {url : Option (List Char)} {s : Settings}

/-- The key of settings is what a property holds besides blanks. -/
theorem exists_nonBlank_of_ofProperties (accepted : ofProperties p url = .ok s) :
    ∃ value, nonBlank? value = some s.apiKey := by
  rcases found : (p.get? keyProperty.toList).bind nonBlank? with _ | key
  · rw [ofProperties_of_no_key found] at accepted
    cases accepted
  rcases limit : limit? p with _ | n
  · obtain ⟨raw, -, failed⟩ := ofProperties_of_no_limit found limit
    cases failed.symm.trans accepted
  · rw [ofProperties_of_limit found limit] at accepted
    cases accepted
    obtain ⟨value, -, nonBlank⟩ := Option.bind_eq_some_iff.mp found
    exact ⟨value, nonBlank⟩

/-- There is no blank around the key of settings, and more than blanks in it. -/
theorem apiKey_trim (accepted : ofProperties p url = .ok s) :
    Text.trim s.apiKey = s.apiKey ∧ s.apiKey ≠ [] := by
  obtain ⟨value, nonBlank⟩ := exists_nonBlank_of_ofProperties accepted
  obtain ⟨same, some_key⟩ := nonBlank?_eq_some_iff.mp nonBlank
  rw [← same, Text.trim_trim]
  exact ⟨rfl, same ▸ some_key⟩

/-- Settings that are loaded from a file are made of the properties in it. -/
theorem exists_ofProperties_of_load {files : Files} {path : String}
    (loaded : load files path url = .ok s) : ∃ p, ofProperties p url = .ok s := by
  obtain ⟨text, -, made⟩ := bind_eq_ok_iff.mp loaded
  obtain ⟨p, -, made⟩ := bind_eq_ok_iff.mp made
  exact ⟨p, mapError_eq_ok_iff.mp made⟩

end Config.Settings

namespace Review.Client

/-- The client that settings are meant for. -/
def forSettings (s : Config.Settings) : Client :=
  { key := s.apiKey, url := s.apiUrl, model := s.model, temperature := s.temperature }

theorem ofSettings_accepted {p : Config.Properties} {url : Option (List Char)}
    {s : Config.Settings} (accepted : Config.Settings.ofProperties p url = .ok s) :
    ofSettings s = .ok (forSettings s) := by
  obtain ⟨same, some_key⟩ := Config.Settings.apiKey_trim accepted
  rw [ofSettings, same]
  split
  case h_1 none => exact (some_key none).elim
  case h_2 => rfl

end Review.Client

/-! ## Failures of a client -/

namespace Failure

/-- A failure of the client for completions. -/
def IsClient : Failure → Prop
  | .client _ => True
  | _ => False

end Failure

theorem Files.not_isClient_of_readText {files : Files} {path : String} {failure : Failure}
    (unread : files.readText path = .error failure) : ¬ failure.IsClient := by
  unfold Files.readText at unread
  split at unread
  · cases unread
    exact id
  · cases unread
    exact id
  · split at unread
    · cases unread
    · cases unread
      exact id

theorem Config.Settings.not_isClient_of_load {files : Files} {path : String}
    {url : Option (List Char)} {failure : Failure}
    (failed : Config.Settings.load files path url = .error failure) : ¬ failure.IsClient := by
  rcases bind_eq_error_iff.mp failed with unread | ⟨text, -, failed⟩
  · exact Files.not_isClient_of_readText unread
  rcases bind_eq_error_iff.mp failed with failed | ⟨p, -, failed⟩
  · obtain ⟨fault, -, same⟩ := mapError_eq_error_iff.mp failed
    exact same ▸ id
  · obtain ⟨fault, -, same⟩ := mapError_eq_error_iff.mp failed
    exact same ▸ id

/-! ## A checkup whose report is written in full -/

namespace Pipeline

variable (p : Pipeline) {around : Surroundings} {path : String}

/-- The report of a checkup as a text: its three sections, with an empty line between them. -/
def fullReport (p : Pipeline) (around : Surroundings) (path : String) (code : List Char) :
    List Char :=
  "=== Syntax Analysis ===".toList ++ '\n' :: (Program.check code).toList ++ ['\n'] ++ '\n' ::
    ("=== Static Analysis ===".toList ++ '\n' :: p.runner.report around.programs path ++ ['\n'] ++
      '\n' :: ("=== AI-Powered Suggestions ===".toList ++ '\n' ::
        Review.Client.reportOf (p.suggest around code).result ++ ['\n']))

theorem run_readable {code : List Char}
    (readable : around.files path = .ok (Text.Utf8.encode code)) :
    let ran := p.run around path {}
    (∃ reports, ran.2 = .ok reports) ∧
      ran.1.sink.written = Text.Utf8.encode (p.fullReport around path code) ∧
      ran.1.launches = (p.runner.collect around.programs path).launches ∧
      ran.1.sent = (p.suggest around code).sent.toList := by
  intro ran
  have fits (bytes : List UInt8) : Sink.Fits none bytes := by
    intro n limited
    cases limited
  obtain ⟨sink, -, result⟩ := p.runStages_within around path code Stage.all (wrote_nothing none)
  have run_eq : ran =
      ((p.runStages around path code {} Stage.all).1,
        (p.runStages around path code {} Stage.all).2.map fun _ =>
          (p.runStages around path code {} Stage.all).1.reports) := by
    simp only [ran, run, Files.readText_eq_ok_iff.mpr readable]
  rw [run_eq]
  refine ⟨?_, ?_, ?_, ?_⟩
  · rw [result, if_pos (fits _)]
    exact ⟨_, rfl⟩
  · rw [sink]
    exact Report.bytes_three _ _ _
  · exact (p.launches_all none around path code).trans (if_pos (fits _))
  · exact (p.sent_all none around path code).trans (if_pos (fits _))

/-- A program that cannot be read fails before anything is written, started or sent. -/
theorem run_unreadable (unreadable : ∀ code, around.files path ≠ .ok (Text.Utf8.encode code)) :
    ∃ failure, ¬ failure.IsClient ∧ p.run around path {} = ({}, .error failure) := by
  rcases read : around.files.readText path with failure | code
  · refine ⟨failure, Files.not_isClient_of_readText read, ?_⟩
    simp only [run, read]
  · exact absurd (Files.readText_eq_ok_iff.mp read) (unreadable code)

end Pipeline

/-! ## The command line -/

namespace Command

open Config (Settings)

variable {env : Environment} {path : String}

/-- A failure ends a check: one of the settings or the client, or else of the checkup. -/
inductive Ends (env : Environment) (path : String) : Failure → Prop
  | before {failure : Failure} : runCheck env path = .error failure → Ends env path failure
  | checkup {settings : Settings} {client : Review.Client} {failure : Failure} :
    Settings.load env.around.files env.settingsPath env.url = .ok settings →
    Review.Client.ofSettings settings = .ok client →
    (Pipeline.run { client } env.around path {}).2 = .error failure → Ends env path failure

theorem runCheck_of_load {settings : Settings}
    (loaded : Settings.load env.around.files env.settingsPath env.url = .ok settings) :
    let ran := Pipeline.run { client := .forSettings settings } env.around path {}
    runCheck env path = .ok {
      exitCode := match ran.2 with
        | .ok _ => 0
        | .error _ => 1
      stdout := ran.1.sink.written
      launches := ran.1.launches
      sent := ran.1.sent } := by
  obtain ⟨p, accepted⟩ := Settings.exists_ofProperties_of_load loaded
  unfold runCheck
  rw [loaded]
  dsimp only [bind, Except.bind]
  rw [Review.Client.ofSettings_accepted accepted]
  rfl

theorem runCheck_of_load_error {failure : Failure}
    (failed : Settings.load env.around.files env.settingsPath env.url = .error failure) :
    runCheck env path = .error failure := by
  unfold runCheck
  rw [failed]
  rfl

/-- No check ends with a failure of the client. -/
theorem not_isClient_of_ends {failure : Failure} (ends : Ends env path failure) :
    ¬ failure.IsClient := by
  cases ends with
  | before failed =>
      rcases load : Settings.load env.around.files env.settingsPath env.url with fault | settings
      · rw [runCheck_of_load_error load] at failed
        cases failed
        exact Settings.not_isClient_of_load load
      · rw [runCheck_of_load load] at failed
        cases failed
  | @checkup _ client _ _ _ failed =>
      by_cases readable : ∃ code, env.around.files path = .ok (Text.Utf8.encode code)
      · obtain ⟨code, readable⟩ := readable
        obtain ⟨⟨reports, done⟩, -⟩ := Pipeline.run_readable { client } readable
        rw [done] at failed
        cases failed
      · obtain ⟨other, notClient, ran⟩ :=
          Pipeline.run_unreadable { client } (not_exists.mp readable)
        rw [ran] at failed
        cases failed
        exact notClient

theorem run_of_readable {settings : Settings} {code : List Char}
    (loaded : Settings.load env.around.files env.settingsPath env.url = .ok settings)
    (readable : env.around.files path = .ok (Text.Utf8.encode code)) :
    let pipeline : Pipeline := { client := .forSettings settings }
    run env (.check path) = {
      exitCode := 0
      stdout := Text.Utf8.encode (pipeline.fullReport env.around path code)
      launches := (pipeline.runner.collect env.around.programs path).launches
      sent := (pipeline.suggest env.around code).sent.toList } := by
  intro pipeline
  obtain ⟨⟨reports, done⟩, written, launches, sent⟩ := pipeline.run_readable readable
  simp only [run, runCheck_of_load loaded]
  rw [done, written, launches, sent]

theorem run_of_unreadable (unreadable : ∀ settings code,
      Settings.load env.around.files env.settingsPath env.url = .ok settings →
      env.around.files path ≠ .ok (Text.Utf8.encode code)) :
    run env (.check path) = { exitCode := 1, stdout := [], launches := [], sent := [] } := by
  rcases load : Settings.load env.around.files env.settingsPath env.url with failure | settings
  · simp only [run, runCheck_of_load_error load]
  · obtain ⟨failure, -, ran⟩ := Pipeline.run_unreadable { client := .forSettings settings }
      fun code => unreadable settings code load
    simp only [run, runCheck_of_load load, ran]

/-- A check of one file prints the whole report and succeeds if there are settings and the file is a
text, and has no effects but its exit code otherwise.  It never fails for the client, which takes
the key of all settings as it is. -/
theorem run_complete_or_traceless (env : Environment) (args : List String) (path : String)
    (one_file : ofArguments args = .check path) :
    (∀ settings code,
      Settings.load env.around.files env.settingsPath env.url = .ok settings →
      env.around.files path = .ok (Text.Utf8.encode code) →
      let pipeline : Pipeline := { client := .forSettings settings }
      run env (ofArguments args) = {
        exitCode := 0
        stdout := Text.Utf8.encode (pipeline.fullReport env.around path code)
        launches := (pipeline.runner.collect env.around.programs path).launches
        sent := (pipeline.suggest env.around code).sent.toList }) ∧
    ((∀ settings code,
        Settings.load env.around.files env.settingsPath env.url = .ok settings →
        env.around.files path ≠ .ok (Text.Utf8.encode code)) →
      run env (ofArguments args) = { exitCode := 1, stdout := [], launches := [], sent := [] }) ∧
    (∀ failure, Ends env path failure → ¬ failure.IsClient) ∧
    ∀ p url settings, Settings.ofProperties p url = .ok settings →
      Review.Client.ofSettings settings = .ok (.forSettings settings) ∧
        (Review.Client.forSettings settings).key = settings.apiKey := by
  rw [one_file]
  refine ⟨fun settings code loaded readable => run_of_readable loaded readable,
    fun unreadable => run_of_unreadable unreadable,
    fun failure ends => not_isClient_of_ends ends, ?_⟩
  intro p url settings accepted
  exact ⟨Review.Client.ofSettings_accepted accepted, rfl⟩

/-- A file with a key in it, a program, and nothing else. -/
def keyAndProgram : Environment where
  settingsPath := ".env"
  around := {
    files := fun path =>
      if path = ".env" then .ok (Text.Utf8.encode "DEEPSEEK_API_KEY= sk-test \n".toList)
      else if path = "target.py" then .ok (Text.Utf8.encode "pass\n".toList)
      else .error .notFound
    programs := fun _ => .error Lint.noProgram
    endpoint := fun _ => .refused }

/-- What its settings come to. -/
def keyOnly : Settings where
  apiKey := "sk-test".toList
  apiUrl := Settings.defaultUrl.toList
  model := Settings.defaultModel.toList
  temperature := Settings.defaultTemperature
  timeoutSeconds := Settings.defaultTimeoutSeconds

theorem keyAndProgram_checked :
    ofArguments ["target.py"] = .check "target.py" ∧
      Settings.load keyAndProgram.around.files ".env" none = .ok keyOnly ∧
      (run keyAndProgram (ofArguments ["target.py"])).exitCode = 0 ∧
      run { keyAndProgram with settingsPath := "missing" } (ofArguments ["target.py"]) =
        { exitCode := 1, stdout := [], launches := [], sent := [] } := by
  have one_file : ofArguments ["target.py"] = .check "target.py" := by decide
  have loaded : Settings.load keyAndProgram.around.files ".env" none = .ok keyOnly := rfl
  have readable : keyAndProgram.around.files "target.py" =
      .ok (Text.Utf8.encode "pass\n".toList) := rfl
  refine ⟨one_file, loaded, ?_, ?_⟩
  · rw [(run_complete_or_traceless keyAndProgram _ _ one_file).1 _ _ loaded readable]
  · refine (run_complete_or_traceless { keyAndProgram with settingsPath := "missing" }
      _ _ one_file).2.1 ?_
    intro settings code loaded
    cases loaded

end Command

end Checkup

import Checkup.Pipeline

/-!
# A checkup on a sink that fills up

A sink takes a number of bytes and fails from then on.  Wherever that cuts the report, the sink
holds the beginning of it, and the stages that were entered are those whose turn comes before the
cut.

* `Sink.write_after` says what a write adds, and `Pipeline.writeReport_eq` what a report adds.
* `Pipeline.runStages_effects`: what is started and sent is what the entered stages start and send.
* `Pipeline.runStages_within`: what a run over any stages leaves in the sink.
* `Pipeline.run_within_limit` puts them together for a whole checkup.
-/

namespace Checkup

namespace Sink

/-- Whether a sink with a limit takes all of some bytes. -/
def Fits (limit : Option Nat) (bytes : List UInt8) : Prop := ∀ n, limit = some n → bytes.length ≤ n

instance (limit : Option Nat) (bytes : List UInt8) : Decidable (Fits limit bytes) :=
  match limit with
  | none => .isTrue fun _ other => nomatch other
  | some n => decidable_of_iff (bytes.length ≤ n)
      ⟨fun le _ same => Option.some.inj same ▸ le, fun fits => fits n rfl⟩

/-- What a sink with a limit takes of some bytes. -/
def kept (limit : Option Nat) (bytes : List UInt8) : List UInt8 :=
  match limit with
  | none => bytes
  | some n => bytes.take n

/-- A sink with a limit behind writing some bytes. -/
def after (limit : Option Nat) (bytes : List UInt8) : Sink where
  room := limit.map (· - bytes.length)
  written := kept limit bytes

variable {limit : Option Nat} {done bytes : List UInt8}

theorem after_nil : after limit [] = { room := limit } := by
  cases limit <;> simp [after, kept]

theorem Fits.of_append (fits : Fits limit (done ++ bytes)) : Fits limit done := by
  intro n same
  have le := fits n same
  rw [List.length_append] at le
  omega

/-- Writing goes on behind what was written. -/
theorem write_after (fits : Fits limit done) (bytes : List UInt8) :
    (after limit done).write bytes =
      (after limit (done ++ bytes), decide (Fits limit (done ++ bytes))) := by
  cases limit with
  | none =>
      have all : Fits none (done ++ bytes) := fun _ other => nomatch other
      simp [write, after, kept, all]
  | some n =>
      have le := fits n rfl
      have all : Fits (some n) (done ++ bytes) ↔ bytes.length ≤ n - done.length := by
        simp only [Fits, Option.some.injEq, forall_eq', List.length_append]
        omega
      simp [write, after, kept, all, List.take_append, List.take_of_length_le le]
      omega

/-- What does not fit leaves the sink full, whatever comes behind it. -/
theorem after_append_of_not_fits (full : ¬ Fits limit done) (bytes : List UInt8) :
    after limit (done ++ bytes) = after limit done := by
  cases limit with
  | none => exact (full fun _ other => nomatch other).elim
  | some n =>
      have lt : n < done.length := by
        simpa [Fits] using full
      simp [after, kept, List.take_append, show n - done.length = 0 by omega]
      omega

end Sink

/-! ## The report in bytes -/

namespace Report

/-- The text of one section. -/
def page (r : Report) : List Char := r.render ++ ['\n']

/-- The text of sections one after the other, with an empty line between them. -/
def document : List Report → List Char
  | [] => []
  | [r] => r.page
  | r :: next :: rest => r.page ++ '\n' :: document (next :: rest)

/-- What is written for a report behind others. -/
def addition (done : List Report) (r : Report) : List Char :=
  if done = [] then r.page else '\n' :: r.page

theorem document_append_singleton (done : List Report) (r : Report) :
    document (done ++ [r]) = document done ++ addition done r := by
  induction done with
  | nil => rfl
  | cons first done ih =>
      cases done with
      | nil => rfl
      | cons second done =>
          have rest : addition (second :: done) r = addition (first :: second :: done) r := rfl
          simp only [List.cons_append, document] at ih ⊢
          rw [ih, rest, List.append_assoc, List.cons_append]

/-- The bytes of sections. -/
def bytes (reports : List Report) : List UInt8 := Text.Utf8.encode (document reports)

theorem bytes_append_singleton (done : List Report) (r : Report) :
    bytes (done ++ [r]) = bytes done ++ Text.Utf8.encode (addition done r) := by
  rw [bytes, document_append_singleton, bytes, Text.Utf8.encode, List.flatMap_append]
  rfl

/-- More reports only add bytes at the end. -/
theorem exists_bytes_append (done more : List Report) :
    ∃ rest, bytes (done ++ more) = bytes done ++ rest := by
  induction more generalizing done with
  | nil => exact ⟨[], by simp⟩
  | cons r more ih =>
      obtain ⟨rest, split⟩ := ih (done ++ [r])
      refine ⟨Text.Utf8.encode (addition done r) ++ rest, ?_⟩
      rw [← List.append_assoc, ← bytes_append_singleton, ← split, List.append_assoc]
      rfl

section Sections

variable (b₁ b₂ b₃ : List Char)

theorem bytes_one :
    bytes [⟨.syntactic, b₁⟩] =
      Text.Utf8.encode ("=== Syntax Analysis ===".toList ++ '\n' :: b₁ ++ ['\n']) := rfl

theorem bytes_two :
    bytes [⟨.syntactic, b₁⟩, ⟨.static, b₂⟩] =
      Text.Utf8.encode ("=== Syntax Analysis ===".toList ++ '\n' :: b₁ ++ ['\n'] ++
        '\n' :: ("=== Static Analysis ===".toList ++ '\n' :: b₂ ++ ['\n'])) := rfl

theorem bytes_three :
    bytes [⟨.syntactic, b₁⟩, ⟨.static, b₂⟩, ⟨.suggestions, b₃⟩] =
      Text.Utf8.encode ("=== Syntax Analysis ===".toList ++ '\n' :: b₁ ++ ['\n'] ++
        '\n' :: ("=== Static Analysis ===".toList ++ '\n' :: b₂ ++ ['\n'] ++
          '\n' :: ("=== AI-Powered Suggestions ===".toList ++ '\n' :: b₃ ++ ['\n']))) := rfl

end Sections

end Report

namespace Pipeline

open Sink Report

/-! ## What a stage does -/

section Stages

variable (p : Pipeline) (around : Surroundings) (path : String) (code : List Char)

/-- The report of a stage. -/
def reportOn (stage : Stage) : Report where
  stage := stage
  body := match stage with
    | .syntactic => (Program.check code).toList
    | .static => p.runner.report around.programs path
    | .suggestions =>
      Review.Client.reportOf (p.suggest around code).result

/-- The attempts of a stage to start programs. -/
def launchesOf : Stage → List Lint.Launch
  | .static => (p.runner.collect around.programs path).launches
  | _ => []

/-- The requests that a stage sends. -/
def requestsOf : Stage → List Web.Request
  | .suggestions => (p.suggest around code).sent.toList
  | _ => []

/-- What a run has come to behind a stage whose report is still to be written. -/
def behind (progress : Progress) (stage : Stage) : Progress :=
  { progress with
    launches := progress.launches ++ p.launchesOf around path stage
    sent := progress.sent ++ p.requestsOf around code stage }

theorem runStage_eq (progress : Progress) (stage : Stage) :
    p.runStage around path code progress stage =
      (p.behind around path code progress stage, p.reportOn around path code stage) := by
  cases stage <;>
    simp [runStage, suggest, behind, launchesOf, requestsOf, reportOn, Lint.Runner.report]

theorem runStages_cons (progress : Progress) (stage : Stage) (rest : List Stage) :
    p.runStages around path code progress (stage :: rest) =
      match writeReport (p.behind around path code progress stage)
        (p.reportOn around path code stage) with
      | (next, true) => p.runStages around path code next rest
      | (next, false) => (next, .error Sink.full) := by
  rcases write : writeReport (p.behind around path code progress stage)
    (p.reportOn around path code stage) with ⟨next, _ | _⟩
  · simp only [runStages, runStage_eq, write]
  · rw [runStages]
    simp only [runStage_eq, write]

/-- The stages that a run enters: the next one, and the others unless its report cannot be
written. -/
def entered (progress : Progress) : List Stage → List Stage
  | [] => []
  | stage :: rest =>
    let (progress, report) := p.runStage around path code progress stage
    match writeReport progress report with
    | (progress, true) => stage :: entered progress rest
    | (_, false) => [stage]

theorem entered_cons (progress : Progress) (stage : Stage) (rest : List Stage) :
    p.entered around path code progress (stage :: rest) =
      match writeReport (p.behind around path code progress stage)
        (p.reportOn around path code stage) with
      | (next, true) => stage :: p.entered around path code next rest
      | (_, false) => [stage] := by
  rw [entered]
  simp only [runStage_eq]

theorem writeReport_effects (progress : Progress) (report : Report) :
    (writeReport progress report).1.launches = progress.launches ∧
      (writeReport progress report).1.sent = progress.sent := by
  rw [writeReport]
  split
  split
  split <;> exact ⟨rfl, rfl⟩

/-- What is started and sent is what the entered stages start and send. -/
theorem runStages_effects (stages : List Stage) : ∀ progress : Progress,
    (p.runStages around path code progress stages).1.launches =
        progress.launches ++
          (p.entered around path code progress stages).flatMap (p.launchesOf around path) ∧
      (p.runStages around path code progress stages).1.sent =
        progress.sent ++
          (p.entered around path code progress stages).flatMap (p.requestsOf around code) := by
  induction stages with
  | nil => intro progress; simp [runStages, entered]
  | cons stage stages ih =>
      intro progress
      obtain ⟨launches, sent⟩ := writeReport_effects (p.behind around path code progress stage)
        (p.reportOn around path code stage)
      rw [runStages_cons, entered_cons]
      rcases write : writeReport (p.behind around path code progress stage)
        (p.reportOn around path code stage) with ⟨next, _ | _⟩
      · simp only [write] at launches sent
        simp only [launches, sent, List.flatMap_cons, List.flatMap_nil, List.append_nil]
        exact ⟨rfl, rfl⟩
      · simp only [write] at launches sent
        obtain ⟨later, laterSent⟩ := ih next
        simp only [later, laterSent, launches, sent, List.flatMap_cons, ← List.append_assoc]
        exact ⟨rfl, rfl⟩

end Stages

/-! ## Writing reports -/

/-- Some reports are written, and there was room for them. -/
structure Wrote (limit : Option Nat) (done : List Report) (progress : Progress) : Prop where
  sink : progress.sink = after limit (bytes done)
  reports : progress.reports = done
  fits : Fits limit (bytes done)

theorem wrote_nothing (limit : Option Nat) : Wrote limit [] { sink := { room := limit } } where
  sink := after_nil.symm
  reports := rfl
  fits := fun _ _ => Nat.zero_le _

variable {limit : Option Nat} {done : List Report} {progress : Progress}

/-- The sink behind the bytes that go before a report. -/
theorem writeReport_eq (wrote : Wrote limit done progress) (r : Report) :
    writeReport progress r =
      if Fits limit (bytes (done ++ [r])) then
        ({ progress with
            sink := after limit (bytes (done ++ [r])), reports := done ++ [r] }, true)
      else ({ progress with sink := after limit (bytes (done ++ [r])) }, false) := by
  rw [writeReport, wrote.reports, wrote.sink, bytes_append_singleton]
  by_cases first : done = []
  · have page : Text.Utf8.encode (addition done r) = Text.Utf8.encode (r.render ++ ['\n']) := by
      rw [addition, if_pos first]
      rfl
    simp only [if_pos first, if_true, page, write_after wrote.fits, decide_eq_true_eq]
  · have page : Text.Utf8.encode (addition done r) =
        [0x0a] ++ Text.Utf8.encode (r.render ++ ['\n']) := by
      rw [addition, if_neg first]
      rfl
    rw [page, ← List.append_assoc]
    simp only [if_neg first, write_after wrote.fits, decide_eq_true_eq]
    by_cases line : Fits limit (bytes done ++ [0x0a])
    · simp only [if_pos line, write_after line, decide_eq_true_eq]
    · have cut : ¬ Fits limit (bytes done ++ [0x0a] ++ Text.Utf8.encode (r.render ++ ['\n'])) :=
        fun fits => line fits.of_append
      simp only [if_neg line, if_neg cut, after_append_of_not_fits line, Bool.false_eq_true,
        if_false]

/-- A run over stages leaves as much of their reports in the sink as fits, and succeeds if that is
all. -/
theorem runStages_within (p : Pipeline) (around : Surroundings) (path : String) (code : List Char)
    (stages : List Stage) : ∀ {done : List Report} {progress : Progress},
    Wrote limit done progress →
    let all := done ++ stages.map (p.reportOn around path code)
    let ran := p.runStages around path code progress stages
    ran.1.sink = after limit (bytes all) ∧
      (Fits limit (bytes all) → ran.1.reports = all) ∧
      ran.2 = if Fits limit (bytes all) then .ok () else .error Sink.full := by
  induction stages with
  | nil =>
      intro done progress wrote
      simp only [List.map_nil, List.append_nil, runStages, if_pos wrote.fits]
      exact ⟨wrote.sink, fun _ => wrote.reports, True.intro⟩
  | cons stage stages ih =>
      intro done progress wrote
      have begun : Wrote limit done (p.behind around path code progress stage) :=
        ⟨wrote.sink, wrote.reports, wrote.fits⟩
      have write := writeReport_eq begun (p.reportOn around path code stage)
      have split : done ++ (stage :: stages).map (p.reportOn around path code) =
          done ++ [p.reportOn around path code stage] ++
            stages.map (p.reportOn around path code) := by
        rw [List.append_assoc]
        rfl
      rw [runStages_cons, split]
      by_cases fits : Fits limit (bytes (done ++ [p.reportOn around path code stage]))
      · rw [if_pos fits] at write
        rw [write]
        exact ih ⟨rfl, rfl, fits⟩
      · rw [if_neg fits] at write
        rw [write]
        obtain ⟨rest, more⟩ := exists_bytes_append
          (done ++ [p.reportOn around path code stage]) (stages.map (p.reportOn around path code))
        have cut : ¬ Fits limit (bytes (done ++ [p.reportOn around path code stage] ++
            stages.map (p.reportOn around path code))) := by
          rw [more]
          exact fun all => fits all.of_append
        refine ⟨?_, fun all => (cut all).elim, by rw [if_neg cut]⟩
        rw [more, after_append_of_not_fits fits]

section Entered

variable (p : Pipeline) (around : Surroundings) (path : String) (code : List Char)

/-- A stage is followed by the next one if there is room for its report. -/
theorem entered_within (wrote : Wrote limit done progress) (stage : Stage) (stages : List Stage) :
    ∃ next, (Fits limit (bytes (done ++ [p.reportOn around path code stage])) →
        Wrote limit (done ++ [p.reportOn around path code stage]) next) ∧
      p.entered around path code progress (stage :: stages) =
        stage :: if Fits limit (bytes (done ++ [p.reportOn around path code stage])) then
          p.entered around path code next stages else [] := by
  have begun : Wrote limit done (p.behind around path code progress stage) :=
    ⟨wrote.sink, wrote.reports, wrote.fits⟩
  have write := writeReport_eq begun (p.reportOn around path code stage)
  rw [entered_cons]
  by_cases fits : Fits limit (bytes (done ++ [p.reportOn around path code stage]))
  · rw [if_pos fits] at write
    rw [write]
    exact ⟨_, fun _ => ⟨rfl, rfl, fits⟩, by rw [if_pos fits]⟩
  · rw [if_neg fits] at write
    rw [write]
    exact ⟨progress, fun all => (fits all).elim, by rw [if_neg fits]⟩

/-- There is room for the report of the first stage. -/
abbrev FitsOne (limit : Option Nat) : Prop :=
  Fits limit (bytes [p.reportOn around path code .syntactic])

/-- There is room for the reports of the first two stages. -/
abbrev FitsTwo (limit : Option Nat) : Prop :=
  Fits limit (bytes [p.reportOn around path code .syntactic, p.reportOn around path code .static])

variable {p around path code}

theorem FitsTwo.one (two : p.FitsTwo around path code limit) :
    p.FitsOne around path code limit := by
  obtain ⟨rest, split⟩ := exists_bytes_append [p.reportOn around path code .syntactic]
    [p.reportOn around path code .static]
  rw [FitsTwo, ← List.singleton_append, split] at two
  exact two.of_append

variable (p around path code limit)

/-- The static stage is entered if there is room for the first report, and suggestions are asked for
if there is room for the first two. -/
theorem entered_all :
    p.entered around path code { sink := { room := limit } } Stage.all =
      .syntactic ::
        if p.FitsOne around path code limit then
          .static :: if p.FitsTwo around path code limit then [.suggestions] else []
        else [] := by
  obtain ⟨second, wrote, first⟩ := entered_within p around path code (wrote_nothing limit)
    .syntactic [.static, .suggestions]
  rw [Stage.all, first]
  simp only [List.nil_append] at wrote ⊢
  by_cases one : p.FitsOne around path code limit
  · obtain ⟨third, wroteTwo, next⟩ := entered_within p around path code (wrote one)
      .static [.suggestions]
    rw [if_pos one, if_pos one, next]
    simp only [List.cons_append, List.nil_append] at wroteTwo ⊢
    by_cases two : p.FitsTwo around path code limit
    · obtain ⟨last, _, ends⟩ := entered_within p around path code (wroteTwo two) .suggestions []
      rw [if_pos two, if_pos two, ends]
      simp only [entered, ite_self]
    · rw [if_neg two, if_neg two]
  · rw [if_neg one, if_neg one]

theorem static_mem_entered_iff :
    .static ∈ p.entered around path code { sink := { room := limit } } Stage.all ↔
      p.FitsOne around path code limit := by
  rw [entered_all]
  by_cases one : p.FitsOne around path code limit <;> simp [one]

theorem suggestions_mem_entered_iff :
    .suggestions ∈ p.entered around path code { sink := { room := limit } } Stage.all ↔
      p.FitsTwo around path code limit := by
  rw [entered_all]
  by_cases two : p.FitsTwo around path code limit
  · simp [two, two.one]
  · by_cases one : p.FitsOne around path code limit <;> simp [one, two]

/-- Programs are started by the static stage only. -/
theorem launches_all :
    (p.runStages around path code { sink := { room := limit } } Stage.all).1.launches =
      if p.FitsOne around path code limit then
        (p.runner.collect around.programs path).launches else [] := by
  have launches := (p.runStages_effects around path code Stage.all
    { sink := { room := limit } }).1
  rw [launches, entered_all]
  by_cases one : p.FitsOne around path code limit
  · by_cases two : p.FitsTwo around path code limit <;> simp [one, two, launchesOf]
  · simp [one, launchesOf]

/-- A request is sent for suggestions only. -/
theorem sent_all :
    (p.runStages around path code { sink := { room := limit } } Stage.all).1.sent =
      if p.FitsTwo around path code limit then
        (p.suggest around code).sent.toList else [] := by
  have sent := (p.runStages_effects around path code Stage.all { sink := { room := limit } }).2
  rw [sent, entered_all]
  by_cases two : p.FitsTwo around path code limit
  · simp [two, two.one, requestsOf]
  · by_cases one : p.FitsOne around path code limit <;> simp [one, two, requestsOf]

end Entered

/-! ## A whole checkup -/

/-- With `s₁`, `s₂` and `s₃` for the three sections and `f` for the whole report: a program that can
be read leaves the beginning of `f` that the limit allows, the run succeeds exactly if that is all
of it, and each further stage is entered exactly if there is room for all before it.  A program that
cannot be read has no effects. -/
theorem run_within_limit (p : Pipeline) (around : Surroundings) (path : String)
    (limit : Option Nat) :
    let ran := p.run around path { room := limit }
    (∀ failure, around.files.readText path = .error failure →
      ran.2 = .error failure ∧ ran.1.sink.written = [] ∧ ran.1.launches = [] ∧ ran.1.sent = []) ∧
    ∀ code, around.files.readText path = .ok code →
      let b₁ := (Program.check code).toList
      let b₂ := p.runner.report around.programs path
      let completed := p.client.complete around.endpoint (Review.promptFor code) around.names
      let b₃ := Review.Client.reportOf completed.result
      let s₁ := "=== Syntax Analysis ===".toList ++ '\n' :: b₁ ++ ['\n']
      let s₂ := "=== Static Analysis ===".toList ++ '\n' :: b₂ ++ ['\n']
      let s₃ := "=== AI-Powered Suggestions ===".toList ++ '\n' :: b₃ ++ ['\n']
      let f := s₁ ++ '\n' :: (s₂ ++ '\n' :: s₃)
      let entered := p.entered around path code { sink := { room := limit } } Stage.all
      ran.1.sink.written = kept limit (Text.Utf8.encode f) ∧
      ran.2 = (if Fits limit (Text.Utf8.encode f) then
        .ok [⟨.syntactic, b₁⟩, ⟨.static, b₂⟩, ⟨.suggestions, b₃⟩] else .error (.io "sink full")) ∧
      (.static ∈ entered ↔ Fits limit (Text.Utf8.encode s₁)) ∧
      (.suggestions ∈ entered ↔ Fits limit (Text.Utf8.encode (s₁ ++ '\n' :: s₂))) ∧
      ran.1.launches = (if Fits limit (Text.Utf8.encode s₁) then
        (p.runner.collect around.programs path).launches else []) ∧
      ran.1.sent = (if Fits limit (Text.Utf8.encode (s₁ ++ '\n' :: s₂)) then
        completed.sent.toList else []) := by
  intro ran
  refine ⟨?_, ?_⟩
  · intro failure unreadable
    have none_run : ran = ({ sink := { room := limit } }, .error failure) := by
      simp only [ran, run, unreadable]
    rw [none_run]
    exact ⟨rfl, rfl, rfl, rfl⟩
  · intro code readable b₁ b₂ completed b₃ s₁ s₂ s₃ f entered
    have run_eq : ran =
        ((p.runStages around path code { sink := { room := limit } } Stage.all).1,
          (p.runStages around path code { sink := { room := limit } } Stage.all).2.map fun _ =>
            (p.runStages around path code { sink := { room := limit } } Stage.all).1.reports) := by
      simp only [ran, run, readable]
    have all : bytes ([] ++ Stage.all.map (p.reportOn around path code)) =
        Text.Utf8.encode f := bytes_three b₁ b₂ b₃
    have one : p.FitsOne around path code limit ↔ Fits limit (Text.Utf8.encode s₁) :=
      Iff.of_eq (congrArg (Fits limit) (bytes_one b₁))
    have two : p.FitsTwo around path code limit ↔
        Fits limit (Text.Utf8.encode (s₁ ++ '\n' :: s₂)) :=
      Iff.of_eq (congrArg (Fits limit) (bytes_two b₁ b₂))
    obtain ⟨sink, reports, result⟩ :=
      p.runStages_within around path code Stage.all (wrote_nothing limit)
    rw [all] at sink reports result
    rw [run_eq]
    refine ⟨by rw [sink]; rfl, ?_, ?_, ?_, ?_, ?_⟩
    · rw [result]
      by_cases fits : Fits limit (Text.Utf8.encode f)
      · rw [if_pos fits, if_pos fits, reports fits]
        rfl
      · rw [if_neg fits, if_neg fits]
        rfl
    · exact (p.static_mem_entered_iff limit around path code).trans one
    · exact (p.suggestions_mem_entered_iff limit around path code).trans two
    · rw [p.launches_all limit around path code]
      simp only [one]
    · rw [p.sent_all limit around path code]
      simp only [two, completed, suggest]

/-- A program, and tools that have nothing to say about it. -/
def silentTools : Surroundings where
  files := fun _ => .ok (Text.Utf8.encode "pass\n".toList)
  programs := fun _ => .ok fun _ => .ok {}
  endpoint := fun _ => .refused

/-- A sink that is full right behind the first section: both tools are started, although nothing of
theirs can be written, and no request is sent.  With room for one byte less, no tool is started. -/
theorem full_behind_first_section :
    let p : Pipeline :=
      { client := { key := ['k'], url := "http://m/".toList, model := [], temperature := 0 } }
    let s₁ := Text.Utf8.encode ("=== Syntax Analysis ===".toList ++
      '\n' :: (Program.check "pass\n".toList).toList ++ ['\n'])
    let full := p.run silentTools "target.py" { room := some s₁.length }
    let cut := p.run silentTools "target.py" { room := some (s₁.length - 1) }
    full.1.sink.written = s₁ ∧ full.2 = .error (.io "sink full") ∧ full.1.sent = [] ∧
      full.1.launches = [⟨"pylint", ["target.py"]⟩, ⟨"flake8", ["target.py"]⟩] ∧
      cut.1.sink.written = s₁.dropLast ∧ cut.1.launches = [] := by
  intro p s₁ full cut
  have readable : silentTools.files.readText "target.py" = .ok "pass\n".toList := rfl
  obtain ⟨written, result, -, -, launches, sent⟩ :=
    (run_within_limit p silentTools "target.py" (some s₁.length)).2 _ readable
  obtain ⟨cutWritten, -, -, -, cutLaunches, -⟩ :=
    (run_within_limit p silentTools "target.py" (some (s₁.length - 1))).2 _ readable
  have more (cs : List Char) : Text.Utf8.encode (("=== Syntax Analysis ===".toList ++
      '\n' :: (Program.check "pass\n".toList).toList ++ ['\n']) ++ '\n' :: cs) =
        s₁ ++ Text.Utf8.encode ('\n' :: cs) := List.flatMap_append
  have full_of_more (cs : List Char) :
      ¬ Fits (some s₁.length) (s₁ ++ Text.Utf8.encode ('\n' :: cs)) := by
    intro fits
    have le := fits _ rfl
    have newline : 0 < (Text.Utf8.encode ('\n' :: cs)).length := Nat.zero_lt_succ _
    rw [List.length_append] at le
    omega
  have nonempty : 0 < s₁.length := Nat.zero_lt_succ _
  have room : Fits (some s₁.length) s₁ := fun n same => Nat.le_of_eq (Option.some.inj same)
  have noRoom : ¬ Fits (some (s₁.length - 1)) s₁ := fun fits => by
    have le := fits _ rfl
    omega
  rw [more] at written result cutWritten sent
  rw [if_neg (full_of_more _)] at result sent
  have started : (p.runner.collect silentTools.programs "target.py").launches =
      [⟨"pylint", ["target.py"]⟩, ⟨"flake8", ["target.py"]⟩] := by decide
  rw [if_pos room, started] at launches
  rw [if_neg noRoom] at cutLaunches
  have fullRun : p.run silentTools "target.py" { room := some s₁.length } = full := rfl
  have cutRun : p.run silentTools "target.py" { room := some (s₁.length - 1) } = cut := rfl
  rw [fullRun] at written result launches sent
  rw [cutRun] at cutWritten cutLaunches
  refine ⟨?_, result, sent, launches, ?_, cutLaunches⟩
  · rw [written, kept, List.take_left]
  · rw [cutWritten, kept, List.take_append_of_le_length (Nat.sub_le _ _), List.dropLast_eq_take]

end Pipeline

end Checkup

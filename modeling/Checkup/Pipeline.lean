import Checkup.Lint.Runner
import Checkup.Program.Source
import Checkup.Report
import Checkup.Review.Client
import Checkup.Review.Prompt

/-!
# The pipeline

A checkup reads a program once, runs the stages on it one after the other and writes each report as
soon as it is there.  `Pipeline.run` says what is written, what was started and sent on the way, and
how it ended.
-/

namespace Checkup

/-- What reports are written to. -/
structure Sink where
  /-- How many bytes it takes before writing to it fails; with none it never does. -/
  room : Option Nat := none
  written : List UInt8 := []
deriving BEq, DecidableEq, Inhabited

namespace Sink

/-- Writes bytes as far as there is room, and says whether that was all. -/
def write (s : Sink) (bytes : List UInt8) : Sink × Bool :=
  match s.room with
  | none => ({ s with written := s.written ++ bytes }, true)
  | some room =>
    let taken := bytes.take room
    ({ room := some (room - taken.length), written := s.written ++ taken },
      bytes.length ≤ room)

/-- The failure of writing where there is no room. -/
def full : Failure := .io "sink full"

end Sink

/-- What the stages of a checkup meet outside. -/
structure Surroundings where
  files : Files
  programs : Lint.Programs
  endpoint : Web.Endpoint
  names : Web.Names := Web.Names.common

/-- How far a checkup has come: what is written, the attempts to start programs, the requests sent,
and the reports. -/
structure Progress where
  sink : Sink := {}
  launches : List Lint.Launch := []
  sent : List Web.Request := []
  reports : List Report := []
deriving Inhabited

structure Pipeline where
  client : Review.Client
  runner : Lint.Runner := {}

namespace Pipeline

/-- Asks for suggestions. -/
def suggest (p : Pipeline) (around : Surroundings) (code : List Char) : Review.Completed :=
  p.client.complete around.endpoint (Review.promptFor code) around.names

/-- Runs a stage on a program at a path: its report, and what it started and sent. -/
def runStage (p : Pipeline) (around : Surroundings) (path : String) (code : List Char)
    (progress : Progress) (stage : Stage) : Progress × Report :=
  match stage with
  | .syntactic =>
    (progress, { stage, body := (Program.check code).toList })
  | .static =>
    let collected := p.runner.collect around.programs path
    ({ progress with launches := progress.launches ++ collected.launches },
      { stage, body := p.runner.reportOf collected.result })
  | .suggestions =>
    let completed := p.suggest around code
    ({ progress with sent := progress.sent ++ completed.sent.toList },
      { stage, body := Review.Client.reportOf completed.result })

/-- Writes a report, behind an empty line unless it is the first. -/
def writeReport (progress : Progress) (report : Report) : Progress × Bool :=
  let (sink, hasRoom) :=
    if progress.reports = [] then (progress.sink, true) else progress.sink.write [0x0a]
  let (sink, hasRoom) :=
    if hasRoom then sink.write (Text.Utf8.encode (report.render ++ ['\n'])) else (sink, false)
  if hasRoom then ({ progress with sink, reports := progress.reports ++ [report] }, true)
  else ({ progress with sink }, false)

/-- Runs stages until a report cannot be written. -/
def runStages (p : Pipeline) (around : Surroundings) (path : String) (code : List Char)
    (progress : Progress) : List Stage → Progress × Except Failure Unit
  | [] => (progress, .ok ())
  | stage :: rest =>
    let (progress, report) := p.runStage around path code progress stage
    match writeReport progress report with
    | (progress, true) => p.runStages around path code progress rest
    | (progress, false) => (progress, .error Sink.full)

/-- Checks the program at a path. -/
def run (p : Pipeline) (around : Surroundings) (path : String) (sink : Sink) :
    Progress × Except Failure (List Report) :=
  match around.files.readText path with
  | .error failure => ({ sink }, .error failure)
  | .ok code =>
    let (progress, result) := p.runStages around path code { sink } Stage.all
    (progress, result.map fun _ => progress.reports)

end Pipeline

end Checkup

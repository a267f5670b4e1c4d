/-
A log that is being written.

The configuration chooses level, layout, parts and destination.  The filter comes from the
configuration, else from the environment, else from the level.  A file that cannot be opened is
replaced by the error stream, with a warning as the first line.  A process writes one log at a time.

* `Uplink.LogConfig` — the configuration, with `Uplink.LogConfig.filter`;
* `Uplink.LogSink`, `Uplink.LogLine` — where lines go and what they are;
* `Uplink.LogSession.start` — a log that starts to be written;
* `Uplink.LogSession.emit`, `Uplink.LogSession.close` — the lines of an event, and of the end of a
  span.
-/

import Uplink.Error
import Uplink.Log.Filter
import Uplink.Log.Layout

set_option relaxedAutoImplicit false
set_option autoImplicit false

namespace Uplink

/-- Where a log is written. -/
inductive LogOutput
  | stdout
  | stderr
  /-- Appended to a file. -/
  | file (path : String)
  /-- A file for each day, named by a stem and the date. -/
  | daily (stem : String)
deriving DecidableEq, Repr

/-- The configuration of a log. -/
structure LogConfig where
  level : LogLevel := .info
  format : LogFormat := .json
  output : LogOutput := .stdout
  parts : LogParts := {}
  /-- Directives that replace the level and those of the environment. -/
  directives : Option String := none
deriving DecidableEq, Repr

/-- The filter of a configuration, given the directives of the environment.  Directives of the
environment that make no sense are ignored. -/
def LogConfig.filter (c : LogConfig) (environment : Option String) :
    Except ConfigFault LogFilter :=
  match c.directives with
  | some directives =>
      match LogFilter.parse? directives with
      | some f => .ok f
      | none => .error (.logFilter directives)
  | none => .ok ((environment.bind LogFilter.parse?).getD (.ofVerbosity (.upTo c.level)))

/-- Where lines end up. -/
inductive LogSink
  | stdout
  | stderr
  | file (name : String)
deriving DecidableEq, Repr

/-- A line as it is written. -/
inductive LogLine
  | text (line : String)
  | object (data : Data)

/-- What a process knows about its surroundings when a log starts. -/
structure LogSurroundings where
  /-- The directives of the environment. -/
  directives : Option String
  /-- Why a file cannot be opened, if it cannot. -/
  obstacle : String → Option OsError
  /-- The date of today, in file names. -/
  date : String

/-- A log that is being written. -/
structure LogSession where
  config : LogConfig
  filter : LogFilter
  sink : LogSink
  /-- The lines so far. -/
  lines : List LogLine

namespace LogSession

/-- The lines of an event that is written. -/
def render (config : LogConfig) (origin : LogOrigin) (r : LogRecord) : List LogLine :=
  match config.format with
  | .json => [.object (r.object config.parts origin)]
  | .plain => [.text (r.plain config.parts origin)]
  | .compact => [.text (r.compact config.parts origin)]
  | .pretty => (r.pretty config.parts origin).map .text

/-- The log after an event. -/
def emit (s : LogSession) (origin : LogOrigin) (r : LogRecord) : LogSession :=
  if s.filter.admits r.target r.level then
    { s with lines := s.lines ++ render s.config origin r }
  else s

/-- The span, if the filter lets it through. -/
def enter (s : LogSession) (span : LogSpan) : Option LogSpan :=
  if s.filter.admits span.target span.level then some span else none

/-- The log after the end of a span that took some time. -/
def close (s : LogSession) (origin : LogOrigin) (span : LogSpan) (busy idle : String) :
    LogSession :=
  if s.config.parts.spans then
    s.emit origin {
      level := span.level
      target := span.target
      message := some "close"
      fields := [("time.busy", .shown busy), ("time.idle", .shown idle)]
      span := some span
      inside := false }
  else s

/-- The warning that a file could not be opened. -/
def fallbackRecord (error : OsError) : LogRecord where
  level := .warn
  target := "sluice_core::logging"
  message := some "Log file unavailable, logging to stderr"
  fields := [("error", .shown error.message)]

/-- The sink of an output, and why it is not the one asked for. -/
def sinkOf (surroundings : LogSurroundings) : LogOutput → LogSink × Option OsError
  | .stdout => (.stdout, none)
  | .stderr => (.stderr, none)
  | .file path =>
      match surroundings.obstacle path with
      | some error => (.stderr, some error)
      | none => (.file path, none)
  | .daily stem => (.file s!"{stem}.{surroundings.date}", none)

/-- Starts a log, unless one is being written or the filter makes no sense. -/
def start (config : LogConfig) (surroundings : LogSurroundings) (origin : LogOrigin)
    (installed : Bool) : Except ConfigFault LogSession :=
  match config.filter surroundings.directives with
  | .error fault => .error fault
  | .ok filter =>
      if installed then .error .logInstalled
      else
        let (sink, obstacle) := sinkOf surroundings config.output
        let session : LogSession := { config, filter, sink, lines := [] }
        match obstacle with
        | some error => .ok (session.emit origin (fallbackRecord error))
        | none => .ok session

end LogSession

end Uplink

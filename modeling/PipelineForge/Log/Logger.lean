import PipelineForge.Log.Escapes
import PipelineForge.Log.Filter

/-!
# Loggers

A logger writes the records that pass its filter, painted or plain. A record shows the level, the
thread, the last part of the file's path and the line where it comes from. The first logger that
is installed stays, and a later start only leaves a record of its own.
-/

namespace PipelineForge.Log

def rendition (codes : String) : String := s!"\x1b[{codes}m"

def painted (start text : String) : String := start ++ text ++ rendition "0"

def rgb (r g b : Nat) : String := rendition s!"38;2;{r};{g};{b}"

def grey : String := rgb 110 110 110

def black : String := rgb 75 75 75

def Level.paint : Level → String
  | error => rendition "1" ++ rendition "31"
  | warn => rendition "33"
  | info => rendition "32"
  | debug => rendition "34"
  | trace => rendition "36"

/-- Where in a program a record is written. -/
structure Origin where
  target : String
  file : Option String
  line : Option UInt32
  thread : Option String
deriving DecidableEq

structure Record extends Origin where
  level : Level
  text : String
deriving DecidableEq

def lastPart (path : String) : String :=
  String.ofList (path.toList.reverse.takeWhile fun c => c ≠ '/' && c ≠ '\\').reverse

namespace Record

/-- A missing line is the largest one. -/
def place (r : Record) : String :=
  let file := lastPart (r.file.getD "")
  let line := r.line.getD 0xffffffff
  s!"{file}:{line.toNat}"

def render (time : String) (r : Record) : String :=
  let thread := r.thread.getD "unnamed"
  let head := painted r.level.paint s!"[{time}] {r.level.text}"
  let origin := painted grey s!"[{thread}] [{r.place}]"
  s!"{head} {origin} {painted black r.text}\n"

end Record

structure Logger where
  filter : Filter
  paints : Bool
deriving DecidableEq

/-- What a start of the log is given. An absent text was not set. -/
structure Setup where
  threshold : Threshold := .upTo .info
  directives : Option String := none
  style : Option String := none

namespace Setup

def logger (s : Setup) : Logger where
  filter := .ofText s.threshold (s.directives.getD "")
  paints := s.style = some "always"

def warning (complaint : String) : String := s!"warning: {complaint}, ignoring it\n"

def warnings (s : Setup) : List String := (Filter.complaints (s.directives.getD "")).map warning

end Setup

structure Journal where
  logger : Option Logger := none
  written : String := ""

namespace Journal

def maxThreshold (j : Journal) : Threshold :=
  (j.logger.map fun l => l.filter.maxThreshold).getD .off

def write (time : String) (j : Journal) (r : Record) : Journal :=
  match j.logger with
  | none => j
  | some l =>
    if l.filter.passes r.target r.level r.text then
      let text := r.render time
      { j with written := j.written ++ if l.paints then text else plain text }
    else j

def lateStart (origin : Origin) : Record :=
  { origin with
    level := .debug
    text := "logger is already initialized: attempted to set a logger after the logging system " ++
      "was already initialized" }

/-- Starts the log from somewhere in a program. The warnings are written each time, but the first
logger stays. -/
def start (time : String) (origin : Origin) (j : Journal) (s : Setup) : Journal :=
  let j := { j with written := s.warnings.foldl (· ++ ·) j.written }
  match j.logger with
  | none => { j with logger := some s.logger }
  | some _ => j.write time (lateStart origin)

end Journal

end PipelineForge.Log

/-!
# Log levels and lines

Levels are ordered from the gravest to the most detailed. A threshold lets a line pass if its level
is at most that of the threshold; the threshold "off" lets none pass.
-/

namespace PipelineForge.Log

inductive Level where
  | error
  | warn
  | info
  | debug
  | trace
deriving DecidableEq, Repr

namespace Level

def rank : Level → Nat
  | error => 1
  | warn => 2
  | info => 3
  | debug => 4
  | trace => 5

def text : Level → String
  | error => "ERROR"
  | warn => "WARN"
  | info => "INFO"
  | debug => "DEBUG"
  | trace => "TRACE"

def all : List Level := [error, warn, info, debug, trace]

end Level

/-- The most detailed level that passes, if any does. -/
structure Threshold where
  level : Option Level
deriving DecidableEq

namespace Threshold

def off : Threshold := ⟨none⟩

def upTo (l : Level) : Threshold := ⟨some l⟩

def rank (t : Threshold) : Nat := (t.level.map Level.rank).getD 0

def passes (t : Threshold) (l : Level) : Bool := l.rank ≤ t.rank

def text (t : Threshold) : String := (t.level.map Level.text).getD "OFF"

def all : List Threshold := off :: Level.all.map upTo

def ofText? (s : String) : Option Threshold :=
  all.find? fun t => t.text.toList == s.toList.map Char.toUpper

def max (s t : Threshold) : Threshold := if s.rank < t.rank then t else s

end Threshold

/-- A line of the log, without the place where it was written. -/
structure Line where
  level : Level
  text : String
deriving DecidableEq

def Line.render (l : Line) : String := s!"{l.level.text} {l.text}"

end PipelineForge.Log

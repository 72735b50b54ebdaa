/-!
# Places in a text

A place is a line and a column, both counted from one. A stretch is what lies between two places.
-/

namespace PipelineForge.Pattern

structure Place where
  line : Nat := 1
  column : Nat := 1
deriving DecidableEq

def Place.after (p : Place) (c : Char) : Place :=
  if c = '\n' then ⟨p.line + 1, 1⟩ else ⟨p.line, p.column + 1⟩

def Place.precedes (p q : Place) : Bool :=
  p.line < q.line || (p.line == q.line && p.column ≤ q.column)

structure Stretch where
  start : Place
  stop : Place
deriving DecidableEq

namespace Stretch

def isOneLine (s : Stretch) : Bool := s.start.line == s.stop.line

/-- Ordered by start. -/
def precedes (s t : Stretch) : Bool :=
  if s.start = t.start then s.stop.precedes t.stop else s.start.precedes t.start

end Stretch

end PipelineForge.Pattern

import PipelineForge.Log.Level
import PipelineForge.Pattern.Basic
import PipelineForge.Text.Blank

/-!
# Log filters

A filter is a list of directives. A directive sets the threshold of all targets that begin with
its name; one without a name sets that of every target. The longest name that fits a target
decides. A filter may also have a pattern, which the text of a record then has to match. Filters
are read from a text of directives with commas between them; a slash separates the pattern.
-/

namespace PipelineForge.Log

structure Directive where
  target : Option String
  threshold : Threshold
deriving DecidableEq

namespace Directive

def size (d : Directive) : Nat := (d.target.map String.utf8ByteSize).getD 0

def covers (d : Directive) (target : String) : Bool :=
  d.target.all fun name => name.toList.isPrefixOf target.toList

/-- Reads one directive: a threshold, a target at full detail, or both with an equals sign
between them. A failure is the text that is not understood. -/
def ofText (s : String) : Except String Directive :=
  match s.splitOn "=" with
  | [name] =>
    match Threshold.ofText? name with
    | some t => .ok ⟨none, t⟩
    | none => .ok ⟨some name, .upTo .trace⟩
  | [name, level] =>
    let level := Text.trim level
    if level.isEmpty then .ok ⟨some name, .upTo .trace⟩
    else
      match Threshold.ofText? level with
      | some t => .ok ⟨some name, t⟩
      | none => .error level
  | _ => .error s

end Directive

structure Filter where
  /-- At most one for each name. -/
  directives : List Directive
  pattern : Option Pattern := none
deriving DecidableEq

namespace Filter

def insertInto (d : Directive) : List Directive → List Directive
  | [] => [d]
  | e :: es => if e.target = d.target then d :: es else e :: insertInto d es

/-- A directive takes the place of one with the same name. -/
def insert (f : Filter) (d : Directive) : Filter :=
  { f with directives := insertInto d f.directives }

/-- The directives by ascending size of their names, those of one size as they were inserted. -/
def sorted (f : Filter) : List Directive := f.directives.mergeSort fun a b => a.size ≤ b.size

def decisive? (f : Filter) (target : String) : Option Directive :=
  f.sorted.reverse.find? (·.covers target)

def passes (f : Filter) (target : String) (l : Level) (text : String) : Bool :=
  (f.decisive? target).any (·.threshold.passes l) && f.pattern.all (·.isFoundIn text)

def maxThreshold (f : Filter) : Threshold :=
  (f.directives.map Directive.threshold).foldl Threshold.max .off

def readDirectives (text : String) : List (Except String Directive) :=
  ((text.splitOn ",").map Text.trim).filterMap fun s =>
    if s.isEmpty then none else some (Directive.ofText s)

def insertRead (f : Filter) : Except String Directive → Filter
  | .ok d => f.insert d
  | .error _ => f

/-- The filter with a threshold for all targets, changed by a text. A text with several slashes
changes nothing. -/
def ofText (t : Threshold) (text : String) : Filter :=
  let start : Filter := { directives := [⟨none, t⟩] }
  let changed (list : String) : Filter := (readDirectives list).foldl insertRead start
  match text.splitOn "/" with
  | [list] => changed list
  | [list, pattern] => { changed list with pattern := (Pattern.ofText pattern).toOption }
  | _ => start

def directiveComplaint? : Except String Directive → Option String
  | .ok _ => none
  | .error s => some s!"invalid logging spec '{s}'"

def patternComplaint? (pattern : String) : Option String :=
  match Pattern.ofText pattern with
  | .ok _ => none
  | .error r => some s!"invalid regex filter - {r.text pattern}"

def complaints (text : String) : List String :=
  match text.splitOn "/" with
  | [list] => (readDirectives list).filterMap directiveComplaint?
  | [list, pattern] =>
    (readDirectives list).filterMap directiveComplaint? ++ (patternComplaint? pattern).toList
  | _ => [s!"invalid logging spec '{text}' (too many '/'s)"]

end Filter

end PipelineForge.Log

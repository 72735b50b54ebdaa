import PipelineForge.Pattern.Extent

/-!
# Shapes with few texts

A shape may have so few and so short texts that they are searched for one by one, without a
machine. This module lists the texts of such a shape, or none at all.
-/

namespace PipelineForge.Pattern

def textLimit : Nat := 250

def textSizeLimit : Nat := 100

/-- The most characters of a set, and the most repetitions, whose texts are listed. -/
def widthLimit : Nat := 10

abbrev Texts := List (List Char)

namespace Texts

def limited? (ts : Texts) : Option Texts :=
  if ts.length ≤ textLimit && ts.all (wordSize · ≤ textSizeLimit) then some ts else none

/-- All texts of one list before all of another. Without texts before, nothing follows. -/
def followedBy? (ts : Texts) (us : Option Texts) : Option Texts :=
  if ts.isEmpty then some []
  else us.bind fun us => limited? (ts.flatMap fun t => us.map (t ++ ·))

def power? (ts : Texts) : Nat → Option Texts
  | 0 => some [[]]
  | n + 1 => (power? ts n).bind fun us => followedBy? us (some ts)

/-- Drops the texts that begin with one before them. -/
def reduce (ts : Texts) : Texts :=
  ts.foldl (fun us t => if us.any (·.isPrefixOf t) then us else us ++ [t]) []

def commonStart : List Char → List Char → List Char
  | c :: cs, d :: ds => if c = d then c :: commonStart cs ds else []
  | _, _ => []

/-- Whether the texts can be told apart early enough to search for them one by one. -/
def areFew (ts : Texts) : Bool :=
  match reduce ts with
  | [] => false
  | [t] => !t.isEmpty
  | t :: ts =>
    (t :: ts).all (! ·.isEmpty) && ts.length < widthLimit &&
      wordSize (ts.foldl commonStart t) ≤ 4

end Texts

namespace Shape

def texts? : Shape → Option Texts
  | empty | look _ | unicodeEdge _ => some [[]]
  | word cs => Texts.limited? [cs]
  | one set _ => if set.size ≤ widthLimit then some (set.toList.map fun c => [c]) else none
  | group _ a => a.texts?
  | both a b => a.texts?.bind fun ts => ts.followedBy? b.texts?
  | either a b => do Texts.limited? ((← a.texts?) ++ (← b.texts?))
  | times lo hi greedy a => do
    let ts ← a.texts?
    if lo = 0 then
      if ts.isEmpty then some [[]]
      else if hi = some 1 then Texts.limited? (if greedy then ts ++ [[]] else [] :: ts)
      else none
    else if ts.isEmpty then some []
    else if hi = some lo && lo ≤ widthLimit then ts.power? lo
    else none

def isFewTexts (a : Shape) : Bool := a.isPlain && a.texts?.any Texts.areFew

end Shape

end PipelineForge.Pattern

import PipelineForge.Pattern.Extent

/-!
# Composed shapes

Shapes are composed such that few parts do for the same texts. Neighbouring words are one word, a
sequence or choice does not directly hold another one, a choice between characters is a set, what
all branches begin with stands before the choice, and what takes no characters is not repeated.
-/

namespace PipelineForge.Pattern.Shape

/-- Has no match. -/
def never : Shape := .one .empty false

def ofSet (set : CharSet) (unicode : Bool) : Shape :=
  if set.isEmpty then never
  else
    match set.only? with
    | some c => .word [c]
    | none => .one set unicode

def parts : Shape → List Shape
  | empty => []
  | both a b => a :: b.parts
  | a => [a]

def ofParts : List Shape → Shape
  | [] => empty
  | [a] => a
  | a :: b :: rest => .both a (ofParts (b :: rest))

/-- A word before another one becomes part of it. -/
def prepend : Shape → List Shape → List Shape
  | word s, word t :: rest => .word (s ++ t) :: rest
  | a, rest => a :: rest

def sequence (as : List Shape) : Shape := ofParts ((as.flatMap parts).foldr prepend [])

def branches : Shape → List Shape
  | either a b => a :: b.branches
  | a => [a]

def ofBranches : List Shape → Shape
  | [] => never
  | [a] => a
  | a :: b :: rest => .either a (ofBranches (b :: rest))

def letter? : Shape → Option Char
  | word [c] => some c
  | _ => none

def set? : Shape → Option CharSet
  | one set _ => some set
  | _ => none

/-- A choice without regard to common beginnings. -/
def merge (as : List Shape) : Shape :=
  if as.length ≤ 1 then ofBranches as
  else
    match as.mapM letter?, as.mapM set? with
    | some cs, _ => ofSet (.ofRanges (cs.map fun c => .single c.toNat)) true
    | none, some sets => ofSet (sets.foldl .union .empty) true
    | none, none => ofBranches as

def commonStart : List Shape → List Shape → List Shape
  | a :: as, b :: bs => if a = b then a :: commonStart as bs else []
  | _, _ => []

/-- The parts that all branches begin with, if the branches are sequences. -/
def shared : List Shape → List Shape
  | a :: b :: rest =>
    if (a :: b :: rest).all (1 < ·.parts.length) then
      ((b :: rest).map parts).foldl commonStart a.parts
    else []
  | _ => []

def choice (as : List Shape) : Shape :=
  let as := as.flatMap branches
  let start := shared as
  if start.isEmpty then merge as
  else
    let rests := as.map fun a => sequence (a.parts.drop start.length)
    sequence (start ++ [merge (rests.flatMap branches)])

def repeated (lo : Nat) (hi : Option Nat) (greedy : Bool) (a : Shape) : Shape :=
  let (lo, hi) := if a.isFlat then (min lo 1, some (min (hi.getD 1) 1)) else (lo, hi)
  if hi = some 0 then .empty
  else if lo = 1 && hi = some 1 then a
  else .times lo hi greedy a

end PipelineForge.Pattern.Shape

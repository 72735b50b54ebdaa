import PipelineForge.Pattern.Composition
import PipelineForge.Pattern.Encoding

/-!
# The machine of a pattern

A shape is searched for by two machines, one for either direction. A machine has states with
transitions for ranges of bytes and states that are linked to others. This module only says how
much memory the machines take: that of their states, of the transitions of states with several of
them, and of the links of states that have a list of links.
-/

namespace PipelineForge.Pattern

inductive Direction where
  | forward
  | backward
deriving DecidableEq

namespace Machine

def stateSize : Nat := 32

def transitionSize : Nat := 8

def linkSize : Nat := 4

def total (ns : List Nat) : Nat := ns.foldr (· + ·) 0

/-- A state that chooses between two others. -/
def fork : Nat := stateSize + 2 * linkSize

/-- The states behind the first bytes of forms. Equal states are made once. -/
def branchings : Nat → List ByteForm → List (List ByteForm)
  | 0, _ => []
  | n + 1, forms =>
    match runs forms with
    | [] => []
    | rs => forms :: rs.flatMap fun r => branchings n r.2

/-- The number of different beginnings of forms. -/
def beginnings : Nat → List ByteForm → Nat
  | 0, _ => 0
  | n + 1, forms => total ((runs forms).map fun r => beginnings n r.2 + 1)

/-- Forward, forms share their ends, and backward their beginnings. -/
def setSize (d : Direction) (set : CharSet) : Nat :=
  if set.isAscii then 2 * stateSize + set.ranges.length * transitionSize
  else
    let forms := set.byteForms
    match d with
    | .forward =>
      let states := (branchings 4 forms).eraseDups
      stateSize + total (states.map fun s => stateSize + (runs s).length * transitionSize)
    | .backward => (2 + beginnings 4 forms) * stateSize + forms.length * linkSize

def spelling (d : Direction) (word : List Char) : List Nat :=
  let bytes := word.flatMap fun c => CharRange.bytesOf c.toNat
  match d with
  | .forward => bytes
  | .backward => bytes.reverse

def segments : List (List Nat) → List (List (List Nat))
  | [] => [[]]
  | [] :: rest => [] :: segments rest
  | s :: rest =>
    match segments rest with
    | [] => [[s]]
    | t :: more => (s :: t) :: more

def restsOf (b : Nat) (ss : List (List Nat)) : List (List Nat) :=
  ss.filterMap fun s => if s.head? = some b then some s.tail else none

/-- A tree of spellings by their bytes. An empty spelling keeps those behind it apart from those
before it. The number bounds the depth. -/
def treeSize : Nat → List (List Nat) → Nat
  | 0, _ => 0
  | n + 1, ss =>
    if ss.all List.isEmpty then 0
    else
      let ss := ss.drop ((ss.takeWhile List.isEmpty).length - 1)
      let segs := segments ss
      let heads := (segs.map fun seg => (seg.filterMap List.head?).eraseDups)
      let below := List.zipWith
        (fun bs seg => total (bs.map fun b => treeSize n (restsOf b seg))) heads segs
      let own := heads.map fun bs =>
        match bs with
        | [] => 0
        | [_] => stateSize + linkSize
        | _ => stateSize + linkSize + bs.length * transitionSize
      total below + total own + stateSize + (segs.length - 1) * linkSize

def wordsSize (d : Direction) (words : List (List Char)) : Nat :=
  let ss := words.map (spelling d)
  stateSize + treeSize (total (ss.map List.length) + 1) ss

def word? : Shape → Option (List Char)
  | .word cs => some cs
  | _ => none

def choiceSize (d : Direction) (a : Shape) : List Nat → Nat
  | [n] => n
  | ns =>
    match a.branches.mapM word? with
    | some words => wordsSize d words
    | none => 2 * stateSize + total (ns.map (· + linkSize))

def timesSize (takes : Bool) (n : Nat) : Nat → Option Nat → Nat
  | 0, some 1 => fork + n + stateSize
  | 0, none => if takes then fork + n else 2 * fork + n + stateSize
  | lo, none => lo * n + fork
  | lo, some hi =>
    if lo = hi then lo * n
    else (if lo = 0 then stateSize else lo * n) + stateSize + (hi - lo) * (fork + n)

def branchSizes (d : Direction) : Shape → List Nat
  | .empty | .look _ | .unicodeEdge _ => [stateSize]
  | .word cs => [wordSize cs * stateSize]
  | .one set _ => [setSize d set]
  | .group _ a =>
    let marks := match d with
      | .forward => 2
      | .backward => 0
    [marks * stateSize + choiceSize d a (branchSizes d a)]
  | .both a b => [choiceSize d a (branchSizes d a) + choiceSize d b (branchSizes d b)]
  | .either a b => choiceSize d a (branchSizes d a) :: branchSizes d b
  | .times lo hi _ a => [timesSize a.takes (choiceSize d a (branchSizes d a)) lo hi]

/-- The memory of the machine for a direction. Unless it starts at an end of the text, it skips
bytes first; forward it also marks the whole match as a group. -/
def size (d : Direction) (a : Shape) : Nat :=
  let skip := fork + 2 * stateSize + transitionSize
  let body := choiceSize d a (branchSizes d a)
  match d with
  | .forward => (if a.isAtStart then stateSize else skip) + body + 3 * stateSize
  | .backward => (if a.isAtStop then stateSize else skip) + body + stateSize

end Machine

end PipelineForge.Pattern

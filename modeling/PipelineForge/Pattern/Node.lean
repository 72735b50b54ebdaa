import PipelineForge.Pattern.CharSet
import PipelineForge.Pattern.Mistake

/-!
# Pattern trees

A pattern is read into a tree whose nodes know their stretches of the text. The depth of a tree
is limited; the first node that lies too deep is the mistake.
-/

namespace PipelineForge.Pattern

inductive Flag where
  | ignoreCase
  | multiLine
  | dotAll
  | swapGreed
  | unicode
  | lineEnds
  | verbose
deriving DecidableEq

/-- Flags with what they are set to, in the order of setting. -/
abbrev FlagChanges := List (Flag × Bool)

structure Literal where
  stretch : Stretch
  char : Char
  /-- Written as a number of two hexadecimal digits. -/
  isByte : Bool := false
deriving DecidableEq

inductive Edge where
  | lineStart
  | lineStop
  | textStart
  | textStop
  | word
  | noWord
  | wordStart
  | wordStop
  | wordStartHalf
  | wordStopHalf
deriving DecidableEq

inductive Shorthand where
  | digit
  | space
  | word
deriving DecidableEq

inductive Atom where
  | literal (l : Literal)
  | dot (s : Stretch)
  | edge (s : Stretch) (e : Edge)
  | shorthand (s : Stretch) (negated : Bool) (kind : Shorthand)
  /-- A class named by a Unicode property; the flag tells that the property exists. -/
  | property (s : Stretch) (known : Bool)
deriving DecidableEq

inductive SetOp where
  | inter
  | diff
  | symmDiff
deriving DecidableEq

inductive Bracket where
  | empty (s : Stretch)
  | literal (l : Literal)
  | range (s : Stretch) (lo hi : Literal)
  | named (s : Stretch) (negated : Bool) (set : CharSet)
  | shorthand (s : Stretch) (negated : Bool) (kind : Shorthand)
  | property (s : Stretch) (known : Bool)
  | nested (s : Stretch) (negated : Bool) (body : Bracket)
  | union (s : Stretch) (items : List Bracket)
  | combined (s : Stretch) (op : SetOp) (left right : Bracket)

inductive Node where
  | empty (s : Stretch)
  | flags (s : Stretch) (changes : FlagChanges)
  | atom (a : Atom)
  | bracket (s : Stretch) (negated : Bool) (body : Bracket)
  | repeated (s : Stretch) (lo : Nat) (hi : Option Nat) (greedy : Bool) (body : Node)
  /-- A group that is counted keeps what it matches. -/
  | group (s : Stretch) (counted : Bool) (changes : FlagChanges) (body : Node)
  | either (s : Stretch) (branches : List Node)
  | sequence (s : Stretch) (parts : List Node)

def Atom.stretch : Atom → Stretch
  | literal l => l.stretch
  | dot s | edge s _ | shorthand s _ _ | property s _ => s

namespace Bracket

def stretch : Bracket → Stretch
  | literal l => l.stretch
  | empty s | range s _ _ | named s _ _ | shorthand s _ _ | property s _ | nested s _ _ |
    union s _ | combined s _ _ _ => s

/-- The union of some items; without items it is empty at a given place. -/
def ofItems (start : Place) : List Bracket → Bracket
  | [] => .empty ⟨start, start⟩
  | [b] => b
  | b :: bs => .union ⟨b.stretch.start, ((bs.getLast?.map stretch).getD b.stretch).stop⟩ (b :: bs)

end Bracket

namespace Node

def stretch : Node → Stretch
  | atom a => a.stretch
  | empty s | flags s _ | bracket s _ _ | repeated s _ _ _ _ | group s _ _ _ |
    either s _ | sequence s _ => s

def ofParts (s : Stretch) : List Node → Node
  | [] => .empty s
  | [n] => n
  | ns => .sequence s ns

end Node

def depthLimit : Nat := 250

/-- The room below a node, unless there is none. -/
def descend (room : Nat) (s : Stretch) (below : Nat → Except Mistake Unit) : Except Mistake Unit :=
  match room with
  | 0 => .error ⟨.tooDeep depthLimit, s, none⟩
  | n + 1 => below n

mutual

def Bracket.checkDepth (room : Nat) : Bracket → Except Mistake Unit
  | .nested s _ body => descend room s fun n => body.checkDepth n
  | .union s items => descend room s fun n => Bracket.checkAll n items
  | .combined s _ left right => descend room s fun n => do
    left.checkDepth n
    right.checkDepth n
  | _ => .ok ()

def Bracket.checkAll (room : Nat) : List Bracket → Except Mistake Unit
  | [] => .ok ()
  | b :: bs => do
    b.checkDepth room
    Bracket.checkAll room bs

end

mutual

def Node.checkDepth (room : Nat) : Node → Except Mistake Unit
  | .empty _ | .flags _ _ | .atom _ => .ok ()
  | .bracket s _ body => descend room s fun n => body.checkDepth n
  | .repeated s _ _ _ body => descend room s fun n => body.checkDepth n
  | .group s _ _ body => descend room s fun n => body.checkDepth n
  | .either s branches => descend room s fun n => Node.checkAll n branches
  | .sequence s parts => descend room s fun n => Node.checkAll n parts

def Node.checkAll (room : Nat) : List Node → Except Mistake Unit
  | [] => .ok ()
  | n :: ns => do
    n.checkDepth room
    Node.checkAll room ns

end

end PipelineForge.Pattern

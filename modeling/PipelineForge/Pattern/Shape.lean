import PipelineForge.Pattern.CharSet
import PipelineForge.Pattern.Place

/-!
# Shapes and their matches

A shape describes texts by words, single characters, places between characters, sequences, choices
and repetitions. A text is searched by following marks: one truth value for every place of the text,
from before the first character to behind the last. From the places where a shape may begin,
following it gives the places where it may end.
-/

namespace PipelineForge.Pattern

/-- What is asked of a place by the characters on its two sides. -/
inductive Look where
  | textStart
  | textStop
  | lineStart
  | lineStop
  /-- Lines that end with a carriage return, a line feed or both. -/
  | anyLineStart
  | anyLineStop
  | word
  | noWord
  | wordStart
  | wordStop
  | wordStartHalf
  | wordStopHalf
deriving DecidableEq

inductive Shape where
  | empty
  /-- A text of one character or more. -/
  | word (text : List Char)
  /-- One character of a set, which was read with or without Unicode. -/
  | one (set : CharSet) (unicode : Bool)
  | look (l : Look)
  | unicodeEdge (l : Look)
  /-- A group that is known by its place in the pattern. -/
  | group (place : Place) (a : Shape)
  | both (a b : Shape)
  | either (a b : Shape)
  /-- At least and, if there is a bound, at most so often; greedy if as often as possible. -/
  | times (lo : Nat) (hi : Option Nat) (greedy : Bool) (a : Shape)
deriving DecidableEq

namespace Look

def isWordChar (c : Char) : Bool := c.isAlphanum || c = '_'

def holds (l : Look) (before behind : Option Char) : Bool :=
  let wordBefore := before.any isWordChar
  let wordBehind := behind.any isWordChar
  match l with
  | textStart => before.isNone
  | textStop => behind.isNone
  | lineStart => before.all (· = '\n')
  | lineStop => behind.all (· = '\n')
  | anyLineStart => before.all (· = '\n') || (before = some '\r' && behind ≠ some '\n')
  | anyLineStop => behind.all (· = '\r') || (behind = some '\n' && before ≠ some '\r')
  | word => wordBefore != wordBehind
  | noWord => wordBefore == wordBehind
  | wordStart => !wordBefore && wordBehind
  | wordStop => wordBefore && !wordBehind
  | wordStartHalf => !wordBefore
  | wordStopHalf => !wordBehind

def holdsAt (l : Look) (before : Option Char) : List Char → List Bool
  | [] => [l.holds before none]
  | c :: cs => l.holds before (some c) :: l.holdsAt (some c) cs

end Look

/-- One truth value for each place of a text. -/
abbrev Marks := List Bool

namespace Marks

def join (m n : Marks) : Marks := List.zipWith or m n

def meet (m n : Marks) : Marks := List.zipWith and m n

/-- Moves the marks before characters with a property behind them. -/
def step (p : Char → Bool) (text : List Char) (m : Marks) : Marks :=
  false :: List.zipWith (fun b c => b && p c) m text

/-- Moves the marks before a word behind it. -/
def walk (text : List Char) (word : List Char) (m : Marks) : Marks :=
  word.foldl (fun m c => m.step (· == c) text) m

/-- Follows a function some times, at most until nothing changes any more. -/
def follow (f : Marks → Marks) : Nat → Marks → Marks
  | 0, m => m
  | n + 1, m =>
    let m' := f m
    if m' = m then m else follow f n m'

/-- Follows a function up to some times and keeps all marks met. -/
def spread (f : Marks → Marks) : Nat → Marks → Marks
  | 0, m => m
  | n + 1, m =>
    let m' := m.join (f m)
    if m' = m then m else spread f n m'

end Marks

namespace Shape

/-- The places where a shape may end that begins at marked places. Repetition beyond the number
of places of the text brings nothing new. -/
def ends (text : List Char) : Shape → Marks → Marks
  | empty, m => m
  | word cs, m => m.walk text cs
  | one set _, m => m.step set.contains text
  | look l, m => m.meet (l.holdsAt none text)
  | unicodeEdge _, m => m.map fun _ => false
  | group _ a, m => ends text a m
  | both a b, m => ends text b (ends text a m)
  | either a b, m => (ends text a m).join (ends text b m)
  | times lo hi _ a, m =>
    let places := text.length + 1
    let more := (hi.map (· - lo)).getD places
    Marks.spread (ends text a) (min more places) (Marks.follow (ends text a) (min lo places) m)

def isFoundIn (a : Shape) (text : List Char) : Bool :=
  (a.ends text (List.replicate (text.length + 1) true)).any id

end Shape

end PipelineForge.Pattern

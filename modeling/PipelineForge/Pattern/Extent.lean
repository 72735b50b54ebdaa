import PipelineForge.Pattern.Shape

/-!
# The extent of a shape

What can be told of all matches of a shape without a text: how many bytes they have at least,
whether they have any, and whether they begin or stop where the text does.
-/

namespace PipelineForge.Pattern

def wordSize (word : List Char) : Nat := word.foldr (fun c n => c.utf8Size + n) 0

namespace Shape

def isFlat : Shape → Bool
  | empty | look _ | unicodeEdge _ => true
  | word _ | one _ _ => false
  | group _ a => a.isFlat
  | both a b | either a b => a.isFlat && b.isFlat
  | times _ hi _ a => hi.isSome && a.isFlat

/-- The least number of bytes of a match; there is none if a part cannot match. -/
def leastSize? : Shape → Option Nat
  | empty | look _ | unicodeEdge _ => some 0
  | word cs => some (wordSize cs)
  | one set _ => set.ranges.head?.map fun r => (Char.ofNat r.lo).utf8Size
  | group _ a => a.leastSize?
  | both a b => do return (← a.leastSize?) + (← b.leastSize?)
  | either a b => do return min (← a.leastSize?) (← b.leastSize?)
  | times lo _ _ a => a.leastSize?.map (lo * ·)

def takes (a : Shape) : Bool := a.leastSize?.any (0 < ·)

def isAtStart : Shape → Bool
  | look .textStart => true
  | empty | look _ | unicodeEdge _ | word _ | one _ _ => false
  | group _ a => a.isAtStart
  | both a b => a.isAtStart || (a.isFlat && b.isAtStart)
  | either a b => a.isAtStart && b.isAtStart
  | times lo _ _ a => 0 < lo && a.isAtStart

def isAtStop : Shape → Bool
  | look .textStop => true
  | empty | look _ | unicodeEdge _ | word _ | one _ _ => false
  | group _ a => a.isAtStop
  | both a b => b.isAtStop || (b.isFlat && a.isAtStop)
  | either a b => a.isAtStop && b.isAtStop
  | times lo _ _ a => 0 < lo && a.isAtStop

def asksUnicode : Shape → Bool
  | unicodeEdge _ => true
  | both a b | either a b => a.asksUnicode || b.asksUnicode
  | group _ a | times _ _ _ a => a.asksUnicode
  | _ => false

/-- Whether there are no groups, and nothing is asked of places. -/
def isPlain : Shape → Bool
  | group _ _ | look _ | unicodeEdge _ => false
  | both a b | either a b => a.isPlain && b.isPlain
  | times _ _ _ a => a.isPlain
  | _ => true

end Shape

end PipelineForge.Pattern

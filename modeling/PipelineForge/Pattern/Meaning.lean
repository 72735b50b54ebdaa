import PipelineForge.Pattern.Composition
import PipelineForge.Pattern.Members
import PipelineForge.Pattern.Node

/-!
# The meaning of pattern trees

Flags change the meaning of what follows them in the same group. Without the Unicode flag classes
hold ASCII characters only, and a class that would hold others is a mistake. With it, shorthands,
properties, and matching without regard to case would need tables, and are mistakes.
-/

namespace PipelineForge.Pattern

structure Flags where
  ignoreCase : Bool := false
  multiLine : Bool := false
  dotAll : Bool := false
  unicode : Bool := true
  lineEnds : Bool := false
  swapGreed : Bool := false
deriving DecidableEq

namespace Flags

def set (f : Flags) (change : Flag × Bool) : Flags :=
  match change with
  | (.ignoreCase, b) => { f with ignoreCase := b }
  | (.multiLine, b) => { f with multiLine := b }
  | (.dotAll, b) => { f with dotAll := b }
  | (.unicode, b) => { f with unicode := b }
  | (.lineEnds, b) => { f with lineEnds := b }
  | (.swapGreed, b) => { f with swapGreed := b }
  | (.verbose, _) => f

def setAll (f : Flags) (changes : FlagChanges) : Flags := changes.foldl set f

end Flags

def refuse {α : Type} (cause : Cause) (s : Stretch) : Except Mistake α := .error ⟨cause, s, none⟩

def foldCase (f : Flags) (s : Stretch) (m : Members) : Except Mistake Members :=
  if !f.ignoreCase then .ok m
  else if !f.unicode then .ok m.foldAscii
  else if m.isClosed then .ok m
  else refuse .caseTables s

def finishClass (f : Flags) (s : Stretch) (negated : Bool) (m : Members) :
    Except Mistake Members := do
  let folded ← foldCase f s m
  let result := if negated then folded.compl else folded
  if f.unicode || result.set.isAscii then return result else refuse .splitsCharacters s

def Shorthand.name : Shorthand → String
  | digit => "digit"
  | space => "space"
  | word => "word"

def Shorthand.meaning (f : Flags) (s : Stretch) (negated : Bool) (kind : Shorthand) :
    Except Mistake CharSet :=
  if f.unicode then refuse .shorthandTables s
  else if negated then refuse .splitsCharacters s
  else .ok ((namedSets.lookup kind.name).getD .empty)

/-- A class named by a property is a mistake in any case. -/
def propertyMistake {α : Type} (f : Flags) (s : Stretch) (known : Bool) : Except Mistake α :=
  if !f.unicode then refuse .unicodeNotAllowed s
  else if known then refuse .unknownPropertyValue s
  else refuse .unknownProperty s

/-- The character of a literal. Without Unicode a number of two digits is a byte. -/
def Literal.meaning (f : Flags) (l : Literal) : Except Mistake Char :=
  if f.unicode || !l.isByte || l.char.toNat < 0x80 then .ok l.char
  else refuse .splitsCharacters l.stretch

def Literal.member (f : Flags) (l : Literal) : Except Mistake Nat := do
  let c ← l.meaning f
  if f.unicode || c.toNat < 0x80 then return c.toNat else refuse .unicodeNotAllowed l.stretch

def SetOp.apply : SetOp → Members → Members → Members
  | inter => .inter
  | diff => .diff
  | symmDiff => .symmDiff

mutual

def Bracket.addTo (f : Flags) (m : Members) : Bracket → Except Mistake Members
  | .empty _ => .ok m
  | .literal l => do
    let n ← l.member f
    return m.add (.single n)
  | .range _ lo hi => do
    let lo ← lo.member f
    let hi ← hi.member f
    return m.add ⟨lo, hi⟩
  | .named s negated set => do return m.union (← finishClass f s negated (.ofSet set))
  | .shorthand s negated kind => do return m.union (.ofSet (← kind.meaning f s negated))
  | .property s known => propertyMistake f s known
  | .nested s negated body => do
    return m.union (← finishClass f s negated (← body.addTo f {}))
  | .union _ items => Bracket.addAllTo f m items
  | .combined _ op left right => do
    let a ← left.addTo f {}
    let b ← right.addTo f {}
    let b ← foldCase f right.stretch b
    let a ← foldCase f left.stretch a
    return m.union (op.apply a b)

def Bracket.addAllTo (f : Flags) (m : Members) : List Bracket → Except Mistake Members
  | [] => .ok m
  | b :: bs => do Bracket.addAllTo f (← b.addTo f m) bs

end

def dotMeaning (f : Flags) (s : Stretch) : Except Mistake CharSet :=
  if !f.unicode then refuse .splitsCharacters s
  else if f.dotAll then .ok .full
  else if f.lineEnds then .ok (CharSet.ofRanges [.single 0xa, .single 0xd]).compl
  else .ok (CharSet.single '\n').compl

def Edge.meaning (f : Flags) : Edge → Shape
  | lineStart =>
    .look (if !f.multiLine then .textStart else if f.lineEnds then .anyLineStart else .lineStart)
  | lineStop =>
    .look (if !f.multiLine then .textStop else if f.lineEnds then .anyLineStop else .lineStop)
  | textStart => .look .textStart
  | textStop => .look .textStop
  | word => ofWord .word
  | noWord => ofWord .noWord
  | wordStart => ofWord .wordStart
  | wordStop => ofWord .wordStop
  | wordStartHalf => ofWord .wordStartHalf
  | wordStopHalf => ofWord .wordStopHalf
where
  ofWord (l : Look) : Shape := if f.unicode then .unicodeEdge l else .look l

def Atom.meaning (f : Flags) : Atom → Except Mistake Shape
  | literal l => do
    let c ← l.meaning f
    let m ← foldCase f l.stretch (.ofSet (.single c))
    return .ofSet m.set f.unicode
  | dot s => return .ofSet (← dotMeaning f s) f.unicode
  | edge _ e => return e.meaning f
  | shorthand s negated kind => return .ofSet (← kind.meaning f s negated) f.unicode
  | property s known => propertyMistake f s known

mutual

/-- The shape of a node, with the flags for what follows it. -/
def Node.meaning (f : Flags) : Node → Except Mistake (Shape × Flags)
  | .empty _ => .ok (.empty, f)
  | .flags _ changes => .ok (.empty, f.setAll changes)
  | .atom a => return (← a.meaning f, f)
  | .bracket s negated body => do
    let m ← finishClass f s negated (← body.addTo f {})
    return (.ofSet m.set f.unicode, f)
  | .repeated _ lo hi greedy body => do
    let (a, g) ← body.meaning f
    return (.repeated lo hi (greedy != g.swapGreed) a, g)
  | .group s counted changes body => do
    let (a, _) ← body.meaning (f.setAll changes)
    return (if counted then .group s.start a else a, f)
  | .either _ branches => do
    let (as, g) ← Node.meanings f branches
    return (.choice as, g)
  | .sequence _ parts => do
    let (as, g) ← Node.meanings f parts
    return (.sequence as, g)

def Node.meanings (f : Flags) : List Node → Except Mistake (List Shape × Flags)
  | [] => .ok ([], f)
  | n :: ns => do
    let (a, g) ← n.meaning f
    let (as, h) ← Node.meanings g ns
    return (a :: as, h)

end

end PipelineForge.Pattern

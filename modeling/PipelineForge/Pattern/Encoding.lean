import PipelineForge.Pattern.CharSet

/-!
# Characters as bytes

A character is one to four bytes in UTF-8. A range of characters is cut into pieces whose bytes
vary independently of each other, so that each piece has a form: one range of bytes after another.
-/

namespace PipelineForge.Pattern

structure ByteRange where
  lo : Nat
  hi : Nat
deriving DecidableEq

/-- The bytes that a character may have, in their order. -/
abbrev ByteForm := List ByteRange

namespace CharRange

/-- The last characters of one, two and three bytes. -/
def lastOfSize : List Nat := [0x7f, 0x7ff, 0xffff]

def bytesOf (n : Nat) : List Nat := (String.utf8EncodeChar (Char.ofNat n)).map UInt8.toNat

/-- How many characters differ in the last byte, the last two or the last three only. -/
def blocks : List Nat := [0x40, 0x1000, 0x40000]

/-- Cuts a range such that one part is made of whole blocks. -/
def cutAt? (r : CharRange) (block : Nat) : Option (CharRange × CharRange) :=
  let first := r.lo / block
  let last := r.hi / block
  if first = last then none
  else if r.lo % block ≠ 0 then
    some (⟨r.lo, (first + 1) * block - 1⟩, ⟨(first + 1) * block, r.hi⟩)
  else if r.hi % block ≠ block - 1 then some (⟨r.lo, last * block - 1⟩, ⟨last * block, r.hi⟩)
  else none

/-- Cuts a range whose bytes do not vary independently. -/
def cut? (r : CharRange) : Option (CharRange × CharRange) :=
  if r.lo < 0xe000 && 0xd7ff < r.hi then some (⟨r.lo, 0xd7ff⟩, ⟨0xe000, r.hi⟩)
  else
    match lastOfSize.find? fun n => r.lo ≤ n && n < r.hi with
    | some n => some (⟨r.lo, n⟩, ⟨n + 1, r.hi⟩)
    | none => if r.hi ≤ 0x7f then none else blocks.findSome? r.cutAt?

/-- The pieces of a range; the number bounds how often a piece is cut again. -/
def pieces : Nat → CharRange → List CharRange
  | 0, r => [r]
  | n + 1, r =>
    match r.cut? with
    | some (s, t) => pieces n s ++ pieces n t
    | none => [r]

def byteForms (r : CharRange) : List ByteForm :=
  (r.pieces 32).map fun s => List.zipWith ByteRange.mk (bytesOf s.lo) (bytesOf s.hi)

end CharRange

def CharSet.byteForms (s : CharSet) : List ByteForm := s.ranges.flatMap CharRange.byteForms

/-- Forms by their first ranges, those of one run together, without them. -/
def runs : List ByteForm → List (ByteRange × List ByteForm)
  | [] => []
  | [] :: rest => runs rest
  | (r :: tail) :: rest =>
    match runs rest with
    | [] => [(r, [tail])]
    | (s, tails) :: more =>
      if r = s then (r, tail :: tails) :: more else (r, [tail]) :: (s, tails) :: more

end PipelineForge.Pattern

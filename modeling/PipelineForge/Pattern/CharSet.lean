/-!
# Sets of characters

A set of characters is a list of ranges of code points, in ascending order and with gaps between
them. The code points themselves have a gap, the surrogates, where one character follows the other
but their numbers do not.
-/

namespace PipelineForge.Pattern

structure CharRange where
  lo : Nat
  hi : Nat
deriving DecidableEq

namespace CharRange

def single (n : Nat) : CharRange := ⟨n, n⟩

def holds (r : CharRange) (n : Nat) : Bool := r.lo ≤ n && n ≤ r.hi

def size (r : CharRange) : Nat := r.hi + 1 - r.lo

/-- The code point of the character before another one. -/
def before (n : Nat) : Nat := if n = 0xe000 then 0xd7ff else n - 1

def after (n : Nat) : Nat := if n = 0xd7ff then 0xe000 else n + 1

def between (m n : Nat) : CharRange := ⟨min m n, max m n⟩

/-- Whether two ranges overlap or one begins with the number behind the other. -/
def touches (r s : CharRange) : Bool := max r.lo s.lo ≤ min r.hi s.hi + 1

def hull (r s : CharRange) : CharRange := ⟨min r.lo s.lo, max r.hi s.hi⟩

def overlap? (r s : CharRange) : Option CharRange :=
  if max r.lo s.lo ≤ min r.hi s.hi then some ⟨max r.lo s.lo, min r.hi s.hi⟩ else none

/-- What is left of a range without another one. -/
def without (s r : CharRange) : List CharRange :=
  if r.hi < s.lo || s.hi < r.lo then [r]
  else
    (if r.lo < s.lo then [⟨r.lo, before s.lo⟩] else []) ++
      if s.hi < r.hi then [⟨after s.hi, r.hi⟩] else []

end CharRange

structure CharSet where
  ranges : List CharRange
deriving DecidableEq

namespace CharSet

def empty : CharSet := ⟨[]⟩

def ofRange (r : CharRange) : CharSet := ⟨[r]⟩

def single (c : Char) : CharSet := ofRange (.single c.toNat)

def full : CharSet := ofRange ⟨0, 0x10ffff⟩

def ascii : CharSet := ofRange ⟨0, 0x7f⟩

def holds (s : CharSet) (n : Nat) : Bool := s.ranges.any (·.holds n)

def contains (s : CharSet) (c : Char) : Bool := s.holds c.toNat

def isEmpty (s : CharSet) : Bool := s.ranges.isEmpty

def isAscii (s : CharSet) : Bool := s.ranges.all (·.hi ≤ 0x7f)

def size (s : CharSet) : Nat := s.ranges.foldr (fun r n => r.size + n) 0

def only? (s : CharSet) : Option Char :=
  match s.ranges with
  | [r] => if r.lo = r.hi then some (Char.ofNat r.lo) else none
  | _ => none

def toList (s : CharSet) : List Char :=
  s.ranges.flatMap fun r => (List.range r.size).map fun i => Char.ofNat (r.lo + i)

/-- Adds a range to ranges in ascending order; it swallows those that it touches. -/
def insertRange (r : CharRange) : List CharRange → List CharRange
  | [] => [r]
  | s :: rest =>
    if r.touches s then insertRange (r.hull s) rest
    else if r.hi < s.lo then r :: s :: rest
    else s :: insertRange r rest

def insert (s : CharSet) (r : CharRange) : CharSet := ⟨insertRange r s.ranges⟩

def ofRanges (rs : List CharRange) : CharSet := rs.foldl insert empty

def union (s t : CharSet) : CharSet := t.ranges.foldl insert s

def inter (s t : CharSet) : CharSet :=
  ⟨s.ranges.flatMap fun r => t.ranges.filterMap r.overlap?⟩

def diff (s t : CharSet) : CharSet :=
  ⟨t.ranges.foldl (fun rs r => rs.flatMap r.without) s.ranges⟩

/-- The gaps between ranges, from a code point on. Where two ranges meet at the surrogates, the
characters on both sides count as the gap. -/
def gaps (lo : Nat) : List CharRange → List CharRange
  | [] => if lo ≤ 0x10ffff then [⟨lo, 0x10ffff⟩] else []
  | r :: rest =>
    (if r.lo = 0 then [] else [.between lo (CharRange.before r.lo)]) ++
      gaps (CharRange.after r.hi) rest

def compl (s : CharSet) : CharSet := ⟨gaps 0 s.ranges⟩

def upper : CharRange := ⟨0x41, 0x5a⟩

def lower : CharRange := ⟨0x61, 0x7a⟩

def foldAscii (s : CharSet) : CharSet :=
  let raised := (s.ranges.filterMap lower.overlap?).map fun r => ⟨r.lo - 0x20, r.hi - 0x20⟩
  let lowered := (s.ranges.filterMap upper.overlap?).map fun r => ⟨r.lo + 0x20, r.hi + 0x20⟩
  (raised ++ lowered).foldl insert s

end CharSet

/-- The classes of ASCII characters that have names. -/
def namedSets : List (String × CharSet) :=
  [("alnum", .ofRanges [⟨0x30, 0x39⟩, ⟨0x41, 0x5a⟩, ⟨0x61, 0x7a⟩]),
    ("alpha", .ofRanges [⟨0x41, 0x5a⟩, ⟨0x61, 0x7a⟩]),
    ("ascii", .ascii),
    ("blank", .ofRanges [⟨0x9, 0x9⟩, ⟨0x20, 0x20⟩]),
    ("cntrl", .ofRanges [⟨0x0, 0x1f⟩, ⟨0x7f, 0x7f⟩]),
    ("digit", .ofRange ⟨0x30, 0x39⟩),
    ("graph", .ofRange ⟨0x21, 0x7e⟩),
    ("lower", .ofRange ⟨0x61, 0x7a⟩),
    ("print", .ofRange ⟨0x20, 0x7e⟩),
    ("punct", .ofRanges [⟨0x21, 0x2f⟩, ⟨0x3a, 0x40⟩, ⟨0x5b, 0x60⟩, ⟨0x7b, 0x7e⟩]),
    ("space", .ofRanges [⟨0x9, 0xd⟩, ⟨0x20, 0x20⟩]),
    ("upper", .ofRange ⟨0x41, 0x5a⟩),
    ("word", .ofRanges [⟨0x30, 0x39⟩, ⟨0x41, 0x5a⟩, ⟨0x5f, 0x5f⟩, ⟨0x61, 0x7a⟩]),
    ("xdigit", .ofRanges [⟨0x30, 0x39⟩, ⟨0x41, 0x46⟩, ⟨0x61, 0x66⟩])]

end PipelineForge.Pattern

import PipelineForge.Pattern.Bracket
import PipelineForge.Text.Letters

/-!
# Reading patterns

A pattern is a choice of sequences of elements, some of them repeated or grouped. A group may be
named, may set flags for itself, or may, without a body, set them for what follows it.
-/

namespace PipelineForge.Pattern.Reader

/-- Reads a number and the blanks around it. Without a number the cursor still passes the
blanks. -/
def readDecimal : Reader (Except Mistake Nat) := do
  let _ ← takeWhile Text.isBlank
  let start := (← get).place
  let digits ← takeWhile Char.isDigit
  let s := (← get).since start
  let _ ← takeWhile Text.isBlank
  let value := digits.foldl (fun n c => 10 * n + digitValue c) 0
  if digits.isEmpty then return .error ⟨.noCount, s, none⟩
  else if value < UInt32.size then return .ok value
  else return .error ⟨.decimalTooLarge, s, none⟩

/-- The element that a repetition is about, the one read last, with those before it. -/
def repeatable : List Node → Reader (Node × List Node)
  | .empty _ :: _ | .flags _ _ :: _ | [] => do fail .nothingToRepeat (← get).point
  | n :: ns => return (n, ns)

/-- Whether a repetition takes as much as possible; passes the sign that it does not. -/
def readGreed : Reader Bool := do
  if (← look) = some '?' then
    bump
    return false
  else return true

def readRepetition (lo : Nat) (hi : Option Nat) (parts : List Node) : Reader (List Node) := do
  let (n, ns) ← repeatable parts
  bump
  let greedy ← readGreed
  return .repeated ((← get).since n.stretch.start) lo hi greedy n :: ns

def readBounds (start : Place) : Reader (Nat × Option Nat) := do
  let unlessClosed : Reader Unit := do
    let c ← get
    if c.atEnd then fail .unclosedCount (c.since start)
  advance
  unlessClosed
  let first ← readDecimal
  unlessClosed
  if (← look) = some ',' then
    advance
    unlessClosed
    let lo ← first
    if (← look) = some '\x7d' then return (lo, none)
    else
      let hi ← (← readDecimal)
      return (lo, some hi)
  else
    let lo ← first
    return (lo, some lo)

def readCounted (parts : List Node) : Reader (List Node) := do
  let (n, ns) ← repeatable parts
  let start := (← get).place
  let (lo, hi) ← readBounds start
  if (← look) ≠ some '\x7d' then fail .unclosedCount ((← get).since start)
  advance
  let greedy ← readGreed
  let c ← get
  if hi.any (· < lo) then fail .reversedCounts (c.since start)
  return .repeated (c.since n.stretch.start) lo hi greedy n :: ns

def flagLetters : List (Char × Flag) :=
  [('i', .ignoreCase), ('m', .multiLine), ('s', .dotAll), ('U', .swapGreed), ('u', .unicode),
    ('R', .lineEnds), ('x', .verbose)]

/-- Reads flags up to the end of the group or the start of its body. A negation turns off all
flags behind it. -/
def readFlags (negation dangling : Option Stretch) (flags : List (Flag × Bool × Stretch)) :
    Nat → Reader FlagChanges
  | 0 => do fail .flagsAtEnd (← get).point
  | n + 1 => do
    let c ← get
    let s := c.charStretch
    let proceed (negation dangling : Option Stretch) (flags : List (Flag × Bool × Stretch)) :
        Reader FlagChanges := do
      bump
      if (← get).atEnd then fail .flagsAtEnd (← get).point
      readFlags negation dangling flags n
    match c.rest with
    | [] => fail .flagsAtEnd c.point
    | x :: _ =>
      if x = ':' || x = ')' then
        match dangling with
        | some d => fail .danglingNegation d
        | none => return flags.reverse.map fun f => (f.1, f.2.1)
      else if x = '-' then
        if negation.isSome then throw ⟨.repeatedNegation, s, negation⟩
        proceed (some s) (some s) flags
      else
        match flagLetters.lookup x with
        | none => fail .unknownFlag s
        | some flag =>
          match flags.find? (·.1 = flag) with
          | some first => throw ⟨.repeatedFlag, s, some first.2.2⟩
          | none => proceed negation none ((flag, negation.isNone, s) :: flags)

def isNameChar (first : Bool) (c : Char) : Bool :=
  c = '_' || Text.isAlphabetic c ||
    (!first && (Text.isNumeric c || c = '.' || c = '[' || c = ']'))

def readNameChars (first : Bool) : Nat → Reader (List Char)
  | 0 => return []
  | n + 1 => do
    let c ← get
    match c.rest with
    | [] => fail .unclosedName c.point
    | '>' :: _ => return []
    | x :: _ =>
      if isNameChar first x then
        bump
        return x :: (← readNameChars false n)
      else fail .nameCharacter c.charStretch

def readName : Reader Unit := do
  let c ← get
  let name ← readNameChars true (c.rest.length + 1)
  let s := (← get).since c.place
  bump
  if name.isEmpty then fail .emptyName c.point
  let name := String.ofList name
  match c.names.lookup name with
  | some first => throw ⟨.repeatedName, s, some first⟩
  | none => modify fun d => { d with names := (name, s) :: d.names }

/-- What stands in the opening of a group. -/
inductive Head where
  /-- No group: flags for what follows. -/
  | flags (s : Stretch) (changes : FlagChanges)
  | group (counted : Bool) (changes : FlagChanges)

def readFlagHead (paren : Stretch) (inner : Stretch) : Reader Head := do
  let c ← get
  if c.atEnd then fail .unclosedGroup paren
  let changes ← readFlags none none [] (c.rest.length + 1)
  let closed := (← look) = some ')'
  bump
  if !closed then return .group false changes
  else if changes.isEmpty then fail .nothingToRepeat inner
  else return .flags ((← get).since paren.start) changes

def readHead : Reader Head := do
  let paren := (← get).charStretch
  advance
  let inner := (← get).point
  if ← passAny ["?=", "?!", "?<=", "?<!"] then
    fail .lookAround ((← get).since paren.start)
  else if ← passAny ["?P<", "?<"] then
    readName
    return .group true []
  else if ← pass "?" then readFlagHead paren inner
  else return .group true []

def setVerbose (changes : FlagChanges) : Reader Unit :=
  modify fun c => { c with verbose := (changes.lookup .verbose).getD c.verbose }

/-- The branches and elements read so far, in reverse, and where they began. -/
structure Progress where
  first : Place
  start : Place
  branches : List Node := []
  parts : List Node := []

namespace Progress

def begin (p : Place) : Progress := { first := p, start := p }

def part (p : Progress) (stop : Place) : Node := .ofParts ⟨p.start, stop⟩ p.parts.reverse

/-- Ends a branch at a place and begins the next behind it. -/
def split (p : Progress) (stop next : Place) : Progress :=
  { p with start := next, branches := p.part stop :: p.branches, parts := [] }

def finish (p : Progress) (stop : Place) : Node :=
  if p.branches.isEmpty then p.part stop
  else .either ⟨p.first, stop⟩ (p.part stop :: p.branches).reverse

def add (p : Progress) (n : Node) : Progress := { p with parts := n :: p.parts }

end Progress

/-- Reads up to the end of the pattern or of the open group, and passes that. -/
def readBranches : Nat → Option Stretch → Progress → Reader Node
  | 0, _, _ => do fail .unclosedGroup (← get).point
  | n + 1, paren, p => do
    modify Cursor.skipBlanks
    let c ← get
    match c.rest with
    | [] =>
      match paren with
      | none => return p.finish c.place
      | some s => fail .unclosedGroup s
    | ')' :: _ =>
      if paren.isNone then fail .unopenedGroup c.charStretch
      bump
      return p.finish c.place
    | '|' :: _ =>
      bump
      readBranches n paren (p.split c.place (← get).place)
    | '(' :: _ =>
      match ← readHead with
      | .flags s changes =>
        setVerbose changes
        readBranches n paren (p.add (.flags s changes))
      | .group counted changes =>
        setVerbose changes
        let body ← readBranches n (some c.charStretch) (.begin (← get).place)
        modify fun d => { d with verbose := c.verbose }
        readBranches n paren (p.add (.group ((← get).since c.place) counted changes body))
    | '[' :: _ => readBranches n paren (p.add (← readBracket))
    | '?' :: _ => readBranches n paren { p with parts := ← readRepetition 0 (some 1) p.parts }
    | '*' :: _ => readBranches n paren { p with parts := ← readRepetition 0 none p.parts }
    | '+' :: _ => readBranches n paren { p with parts := ← readRepetition 1 none p.parts }
    | '\x7b' :: _ => readBranches n paren { p with parts := ← readCounted p.parts }
    | _ => readBranches n paren (p.add (.atom (← readAtom)))

def readPattern (text : String) : Except Mistake Node := do
  let start : Cursor := { rest := text.toList }
  let (node, _) ← (readBranches (text.length + 1) none (.begin {})).run start
  node.checkDepth depthLimit
  return node

end PipelineForge.Pattern.Reader

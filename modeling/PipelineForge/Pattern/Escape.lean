import PipelineForge.Pattern.Cursor

/-!
# Escapes in patterns

A backslash makes a character of the pattern language an ordinary one, gives a character by its
number, or stands for a class or an edge.
-/

namespace PipelineForge.Pattern.Reader

def isMeta (c : Char) : Bool := "\\.+*?()|[]\x7b\x7d^$#&-~".toList.contains c

def isEscapable (c : Char) : Bool :=
  isMeta c || (c.toNat < 0x80 && !c.isAlphanum && c ≠ '<' && c ≠ '>')

def isHex (c : Char) : Bool := c.isDigit || "abcdefABCDEF".toList.contains c

def digitValue (c : Char) : Nat :=
  if c.isDigit then c.toNat - 0x30 else c.toLower.toNat - 0x61 + 10

def hexValue (digits : List Char) : Nat := digits.foldl (fun n c => 16 * n + digitValue c) 0

def character? (n : Nat) : Option Char := if n.isValidChar then some (Char.ofNat n) else none

def letterEscapes : List (Char × Char) :=
  [('a', '\x07'), ('f', '\x0c'), ('t', '\t'), ('n', '\n'), ('r', '\r'), ('v', '\x0b')]

def edgeEscapes : List (Char × Edge) :=
  [('A', .textStart), ('z', .textStop), ('b', .word), ('B', .noWord), ('<', .wordStart),
    ('>', .wordStop)]

def shorthandEscapes : List (Char × Shorthand) := [('d', .digit), ('s', .space), ('w', .word)]

def wordEdges : List (String × Edge) :=
  [("start", .wordStart), ("end", .wordStop), ("start-half", .wordStartHalf),
    ("end-half", .wordStopHalf)]

/-- The number of digits that the letter of a numeric escape asks for. -/
def hexSize? (c : Char) : Option Nat := [('x', 2), ('u', 4), ('U', 8)].lookup c

def readDigits : Nat → Reader (List Char)
  | 0 => return []
  | n + 1 => do
    let c ← get
    match c.rest with
    | [] => fail .escapeAtEnd c.point
    | x :: _ =>
      if isHex x then
        advance
        return x :: (← readDigits n)
      else fail .hexDigit c.charStretch

def readBracedNumber (start : Place) : Reader Literal := do
  let brace := (← get).place
  let inner := (← get).bump.place
  advance
  let digits ← takeWhile isHex
  let c ← get
  match c.rest with
  | [] => fail .escapeAtEnd (c.since brace)
  | '\x7d' :: _ =>
    advance
    if digits.isEmpty then fail .hexEmpty ((← get).since brace)
    else
      match character? (hexValue digits) with
      | some x => return ⟨(← get).since start, x, false⟩
      | none => fail .hexNoCharacter (c.since inner)
  | _ => fail .hexDigit c.charStretch

def readNumber (start : Place) (size : Nat) : Reader Literal := do
  advance
  let c ← get
  match c.rest with
  | [] => fail .escapeAtEnd c.point
  | '\x7b' :: _ => readBracedNumber start
  | _ =>
    let digits ← readDigits size
    match character? (hexValue digits) with
    | some x => return ⟨(← get).since start, x, size == 2⟩
    | none => fail .hexNoCharacter ((← get).since c.place)

/-- A name without case, blanks, joining signs, and the word "is" at its start. -/
def bareName (name : List Char) : String :=
  let lowered := name.map Char.toLower
  let body := if ['i', 's'].isPrefixOf lowered then lowered.drop 2 else lowered
  String.ofList (body.filter fun c => c.toNat < 0x80 && c ≠ ' ' && c ≠ '_' && c ≠ '-')

/-- Whether a property is looked for among the general categories only; none of them is known,
while of all other names not even the property is. -/
def isCategory (name : List Char) : Bool :=
  ["cf", "sc", "lc"].contains (bareName name) && !name.contains '=' && !name.contains ':'

def readProperty (start : Place) : Reader Atom := do
  advance
  let c ← get
  match c.rest with
  | [] => fail .escapeAtEnd c.point
  | '\x7b' :: _ =>
    advance
    let name ← takeWhile (· ≠ '\x7d')
    let c ← get
    if c.atEnd then fail .escapeAtEnd c.point
    bump
    return .property ((← get).since start) (isCategory name)
  | '\\' :: _ => fail .propertyName c.charStretch
  | x :: _ =>
    advance
    return .property ((← get).since start) (isCategory [x])

/-- Reads the name of a word edge in braces; other braces are left alone. -/
def readWordEdge (start : Place) : Reader (Option Edge) := do
  let c ← get
  let isNameChar (x : Char) : Bool := x.isAlpha || x = '-'
  let inner := c.advance
  match inner.rest with
  | [] => fail .unclosedAfterWordEdge (inner.since start)
  | x :: _ =>
    if isNameChar x then
      set inner
      let name ← takeWhile isNameChar
      let stop ← get
      if stop.rest.head? ≠ some '\x7d' then fail .unclosedWordEdge (stop.since c.place)
      match wordEdges.lookup (String.ofList name) with
      | some edge =>
        bump
        return some edge
      | none => fail .unknownWordEdge (stop.since inner.place)
    else return none

def readEdge (start : Place) (edge : Edge) : Reader Atom := do
  let plain := (← get).since start
  if edge = .word && (← look) = some '\x7b' then
    match ← readWordEdge start with
    | some named => return .edge ((← get).since start) named
    | none => return .edge plain .word
  else return .edge plain edge

def readPlainEscape (start : Place) (x : Char) : Reader Atom := do
  bump
  let s := (← get).since start
  if isEscapable x then return .literal ⟨s, x, false⟩
  match letterEscapes.lookup x, edgeEscapes.lookup x, shorthandEscapes.lookup x.toLower with
  | some y, _, _ => return .literal ⟨s, y, false⟩
  | none, some edge, _ => readEdge start edge
  | none, none, some kind => return .shorthand s x.isUpper kind
  | none, none, none => fail .unknownEscape s

def readEscape : Reader Atom := do
  let start := (← get).place
  bump
  let c ← get
  match c.rest with
  | [] => fail .escapeAtEnd (c.since start)
  | x :: _ =>
    if x.isDigit then fail .backReference (c.bump.since start)
    else if x = 'p' || x = 'P' then readProperty start
    else
      match hexSize? x with
      | some size => return .literal (← readNumber start size)
      | none => readPlainEscape start x

/-- Reads what is no group, bracket or repetition. -/
def readAtom : Reader Atom := do
  let c ← get
  match c.rest with
  | [] => fail .escapeAtEnd c.point
  | '\\' :: _ => readEscape
  | x :: _ =>
    bump
    match x with
    | '.' => return .dot c.charStretch
    | '^' => return .edge c.charStretch .lineStart
    | '$' => return .edge c.charStretch .lineStop
    | _ => return .literal ⟨c.charStretch, x, false⟩

end PipelineForge.Pattern.Reader

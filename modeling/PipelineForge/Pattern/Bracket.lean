import PipelineForge.Pattern.Escape

/-!
# Bracketed classes

A class in brackets is a union of characters, ranges, escapes, named classes and further brackets.
Operators between unions apply from left to right. Joining signs at the start and a closing
bracket as the first element stand for themselves.
-/

namespace PipelineForge.Pattern.Reader

/-- An operator with all that stands before it. -/
abbrev Operand := SetOp × Bracket

def setOps : List (List Char × SetOp) :=
  [(['&', '&'], .inter), (['-', '-'], .diff), (['~', '~'], .symmDiff)]

def operator? (c : Cursor) : Option SetOp := (setOps.find? (·.1.isPrefixOf c.rest)).map (·.2)

def applyOperand (pending : Option Operand) (right : Bracket) : Bracket :=
  match pending with
  | some (op, left) => .combined ⟨left.stretch.start, right.stretch.stop⟩ op left right
  | none => right

def namedSet? (c : Cursor) : Option (Bracket × Cursor) :=
  match c.rest with
  | '[' :: ':' :: rest =>
    let negated := rest.head? == some '^'
    let rest := if negated then rest.tail else rest
    let name := rest.takeWhile (· ≠ ':')
    if [':', ']'].isPrefixOf (rest.drop name.length) then
      (namedSets.lookup (String.ofList name)).map fun set =>
        let stop := Cursor.bumpBy (4 + negated.toNat + name.length) c
        (.named (stop.since c.place) negated set, stop)
    else none
  | _ => none

/-- Reads the joining signs that stand for themselves at the start. -/
def readSigns (opening : Place) : Nat → Reader (List Bracket)
  | 0 => return []
  | n + 1 => do
    let c ← get
    if c.rest.head? = some '-' then
      advance
      if (← get).atEnd then fail .unclosedBracket ⟨opening, opening⟩
      return .literal ⟨c.charStretch, '-', false⟩ :: (← readSigns opening n)
    else return []

/-- What is known of a bracket when its start was read. -/
structure Opening where
  stretch : Stretch
  negated : Bool
  /-- Where its elements begin. -/
  inner : Place
  items : List Bracket

def readOpening : Reader Opening := do
  let start := (← get).place
  let pass : Reader Unit := do
    advance
    if (← get).atEnd then fail .unclosedBracket ((← get).since start)
  pass
  let negated := (← look) = some '^'
  if negated then pass
  let c ← get
  let signs ← readSigns start c.rest.length
  let d ← get
  if signs.isEmpty && d.rest.head? = some ']' then
    pass
    return ⟨(← get).since start, negated, c.place, [.literal ⟨d.charStretch, ']', false⟩]⟩
  else return ⟨d.since start, negated, c.place, signs⟩

def readElement : Reader Atom := do
  let c ← get
  match c.rest with
  | [] | '\\' :: _ => readEscape
  | x :: _ =>
    bump
    return .literal ⟨c.charStretch, x, false⟩

def toItem : Atom → Reader Bracket
  | .literal l => return .literal l
  | .shorthand s negated kind => return .shorthand s negated kind
  | .property s known => return .property s known
  | a => fail .escapeInBracket a.stretch

def toBound : Atom → Reader Literal
  | .literal l => return l
  | a => fail .rangeOfClasses a.stretch

def readRange (opening : Stretch) : Reader Bracket := do
  let first ← readElement
  modify Cursor.skipBlanks
  let c ← get
  if c.atEnd then fail .unclosedBracket opening
  let behind := c.peekPastBlanks
  if c.rest.head? ≠ some '-' || behind = some ']' || behind = some '-' then toItem first
  else
    advance
    if (← get).atEnd then fail .unclosedBracket opening
    let last ← readElement
    let s : Stretch := ⟨first.stretch.start, last.stretch.stop⟩
    let lo ← toBound first
    let hi ← toBound last
    if hi.char < lo.char then fail .reversedRange s
    return .range s lo hi

/-- Reads elements up to the closing bracket and passes it. The elements since the last operator
come in reverse. -/
def readElements (opening : Stretch) :
    Nat → Option Operand → Place → List Bracket → Reader Bracket
  | 0, _, _, _ => fail .unclosedBracket opening
  | n + 1, pending, inner, items => do
    modify Cursor.skipBlanks
    let c ← get
    let read := applyOperand pending (.ofItems inner items.reverse)
    match c.rest with
    | [] => fail .unclosedBracket opening
    | ']' :: _ =>
      bump
      return read
    | '[' :: _ =>
      match namedSet? c with
      | some (item, d) =>
        set d
        readElements opening n pending inner (item :: items)
      | none =>
        let o ← readOpening
        let body ← readElements o.stretch n none o.inner o.items.reverse
        let item := Bracket.nested ((← get).since o.stretch.start) o.negated body
        readElements opening n pending inner (item :: items)
    | _ =>
      match operator? c with
      | some op =>
        bump
        bump
        readElements opening n (some (op, read)) (← get).place []
      | none =>
        let item ← readRange opening
        readElements opening n pending inner (item :: items)

def readBracket : Reader Node := do
  let o ← readOpening
  let body ← readElements o.stretch ((← get).rest.length + 1) none o.inner o.items.reverse
  return .bracket ((← get).since o.stretch.start) o.negated body

end PipelineForge.Pattern.Reader

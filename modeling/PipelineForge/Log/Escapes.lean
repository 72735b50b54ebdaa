/-!
# Escape sequences

A text for a terminal holds sequences that begin with the escape character. Plain text is what is
left without them and without the control characters that are not blanks. Control sequences end
with a letter or sign, command strings also with a bell, all other strings also with the string
terminator, and every sequence with an escape, a cancel or a substitute character. The terminator
is the byte 0x9c, wherever it stands in the encoded text. A blank that stands inside a sequence
interrupts it: what follows is text, until a character that cannot be shown resumes the sequence.
-/

namespace PipelineForge.Log

inductive Mode where
  | ground
  | escape
  | designate
  | control
  | command
  /-- The head of a device string: nothing yet, parameters, or intermediate characters. -/
  | deviceHead
  | deviceParameters
  | deviceDesignate
  | string
deriving DecidableEq

namespace Mode

def escapeChar : Char := '\x1b'

def isAsciiBlank (c : Char) : Bool := [' ', '\t', '\n', '\x0c', '\r'].contains c

def isShown (c : Char) : Bool := isAsciiBlank c || (0x20 ≤ c.toNat && c.toNat ≠ 0x7f)

def isTerminator (c : Char) : Bool := (String.utf8EncodeChar c).contains 0x9c

def isBetween (lo hi : Nat) (c : Char) : Bool := lo ≤ c.toNat && c.toNat ≤ hi

def afterEscape (c : Char) : Mode :=
  if isBetween 0x20 0x2f c then designate
  else if c = '[' then control
  else if c = ']' then command
  else if c = 'P' then deviceHead
  else if ['X', '^', '_'].contains c then string
  else if isBetween 0x30 0x7e c then ground
  else escape

/-- The mode after a character in the head of a device string. Parameters begin with a sign only
at the start. -/
def inDeviceHead (m : Mode) (c : Char) : Mode :=
  if isBetween 0x20 0x2f c then deviceDesignate
  else if isBetween 0x30 0x3b c && m ≠ deviceDesignate then deviceParameters
  else if isBetween 0x3c 0x3f c && m = deviceHead then deviceParameters
  else if isBetween 0x30 0x7e c then string
  else m

/-- The mode after a character that is not shown. -/
def next (m : Mode) (c : Char) : Mode :=
  if c = escapeChar then escape
  else if c = '\x18' || c = '\x1a' then ground
  else
    match m with
    | ground => ground
    | escape => afterEscape c
    | designate => if isBetween 0x30 0x7e c then ground else designate
    | control => if isBetween 0x40 0x7e c then ground else control
    | command => if c = '\x07' then ground else command
    | deviceHead | deviceParameters | deviceDesignate => inDeviceHead m c
    | string => if isTerminator c then ground else string

/-- Whether a character is shown that comes upon a mode. -/
def shows (m : Mode) (c : Char) : Bool :=
  match m with
  | ground => isShown c
  | escape | designate | control => isAsciiBlank c && c ≠ ' '
  | _ => false

end Mode

/-- Plain text from a mode on. The flag tells that the mode is interrupted. -/
def plainFrom (m : Mode) (interrupted : Bool) : List Char → List Char
  | [] => []
  | c :: cs =>
    if interrupted && Mode.isShown c then
      c :: plainFrom (if c.toNat < 0x80 then m else .ground) true cs
    else if m.shows c then c :: plainFrom m true cs
    else plainFrom (m.next c) false cs

def plain (s : String) : String := String.ofList (plainFrom .ground false s.toList)

end PipelineForge.Log

import PipelineForge.Pattern.Node
import PipelineForge.Text.Blank

/-!
# Cursors

A cursor stands at a place of a pattern. In verbose patterns blanks, and comments from a number
sign to the end of the line, are passed over wherever one element ends and the next begins.
-/

namespace PipelineForge.Pattern

structure Cursor where
  rest : List Char
  place : Place := {}
  verbose : Bool := false
  /-- The names of the groups that were opened. -/
  names : List (String × Stretch) := []

namespace Cursor

def atEnd (c : Cursor) : Bool := c.rest.isEmpty

def bump (c : Cursor) : Cursor :=
  match c.rest with
  | [] => c
  | x :: rest => { c with rest, place := c.place.after x }

def bumpBy : Nat → Cursor → Cursor
  | 0, c => c
  | n + 1, c => bumpBy n c.bump

/-- Passes blanks and comments; the flag tells that a comment is open. -/
def passBlanks : Bool → Place → List Char → Place × List Char
  | _, p, [] => (p, [])
  | true, p, x :: xs => passBlanks (x ≠ '\n') (p.after x) xs
  | false, p, x :: xs =>
    if Text.isBlank x then passBlanks false (p.after x) xs
    else if x = '#' then passBlanks true (p.after x) xs
    else (p, x :: xs)

def skipBlanks (c : Cursor) : Cursor :=
  if c.verbose then
    let (place, rest) := passBlanks false c.place c.rest
    { c with place, rest }
  else c

/-- Passes one character and the blanks behind it. -/
def advance (c : Cursor) : Cursor := c.bump.skipBlanks

def point (c : Cursor) : Stretch := ⟨c.place, c.place⟩

def charStretch (c : Cursor) : Stretch := ⟨c.place, c.bump.place⟩

def since (c : Cursor) (start : Place) : Stretch := ⟨start, c.place⟩

def peek (c : Cursor) : Option Char := c.rest.tail.head?

/-- The character behind the one at the cursor and the blanks after it. The first number sign
among the blanks is passed over, and blanks alone are not. -/
def peekPastBlanks (c : Cursor) : Option Char :=
  if c.verbose then
    match c.rest.tail.filter (! Text.isBlank ·) with
    | '#' :: x :: _ => some x
    | ['#'] | [] => c.peek
    | x :: _ => some x
  else c.peek

/-- Passes a text if the cursor stands at it. -/
def passText? (c : Cursor) (text : List Char) : Option Cursor :=
  if text.isPrefixOf c.rest then some (bumpBy text.length c) else none

/-- Collects characters with a property, passing the blanks between them. -/
def collect (p : Char → Bool) : Nat → Cursor → List Char × Cursor
  | 0, c => ([], c)
  | n + 1, c =>
    match c.rest with
    | [] => ([], c)
    | x :: _ =>
      if p x then
        let (xs, c') := collect p n c.advance
        (x :: xs, c')
      else ([], c)

def takeWhile (c : Cursor) (p : Char → Bool) : List Char × Cursor := c.collect p c.rest.length

end Cursor

abbrev Reader := StateT Cursor (Except Mistake)

namespace Reader

def fail {α : Type} (cause : Cause) (s : Stretch) : Reader α := throw ⟨cause, s, none⟩

def look : Reader (Option Char) := return (← get).rest.head?

def bump : Reader Unit := modify Cursor.bump

def advance : Reader Unit := modify Cursor.advance

def takeWhile (p : Char → Bool) : Reader (List Char) := do
  let (xs, c) := (← get).takeWhile p
  set c
  return xs

def pass (text : String) : Reader Bool := do
  match (← get).passText? text.toList with
  | some c =>
    set c
    return true
  | none => return false

def passAny : List String → Reader Bool
  | [] => return false
  | t :: ts => do if ← pass t then return true else passAny ts

end Reader

end PipelineForge.Pattern

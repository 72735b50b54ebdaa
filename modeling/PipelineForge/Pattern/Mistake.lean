import PipelineForge.Pattern.Place

/-!
# Mistakes in patterns

A pattern that cannot be understood, or asks for tables of Unicode that are not at hand, is
refused with a cause and the stretch of its text that shows it. Causes about a repetition also
show the first occurrence. The text of a mistake is the pattern with the stretches marked below
it; a pattern of several lines gets line numbers and rules.
-/

namespace PipelineForge.Pattern

inductive Cause where
  | escapeInBracket
  | reversedRange
  | rangeOfClasses
  | unclosedBracket
  | decimalTooLarge
  | hexEmpty
  | hexNoCharacter
  | hexDigit
  | escapeAtEnd
  | unknownEscape
  | danglingNegation
  | repeatedFlag
  | repeatedNegation
  | flagsAtEnd
  | unknownFlag
  | repeatedName
  | emptyName
  | nameCharacter
  | unclosedName
  | unclosedGroup
  | unopenedGroup
  | tooDeep (limit : Nat)
  | reversedCounts
  | noCount
  | unclosedCount
  | nothingToRepeat
  | unclosedWordEdge
  | unknownWordEdge
  | unclosedAfterWordEdge
  | propertyName
  | backReference
  | lookAround
  | unicodeNotAllowed
  | splitsCharacters
  | unknownProperty
  | unknownPropertyValue
  | shorthandTables
  | caseTables
deriving DecidableEq

def Cause.message : Cause → String
  | escapeInBracket => "invalid escape sequence found in character class"
  | reversedRange => "invalid character class range, the start must be <= the end"
  | rangeOfClasses => "invalid range boundary, must be a literal"
  | unclosedBracket => "unclosed character class"
  | decimalTooLarge => "decimal literal invalid"
  | hexEmpty => "hexadecimal literal empty"
  | hexNoCharacter => "hexadecimal literal is not a Unicode scalar value"
  | hexDigit => "invalid hexadecimal digit"
  | escapeAtEnd => "incomplete escape sequence, reached end of pattern prematurely"
  | unknownEscape => "unrecognized escape sequence"
  | danglingNegation => "dangling flag negation operator"
  | repeatedFlag => "duplicate flag"
  | repeatedNegation => "flag negation operator repeated"
  | flagsAtEnd => "expected flag but got end of regex"
  | unknownFlag => "unrecognized flag"
  | repeatedName => "duplicate capture group name"
  | emptyName => "empty capture group name"
  | nameCharacter => "invalid capture group character"
  | unclosedName => "unclosed capture group name"
  | unclosedGroup => "unclosed group"
  | unopenedGroup => "unopened group"
  | tooDeep limit => s!"exceed the maximum number of nested parentheses/brackets ({limit})"
  | reversedCounts => "invalid repetition count range, the start must be <= the end"
  | noCount => "repetition quantifier expects a valid decimal"
  | unclosedCount => "unclosed counted repetition"
  | nothingToRepeat => "repetition operator missing expression"
  | unclosedWordEdge =>
    "special word boundary assertion is either unclosed or contains an invalid character"
  | unknownWordEdge =>
    "unrecognized special word boundary assertion, valid choices are: " ++
      "start, end, start-half or end-half"
  | unclosedAfterWordEdge =>
    "found either the beginning of a special word boundary or a bounded repetition on a \\b " ++
      "with an opening brace, but no closing brace"
  | propertyName => "invalid Unicode character class"
  | backReference => "backreferences are not supported"
  | lookAround => "look-around, including look-ahead and look-behind, is not supported"
  | unicodeNotAllowed => "Unicode not allowed here"
  | splitsCharacters => "pattern can match invalid UTF-8"
  | unknownProperty => "Unicode property not found"
  | unknownPropertyValue => "Unicode property value not found"
  | shorthandTables =>
    "Unicode-aware Perl class not found (make sure the unicode-perl feature is enabled)"
  | caseTables =>
    "Unicode-aware case insensitivity matching is not available " ++
      "(make sure the unicode-case feature is enabled)"

structure Mistake where
  cause : Cause
  stretch : Stretch
  first : Option Stretch := none
deriving DecidableEq

/-- The lines of a text, without their ends. A carriage return belongs to the end of a line. -/
def linesOf (s : String) : List (List Char) :=
  let ended (line : List Char) : List Char :=
    if line.getLast? = some '\r' then line.dropLast else line
  match ((s.splitOn "\n").map String.toList).reverse with
  | [] => []
  | last :: before => before.reverse.map ended ++ if last.isEmpty then [] else [last]

def blanks (n : Nat) : String := "".pushn ' ' n

/-- Marks for stretches of one line, from a column on. -/
def marks (column : Nat) : List Stretch → String
  | [] => ""
  | s :: rest =>
    let size := max 1 (s.stop.column - s.start.column)
    let gap := s.start.column - column
    blanks gap ++ "".pushn '^' size ++ marks (column + gap + size) rest

namespace Mistake

def stretches (m : Mistake) : List Stretch :=
  (m.stretch :: m.first.toList).mergeSort Stretch.precedes

/-- The width of the line numbers; a single line has none. -/
def numberWidth (pattern : String) : Nat :=
  let ended := if pattern.toList.getLast? = some '\n' then 1 else 0
  let count := (linesOf pattern).length + ended
  if count ≤ 1 then 0 else (toString count).length

def marked (pattern : String) (m : Mistake) : String :=
  let width := numberWidth pattern
  let head (number : Nat) : String :=
    let digits := toString number
    if width = 0 then blanks 4 else blanks (width - digits.length) ++ digits ++ ": "
  let line (i : Nat) (text : List Char) : String :=
    let here := m.stretches.filter fun s => s.isOneLine && s.start.line == i + 1
    let below :=
      if here.isEmpty then ""
      else blanks (if width = 0 then 4 else width + 2) ++ marks 1 here ++ "\n"
    head (i + 1) ++ String.ofList text ++ "\n" ++ below
  String.join ((linesOf pattern).mapIdx line)

def spread (s : Stretch) : String :=
  s!"on line {s.start.line} (column {s.start.column}) through line {s.stop.line} " ++
    s!"(column {s.stop.column - 1})\n"

def text (pattern : String) (m : Mistake) : String :=
  let body :=
    if pattern.toList.contains '\n' then
      let rule := "".pushn '~' 79 ++ "\n"
      rule ++ m.marked pattern ++ rule ++
        String.join ((m.stretches.filter (! ·.isOneLine)).map spread)
    else m.marked pattern
  s!"regex parse error:\n{body}error: {m.cause.message}"

end Mistake

end PipelineForge.Pattern

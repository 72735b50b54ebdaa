/-!
# Masked times

A time stands in brackets, with two digits each for hours, minutes and seconds and three for
milliseconds. A masked text has a word in the place of every time.
-/

namespace PipelineForge.Log

/-- The form of a time, with zero for any digit. -/
def timeForm : List Char := "[00:00:00.000]".toList

def fits (form c : Char) : Bool := if form = '0' then c.isDigit else c == form

/-- What is left of a text behind a form that it begins with. -/
def afterForm? : List Char → List Char → Option (List Char)
  | [], cs => some cs
  | _ :: _, [] => none
  | f :: fs, c :: cs => if fits f c then afterForm? fs cs else none

/-- Masks all times; the number bounds the length of the text. -/
def maskAll (word : List Char) : Nat → List Char → List Char
  | 0, cs => cs
  | _ + 1, [] => []
  | n + 1, c :: cs =>
    match afterForm? timeForm (c :: cs) with
    | some rest => word ++ maskAll word n rest
    | none => c :: maskAll word n cs

def masked (word : String) (s : String) : String :=
  String.ofList (maskAll s!"[{word}]".toList s.length s.toList)

end PipelineForge.Log

import PipelineForge.Pattern.Machine
import PipelineForge.Pattern.Meaning
import PipelineForge.Pattern.Reader
import PipelineForge.Pattern.Texts

/-!
# Patterns

A pattern is a regular expression that texts are searched for. Its text is read and given a
meaning; it is refused if there is a mistake in it, if the search would need too large a machine,
or if it asks for words in the sense of Unicode. A pattern of few texts needs no machine.
-/

namespace PipelineForge

structure Pattern where
  shape : Pattern.Shape
deriving DecidableEq

namespace Pattern

inductive Refusal where
  | mistake (m : Mistake)
  | tooLarge
  | unicodeWords
deriving DecidableEq

/-- The memory that a machine may take, in bytes. -/
def memoryLimit : Nat := 10485760

def Refusal.text (pattern : String) : Refusal → String
  | mistake m => m.text pattern
  | tooLarge => s!"Compiled regex exceeds size limit of {memoryLimit} bytes."
  | unicodeWords => "error building NFA"

def ofText (text : String) : Except Refusal Pattern := do
  let node ← (Reader.readPattern text).mapError .mistake
  let (shape, _) ← (node.meaning {}).mapError .mistake
  let checkMachine (d : Direction) : Except Refusal Unit :=
    if memoryLimit < Machine.size d shape && !shape.isFewTexts then throw .tooLarge else pure ()
  checkMachine .forward
  if shape.asksUnicode then throw .unicodeWords
  checkMachine .backward
  return ⟨shape⟩

def isFoundIn (p : Pattern) (text : String) : Bool := p.shape.isFoundIn text.toList

end Pattern

end PipelineForge

import PipelineForge.Pattern.CharSet

/-!
# Members of a class

While a class is read it is not only known what its members are, but also whether they are known
to be closed under a change of case. Nothing and everything are; a character is not, and what is
put together from closed parts is. Joining equal sets keeps what is known of the first.
-/

namespace PipelineForge.Pattern

structure Members where
  set : CharSet := .empty
  /-- Known to hold all cases of each member. -/
  isClosed : Bool := true
deriving DecidableEq

namespace Members

def ofSet (s : CharSet) : Members := ⟨s, s.isEmpty⟩

def union (m n : Members) : Members :=
  if n.set.isEmpty || m.set = n.set then m
  else ⟨m.set.union n.set, m.isClosed && n.isClosed⟩

def add (m : Members) (r : CharRange) : Members := m.union (ofSet (.ofRange r))

def inter (m n : Members) : Members :=
  if m.set.isEmpty then m
  else if n.set.isEmpty then {}
  else ⟨m.set.inter n.set, m.isClosed && n.isClosed⟩

def diff (m n : Members) : Members :=
  if m.set.isEmpty || n.set.isEmpty then m
  else ⟨m.set.diff n.set, m.isClosed && n.isClosed⟩

def symmDiff (m n : Members) : Members := (m.union n).diff (m.inter n)

def compl (m : Members) : Members :=
  if m.set.isEmpty then ⟨.full, true⟩ else ⟨m.set.compl, m.isClosed⟩

def foldAscii (m : Members) : Members := ⟨m.set.foldAscii, true⟩

end Members

end PipelineForge.Pattern

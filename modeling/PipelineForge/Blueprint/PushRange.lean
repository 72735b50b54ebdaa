import PipelineForge.Fault

/-!
# Push constant ranges

A push constant range gives some bytes to a set of shader stages. A list of ranges in a
blueprint is ordered by the number of the stage set and no stage occurs in two of them: a new
range takes the place of those it shares a stage with, and is refused if one of them shares
neither its offset nor its end.
-/

namespace PipelineForge

/-- The names of the stage bits, in the order in which a set of stages is written. -/
def stageNames : List (UInt32 × String) :=
  [(0x1, "VERTEX"), (0x2, "TESSELLATION_CONTROL"), (0x4, "TESSELLATION_EVALUATION"),
    (0x8, "GEOMETRY"), (0x10, "FRAGMENT"), (0x20, "COMPUTE"), (0x100, "RAYGEN_KHR"),
    (0x200, "ANY_HIT_KHR"), (0x400, "CLOSEST_HIT_KHR"), (0x800, "MISS_KHR"),
    (0x1000, "INTERSECTION_KHR"), (0x2000, "CALLABLE_KHR"), (0x40, "TASK_EXT"),
    (0x80, "MESH_EXT"), (0x4000, "SUBPASS_SHADING_HUAWEI"),
    (0x80000, "CLUSTER_CULLING_HUAWEI")]

/-- The names of the set bits; bits without a name come last, as one binary number. -/
def stagesText (stages : UInt32) : String :=
  let named := stageNames.filter fun (bit, _) => stages &&& bit = bit
  let rest := named.foldl (fun acc (bit, _) => acc &&& ~~~bit) stages
  let tail := if rest = 0 then [] else [String.ofList (Nat.toDigits 2 rest.toNat)]
  " | ".intercalate (named.map Prod.snd ++ tail)

structure PushRange where
  stages : UInt32
  offset : UInt32
  size : UInt32
deriving DecidableEq

namespace PushRange

def stop (r : PushRange) : Nat := r.offset.toNat + r.size.toNat

/-- The end of the range is again a 32-bit number. -/
def Bounded (r : PushRange) : Prop := r.stop < UInt32.size

instance (r : PushRange) : Decidable r.Bounded := inferInstanceAs (Decidable (_ < _))

/-- The end as a 32-bit number. -/
def stopWord (r : PushRange) : Except Fault UInt32 :=
  if r.Bounded then .ok (r.offset + r.size) else .error .sumOverflow

def Shares (r s : PushRange) : Prop := r.stages &&& s.stages ≠ 0

instance (r s : PushRange) : Decidable (r.Shares s) := inferInstanceAs (Decidable (_ ≠ _))

/-- Whether an old range is in the way of a new one that ends at a word: they share a stage but
neither the offset nor the end. The end of the old range is taken only if it decides. -/
def blocks (old new : PushRange) (stop : UInt32) : Except Fault Bool :=
  if old.Shares new ∧ old.offset ≠ new.offset then old.stopWord.map (· ≠ stop) else .ok false

/-- The first range of a list that is in the way of a new one. -/
def firstBlocking (new : PushRange) (stop : UInt32) :
    List PushRange → Except Fault (Option PushRange)
  | [] => .ok none
  | old :: rest =>
    match old.blocks new stop with
    | .error x => .error x
    | .ok true => .ok (some old)
    | .ok false => new.firstBlocking stop rest

def text (r : PushRange) : String :=
  "PushConstantRange \x7b stage_flags: " ++ stagesText r.stages ++
    s!", offset: {r.offset.toNat}, size: {r.size.toNat} \x7d"

/-- Puts a range before the first one whose stage set has no smaller number. -/
def place (r : PushRange) (rs : List PushRange) : List PushRange :=
  rs.takeWhile (·.stages < r.stages) ++ r :: rs.dropWhile (·.stages < r.stages)

/-- Inserts a range, or names the first range of the list that is in its way. -/
def insert (r : PushRange) (rs : List PushRange) :
    Except (Trouble PushRange) (List PushRange) :=
  match r.stopWord with
  | .error x => .error (.fault x)
  | .ok stop =>
    match r.firstBlocking stop rs with
    | .error x => .error (.fault x)
    | .ok (some old) => .error (.error old)
    | .ok none => .ok (r.place (rs.filter (¬ ·.Shares r)))

end PushRange

end PipelineForge

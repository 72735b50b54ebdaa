/-!
# Word digests

A digest folds a sequence of 64-bit words with one multiplication per word. A byte string is
first condensed to one word: its eight-byte pieces are read as little-endian numbers and mixed
by folding the 128-bit product of two of them.
-/

namespace PipelineForge.Digest

inductive Token where
  | word (w : UInt64)
  | bytes (bs : List UInt8)
deriving DecidableEq

/-- The low and the high half of the product, combined bit by bit. -/
def mix (x y : UInt64) : UInt64 :=
  let product := x.toNat * y.toNat
  UInt64.ofNat product ^^^ UInt64.ofNat (product >>> 64)

def littleEndian : List UInt8 → UInt64
  | [] => 0
  | b :: bs => b.toUInt64 ||| (littleEndian bs <<< 8)

def seed0 : UInt64 := 0x243f6a8885a308d3
def seed1 : UInt64 := 0x13198a2e03707344
def blockKey : UInt64 := 0xa4093822299f31d0
def factor : UInt64 := 0xf1357aea2e62a9c5

/-- Mixes in all full blocks of sixteen bytes; a shorter rest is left out. -/
def mixBlocks (s0 s1 : UInt64) (bs : List UInt8) : UInt64 × UInt64 :=
  if _h : 16 ≤ bs.length then
    let x := littleEndian (bs.take 8)
    let y := littleEndian ((bs.drop 8).take 8)
    mixBlocks s1 (mix (s0 ^^^ x) (blockKey ^^^ y)) (bs.drop 16)
  else (s0, s1)
termination_by bs.length
decreasing_by
  rw [List.length_drop]
  omega

/-- The two words that a byte string is mixed to before the last step. Up to sixteen bytes they
come from both ends, which may overlap; beyond, the last byte takes no part in the blocks. -/
def absorb (bs : List UInt8) : UInt64 × UInt64 :=
  let n := bs.length
  let tail (k : Nat) := littleEndian (bs.drop (n - k))
  if n = 0 then (seed0, seed1)
  else if n < 4 then
    let byte (i : Nat) : UInt64 := (bs.getD i 0).toUInt64
    (seed0 ^^^ byte 0, seed1 ^^^ (byte (n - 1) <<< 8 ||| byte (n / 2)))
  else if n < 8 then (seed0 ^^^ littleEndian (bs.take 4), seed1 ^^^ tail 4)
  else if n ≤ 16 then (seed0 ^^^ littleEndian (bs.take 8), seed1 ^^^ tail 8)
  else
    let (s0, s1) := mixBlocks seed0 seed1 (bs.take (n - 1))
    (s0 ^^^ littleEndian ((bs.drop (n - 16)).take 8), s1 ^^^ tail 8)

def condense (bs : List UInt8) : UInt64 :=
  let (s0, s1) := absorb bs
  mix s0 s1 ^^^ UInt64.ofNat bs.length

def Token.toWord : Token → UInt64
  | word w => w
  | bytes bs => condense bs

def step (h w : UInt64) : UInt64 := (h + w) * factor

def rotateLeft (w : UInt64) (k : UInt64) : UInt64 := (w <<< k) ||| (w >>> (64 - k))

def ofTokens (ts : List Token) : UInt64 :=
  rotateLeft ((ts.map Token.toWord).foldl step 0) 26

end PipelineForge.Digest

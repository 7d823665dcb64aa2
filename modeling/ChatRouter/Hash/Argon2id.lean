import ChatRouter.Hash.Blake2b

set_option autoImplicit false

/-!
# Argon2id

The memory-hard password hash, version 19. Memory is a matrix of blocks of 128 words; each new block
mixes its predecessor with an older one, which is chosen without looking at the data in the first half
of the first pass and by the data afterwards.
-/

namespace ChatRouter.Hash.Argon2id

structure Parameters where
  /-- In blocks of 1024 bytes. -/
  memory : Nat
  passes : Nat
  lanes : Nat
deriving DecidableEq

structure Pair where
  fst : UInt64
  snd : UInt64

def Pair.zero : Pair := ⟨0, 0⟩

@[inline] def Pair.xor (p q : Pair) : Pair := ⟨p.fst ^^^ q.fst, p.snd ^^^ q.snd⟩

abbrev Block : Type := Array Pair

def Block.zero : Block := Array.replicate 64 .zero

def Block.xor (a b : Block) : Block := Array.zipWith Pair.xor a b

@[inline] def rotate (x : UInt64) (amount : UInt64) : UInt64 := (x >>> amount) ||| (x <<< (64 - amount))

/-- Addition made harder by a product of the lower halves. -/
@[inline] def add (a b : UInt64) : UInt64 := a + b + 2 * ((a &&& 0xffffffff) * (b &&& 0xffffffff))

structure Quad where
  a : UInt64
  b : UInt64
  c : UInt64
  d : UInt64

@[inline] def mix (a b c d : UInt64) : Quad :=
  let a := add a b
  let d := rotate (d ^^^ a) 32
  let c := add c d
  let b := rotate (b ^^^ c) 24
  let a := add a b
  let d := rotate (d ^^^ a) 16
  let c := add c d
  let b := rotate (b ^^^ c) 63
  ⟨a, b, c, d⟩

/-- Mixes the eight pairs at `i`, `i + step`, and so on, where the words of a pair are neighbours. -/
def permute (block : Block) (i step : Nat) : Block :=
  let pair (k : Nat) := block.getD (i + k * step) .zero
  let p0 := pair 0
  let p1 := pair 1
  let p2 := pair 2
  let p3 := pair 3
  let p4 := pair 4
  let p5 := pair 5
  let p6 := pair 6
  let p7 := pair 7
  let q0 := mix p0.fst p2.fst p4.fst p6.fst
  let q1 := mix p0.snd p2.snd p4.snd p6.snd
  let q2 := mix p1.fst p3.fst p5.fst p7.fst
  let q3 := mix p1.snd p3.snd p5.snd p7.snd
  let r0 := mix q0.a q1.b q2.c q3.d
  let r1 := mix q1.a q2.b q3.c q0.d
  let r2 := mix q2.a q3.b q0.c q1.d
  let r3 := mix q3.a q0.b q1.c q2.d
  ((((((((block.setIfInBounds i ⟨r0.a, r1.a⟩).setIfInBounds (i + step) ⟨r2.a, r3.a⟩).setIfInBounds
    (i + 2 * step) ⟨r3.b, r0.b⟩).setIfInBounds (i + 3 * step) ⟨r1.b, r2.b⟩).setIfInBounds
    (i + 4 * step) ⟨r2.c, r3.c⟩).setIfInBounds (i + 5 * step) ⟨r0.c, r1.c⟩).setIfInBounds
    (i + 6 * step) ⟨r1.d, r2.d⟩).setIfInBounds (i + 7 * step) ⟨r3.d, r0.d⟩)

def compress (a b : Block) : Block :=
  let r := a.xor b
  let z := (List.range 8).foldl (fun z i => permute z (8 * i) 1) r
  let z := (List.range 8).foldl (fun z i => permute z i 8) z
  r.xor z

def littleEndian (n : Nat) : List UInt8 :=
  [n.toUInt8, (n / 256).toUInt8, (n / 65536).toUInt8, (n / 16777216).toUInt8]

/-- The chain of 64-byte hashes of which all but the last give half of their bytes. -/
def stretchFrom (seed : ByteArray) : Nat → Nat → List UInt8
  | 0, _ => []
  | fuel + 1, left =>
    if left ≤ 64 then (Blake2b.hash left seed).toList
    else
      let next := Blake2b.hash 64 seed
      next.toList.take 32 ++ stretchFrom next fuel (left - 32)

def stretch (size : Nat) (bytes : List UInt8) : List UInt8 :=
  stretchFrom ⟨(littleEndian size ++ bytes).toArray⟩ (size + 1) size

def blockOfBytes (bytes : List UInt8) : Block :=
  let data : ByteArray := ⟨bytes.toArray⟩
  ((List.range 64).map fun i => ⟨Blake2b.word data (16 * i), Blake2b.word data (16 * i + 8)⟩).toArray

def blockBytes (b : Block) : List UInt8 :=
  b.toList.flatMap fun p => Blake2b.wordBytes p.fst ++ Blake2b.wordBytes p.snd

structure Place where
  pass : Nat
  lane : Nat
  slice : Nat
  index : Nat

variable (params : Parameters) (length : Nat)

abbrev quarter : Nat := length / 4

/-- The older block that two random halves choose: its lane and its column. -/
def reference (place : Place) (j1 j2 : Nat) : Nat × Nat :=
  let lane := if place.pass = 0 ∧ place.slice = 0 then place.lane else j2 % params.lanes
  let before := if place.pass = 0 then place.slice * quarter length else length - quarter length
  let area :=
    if lane = place.lane then before + place.index - 1
    else if place.index = 0 then before - 1 else before
  let x := j1 * j1 / Nat.pow 2 32
  let back := area - 1 - area * x / Nat.pow 2 32
  let start := if place.pass = 0 ∨ place.slice = 3 then 0 else (place.slice + 1) * quarter length
  (lane, (start + back) % length)

/-- The pairs of random halves for the places of a quarter, in blocks of 128. -/
def addresses (place : Place) (count : Nat) : Array UInt64 :=
  let base : List Nat := [place.pass, place.lane, place.slice, params.lanes * length, params.passes, 2]
  let input (n : Nat) : Block :=
    let words := base ++ [n]
    ((List.range 64).map fun i =>
      ⟨(words.getD (2 * i) 0).toUInt64, (words.getD (2 * i + 1) 0).toUInt64⟩).toArray
  (List.range ((count + 127) / 128)).foldl
    (fun out n =>
      let b := compress .zero (compress .zero (input (n + 1)))
      b.foldl (fun out p => (out.push p.fst).push p.snd) out)
    #[]

def fill (pseudo : Array UInt64) (memory : Array Block) (place : Place) : Array Block :=
  let column := place.slice * quarter length + place.index
  let previous := memory.getD (place.lane * length + (column + length - 1) % length) .zero
  let random :=
    if place.pass = 0 ∧ place.slice < 2 then pseudo.getD place.index 0 else (previous.getD 0 .zero).fst
  let (lane, older) :=
    reference params length place (random &&& 0xffffffff).toNat (random >>> 32).toNat
  let mixed := compress previous (memory.getD (lane * length + older) .zero)
  let here := place.lane * length + column
  if place.pass = 0 then memory.setIfInBounds here mixed
  else memory.setIfInBounds here (mixed.xor (memory.getD here .zero))

def fillQuarter (memory : Array Block) (pass slice lane : Nat) : Array Block :=
  let pseudo :=
    if pass = 0 ∧ slice < 2 then addresses params length ⟨pass, lane, slice, 0⟩ (quarter length) else #[]
  let first := if pass = 0 ∧ slice = 0 then 2 else 0
  (List.range' first (quarter length - first)).foldl
    (fun memory index => fill params length pseudo memory ⟨pass, lane, slice, index⟩) memory

def fillAll (memory : Array Block) : Array Block :=
  (List.range params.passes).foldl
    (fun memory pass => (List.range 4).foldl
      (fun memory slice => (List.range params.lanes).foldl
        (fun memory lane => fillQuarter params length memory pass slice lane) memory) memory) memory

def sized (bytes : List UInt8) : List UInt8 := littleEndian bytes.length ++ bytes

def tag (size : Nat) (password salt secret associated : List UInt8) : List UInt8 :=
  let params := params
  let length := 4 * (params.memory / (4 * params.lanes))
  let seed := (Blake2b.hash 64 ⟨(littleEndian params.lanes ++ littleEndian size ++
    littleEndian params.memory ++ littleEndian params.passes ++ littleEndian 19 ++ littleEndian 2 ++
    sized password ++ sized salt ++ sized secret ++ sized associated).toArray⟩).toList
  let start (lane i : Nat) : Block :=
    blockOfBytes (stretch 1024 (seed ++ littleEndian i ++ littleEndian lane))
  let memory : Array Block := Array.replicate (params.lanes * length) .zero
  let memory := (List.range params.lanes).foldl
    (fun memory lane => (memory.setIfInBounds (lane * length) (start lane 0)).setIfInBounds
      (lane * length + 1) (start lane 1)) memory
  let memory := fillAll params length memory
  let last := (List.range params.lanes).foldl
    (fun b lane => b.xor (memory.getD (lane * length + length - 1) .zero)) Block.zero
  stretch size (blockBytes last)

end ChatRouter.Hash.Argon2id

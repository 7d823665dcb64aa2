set_option autoImplicit false

namespace ChatRouter.Hash.Blake2b

def iv : Array UInt64 :=
  #[0x6a09e667f3bcc908, 0xbb67ae8584caa73b, 0x3c6ef372fe94f82b, 0xa54ff53a5f1d36f1,
    0x510e527fade682d1, 0x9b05688c2b3e6c1f, 0x1f83d9abfb41bd6b, 0x5be0cd19137e2179]

def sigma : List (List Nat) :=
  [[0, 1, 2, 3, 4, 5, 6, 7, 8, 9, 10, 11, 12, 13, 14, 15],
    [14, 10, 4, 8, 9, 15, 13, 6, 1, 12, 0, 2, 11, 7, 5, 3],
    [11, 8, 12, 0, 5, 2, 15, 13, 10, 14, 3, 6, 7, 1, 9, 4],
    [7, 9, 3, 1, 13, 12, 11, 14, 2, 6, 5, 10, 4, 0, 15, 8],
    [9, 0, 5, 7, 2, 4, 10, 15, 14, 1, 11, 12, 6, 8, 3, 13],
    [2, 12, 6, 10, 0, 11, 8, 3, 4, 13, 7, 5, 15, 14, 1, 9],
    [12, 5, 1, 15, 14, 13, 4, 10, 0, 7, 6, 3, 9, 2, 8, 11],
    [13, 11, 7, 14, 12, 1, 3, 9, 5, 0, 15, 4, 8, 6, 2, 10],
    [6, 15, 14, 9, 11, 3, 0, 8, 12, 2, 13, 7, 1, 4, 10, 5],
    [10, 2, 8, 4, 7, 6, 1, 5, 15, 11, 9, 14, 3, 12, 13, 0],
    [0, 1, 2, 3, 4, 5, 6, 7, 8, 9, 10, 11, 12, 13, 14, 15],
    [14, 10, 4, 8, 9, 15, 13, 6, 1, 12, 0, 2, 11, 7, 5, 3]]

@[inline] def rotate (x : UInt64) (amount : UInt64) : UInt64 := (x >>> amount) ||| (x <<< (64 - amount))

def columns : List (Nat × Nat × Nat × Nat) :=
  [(0, 4, 8, 12), (1, 5, 9, 13), (2, 6, 10, 14), (3, 7, 11, 15),
    (0, 5, 10, 15), (1, 6, 11, 12), (2, 7, 8, 13), (3, 4, 9, 14)]

def mix (v : Array UInt64) (place : Nat × Nat × Nat × Nat) (x y : UInt64) : Array UInt64 :=
  let (i, j, k, l) := place
  let a := v.getD i 0 + v.getD j 0 + x
  let d := rotate (v.getD l 0 ^^^ a) 32
  let c := v.getD k 0 + d
  let b := rotate (v.getD j 0 ^^^ c) 24
  let a := a + b + y
  let d := rotate (d ^^^ a) 16
  let c := c + d
  let b := rotate (b ^^^ c) 63
  (((v.setIfInBounds i a).setIfInBounds j b).setIfInBounds k c).setIfInBounds l d

def round (m : Array UInt64) : List (Nat × Nat × Nat × Nat) → List Nat → Array UInt64 → Array UInt64
  | place :: places, x :: y :: order, v => round m places order (mix v place (m.getD x 0) (m.getD y 0))
  | _, _, v => v

/-- The word that begins at a byte, least byte first; bytes beyond the end are zero. -/
def word (bytes : ByteArray) (start : Nat) : UInt64 :=
  (List.range 8).foldr (fun i w => (w <<< 8) ||| ((bytes.data.getD (start + i) 0).toUInt64)) 0

def wordBytes (w : UInt64) : List UInt8 := (List.range 8).map fun i => (w >>> (8 * i.toUInt64)).toUInt8

/-- Takes in the block that begins at `start`, where `seen` bytes have been read with it. -/
def compress (h : Array UInt64) (bytes : ByteArray) (start seen : Nat) (last : Bool) : Array UInt64 :=
  let m := ((List.range 16).map fun i => word bytes (start + 8 * i)).toArray
  let v := h ++ iv
  let v := v.modify 12 (· ^^^ seen.toUInt64)
  let v := if last then v.modify 14 (~~~ ·) else v
  let v := sigma.foldl (fun v order => round m columns order v) v
  ((List.range 8).map fun i => h.getD i 0 ^^^ v.getD i 0 ^^^ v.getD (i + 8) 0).toArray

/-- Takes in all blocks; the last one may be short, and there is at least one. -/
def absorb (h : Array UInt64) (bytes : ByteArray) : Array UInt64 :=
  let count := max 1 ((bytes.size + 127) / 128)
  (List.range count).foldl
    (fun h i => compress h bytes (128 * i) (min bytes.size (128 * (i + 1))) (i + 1 == count)) h

def hash (size : Nat) (bytes : ByteArray) : ByteArray :=
  let h := absorb (iv.modify 0 (· ^^^ (0x01010000 ^^^ size.toUInt64))) bytes
  ⟨((h.toList.flatMap wordBytes).take size).toArray⟩

end ChatRouter.Hash.Blake2b

set_option autoImplicit false

namespace ChatRouter.Text.Base64

/-- The two characters after letters and digits. -/
structure Alphabet where
  plus : Char
  slash : Char
deriving DecidableEq

def standard : Alphabet := ⟨'+', '/'⟩

def urlSafe : Alphabet := ⟨'-', '_'⟩

namespace Alphabet

def digit (a : Alphabet) (n : Nat) : Char :=
  if n < 26 then Char.ofNat ('A'.toNat + n)
  else if n < 52 then Char.ofNat ('a'.toNat + (n - 26))
  else if n < 62 then Char.ofNat ('0'.toNat + (n - 52))
  else if n = 62 then a.plus
  else a.slash

def value? (a : Alphabet) (c : Char) : Option Nat :=
  if c.isUpper then some (c.toNat - 'A'.toNat)
  else if c.isLower then some (c.toNat - 'a'.toNat + 26)
  else if c.isDigit then some (c.toNat - '0'.toNat + 52)
  else if c = a.plus then some 62
  else if c = a.slash then some 63
  else none

end Alphabet

def encode (a : Alphabet) : List UInt8 → List Char
  | x :: y :: z :: rest =>
    let n := x.toNat * 65536 + y.toNat * 256 + z.toNat
    a.digit (n / 262144) :: a.digit (n / 4096 % 64) :: a.digit (n / 64 % 64) :: a.digit (n % 64) ::
      encode a rest
  | [x, y] =>
    let n := x.toNat * 1024 + y.toNat * 4
    [a.digit (n / 4096), a.digit (n / 64 % 64), a.digit (n % 64)]
  | [x] => [a.digit (x.toNat / 4), a.digit (x.toNat % 4 * 16)]
  | [] => []

/-- The bytes that some digits write. Bits that are left over must be zero. -/
def bytes? : List Nat → Option (List UInt8)
  | p :: q :: r :: s :: rest => do
    let n := ((p * 64 + q) * 64 + r) * 64 + s
    let more ← bytes? rest
    return (n / 65536).toUInt8 :: (n / 256).toUInt8 :: n.toUInt8 :: more
  | [p, q, r] =>
    let n := (p * 64 + q) * 64 + r
    if n % 4 = 0 then some [(n / 1024).toUInt8, (n / 4).toUInt8] else none
  | [p, q] => if q % 16 = 0 then some [(p * 4 + q / 16).toUInt8] else none
  | [_] => none
  | [] => some []

def decode? (a : Alphabet) (s : List Char) : Option (List UInt8) := do
  let digits ← s.mapM a.value?
  bytes? digits

theorem length_encode (a : Alphabet) (bytes : List UInt8) :
    (encode a bytes).length = (4 * bytes.length + 2) / 3 := by
  fun_induction encode a bytes with
  | case1 x y z rest n ih => simp only [List.length_cons, ih]; omega
  | case2 => simp
  | case3 => simp
  | case4 => rfl

end ChatRouter.Text.Base64

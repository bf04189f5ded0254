import QuicSessions.Tls.Der

/-!
# Prime curves

The public keys of secrets on the curves P-256 and P-384. A curve is `y² = x³ - 3 x + b` over the
integers modulo a prime; adding points does not need `b`.
-/

set_option autoImplicit false

namespace QuicSessions

/-- A curve with the point that public keys are multiples of. -/
structure PrimeCurve where
  /-- The modulus. -/
  p : Nat
  /-- How many multiples of the point there are. -/
  order : Nat
  baseX : Nat
  baseY : Nat
  /-- How many bytes a coordinate takes. -/
  width : Nat
  /-- The name of the curve in certificates. -/
  identifier : Bytes

namespace PrimeCurve

def p256 : PrimeCurve where
  p := 0xffffffff00000001000000000000000000000000ffffffffffffffffffffffff
  order := 0xffffffff00000000ffffffffffffffffbce6faada7179e84f3b9cac2fc632551
  baseX := 0x6b17d1f2e12c4247f8bce6e563a440f277037d812deb33a0f4a13945d898c296
  baseY := 0x4fe342e2fe1a7f9b8ee7eb4a7c0f9e162bce33576b315ececbb6406837bf51f5
  width := 32
  identifier := [0x2a, 0x86, 0x48, 0xce, 0x3d, 0x03, 0x01, 0x07]

def p384 : PrimeCurve where
  p := 0xfffffffffffffffffffffffffffffffffffffffffffffffffffffffffffffffeffffffff0000000000000000ffffffff
  order := 0xffffffffffffffffffffffffffffffffffffffffffffffffc7634d81f4372ddf581a0db248b0a77aecec196accc52973
  baseX := 0xaa87ca22be8b05378eb1c71ef320ad746e1d3b628ba79b9859f741e082542a385502f25dbf55296c3a545e3872760ab7
  baseY := 0x3617de4a96262c6f5d9e98bf9292dc29f8f41dbd289a147ce9da3113b5f0b8c00a60b1ce1d7e819d7a431d7c90ea0e5f
  width := 48
  identifier := [0x2b, 0x81, 0x04, 0x00, 0x22]

variable (c : PrimeCurve)

/-- A power modulo `p`, by squaring; `n` has fewer bits than given. -/
def power (x n : Nat) : (bits : Nat) → Nat
  | 0 => 1
  | bits + 1 =>
    let half := power (x * x % c.p) (n / 2) bits
    if n % 2 = 1 then half * x % c.p else half

def inverse (x : Nat) : Nat := c.power x (c.p - 2) (8 * c.width)

/-- The point where a line of this slope meets the curve again, reflected. -/
def third (slope : Nat) (a b : Nat × Nat) : Nat × Nat :=
  let x := (slope * slope + (2 * c.p - a.1 - b.1)) % c.p
  (x, (slope * (a.1 + (c.p - x)) + (c.p - a.2)) % c.p)

/-- The sum of two points; nothing stands for the point at infinity. -/
def add : Option (Nat × Nat) → Option (Nat × Nat) → Option (Nat × Nat)
  | none, b => b
  | a, none => a
  | some a, some b =>
    if a.1 = b.1 then
      if (a.2 + b.2) % c.p = 0 then none
      else
        some (c.third ((3 * a.1 * a.1 + (c.p - 3)) * c.inverse (2 * a.2 % c.p) % c.p) a b)
    else
      some (c.third ((b.2 + (c.p - a.2)) * c.inverse ((b.1 + (c.p - a.1)) % c.p) % c.p) a b)

/-- A multiple of a point; `n` has fewer bits than given. -/
def multiple (a : Option (Nat × Nat)) (n : Nat) : (bits : Nat) → Option (Nat × Nat)
  | 0 => none
  | bits + 1 =>
    let rest := multiple (c.add a a) (n / 2) bits
    if n % 2 = 1 then c.add rest a else rest

/-- A number in as many bytes as a coordinate takes. -/
def coordinate (n : Nat) : Bytes :=
  (List.range c.width).map fun i => (n >>> (8 * (c.width - 1 - i))).toUInt8

/-- The public key of a secret, if the secret is one. -/
def publicKey? (secret : Bytes) : Option Bytes :=
  let n := Der.ofMagnitude secret
  if secret.length = c.width ∧ 0 < n ∧ n < c.order then
    (c.multiple (some (c.baseX, c.baseY)) n (8 * c.width)).map fun (x, y) =>
      0x04 :: c.coordinate x ++ c.coordinate y
  else none

end PrimeCurve

end QuicSessions

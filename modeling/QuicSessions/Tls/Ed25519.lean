import QuicSessions.Tls.Sha512

/-!
# Ed25519

The public key of a secret. The curve is `-x² + y² = 1 + d x² y²` over the integers modulo
`2^255 - 19`; points are added in coordinates with a common denominator.
-/

set_option autoImplicit false

namespace QuicSessions.Ed25519

/-- The modulus. -/
def p : Nat := (1 <<< 255) - 19

/-- A power modulo `p`, by squaring; `n` has fewer bits than given. -/
def power (x n : Nat) : (bits : Nat) → Nat
  | 0 => 1
  | bits + 1 =>
    let half := power (x * x % p) (n / 2) bits
    if n % 2 = 1 then half * x % p else half

def inverse (x : Nat) : Nat := power x (p - 2) 256

/-- The constant of the curve. -/
def d : Nat := (p - 121665) * inverse 121666 % p

/-- A point `(x / z, y / z)`. -/
structure Point where
  x : Nat
  y : Nat
  z : Nat

def Point.zero : Point := ⟨0, 1, 1⟩

/-- The sum of two points. The law has no exceptions on this curve. -/
def Point.add (a b : Point) : Point :=
  let zz := a.z * b.z % p
  let zzzz := zz * zz % p
  let xx := a.x * b.x % p
  let yy := a.y * b.y % p
  let e := d * xx % p * yy % p
  let f := (zzzz + (p - e)) % p
  let g := (zzzz + e) % p
  ⟨zz * f % p * (((a.x + a.y) * (b.x + b.y) + (2 * p - xx - yy)) % p) % p,
    zz * g % p * ((yy + xx) % p) % p, f * g % p⟩

/-- A multiple of a point; `n` has fewer bits than given. -/
def Point.multiple (a : Point) (n : Nat) : (bits : Nat) → Point
  | 0 => .zero
  | bits + 1 =>
    let rest := (a.add a).multiple (n / 2) bits
    if n % 2 = 1 then rest.add a else rest

/-- A square root of `-1`. -/
def rootOfMinusOne : Nat := power 2 ((p - 1) / 4) 256

/-- The even one of the two numbers `x` that make `(x, y)` a point, if `y` belongs to one. -/
def evenX (y : Nat) : Nat :=
  let square := (y * y + (p - 1)) % p * inverse ((d * (y * y % p) + 1) % p) % p
  let candidate := power square ((p + 3) / 8) 256
  let x := if candidate * candidate % p = square then candidate else candidate * rootOfMinusOne % p
  if x % 2 = 0 then x else p - x

/-- The point that all public keys are multiples of; its second coordinate is four fifths. -/
def base : Point :=
  let y := 4 * inverse 5 % p
  ⟨evenX y, y, 1⟩

/-- The number that bytes stand for, the least significant one first. -/
def ofLittleEndian (bytes : Bytes) : Nat := bytes.foldr (fun b n => b.toNat + 256 * n) 0

def littleEndian (length n : Nat) : Bytes :=
  (List.range length).map fun i => (n >>> (8 * i)).toUInt8

/-- The second coordinate, with the lowest bit of the first one on top. -/
def Point.encode (a : Point) : Bytes :=
  let i := inverse a.z
  littleEndian 32 (a.y * i % p + (a.x * i % p % 2) <<< 255)

/-- The factor that a secret stands for: the first half of its digest, with the three lowest bits and
the highest one cleared and the second highest one set. -/
def factor (secret : Bytes) : Nat :=
  let n := ofLittleEndian ((Sha512.digest secret).take 32) % (1 <<< 254)
  n / 8 * 8 + (1 <<< 254)

/-- The public key of a secret. -/
def publicKey (secret : Bytes) : Bytes := (base.multiple (factor secret) 256).encode

end QuicSessions.Ed25519

import QuicSessions.Bytes

/-!
# SHA-512

The digest that Ed25519 makes its secrets with. Its constants are the first 64 bits of the fractional
parts of roots of the first primes: square roots for the initial state, cube roots for the rounds.
-/

set_option autoImplicit false

namespace QuicSessions.Sha512

/-- The largest number below `2 ^ bits` whose `k`-th power is at most `n`, found bit by bit. -/
def root (k n : Nat) : (bits : Nat) → (found : Nat) → Nat
  | 0, found => found
  | bits + 1, found =>
    root k n bits (if (found + 1 <<< bits).pow k ≤ n then found + 1 <<< bits else found)

def isPrime (n : Nat) : Bool := 2 ≤ n && (List.range n).all fun d => d < 2 || n % d ≠ 0

/-- The first eighty primes. -/
def primes : List Nat := (List.range 410).filter isPrime

/-- The first 64 bits of the fractional part of the `k`-th root. -/
def fraction (k n : Nat) : UInt64 := (root k (n <<< (64 * k)) 72 0).toUInt64

def roundConstants : List UInt64 := primes.map (fraction 3)

def initial : List UInt64 := (primes.take 8).map (fraction 2)

def rotate (x : UInt64) (n : UInt64) : UInt64 := (x >>> n) ||| (x <<< (64 - n))

/-- The number that eight bytes stand for. -/
def word (bytes : Bytes) : UInt64 := bytes.foldl (fun n b => (n <<< 8) ||| b.toUInt64) 0

def wordBytes (x : UInt64) : Bytes :=
  (List.range 8).map fun i => (x >>> (56 - 8 * i.toUInt64)).toUInt8

/-- Adds a word to a schedule of words, the last one first. -/
def extend (schedule : List UInt64) : List UInt64 :=
  let at_ (i : Nat) : UInt64 := schedule.getD (i - 1) 0
  let small0 := rotate (at_ 15) 1 ^^^ rotate (at_ 15) 8 ^^^ (at_ 15 >>> 7)
  let small1 := rotate (at_ 2) 19 ^^^ rotate (at_ 2) 61 ^^^ (at_ 2 >>> 6)
  (at_ 16 + small0 + at_ 7 + small1) :: schedule

/-- The eighty words of a block of sixteen. -/
def schedule (block : List UInt64) : List UInt64 :=
  ((List.range 64).foldl (fun s _ => extend s) block.reverse).reverse

/-- One round on the eight words of the state. -/
def round (constant word_ : UInt64) : List UInt64 → List UInt64
  | [a, b, c, d, e, f, g, h] =>
    let big1 := rotate e 14 ^^^ rotate e 18 ^^^ rotate e 41
    let choice := (e &&& f) ^^^ ((e ^^^ 0xffffffffffffffff) &&& g)
    let t1 := h + big1 + choice + constant + word_
    let big0 := rotate a 28 ^^^ rotate a 34 ^^^ rotate a 39
    let majority := (a &&& b) ^^^ (a &&& c) ^^^ (b &&& c)
    [t1 + big0 + majority, a, b, c, d + t1, e, f, g]
  | state => state

def compress (state block : List UInt64) : List UInt64 :=
  let last := (roundConstants.zip (schedule block)).foldl (fun s (k, w) => round k w s) state
  (state.zip last).map fun (x, y) => x + y

/-- The message, a one bit, zeros, and the length of the message in bits. -/
def pad (message : Bytes) : Bytes :=
  let zeros := (240 - (message.length + 1) % 128) % 128
  message ++ 0x80 :: List.replicate (zeros + 8) 0 ++ wordBytes (8 * message.length).toUInt64

/-- Parts of `n` elements each. -/
def chunks {α : Type} (n : Nat) (xs : List α) : List (List α) :=
  (List.range (xs.length / n)).map fun i => (xs.drop (i * n)).take n

/-- The digest, 64 bytes long. -/
def digest (message : Bytes) : Bytes :=
  let words := (chunks 8 (pad message)).map word
  ((chunks 16 words).foldl compress initial).flatMap wordBytes

end QuicSessions.Sha512

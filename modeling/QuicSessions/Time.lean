/-!
# Durations and instants

A duration is a whole number of seconds below 2^64 and a fraction in nanoseconds. An instant is the
number of nanoseconds since the origin of a clock that never goes back.
-/

set_option autoImplicit false

namespace QuicSessions

/-- Nanoseconds in a second. -/
def nanosPerSecond : Nat := 1000000000

/-- A span of time, exact to the nanosecond. -/
structure Duration where
  secs : UInt64
  nanos : Nat
  nanos_lt : nanos < 1000000000 := by decide
  deriving DecidableEq

/-- A point in time, in nanoseconds since the origin of the clock. -/
abbrev Instant := Nat

namespace Duration

def zero : Duration := ⟨0, 0, by decide⟩

instance : Inhabited Duration := ⟨zero⟩

def ofSeconds (secs : UInt64) : Duration := ⟨secs, 0, by decide⟩

/-- Whole seconds and nanoseconds; a surplus of nanoseconds is carried into the seconds, which must
then still fit. -/
def ofParts? (secs nanos : Nat) : Option Duration :=
  if secs + nanos / 1000000000 < UInt64.size then
    some ⟨(secs + nanos / 1000000000).toUInt64, nanos % 1000000000,
      Nat.mod_lt _ (by decide)⟩
  else none

/-- The duration of a number of milliseconds below 2^64. -/
def ofMillis (ms : UInt64) : Duration :=
  ⟨ms / 1000, ms.toNat % 1000 * 1000000, by omega⟩

def toNanos (d : Duration) : Nat := d.secs.toNat * nanosPerSecond + d.nanos

/-- Whole milliseconds; what is left of the last one is cut off. -/
def toMillis (d : Duration) : Nat := d.secs.toNat * 1000 + d.nanos / 1000000

def isZero (d : Duration) : Bool := d.secs == 0 && d.nanos == 0

theorem isZero_iff (d : Duration) : d.isZero = true ↔ d = zero := by
  obtain ⟨s, n, h⟩ := d
  simp [isZero, zero]

end Duration

/-- The nanoseconds of a number of milliseconds. -/
def millis (ms : Nat) : Nat := ms * 1000000

/-- Seconds that the platform's clock can count. -/
def Instant.limit : Nat := (1 <<< 63) * nanosPerSecond

/-- The instants that the platform's clock can hold. -/
def Instant.Representable (t : Instant) : Prop := t < Instant.limit

instance (t : Instant) : Decidable t.Representable := inferInstanceAs (Decidable (t < _))

end QuicSessions

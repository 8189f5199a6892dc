import Mathlib.Order.Lattice

set_option autoImplicit false

/-!
# Durations

Durations as the language has them: whole seconds of 64 bits and nanoseconds below one second.
Here they are numbers of nanoseconds, with the bound that this puts on them.

## Main definitions

* `Duration` — a number of nanoseconds that is not too large.
* `Duration.saturatingSub`, `Duration.saturatingAdd`, `Duration.checkedAdd` — arithmetic.
* `Duration.fromNanos`, `Duration.fromMicros`, `Duration.fromMillis` — from 64-bit counts.
-/

namespace RemoteLink.Library

/-- A duration. -/
structure Duration where
  nanos : ℕ
  le_max : nanos ≤ 18446744073709551615999999999
  deriving DecidableEq

namespace Duration

/-- The nanoseconds of the longest duration. -/
def maxNanos : ℕ := 18446744073709551615999999999

theorem nanos_injective : Function.Injective nanos := by
  rintro ⟨m, hm⟩ ⟨n, hn⟩ h
  obtain rfl : m = n := h
  rfl

instance : LinearOrder Duration := LinearOrder.lift' nanos nanos_injective

theorem le_iff {a b : Duration} : a ≤ b ↔ a.nanos ≤ b.nanos := Iff.rfl

theorem lt_iff {a b : Duration} : a < b ↔ a.nanos < b.nanos := Iff.rfl

/-- No time. -/
def zero : Duration := ⟨0, Nat.zero_le _⟩

/-- The difference, or nothing. -/
def saturatingSub (a b : Duration) : Duration :=
  ⟨a.nanos - b.nanos, (Nat.sub_le _ _).trans a.le_max⟩

/-- The sum, or the longest duration. -/
def saturatingAdd (a b : Duration) : Duration :=
  ⟨min (a.nanos + b.nanos) maxNanos, min_le_right _ _⟩

/-- The sum; one that is too long is `none`. -/
def checkedAdd (a b : Duration) : Option Duration :=
  if h : a.nanos + b.nanos ≤ maxNanos then some ⟨a.nanos + b.nanos, h⟩ else none

/-- Whole microseconds. -/
def asMicros (d : Duration) : ℕ := d.nanos / 1000

/-- A count of nanoseconds. -/
def fromNanos (n : UInt64) : Duration := ⟨n.toNat, by have := n.toNat_lt; omega⟩

/-- A count of microseconds. -/
def fromMicros (n : UInt64) : Duration := ⟨n.toNat * 1000, by have := n.toNat_lt; omega⟩

/-- A count of milliseconds. -/
def fromMillis (n : UInt64) : Duration := ⟨n.toNat * 1000000, by have := n.toNat_lt; omega⟩

/-- A count of seconds. -/
def fromSecs (n : UInt64) : Duration := ⟨n.toNat * 1000000000, by have := n.toNat_lt; omega⟩

@[simp] theorem nanos_saturatingSub (a b : Duration) :
    (a.saturatingSub b).nanos = a.nanos - b.nanos := rfl

@[simp] theorem nanos_fromMicros (n : UInt64) : (fromMicros n).nanos = n.toNat * 1000 := rfl

/-- A saturated bound is exceeded exactly if the sum is. -/
theorem saturatingAdd_lt_iff {a b c : Duration} :
    a.saturatingAdd b < c ↔ a.nanos + b.nanos < c.nanos := by
  have hmax : c.nanos ≤ maxNanos := c.le_max
  rw [lt_iff]
  unfold saturatingAdd
  dsimp only
  omega

end Duration

end RemoteLink.Library

import Mathlib.Init

/-!
# Time in 64 bits

`std::chrono`: a time point of `steady_clock` is a signed 64-bit number of nanoseconds, and so is a
duration in milliseconds.  Neither the conversion between the two units nor the addition to a time
point is checked; what overflows wraps around.
-/

namespace LivekitBridge

/-- Signed 64-bit arithmetic. -/
def wrap64 (x : Int) : Int := Int.bmod x 18446744073709551616

/-- The number is an `int64`. -/
def FitsInt64 (x : Int) : Prop := -9223372036854775808 ≤ x ∧ x ≤ 9223372036854775807

instance (x : Int) : Decidable (FitsInt64 x) :=
  inferInstanceAs (Decidable (-9223372036854775808 ≤ x ∧ x ≤ 9223372036854775807))

/-- `std::chrono::milliseconds` to `std::chrono::nanoseconds` -/
def toNanoseconds (ms : Int) : Int := wrap64 (ms * 1000000)

theorem wrap64_of_fits {x : Int} (h : FitsInt64 x) : wrap64 x = x := by
  have heq : wrap64 x = Int.bmod x 18446744073709551616 := rfl
  rw [Int.bmod_def] at heq
  obtain ⟨hl, hu⟩ := h
  omega

/-- `ms` milliseconds after `now`, as the code adds them. -/
def timeAfter (now ms : Int) : Int := wrap64 (now + toNanoseconds ms)

/-- Neither the conversion nor the addition overflows. -/
structure TimeFits (now ms : Int) : Prop where
  scaled : FitsInt64 (ms * 1000000)
  added : FitsInt64 (now + ms * 1000000)

theorem timeAfter_eq {now ms : Int} (h : TimeFits now ms) :
    timeAfter now ms = now + ms * 1000000 := by
  rw [timeAfter, toNanoseconds, wrap64_of_fits h.scaled, wrap64_of_fits h.added]

end LivekitBridge

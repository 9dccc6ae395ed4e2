namespace Telemetry.Link

/-!
# Waiting between attempts to connect

Times are nanoseconds.

* `reconnectDelay` — doubles from 100 ms with each attempt, begins again after ten, and
  exceeds neither a minute nor what is left of the time for trying.
-/

/-- Nanoseconds of a number of milliseconds. -/
def millis (n : Nat) : Nat := n * 1000000

/-- The shortest wait. -/
def minReconnectDelay : Nat := millis 100

/-- The longest wait. -/
def maxReconnectDelay : Nat := millis 60000

/-- The wait after an attempt, when `remaining` is left. -/
def reconnectDelay (attempt remaining : Nat) : Nat :=
  min (min (minReconnectDelay * Nat.pow 2 (attempt % 10)) maxReconnectDelay) remaining

/-- As long as there is time left, the wait is not empty. -/
theorem reconnectDelay_pos {attempt remaining : Nat} (h : 0 < remaining) :
    0 < reconnectDelay attempt remaining := by
  have : 0 < Nat.pow 2 (attempt % 10) := Nat.two_pow_pos _
  simp only [reconnectDelay, minReconnectDelay, maxReconnectDelay, millis, Nat.lt_min]
  omega

/-- No wait is longer than what is left. -/
theorem reconnectDelay_le (attempt remaining : Nat) :
    reconnectDelay attempt remaining ≤ remaining := Nat.min_le_right _ _

end Telemetry.Link

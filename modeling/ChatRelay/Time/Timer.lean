/-! Timers of the task runtime: a timer fires at the first whole millisecond at or
after its deadline, and no later than the horizon of 30 years. -/
namespace ChatRelay.Time

namespace Timer

def nanosPerMilli : Nat := 1000000

/-- The longest a timer waits: 946 080 000 seconds, in nanoseconds. -/
def horizon : Nat := 946080000 * 1000000000

def ceilMillis (t : Nat) : Nat := (t + nanosPerMilli - 1) / nanosPerMilli * nanosPerMilli

/-- When a timer set at `setAt` for `deadline` fires. -/
def firesAt (setAt deadline : Nat) : Nat := ceilMillis (min deadline (setAt + horizon))

/-- How long a sleep of `nanos` lasts when it starts on a whole millisecond. -/
def sleepLength (nanos : Nat) : Nat := ceilMillis (min nanos horizon)

theorem le_ceilMillis (t : Nat) : t ≤ ceilMillis t := by
  unfold ceilMillis nanosPerMilli
  omega

theorem ceilMillis_mul (k : Nat) : ceilMillis (k * nanosPerMilli) = k * nanosPerMilli := by
  unfold ceilMillis nanosPerMilli
  omega

theorem ceilMillis_mono {s t : Nat} (h : s ≤ t) : ceilMillis s ≤ ceilMillis t := by
  unfold ceilMillis
  exact Nat.mul_le_mul_right _ (Nat.div_le_div_right (by omega))

/-- A deadline within the horizon of the moment the timer is set is kept. -/
theorem firesAt_of_le {setAt deadline : Nat} (h : deadline ≤ setAt + horizon) :
    firesAt setAt deadline = ceilMillis deadline := by
  rw [firesAt, Nat.min_eq_left h]

theorem lt_firesAt {setAt deadline : Nat} (h : setAt < deadline) :
    setAt < firesAt setAt deadline := by
  have := le_ceilMillis (min deadline (setAt + horizon))
  have : setAt < min deadline (setAt + horizon) := by
    unfold horizon
    omega
  unfold firesAt
  omega

end Timer

end ChatRelay.Time

import ChatRelay.Chat.Service
import ChatRelay.Time.Clock
import ChatRelay.Time.Timer

/-! The expiry sweeper: a timer task that deletes expired messages at every
multiple of a nonzero interval until a shutdown signal arrives. -/
namespace ChatRelay.Chat

open Time

inductive SweeperError where
  | zeroInterval
  deriving DecidableEq, Repr

def SweeperError.message : SweeperError → String
  | .zeroInterval => "Sweep interval must be greater than zero"

/-- A sweeper and the service it cleans. -/
structure Sweeper where
  service : Service
  clock : Clock
  /-- The interval in nanoseconds; never zero. -/
  interval : Nat
  /-- Time since the start, in nanoseconds. -/
  elapsed : Nat := 0
  /-- When the timer was last set: the start, then each tick. -/
  setAt : Nat := 0
  /-- The deadline the timer is set for: the next multiple of the interval. -/
  due : Nat
  /-- Cleanups run, successful and failed. -/
  successes : Nat := 0
  failures : Nat := 0
  /-- Messages the cleanups removed. -/
  expired : Nat := 0
  finished : Bool := false
  /-- The shutdown signal's sender still exists. -/
  signalOpen : Bool := true

namespace Sweeper

def new (service : Service) (clock : Clock) (interval : Duration) : Except SweeperError Sweeper :=
  if interval.totalNanos = 0 then .error .zeroInterval
  else .ok { service := service, clock := clock, interval := interval.totalNanos,
             due := interval.totalNanos }

def sweeps (w : Sweeper) : Nat := w.successes + w.failures

def sweep (w : Sweeper) : Sweeper :=
  match w.service.cleanup w.clock.read.1 with
  | .ok (n, service) =>
    { w with service := service, clock := w.clock.read.2, successes := w.successes + 1,
             expired := w.expired + n }
  | .error _ => { w with clock := w.clock.read.2, failures := w.failures + 1 }

theorem sweeps_sweep (w : Sweeper) : w.sweep.sweeps = w.sweeps + 1 := by
  unfold sweep sweeps
  split <;> dsimp only <;> omega

theorem sweep_interval (w : Sweeper) :
    w.sweep.interval = w.interval ∧ w.sweep.finished = w.finished ∧ w.sweep.elapsed = w.elapsed ∧
      w.sweep.setAt = w.setAt ∧ w.sweep.due = w.due := by
  unfold sweep
  split <;> exact ⟨rfl, rfl, rfl, rfl, rfl⟩

def nextTick (w : Sweeper) : Nat := Time.Timer.firesAt w.setAt w.due

/-- The timer fires: one cleanup, and the timer is set for the next multiple
of the interval. -/
def tick (w : Sweeper) : Sweeper :=
  { w.sweep with setAt := w.nextTick, due := w.due + w.interval }

theorem sweeps_tick (w : Sweeper) : w.tick.sweeps = w.sweeps + 1 := by
  have e : ∀ (v : Sweeper) (a b : Nat),
      ({ v with setAt := a, due := b } : Sweeper).sweeps = v.sweeps := fun _ _ _ => rfl
  rw [tick, e]
  exact sweeps_sweep w

/-- The ticks of a running sweeper that fire by `stop`, at most `fuel` of
them. -/
def tickUntil (stop : Nat) : Nat → Sweeper → Sweeper
  | 0, w => w
  | fuel + 1, w => if w.finished || stop < w.nextTick then w else tickUntil stop fuel w.tick

/-- Enough ticks for a stretch of `nanos`: within the horizon the ticks are a
whole interval apart, and beyond it at least every other one is a horizon
after the one before. -/
def tickBound (w : Sweeper) (nanos : Nat) : Nat :=
  2 * (nanos / min w.interval Time.Timer.horizon) + 3

/-- Let `nanos` nanoseconds pass: a running sweeper cleans at each tick that
fires by then. -/
def advance (w : Sweeper) (nanos : Nat) : Sweeper :=
  let later := w.elapsed + nanos
  { tickUntil later (w.tickBound nanos) w with elapsed := later }

def sleep (w : Sweeper) (nanos : Nat) : Sweeper := w.advance (Time.Timer.sleepLength nanos)

/-- Send the shutdown signal: `none` when its sender is gone, else whether a
running sweeper received it. -/
def signal (w : Sweeper) : Option (Bool × Sweeper) :=
  if !w.signalOpen then none
  else if w.finished then some (false, w)
  else some (true, { w with finished := true })

def dropSignal (w : Sweeper) : Sweeper := { w with signalOpen := false }

theorem sweeps_advance_of_finished (w : Sweeper) (nanos : Nat) (h : w.finished = true) :
    (w.advance nanos).sweeps = w.sweeps := by
  have : ∀ fuel, tickUntil (w.elapsed + nanos) fuel w = w := by
    intro fuel
    cases fuel <;> simp [tickUntil, h]
  simp [advance, this, sweeps]

end Sweeper

end ChatRelay.Chat

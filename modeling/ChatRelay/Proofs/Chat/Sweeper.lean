import Mathlib
import ChatRelay.Chat.Sweeper

/-! The expiry sweeper over any run: while it runs it cleans once every
`min interval horizon`, and it stops exactly on a signal sent while its sender
is there. `OnTime` is the invariant that carries the schedule. -/
namespace ChatRelay.Time.Timer

theorem ceilMillis_mod (t : Nat) : ceilMillis t % nanosPerMilli = 0 := by
  unfold ceilMillis nanosPerMilli
  omega

theorem ceilMillis_of_mod {t : Nat} (whole : t % nanosPerMilli = 0) : ceilMillis t = t := by
  unfold ceilMillis
  unfold nanosPerMilli at whole ⊢
  omega

/-- Against a whole millisecond, a time and its next whole millisecond compare
alike. -/
theorem ceilMillis_le_iff {t stop : Nat} (whole : stop % nanosPerMilli = 0) :
    ceilMillis t ≤ stop ↔ t ≤ stop := by
  unfold ceilMillis
  unfold nanosPerMilli at whole ⊢
  omega

theorem mul_horizon_mod (j : Nat) : j * horizon % nanosPerMilli = 0 := by
  unfold horizon nanosPerMilli
  omega

end ChatRelay.Time.Timer

namespace ChatRelay.Chat

open Time

namespace Sweeper

/-- What can happen to a sweeper: time passes, the shutdown signal is sent,
its sender goes away, or the rest of the program changes the service. -/
inductive Event where
  | sleep (nanos : Nat)
  | signal
  | dropSignal
  | serve (service : Service)
  deriving DecidableEq, Repr

/-- One event. A signal whose sender is gone changes nothing. -/
def step (w : Sweeper) : Event → Sweeper
  | .sleep nanos => w.sleep nanos
  | .signal =>
    match w.signal with
    | some (_, v) => v
    | none => w
  | .dropSignal => w.dropSignal
  | .serve service => { w with service := service }

def run (w : Sweeper) : List Event → Sweeper
  | [] => w
  | e :: rest => (w.step e).run rest

def Event.span : Event → Nat
  | .sleep nanos => Timer.sleepLength nanos
  | _ => 0

/-- The shutdown signal is sent while its sender is still there: a signal
comes before the sender goes away. -/
def SignalledIn (events : List Event) : Prop :=
  ∃ pre post, events = pre ++ .signal :: post ∧ .dropSignal ∉ pre

/-- How far apart the cleanups fall: the interval, or the horizon when the
interval is longer. -/
def period (w : Sweeper) : Nat := min w.interval Timer.horizon

theorem period_pos {w : Sweeper} (pos : 0 < w.interval) : 0 < w.period :=
  lt_min pos (by decide)

theorem run_append (w : Sweeper) (pre post : List Event) :
    w.run (pre ++ post) = (w.run pre).run post := by
  induction pre generalizing w with
  | nil => rfl
  | cons e rest ih => exact ih (w.step e)

/-! ### What a tick leaves alone -/

/-- Two sweepers agree on what cleaning and ticking leave alone: the interval,
whether the sweeper has stopped, and whether the signal's sender is there. -/
structure Steady (w v : Sweeper) : Prop where
  interval : v.interval = w.interval
  finished : v.finished = w.finished
  signalOpen : v.signalOpen = w.signalOpen

theorem Steady.refl (w : Sweeper) : Steady w w := ⟨rfl, rfl, rfl⟩

theorem Steady.trans {u v w : Sweeper} (first : Steady u v) (second : Steady v w) : Steady u w :=
  ⟨second.interval.trans first.interval, second.finished.trans first.finished,
    second.signalOpen.trans first.signalOpen⟩

theorem Steady.period {w v : Sweeper} (steady : Steady w v) : v.period = w.period := by
  rw [Sweeper.period, Sweeper.period, steady.interval]

-- Unfolding both here keeps the kernel from comparing a tick with a cleanup
-- field by field, which runs the horizon's arithmetic on open terms.
theorem steady_tick (w : Sweeper) : Steady w w.tick := by
  unfold tick sweep
  split <;> exact ⟨rfl, rfl, rfl⟩

theorem steady_tickUntil (stop fuel : Nat) (w : Sweeper) : Steady w (tickUntil stop fuel w) := by
  induction fuel generalizing w with
  | zero => exact Steady.refl w
  | succ fuel ih =>
    rw [tickUntil]
    split
    · exact Steady.refl w
    · exact (steady_tick w).trans (ih w.tick)

theorem steady_advance (w : Sweeper) (nanos : Nat) : Steady w (w.advance nanos) :=
  have steady := steady_tickUntil (w.elapsed + nanos) (w.tickBound nanos) w
  ⟨steady.interval, steady.finished, steady.signalOpen⟩

theorem tickUntil_succ {w : Sweeper} (running : w.finished = false) (stop fuel : Nat) :
    tickUntil stop (fuel + 1) w = if stop < w.nextTick then w else tickUntil stop fuel w.tick := by
  simp [tickUntil, running]

/-- Each cleanup is recorded once: a success counts as one, adds the messages
it removed and keeps the service it left; a failure counts as one and changes
nothing else. -/
theorem sweep_records (w : Sweeper) :
    (∃ n service, w.service.cleanup w.clock.read.1 = .ok (n, service) ∧
      w.sweep.successes = w.successes + 1 ∧ w.sweep.failures = w.failures ∧
      w.sweep.expired = w.expired + n ∧ w.sweep.service = service) ∨
    (∃ e, w.service.cleanup w.clock.read.1 = .error e ∧
      w.sweep.successes = w.successes ∧ w.sweep.failures = w.failures + 1 ∧
      w.sweep.expired = w.expired ∧ w.sweep.service = w.service) := by
  unfold sweep
  split
  · next n service cleaned => exact .inl ⟨n, service, cleaned, rfl, rfl, rfl, rfl⟩
  · next e failed => exact .inr ⟨e, failed, rfl, rfl, rfl, rfl⟩

/-! ### The schedule -/

/-- The sweeper has cleaned `j` times, its last tick fired `j` periods after
the start (to the millisecond), and its timer is set for the next multiple of
the interval. -/
structure OnSchedule (w : Sweeper) (j : Nat) : Prop where
  setAt : w.setAt = Timer.ceilMillis (j * w.period)
  due : w.due = (j + 1) * w.interval
  sweeps : w.sweeps = j

theorem OnSchedule.frame {w v : Sweeper} {j : Nat} (sched : OnSchedule w j)
    (timer : v.setAt = w.setAt ∧ v.due = w.due) (interval : v.interval = w.interval)
    (sweeps : v.sweeps = w.sweeps) : OnSchedule v j where
  setAt := by rw [timer.1, sched.setAt, Sweeper.period, Sweeper.period, interval]
  due := by rw [timer.2, sched.due, interval]
  sweeps := by rw [sweeps, sched.sweeps]

/-- On schedule, the next tick fires one period after the last. -/
theorem OnSchedule.nextTick {w : Sweeper} {j : Nat} (sched : OnSchedule w j) :
    w.nextTick = Timer.ceilMillis ((j + 1) * w.period) := by
  rw [Sweeper.nextTick, Timer.firesAt, sched.setAt, sched.due]
  congr 1
  rcases le_total w.interval Timer.horizon with short | long
  · -- within the horizon the deadline is kept
    have period : w.period = w.interval := min_eq_left short
    have := Timer.le_ceilMillis (j * w.interval)
    rw [period, min_eq_left (by rw [Nat.add_one_mul]; omega)]
  · -- beyond it the timer fires a horizon after it was set, on a whole millisecond
    have period : w.period = Timer.horizon := min_eq_right long
    rw [period, Timer.ceilMillis_of_mod (Timer.mul_horizon_mod j), ← Nat.add_one_mul]
    exact min_eq_right (Nat.mul_le_mul_left _ long)

theorem OnSchedule.tick {w : Sweeper} {j : Nat} (sched : OnSchedule w j) :
    OnSchedule w.tick (j + 1) where
  setAt := by
    rw [(steady_tick w).period]
    exact sched.nextTick
  due := by
    rw [(steady_tick w).interval]
    show w.due + w.interval = _
    rw [sched.due, Nat.add_one_mul (j + 1)]
  sweeps := by rw [sweeps_tick, sched.sweeps]

/-- Left until a whole millisecond `stop`, a running sweeper's timer fires for
every period that ends by then, given fuel for them all. -/
theorem OnSchedule.tickUntil {w : Sweeper} {j stop fuel : Nat} (sched : OnSchedule w j)
    (pos : 0 < w.interval) (running : w.finished = false)
    (whole : stop % Timer.nanosPerMilli = 0) (behind : j ≤ stop / w.period)
    (enough : stop / w.period - j ≤ fuel) :
    OnSchedule (tickUntil stop fuel w) (stop / w.period) := by
  induction fuel generalizing w j with
  | zero =>
    rw [show j = stop / w.period by omega] at sched
    exact sched
  | succ fuel ih =>
    have fires : w.nextTick ≤ stop ↔ j + 1 ≤ stop / w.period := by
      rw [sched.nextTick, Timer.ceilMillis_le_iff whole, Nat.le_div_iff_mul_le (period_pos pos)]
    rw [tickUntil_succ running]
    by_cases late : stop < w.nextTick
    · -- the next period ends after `stop`: the count is already `stop / period`
      have done : j = stop / w.period := by
        have : ¬ j + 1 ≤ stop / w.period := fun ahead => absurd (fires.mpr ahead) (by omega)
        omega
      rw [if_pos late, ← done]
      exact sched
    · have ahead : j + 1 ≤ stop / w.period := fires.mp (by omega)
      rw [if_neg late]
      have steady := steady_tick w
      have next := ih sched.tick (steady.interval ▸ pos) (steady.finished.trans running)
        (by rw [steady.period]; omega) (by rw [steady.period]; omega)
      rwa [steady.period] at next

/-! ### The invariant of a run -/

/-- The sweeper's invariant: its interval is not zero, it has run for whole
milliseconds, and while it runs it has cleaned once for every period that has
passed and is set for the next. -/
structure OnTime (w : Sweeper) : Prop where
  interval_pos : 0 < w.interval
  whole : w.elapsed % Timer.nanosPerMilli = 0
  onSchedule : w.finished = false → OnSchedule w (w.elapsed / w.period)

/-- The invariant reads only the timer, the interval, the time and the count,
and asks for the schedule only while the sweeper runs. -/
theorem OnTime.frame {w v : Sweeper} (paced : OnTime w) (interval : v.interval = w.interval)
    (elapsed : v.elapsed = w.elapsed) (timer : v.setAt = w.setAt ∧ v.due = w.due)
    (sweeps : v.sweeps = w.sweeps) (running : v.finished = false → w.finished = false) :
    OnTime v where
  interval_pos := interval ▸ paced.interval_pos
  whole := elapsed ▸ paced.whole
  onSchedule stillRunning := by
    rw [elapsed, Sweeper.period, interval]
    exact (paced.onSchedule (running stillRunning)).frame timer interval sweeps

/-- A sweeper is made for a nonzero interval, with nothing run or counted,
its timer set for one interval ahead and the signal's sender there. -/
theorem new_eq_ok {service : Service} {clock : Clock} {d : Duration} {w : Sweeper}
    (made : new service clock d = .ok w) : 0 < d.totalNanos ∧
      w = { service := service, clock := clock, interval := d.totalNanos, due := d.totalNanos } := by
  unfold new at made
  split at made
  · cases made
  · next nonzero => exact ⟨Nat.pos_of_ne_zero nonzero, (Except.ok.inj made).symm⟩

theorem OnTime.start {service : Service} {clock : Clock} {d : Duration} {w : Sweeper}
    (made : new service clock d = .ok w) : OnTime w := by
  obtain ⟨pos, rfl⟩ := new_eq_ok made
  refine ⟨pos, rfl, fun _ => ⟨?_, ?_, ?_⟩⟩
  · show 0 = Timer.ceilMillis (0 / _ * _)
    rw [Nat.zero_div, Nat.zero_mul]
    rfl
  · show _ = (0 / _ + 1) * _
    rw [Nat.zero_div, Nat.zero_add, Nat.one_mul]
  · exact (Nat.zero_div _).symm

/-- Time passing in whole milliseconds keeps the schedule: the timer fires for
every period that has ended by the new time. -/
theorem OnTime.advance {w : Sweeper} (paced : OnTime w) {nanos : Nat}
    (whole : nanos % Timer.nanosPerMilli = 0) : OnTime (w.advance nanos) := by
  have steady := steady_advance w nanos
  have later : (w.elapsed + nanos) % Timer.nanosPerMilli = 0 := by
    rw [Nat.add_mod, paced.whole, whole]
    rfl
  refine ⟨steady.interval ▸ paced.interval_pos, later, fun stillRunning => ?_⟩
  have running : w.finished = false := steady.finished ▸ stillRunning
  have pos := period_pos paced.interval_pos
  -- a stretch of `nanos` holds at most one period more than `nanos / period`,
  -- and the fuel allows for twice that
  have stretch := Nat.add_div_le_div_add_div_add_one w.elapsed nanos w.period
  have bound : w.tickBound nanos = 2 * (nanos / w.period) + 3 := rfl
  have ticked : OnSchedule (tickUntil (w.elapsed + nanos) (w.tickBound nanos) w)
      ((w.elapsed + nanos) / w.period) :=
    (paced.onSchedule running).tickUntil paced.interval_pos running later
      (Nat.div_le_div_right (by omega)) (by omega)
  rw [steady.period]
  exact ticked.frame ⟨rfl, rfl⟩ rfl rfl

/-- A signal stops the sweeper when its sender is there and changes nothing
else; one sent to a stopped sweeper is taken and changes nothing. -/
theorem step_signal (w : Sweeper) :
    w.step .signal = { w with finished := w.finished || w.signalOpen } := by
  cases w with
  | mk _ _ _ _ _ _ _ _ _ finished signalOpen =>
    cases signalOpen <;> cases finished <;> simp [step, Sweeper.signal]

theorem OnTime.step {w : Sweeper} (paced : OnTime w) : ∀ e, OnTime (w.step e)
  | .sleep _ => paced.advance (Timer.ceilMillis_mod _)
  | .signal => by
    rw [step_signal]
    exact paced.frame rfl rfl ⟨rfl, rfl⟩ rfl fun running => (Bool.or_eq_false_iff.mp running).1
  | .dropSignal => paced.frame rfl rfl ⟨rfl, rfl⟩ rfl id
  | .serve _ => paced.frame rfl rfl ⟨rfl, rfl⟩ rfl id

theorem OnTime.run {w : Sweeper} (paced : OnTime w) (events : List Event) : OnTime (w.run events) := by
  induction events generalizing w with
  | nil => exact paced
  | cons e rest ih => exact ih (paced.step e)

/-- While a sweeper runs it has cleaned once for every period that has
passed. -/
theorem sweeps_of_running {w : Sweeper} (paced : OnTime w) (running : w.finished = false) :
    w.sweeps = w.elapsed / w.period :=
  (paced.onSchedule running).sweeps

/-! ### Time, the interval and the signal along a run -/

theorem step_interval (w : Sweeper) (e : Event) : (w.step e).interval = w.interval := by
  cases e with
  | sleep nanos => exact (steady_advance w _).interval
  | signal => rw [step_signal]
  | _ => rfl

theorem run_interval (w : Sweeper) (events : List Event) : (w.run events).interval = w.interval := by
  induction events generalizing w with
  | nil => rfl
  | cons e rest ih => rw [run, ih, step_interval]

theorem step_elapsed (w : Sweeper) (e : Event) : (w.step e).elapsed = w.elapsed + e.span := by
  cases e with
  | signal =>
    rw [step_signal]
    rfl
  | _ => rfl

theorem run_elapsed (w : Sweeper) (events : List Event) :
    (w.run events).elapsed = w.elapsed + (events.map Event.span).sum := by
  induction events generalizing w with
  | nil => rfl
  | cons e rest ih =>
    rw [run, ih, step_elapsed, List.map_cons, List.sum_cons]
    omega

theorem signalledIn_nil : ¬ SignalledIn [] := by
  rintro ⟨pre, post, split, -⟩
  simp at split

theorem signalledIn_signal (rest : List Event) : SignalledIn (.signal :: rest) :=
  ⟨[], rest, rfl, List.not_mem_nil⟩

theorem signalledIn_dropSignal (rest : List Event) : ¬ SignalledIn (.dropSignal :: rest) := by
  rintro ⟨pre, post, split, kept⟩
  rcases List.cons_eq_append_iff.mp split with ⟨rfl, first⟩ | ⟨pre', rfl, -⟩
  · cases first
  · exact kept List.mem_cons_self

theorem signalledIn_cons (e : Event) (other : e ≠ .signal) (kept : e ≠ .dropSignal)
    (rest : List Event) : SignalledIn (e :: rest) ↔ SignalledIn rest := by
  constructor
  · rintro ⟨pre, post, split, notDropped⟩
    rcases List.cons_eq_append_iff.mp split with ⟨rfl, first⟩ | ⟨pre', rfl, split'⟩
    · cases first
      exact absurd rfl other
    · exact ⟨pre', post, split', fun mem => notDropped (List.mem_cons_of_mem e mem)⟩
  · rintro ⟨pre, post, rfl, notDropped⟩
    refine ⟨e :: pre, post, rfl, ?_⟩
    rintro (_ | ⟨_, mem⟩)
    · exact kept rfl
    · exact notDropped mem

/-- A run stops the sweeper exactly when it had stopped already, or a signal
is sent while its sender is still there. -/
theorem finished_run (w : Sweeper) (events : List Event) :
    (w.run events).finished = true ↔ w.finished = true ∨ (w.signalOpen = true ∧ SignalledIn events) := by
  induction events generalizing w with
  | nil => simp [run, signalledIn_nil]
  | cons e rest ih =>
    rw [run, ih]
    cases e with
    | sleep nanos =>
      have steady : Steady w (w.step (.sleep nanos)) := steady_advance w _
      rw [steady.finished, steady.signalOpen, signalledIn_cons (.sleep nanos) nofun nofun]
    | signal =>
      rw [step_signal]
      by_cases sender : w.signalOpen = true
      · simp [sender, signalledIn_signal]
      · simp [sender]
    | dropSignal => simp [step, dropSignal, signalledIn_dropSignal]
    | serve service =>
      rw [signalledIn_cons (.serve service) nofun nofun]
      rfl

theorem step_of_finished {w : Sweeper} (stopped : w.finished = true) (e : Event) :
    (w.step e).finished = true ∧ (w.step e).sweeps = w.sweeps := by
  cases e with
  | sleep nanos =>
    exact ⟨(steady_advance w _).finished.trans stopped, sweeps_advance_of_finished w _ stopped⟩
  | signal =>
    rw [step_signal, stopped]
    exact ⟨rfl, rfl⟩
  | _ => exact ⟨stopped, rfl⟩

theorem run_of_finished {w : Sweeper} (stopped : w.finished = true) (events : List Event) :
    (w.run events).finished = true ∧ (w.run events).sweeps = w.sweeps := by
  induction events generalizing w with
  | nil => exact ⟨stopped, rfl⟩
  | cons e rest ih =>
    obtain ⟨stillStopped, same⟩ := step_of_finished stopped e
    rw [run, (ih stillStopped).2, same]
    exact ⟨(ih stillStopped).1, rfl⟩

end Sweeper

open Sweeper in
/-- The expiry sweeper's law. A sweeper can be made exactly for a nonzero
interval `d`. Over any run of events from its start: the time is what the
sleeps lasted; the sweeper stops exactly when a shutdown signal is sent while
its sender is still there, so a failed cleanup or a lost sender never stops
it; until then it has cleaned `T / min d horizon` times after `T`
nanoseconds, one cleanup at the end of each period and none at the start,
which is `T / d` for every interval within the runtime's 30-year horizon; and
once stopped it stays stopped and cleans no more. Each cleanup is recorded
once, as a success that adds the messages it removed or as a failure. -/
theorem sweeper_cleans_on_schedule (service : Service) (clock : Clock) (d : Duration) :
    ((∃ e, new service clock d = .error e) ↔ d = ⟨0, 0⟩) ∧
    (∀ w, new service clock d = .ok w → ∀ events,
      (w.run events).elapsed = (events.map Event.span).sum ∧
      ((w.run events).finished = true ↔ SignalledIn events) ∧
      ((w.run events).finished = false →
        (w.run events).sweeps = (w.run events).elapsed / min d.totalNanos Timer.horizon) ∧
      ∀ post, (w.run events).finished = true →
        (w.run (events ++ post)).finished = true ∧ (w.run (events ++ post)).sweeps = (w.run events).sweeps) ∧
    ∀ v : Sweeper,
      (∃ n service, v.service.cleanup v.clock.read.1 = .ok (n, service) ∧
        v.sweep.successes = v.successes + 1 ∧ v.sweep.failures = v.failures ∧
        v.sweep.expired = v.expired + n ∧ v.sweep.service = service) ∨
      (∃ e, v.service.cleanup v.clock.read.1 = .error e ∧
        v.sweep.successes = v.successes ∧ v.sweep.failures = v.failures + 1 ∧
        v.sweep.expired = v.expired ∧ v.sweep.service = v.service) := by
  refine ⟨?_, fun w made events => ?_, sweep_records⟩
  · obtain ⟨seconds, nanos⟩ := d
    unfold new Duration.totalNanos
    by_cases zero : seconds * 1000000000 + nanos = 0
    · rw [if_pos zero]
      exact ⟨fun _ => (Duration.mk.injEq ..).mpr ⟨by omega, by omega⟩, fun _ => ⟨.zeroInterval, rfl⟩⟩
    · rw [if_neg zero]
      constructor
      · rintro ⟨_, failed⟩
        cases failed
      · intro same
        cases same
        exact absurd rfl zero
  · have paced := (OnTime.start made).run events
    obtain ⟨-, rfl⟩ := new_eq_ok made
    refine ⟨by rw [run_elapsed]; exact Nat.zero_add _, ?_, fun stillRunning => ?_, fun post stopped => ?_⟩
    · rw [finished_run]
      simp
    · rw [sweeps_of_running paced stillRunning, Sweeper.period, run_interval]
    · rw [run_append]
      exact run_of_finished stopped post

open Sweeper in
/-- A sweeper made for every ten seconds has cleaned three times after 35
seconds. -/
theorem sweeper_cleans_on_schedule_every_ten_seconds :
    let service : Service := { lifetimeMicros := 60000000, store := {} }
    let w : Sweeper :=
      { service := service, clock := Clock.start, interval := 10000000000, due := 10000000000 }
    Sweeper.new service Clock.start ⟨10, 0⟩ = .ok w ∧
      (w.run [.sleep 35000000000]).finished = false ∧ (w.run [.sleep 35000000000]).sweeps = 3 :=
  have made : Sweeper.new { lifetimeMicros := 60000000, store := {} } Clock.start ⟨10, 0⟩ =
      .ok { service := { lifetimeMicros := 60000000, store := {} }, clock := Clock.start,
            interval := 10000000000, due := 10000000000 } := rfl
  have law := (sweeper_cleans_on_schedule _ _ _).2.1 _ made [.sleep 35000000000]
  have quiet : ¬ SignalledIn [.sleep 35000000000] :=
    fun sent => signalledIn_nil ((signalledIn_cons (.sleep 35000000000) nofun nofun _).mp sent)
  have running := Bool.eq_false_iff.mpr fun stopped => quiet (law.2.1.mp stopped)
  ⟨made, running, by rw [law.2.2.1 running, law.1]; decide⟩

/-- An interval beyond the horizon is not kept: a sweeper made for every
1 000 000 000 seconds has cleaned once after 30 years, although not one
interval has passed. -/
theorem long_interval_cleans_at_horizon :
    let service : Service := { lifetimeMicros := 60000000, store := {} }
    let d : Duration := ⟨1000000000, 0⟩
    let w : Sweeper :=
      { service := service, clock := Clock.start, interval := d.totalNanos, due := d.totalNanos }
    let v := w.run [.sleep 946080000000000000]
    Sweeper.new service Clock.start d = .ok w ∧ v.finished = false ∧
      v.elapsed = 946080000000000000 ∧ v.elapsed % d.totalNanos ≠ 0 ∧ v.sweeps = 1 ∧
      v.sweeps ≠ v.elapsed / d.totalNanos :=
  ⟨rfl, by decide, by decide, by decide, by decide, by decide⟩

end ChatRelay.Chat

import Mathlib.Tactic.SplitIfs
import ChatRelay.Chat.Message
import ChatRelay.Proofs.Time.Order

/-! A message's lifetime. Moving an instant is exact on its count of nanoseconds,
but the difference of two instants drops a leap second at the end of a day
when the move ends on the next one. -/
namespace ChatRelay.Time

namespace Delta

/-- A delta splits into whole seconds and a signed rest below a second, both
with the delta's sign. -/
theorem parts (l : Delta) :
    l.nanos = l.wholeSeconds * 1000000000 + l.subsecNanos ∧
    -1000000000 < l.subsecNanos ∧ l.subsecNanos < 1000000000 ∧
    (0 ≤ l.nanos → 0 ≤ l.subsecNanos) ∧ (l.nanos ≤ 0 → l.subsecNanos ≤ 0) := by
  unfold wholeSeconds subsecNanos
  by_cases sign : 0 ≤ l.nanos
  · rw [Int.tdiv_eq_ediv_of_nonneg sign, Int.tmod_eq_emod_of_nonneg sign]
    omega
  · obtain ⟨m, negative, positive⟩ : ∃ m : Int, l.nanos = -m ∧ 0 < m := ⟨-l.nanos, by omega, by omega⟩
    rw [negative, Int.neg_tdiv, Int.neg_tmod, Int.tdiv_eq_ediv_of_nonneg (by omega),
      Int.tmod_eq_emod_of_nonneg (by omega)]
    omega

end Delta

namespace Instant

/-- The instant on the count of nanoseconds since the epoch; an instant inside
a leap second shares its count with one of the second that follows. -/
def stamp (t : Instant) : Int := t.seconds * 1000000000 + t.nanos

def leaps (t : Instant) : Prop := 1000000000 ≤ t.nanos

instance (t : Instant) : Decidable t.leaps := inferInstanceAs (Decidable (1000000000 ≤ t.nanos))

/-- A move that leaves any leap second lands on an ordinary instant, the count
moved by the delta, less one second when it leaves a leap second forward. -/
theorem shift_spec (t : Instant) (s f : Int) (small : -1000000000 < f ∧ f < 1000000000)
    (bounded : t.nanos < 2000000000) :
    0 ≤ (t.shift s f).2 ∧ (t.shift s f).2 < 1000000000 ∧
    (t.shift s f).1 * 1000000000 + (t.shift s f).2 = t.stamp + s * 1000000000 + f -
      (if (t.nanos : Int) ≥ 1000000000 ∧ (s > 0 ∨ (f > 0 ∧ (t.nanos : Int) ≥ 2000000000 - f))
        then 1000000000 else 0) := by
  unfold shift stamp
  -- the leap second is left forward, backward, or not at all; then the sum is carried
  by_cases leap : (t.nanos : Int) ≥ 1000000000 <;>
    by_cases forward : s > 0 ∨ (f > 0 ∧ (t.nanos : Int) ≥ 2000000000 - f) <;>
    by_cases backward : s < 0 <;>
    simp only [leap, forward, backward, and_self, and_false, false_and, if_true, if_false] <;>
    split_ifs <;> dsimp only <;> omega

section
variable {c e : Instant} {l : Delta}

theorem addDelta?_stays (leap : c.leaps) (near : -1000000000 < l.nanos)
    (inside : c.nanos + l.nanos < 2000000000) :
    c.addDelta? l = some ⟨c.seconds, (c.nanos + l.nanos).toNat⟩ := by
  obtain ⟨split, low, high, up, down⟩ := l.parts
  have whole : l.wholeSeconds = 0 := by unfold leaps at leap; omega
  have rest : l.subsecNanos = l.nanos := by omega
  unfold addDelta?
  rw [if_pos (by unfold leaps at leap; omega), rest]

/-- Every other move: the instant reached is ordinary, and its count is the
count moved by the delta, less one second for a leap second left forward. -/
theorem addDelta?_moves (bounded : c.nanos < 2000000000) (moved : c.addDelta? l = some e)
    (leaves : ¬ (c.leaps ∧ -1000000000 < l.nanos ∧ c.nanos + l.nanos < 2000000000)) :
    e.nanos < 1000000000 ∧
    e.stamp = c.stamp + l.nanos - (if c.leaps ∧ 2000000000 ≤ c.nanos + l.nanos then 1000000000 else 0) := by
  obtain ⟨split, low, high, up, down⟩ := l.parts
  unfold leaps at leaves ⊢
  unfold addDelta? at moved
  rw [if_neg (by omega)] at moved
  obtain ⟨zero, below, count⟩ := c.shift_spec l.wholeSeconds l.subsecNanos ⟨low, high⟩ bounded
  generalize c.shift l.wholeSeconds l.subsecNanos = r at zero below count moved
  obtain ⟨secs, frac⟩ := r
  dsimp only at moved zero below count
  split at moved
  · cases moved
    unfold stamp at count ⊢
    dsimp only
    rw [Int.toNat_of_nonneg zero]
    refine ⟨by omega, ?_⟩
    -- leaving forward is the same condition, said of the whole delta
    split_ifs at count ⊢ <;> omega
  · cases moved

theorem secondOfDay_eq (t : Instant) : (t.secondOfDay : Int) = t.seconds % 86400 :=
  Int.toNat_of_nonneg (Int.emod_nonneg _ (by decide))

/-- The difference of two instants on their counts, with the leap second that
one of them lies in counted when the other's time of day is past it. -/
theorem since_nanos (a b : Instant) :
    (a.since b).nanos = a.stamp - b.stamp +
      (if b.secondOfDay < a.secondOfDay ∧ b.leaps then 1000000000
       else if a.secondOfDay < b.secondOfDay ∧ a.leaps then -1000000000 else 0) := by
  unfold since stamp leaps nanosPerSecond
  split_ifs <;> dsimp only <;> omega

/-- The difference after a move is the delta, except across a leap second
whose time of day stands on the wrong side of the other instant's: one second
short when the move went forward to a time of day not past the leap second,
one second long when it went back to a time of day past it. -/
theorem since_addDelta (bounded : c.nanos < 2000000000) (moved : c.addDelta? l = some e) :
    (e.since c).nanos = l.nanos +
      (if c.leaps ∧ e.secondOfDay ≤ c.secondOfDay ∧ c.seconds < e.seconds then -1000000000
       else if c.leaps ∧ c.secondOfDay < e.secondOfDay ∧ e.seconds < c.seconds then 1000000000
       else 0) := by
  rw [since_nanos]
  by_cases stays : c.leaps ∧ -1000000000 < l.nanos ∧ c.nanos + l.nanos < 2000000000
  · obtain ⟨leap, near, inside⟩ := stays
    rw [addDelta?_stays leap near inside] at moved
    obtain rfl := Option.some.inj moved
    unfold leaps at leap
    -- the move keeps the second, so neither side of the leap second is crossed
    simp only [secondOfDay, stamp, Nat.lt_irrefl, Int.lt_irrefl, false_and, and_false, if_false]
    omega
  · obtain ⟨ordinary, count⟩ := addDelta?_moves bounded moved stays
    have clock := c.secondOfDay_eq
    have clock' := e.secondOfDay_eq
    unfold stamp leaps at *
    split_ifs at * <;> omega

theorem lt_addDelta_iff (bounded : c.nanos < 2000000000) (moved : c.addDelta? l = some e) :
    c < e ↔ 0 < l.nanos := by
  show c.seconds < e.seconds ∨ (c.seconds = e.seconds ∧ c.nanos < e.nanos) ↔ _
  by_cases stays : c.leaps ∧ -1000000000 < l.nanos ∧ c.nanos + l.nanos < 2000000000
  · obtain ⟨leap, near, inside⟩ := stays
    rw [addDelta?_stays leap near inside] at moved
    obtain rfl := Option.some.inj moved
    unfold leaps at leap
    simp only [Int.lt_irrefl, false_or, true_and]
    omega
  · obtain ⟨ordinary, count⟩ := addDelta?_moves bounded moved stays
    unfold stamp leaps at *
    split_ifs at count <;> omega

end

/-- Cutting an instant down to whole microseconds keeps it in its second, or
in its leap second, and moves it back by less than a microsecond. -/
theorem truncMicros_le (t : Instant) : t.truncMicros ≤ t := Or.inr ⟨rfl, Nat.sub_le _ _⟩

theorem since_truncMicros (t : Instant) : (t.since t.truncMicros).nanos = t.nanos % 1000 := by
  rw [since_nanos]
  simp only [truncMicros, secondOfDay, stamp, Nat.lt_irrefl, false_and, if_false]
  have := Nat.mod_le t.nanos 1000
  omega

theorem truncMicros_whole (t : Instant) : t.truncMicros.nanos % 1000 = 0 := by
  unfold truncMicros
  exact Nat.sub_mod_eq_zero_of_mod_eq (Nat.mod_mod _ _).symm

end Instant

end ChatRelay.Time

namespace ChatRelay.Chat

open Time

/-- The lifetime of every draft whose expiry is in range. It is created at the
reading cut down to whole microseconds: not after the reading, less than a
microsecond before it, and on a whole microsecond. Its expiry lies after its
creation exactly when the lifetime is positive, and the message it becomes has
expired from the expiry on and not before. The expiry minus the creation is
the lifetime whenever the draft is not created inside a leap second or expires
on the day it is created. -/
theorem draft_lifetime (username text : String) (now : Instant) (lifetime : Delta)
    (valid : now.isValid = true) (fits : (now.truncMicros.addDelta? lifetime).isSome) :
    ∃ d, Draft.create? username text now lifetime = some d ∧
      d.createdAt ≤ now ∧ 0 ≤ (now.since d.createdAt).nanos ∧ (now.since d.createdAt).nanos < 1000 ∧
      d.createdAt.nanos % 1000 = 0 ∧
      (d.createdAt.nanos < 1000000000 ∨ d.expiresAt.day = d.createdAt.day →
        d.expiresAt.since d.createdAt = lifetime) ∧
      (d.createdAt < d.expiresAt ↔ 0 < lifetime.nanos) ∧
      ∀ id t, (d.withId id).isExpiredAt t = !decide (t < d.expiresAt) := by
  obtain ⟨e, moved⟩ := Option.isSome_iff_exists.mp fits
  have bounded : now.truncMicros.nanos < 2000000000 := by
    simp only [Instant.isValid, Bool.and_eq_true, decide_eq_true_eq] at valid
    exact Nat.lt_of_le_of_lt (Nat.sub_le _ _) valid.1.2
  refine ⟨⟨username, text, now.truncMicros, e⟩, by simp [Draft.create?, moved], now.truncMicros_le,
    by rw [Instant.since_truncMicros]; omega, by rw [Instant.since_truncMicros]; omega,
    now.truncMicros_whole, fun exact => ?_, Instant.lt_addDelta_iff bounded moved, fun id t => ?_⟩
  · -- the correction of the difference needs a leap second left for another day
    dsimp only at exact ⊢
    have same : (e.since now.truncMicros).nanos = lifetime.nanos := by
      have clock := now.truncMicros.secondOfDay_eq
      have clock' := e.secondOfDay_eq
      rw [Instant.since_addDelta bounded moved]
      unfold Instant.leaps Instant.day at *
      split_ifs <;> omega
    cases lifetime
    exact congrArg Delta.mk same
  · simp [Message.isExpiredAt, Draft.withId, ← not_lt]

/-- The law for a draft written a tenth of a microsecond into the leap second
of 2015-06-30, to live for 0.3 s. -/
theorem draft_lifetime_in_leap_second :
    Instant.isValid ⟨1435708799, 1500000100⟩ = true ∧
    ((⟨1435708799, 1500000100⟩ : Instant).truncMicros.addDelta? ⟨300000000⟩).isSome ∧
    ∃ d, Draft.create? "alice" "hi" ⟨1435708799, 1500000100⟩ ⟨300000000⟩ = some d ∧
      d.createdAt ≤ ⟨1435708799, 1500000100⟩ ∧ 0 ≤ (Instant.since ⟨1435708799, 1500000100⟩ d.createdAt).nanos ∧
      (Instant.since ⟨1435708799, 1500000100⟩ d.createdAt).nanos < 1000 ∧
      d.createdAt.nanos % 1000 = 0 ∧
      (d.createdAt.nanos < 1000000000 ∨ d.expiresAt.day = d.createdAt.day →
        d.expiresAt.since d.createdAt = ⟨300000000⟩) ∧
      (d.createdAt < d.expiresAt ↔ 0 < (300000000 : Int)) ∧
      ∀ id t, (d.withId id).isExpiredAt t = !decide (t < d.expiresAt) :=
  ⟨by decide, by decide, draft_lifetime "alice" "hi" _ _ (by decide) (by decide)⟩

/-- A draft created inside the leap second at the end of 2015-06-30 to live one
second expires half a second into 2015-07-01, and the expiry minus the
creation is no time at all. -/
theorem lifetime_lost_at_leap_midnight :
    Draft.create? "u" "t" ⟨1435708799, 1500000000⟩ ⟨1000000000⟩ =
      some ⟨"u", "t", ⟨1435708799, 1500000000⟩, ⟨1435708800, 500000000⟩⟩ ∧
    Instant.since ⟨1435708800, 500000000⟩ ⟨1435708799, 1500000000⟩ = ⟨0⟩ := by
  decide

end ChatRelay.Chat

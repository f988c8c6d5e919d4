import Mathlib
import ChatRelay.Proofs.Chat.Lifetime
import ChatRelay.Proofs.Socket.ReadPump
import ChatRelay.Proofs.Store.Expiry

/-! The lifetimes the chat service accepts, the readings at which a message's expiry
exists, and what processing over the memory store keeps. -/
namespace ChatRelay.Time

theorem Duration.wholeMicros_eq (d : Duration) : d.wholeMicros = d.totalNanos / 1000 := by
  unfold wholeMicros totalNanos
  omega

namespace Instant

/-- The last instant of year 9999, where the four-digit years end. -/
def lastOfYear9999 : Instant := ⟨253402300799, 999999999⟩

theorem isValid_bounds {t : Instant} (valid : t.isValid = true) :
    minSeconds ≤ t.seconds ∧ t.seconds ≤ maxSeconds ∧ t.nanos < 2000000000 := by
  simp only [isValid, Bool.and_eq_true, decide_eq_true_eq] at valid
  exact ⟨valid.1.1.1, valid.1.1.2, valid.1.2⟩

/-- Up to the end of year 9999, the count of a reading cut down to whole
microseconds is at most that of the last whole microsecond of 9999, one second
more inside a leap second. -/
theorem stamp_truncMicros_le {now : Instant} (bounded : now.nanos < 2000000000) (early : now ≤ lastOfYear9999) :
    now.truncMicros.stamp ≤
      lastOfYear9999.truncMicros.stamp + (if now.truncMicros.leaps then 1000000000 else 0) := by
  revert early
  show now.seconds < 253402300799 ∨ (now.seconds = 253402300799 ∧ now.nanos ≤ 999999999) → _
  unfold stamp truncMicros leaps lastOfYear9999
  dsimp only
  split_ifs <;> omega

section
variable {c : Instant} {l : Delta}

/-- A move forward has a result exactly when the count moved by the delta stays
below the end of the last supported second, with one second more for a move
that starts inside a leap second. -/
theorem addDelta?_isSome_iff (bounded : c.nanos < 2000000000) (low : minSeconds ≤ c.seconds)
    (high : c.seconds ≤ maxSeconds) (forward : 0 < l.nanos) :
    (c.addDelta? l).isSome ↔
      c.stamp + l.nanos < (maxSeconds + 1) * 1000000000 + (if c.leaps then 1000000000 else 0) := by
  obtain ⟨split, subLow, subHigh, up, down⟩ := l.parts
  by_cases stays : c.leaps ∧ -1000000000 < l.nanos ∧ c.nanos + l.nanos < 2000000000
  · -- the leap second lies inside the range
    rw [addDelta?_stays stays.1 stays.2.1 stays.2.2, if_pos stays.1]
    simp only [Option.isSome_some, true_iff]
    unfold stamp
    omega
  · unfold addDelta?
    rw [if_neg (by unfold leaps at stays; omega)]
    obtain ⟨zero, below, count⟩ := c.shift_spec l.wholeSeconds l.subsecNanos ⟨subLow, subHigh⟩ bounded
    generalize c.shift l.wholeSeconds l.subsecNanos = r at zero below count
    obtain ⟨secs, frac⟩ := r
    dsimp only at zero below count ⊢
    unfold stamp leaps at *
    -- a forward move never falls below the range; it leaves a leap second it starts in
    split_ifs at count ⊢ <;> simp only [Option.isSome_some, Option.isSome_none, true_iff, Bool.false_eq_true,
      false_iff, not_lt] <;> omega

theorem addDelta?_whole {e : Instant} (bounded : c.nanos < 2000000000) (whole : c.nanos % 1000 = 0)
    (wholeDelta : l.nanos % 1000 = 0) (moved : c.addDelta? l = some e) : e.nanos % 1000 = 0 := by
  by_cases stays : c.leaps ∧ -1000000000 < l.nanos ∧ c.nanos + l.nanos < 2000000000
  · rw [addDelta?_stays stays.1 stays.2.1 stays.2.2] at moved
    obtain rfl := Option.some.inj moved
    show (c.nanos + l.nanos).toNat % 1000 = 0
    omega
  · obtain ⟨ordinary, count⟩ := addDelta?_moves bounded moved stays
    unfold stamp at count
    split_ifs at count <;> omega

end

end Instant

end ChatRelay.Time

namespace ChatRelay.Chat

open Store Time

theorem Draft.create?_eq_none_iff {u t : String} {now : Instant} {l : Delta} :
    Draft.create? u t now l = none ↔ now.truncMicros.addDelta? l = none := by
  simp [Draft.create?]

namespace Service

variable {store : Backend} {d : Duration} {v : Service} {id : Uuid} {u t : String} {now : Instant}

/-- The service is built exactly for a lifetime of one to 2^63 − 1 whole
microseconds, and holds it in microseconds over the store it was given. -/
theorem new_eq_ok_iff :
    Service.new store d = .ok v ↔
      (1 ≤ d.wholeMicros ∧ d.wholeMicros ≤ maxLifetimeMicros) ∧ v = ⟨d.wholeMicros, store, 0, 0⟩ := by
  unfold Service.new
  dsimp only
  split
  · next refused => simp only [reduceCtorEq, false_iff]; omega
  · next accepted =>
    simp only [Except.ok.injEq]
    exact ⟨fun built => ⟨by omega, built.symm⟩, fun ⟨_, built⟩ => built.symm⟩

theorem new_eq_error {e : ChatError} (refused : Service.new store d = .error e) : e = .invalidLifetime d := by
  unfold Service.new at refused
  dsimp only at refused
  split at refused
  · exact (Except.error.inj refused).symm
  · cases refused

theorem lifetime_nanos (v : Service) : v.lifetime.nanos = v.lifetimeMicros * 1000 := rfl

/-- Processing overflows exactly when the draft has no expiry. -/
theorem process_overflow_iff :
    (v.process id u t now).1 = .overflow ↔ Draft.create? u t now v.lifetime = none := by
  cases made : Draft.create? u t now v.lifetime with
  | none => simp [process_overflow made]
  | some draft =>
    cases saved : v.store.save id draft <;> simp [Service.process, made, saved]

/-- At a valid reading, processing overflows exactly when the creation's count
plus the lifetime reaches the end of the last supported second (one second
later for a creation inside a leap second). -/
theorem overflow_iff_count (v : Service) (positive : 0 < v.lifetimeMicros) (valid : now.isValid = true) :
    (v.process id u t now).1 = .overflow ↔
      (Instant.maxSeconds + 1) * 1000000000 + (if now.truncMicros.leaps then 1000000000 else 0) ≤
        now.truncMicros.stamp + v.lifetimeMicros * 1000 := by
  obtain ⟨low, high, bounded⟩ := Instant.isValid_bounds valid
  have fits := Instant.addDelta?_isSome_iff
    (show now.truncMicros.nanos < 2000000000 from Nat.lt_of_le_of_lt (Nat.sub_le _ _) bounded) low high
    (show 0 < v.lifetime.nanos by rw [lifetime_nanos]; omega)
  rw [process_overflow_iff, Draft.create?_eq_none_iff, ← Option.not_isSome_iff_eq_none, fits, lifetime_nanos]
  omega

end Service

/-- The longest lifetime, in microseconds, whose expiry exists at every reading
through the end of year 9999: from 9999-12-31T23:59:59.999999 to the end of the
last supported second, 7956864576000 s. -/
def longestSafeLifetimeMicros : Nat := 7956864576000000000

/-- The lifetimes under which no reading from 1970 through 9999 overflows. A
service built for `d` processes every message at every such reading without
overflowing exactly when `d` is at least one and at most 7956864576000000000
whole microseconds (7956864576000 s), well below the 2^63 − 1 microseconds the
service accepts. -/
theorem lifetime_fits_through_9999_iff (store : Backend) (d : Duration) :
    (∃ v, Service.new store d = .ok v ∧
      ∀ now : Instant, now.isValid = true → Instant.epoch ≤ now → now ≤ Instant.lastOfYear9999 →
        ∀ id u t, (v.process id u t now).1 ≠ .overflow) ↔
    1 ≤ d.wholeMicros ∧ d.wholeMicros ≤ longestSafeLifetimeMicros := by
  have maxSeconds : Instant.maxSeconds = 8210266876799 := rfl
  have lastStamp : Instant.lastOfYear9999.truncMicros.stamp = 253402300799999999000 := rfl
  unfold longestSafeLifetimeMicros
  constructor
  · rintro ⟨v, made, safe⟩
    obtain ⟨⟨positive, -⟩, rfl⟩ := Service.new_eq_ok_iff.mp made
    -- the last reading of 9999 is the one that decides
    have lastValid : Instant.lastOfYear9999.isValid = true := by decide
    have lastOrdinary : ¬ Instant.lastOfYear9999.truncMicros.leaps := by decide
    have last := safe Instant.lastOfYear9999 lastValid (by decide) le_rfl .nil "" ""
    rw [Ne, Service.overflow_iff_count ⟨d.wholeMicros, store, 0, 0⟩ positive lastValid, lastStamp,
      if_neg lastOrdinary, maxSeconds] at last
    dsimp only at last
    exact ⟨positive, by omega⟩
  · rintro ⟨positive, safe⟩
    have accepted : d.wholeMicros ≤ maxLifetimeMicros := by unfold maxLifetimeMicros; omega
    refine ⟨⟨d.wholeMicros, store, 0, 0⟩, Service.new_eq_ok_iff.mpr ⟨⟨positive, accepted⟩, rfl⟩,
      fun now valid _ early id u t => ?_⟩
    have before := Instant.stamp_truncMicros_le (Instant.isValid_bounds valid).2.2 early
    rw [Ne, Service.overflow_iff_count ⟨d.wholeMicros, store, 0, 0⟩ positive valid, maxSeconds]
    rw [lastStamp] at before
    dsimp only
    split_ifs at before ⊢ <;> omega

/-- Settings that pass validation and a service that accepts them may give
messages a lifetime of 8300000000000 s; a message processed on 2026-01-01 then
has no expiry. -/
theorem far_lifetime_overflows :
    Config.Settings.validate { chat := { messageLifetimeSeconds := 8300000000000 } } = none ∧
    Service.new {} (Duration.ofSeconds 8300000000000) = .ok ⟨8300000000000000000, {}, 0, 0⟩ ∧
    Clock.start.next.isValid = true ∧ Instant.epoch ≤ Clock.start.next ∧
    Clock.start.next ≤ Instant.lastOfYear9999 ∧
    (Service.process ⟨8300000000000000000, {}, 0, 0⟩ .nil "alice" "hi" Clock.start.next).1 = .overflow := by
  decide

/-- Messages processed over the memory store are kept intact. The service is
built exactly for lifetimes of one to 2^63 − 1 whole microseconds, refuses every
other one as an invalid lifetime, and holds the lifetime cut down to whole
microseconds. Processing a message whose expiry exists gives back the message
with the id drawn for it and the username and text as written; the store holds it, beside the entries it
held before, under the next save number; a history query as long as the store
returns it exactly at the instants before its expiry; and its creation and
expiry lie on whole microseconds, the expiry after the creation. -/
theorem service_keeps_messages (mem : MemoryStore) (d : Duration) :
    ((∃ v, Service.new { memory := mem } d = .ok v) ↔
      1 ≤ d.totalNanos / 1000 ∧ d.totalNanos / 1000 ≤ maxLifetimeMicros) ∧
    (∀ e, Service.new { memory := mem } d = .error e → e = .invalidLifetime d) ∧
    ∀ v, Service.new { memory := mem } d = .ok v →
      v.lifetime = Delta.ofMicros (d.totalNanos / 1000 : Nat) ∧
      ∀ (id : Uuid) (u t : String) (now : Instant), now.isValid = true →
        (now.truncMicros.addDelta? v.lifetime).isSome →
        ∃ m, (v.process id u t now).1 = .stored m ∧ m.id = id ∧ m.username = u ∧ m.text = t ∧
          (v.process id u t now).2.store.memory.entries.Perm (⟨mem.nextSeq, m⟩ :: mem.entries) ∧
          (∀ t', m ∈ (v.process id u t now).2.store.memory.findRecent
            (v.process id u t now).2.store.memory.size t' ↔ t' < m.expiresAt) ∧
          m.createdAt.nanos % 1000 = 0 ∧ m.expiresAt.nanos % 1000 = 0 ∧ m.createdAt < m.expiresAt := by
  rw [← d.wholeMicros_eq]
  refine ⟨⟨fun ⟨v, made⟩ => (Service.new_eq_ok_iff.mp made).1,
      fun accepted => ⟨_, Service.new_eq_ok_iff.mpr ⟨accepted, rfl⟩⟩⟩,
    fun e refused => Service.new_eq_error refused, fun v made => ?_⟩
  obtain ⟨⟨positive, -⟩, rfl⟩ := Service.new_eq_ok_iff.mp made
  refine ⟨by simp only [Service.lifetime], fun id u t now valid fits => ?_⟩
  obtain ⟨expiry, moved⟩ := Option.isSome_iff_exists.mp fits
  change now.truncMicros.addDelta? (Delta.ofMicros d.wholeMicros) = some expiry at moved
  have bounded : now.truncMicros.nanos < 2000000000 :=
    Nat.lt_of_le_of_lt (Nat.sub_le _ _) (Instant.isValid_bounds valid).2.2
  let draft : Draft := ⟨u, t, now.truncMicros, expiry⟩
  have made : Draft.create? u t now (Delta.ofMicros d.wholeMicros) = some draft := by
    simp [Draft.create?, moved, draft]
  let m := draft.withId id
  have saved := @Service.process_saved ⟨d.wholeMicros, { memory := mem }, 0, 0⟩ id u t now draft made rfl
  rw [saved]
  have held : (insertEntry ⟨mem.nextSeq, m⟩ mem.entries).Perm (⟨mem.nextSeq, m⟩ :: mem.entries) :=
    insertEntry_perm _ _
  have kept : (⟨mem.nextSeq, m⟩ : Entry) ∈ (mem.save id draft).2.entries := held.symm.subset List.mem_cons_self
  refine ⟨m, rfl, rfl, rfl, rfl, held, MemoryStore.mem_findRecent_size _ kept, now.truncMicros_whole, ?_, ?_⟩
  · exact Instant.addDelta?_whole bounded now.truncMicros_whole (by simp [Delta.ofMicros]) moved
  · exact (Instant.lt_addDelta_iff bounded moved).mpr (by simp [Delta.ofMicros]; omega)

/-- The longest lifetime the service accepts, 2^63 − 1 microseconds: a message
processed on 2026-01-01 has no expiry, and neither the store nor the counts
change. -/
theorem longest_lifetime_overflows :
    Service.new {} ⟨9223372036854, 775807000⟩ = .ok ⟨9223372036854775807, {}, 0, 0⟩ ∧
    Service.process ⟨9223372036854775807, {}, 0, 0⟩ .nil "alice" "hi" Clock.start.next =
      (.overflow, ⟨9223372036854775807, {}, 0, 0⟩) := by
  decide

end ChatRelay.Chat

import Mathlib
import ChatRelay.Proofs.Store.History

/-! Sweeping expired messages out of the memory store: a sweep removes exactly what
has expired, no query can tell it happened, and it commutes with a save. -/
namespace ChatRelay.Store

open Chat Time

namespace Entry

theorem live_iff_not_le (now : Instant) (e : Entry) :
    live now e = true ↔ ¬ e.message.expiresAt ≤ now := by
  simp [live, Message.isExpiredAt]

theorem live_iff (now : Instant) (e : Entry) : live now e = true ↔ now < e.message.expiresAt := by
  rw [live_iff_not_le, not_le]

theorem live_of_le {t now : Instant} (early : t ≤ now) {e : Entry} (alive : live now e = true) :
    live t e = true := by
  rw [live_iff_not_le] at alive ⊢
  exact fun gone => alive (le_trans gone early)

theorem live_max (t t' : Instant) (e : Entry) : (live t e && live t' e) = live (max t t') e := by
  rw [Bool.eq_iff_iff, Bool.and_eq_true, live_iff_not_le, live_iff_not_le, live_iff_not_le,
    le_max_iff, not_or]

end Entry

theorem filter_live_filter_live (l : List Entry) (t t' : Instant) :
    (l.filter (Entry.live t)).filter (Entry.live t') = l.filter (Entry.live (max t t')) := by
  rw [List.filter_filter]
  exact List.filter_congr fun e _ => by rw [Bool.and_comm, Entry.live_max]

theorem insertEntry_of_before {e : Entry} {l : List Entry} (first : ∀ x ∈ l, e.before x = true) :
    insertEntry e l = e :: l := by
  cases l with
  | nil => rfl
  | cons x xs => simp [insertEntry, first x List.mem_cons_self]

/-- On entries held in key order, keeping those that pass a test commutes with
inserting an entry that passes it. -/
theorem filter_insertEntry {p : Entry → Bool} {e : Entry} (pass : p e = true) {l : List Entry}
    (sorted : l.Pairwise fun a b => a.before b) : (insertEntry e l).filter p = insertEntry e (l.filter p) := by
  induction l with
  | nil => simp [insertEntry, pass]
  | cons x xs ih =>
    rw [List.pairwise_cons] at sorted
    by_cases first : e.before x = true
    · -- `e` goes in front of `x`, and so in front of whatever the test keeps
      rw [insertEntry, if_pos first, List.filter_cons_of_pos pass]
      by_cases kept : p x = true
      · rw [List.filter_cons_of_pos kept, insertEntry, if_pos first]
      · rw [List.filter_cons_of_neg kept]
        exact (insertEntry_of_before fun y mem =>
          Entry.before_trans first (sorted.1 y (List.mem_of_mem_filter mem))).symm
    · rw [insertEntry, if_neg first]
      by_cases kept : p x = true
      · rw [List.filter_cons_of_pos kept, List.filter_cons_of_pos kept, insertEntry, if_neg first, ih sorted.2]
      · rw [List.filter_cons_of_neg kept, List.filter_cons_of_neg kept, ih sorted.2]

namespace MemoryStore

variable (s : MemoryStore)

theorem deleteExpired_eq (t : Instant) :
    s.deleteExpired t = (s.entries.length - (s.entries.filter (Entry.live t)).length,
      { entries := s.entries.filter (Entry.live t), nextSeq := s.nextSeq }) := rfl

theorem deleteExpired_count (t : Instant) :
    (s.deleteExpired t).1 = s.entries.countP fun e => e.message.isExpiredAt t := by
  have whole : s.entries.length =
      (s.entries.filter fun e => e.message.isExpiredAt t).length + (s.entries.filter (Entry.live t)).length :=
    List.length_eq_length_filter_add _
  rw [deleteExpired_eq, List.countP_eq_length_filter]
  omega

theorem findRecent_eq (limit : Nat) (now : Instant) :
    s.findRecent limit now = (((s.entries.filter (Entry.live now)).map (·.message)).reverse).take limit := by
  rw [findRecent, newestFirst, List.filter_reverse, List.filter_map]
  rfl

/-- A query as long as the store returns a held message exactly while it has not expired. -/
theorem mem_findRecent_size {e : Entry} (held : e ∈ s.entries) (now : Instant) :
    e.message ∈ s.findRecent s.size now ↔ now < e.message.expiresAt := by
  rw [findRecent_eq, List.take_of_length_le (by simp [size, List.length_filter_le]), List.mem_reverse,
    List.mem_map]
  constructor
  · rintro ⟨x, kept, same⟩
    exact same ▸ (Entry.live_iff now x).mp (List.of_mem_filter kept)
  · intro alive
    exact ⟨e, List.mem_filter.mpr ⟨held, (Entry.live_iff now e).mpr alive⟩, rfl⟩

/-- A sweep at `t` is invisible to every history query at `t` or later. -/
theorem findRecent_deleteExpired {t now : Instant} (early : t ≤ now) (limit : Nat) :
    (s.deleteExpired t).2.findRecent limit now = s.findRecent limit now := by
  rw [findRecent_eq, findRecent_eq, deleteExpired_eq, List.filter_filter]
  congr 3
  exact List.filter_congr fun e _ => by
    cases alive : Entry.live now e
    · rfl
    · simp [Entry.live_of_le early alive]

/-- A second sweep no later than the first finds nothing and changes nothing. -/
theorem deleteExpired_again {t t' : Instant} (early : t' ≤ t) :
    (s.deleteExpired t).2.deleteExpired t' = (0, (s.deleteExpired t).2) := by
  have same : (s.entries.filter (Entry.live t)).filter (Entry.live t') = s.entries.filter (Entry.live t) :=
    List.filter_eq_self.mpr fun e mem => Entry.live_of_le early (List.of_mem_filter mem)
  simp only [deleteExpired_eq, same, Nat.sub_self]

/-- Two sweeps are one sweep at the later instant, and their counts add up to its count. -/
theorem deleteExpired_deleteExpired (t₁ t₂ : Instant) :
    ((s.deleteExpired t₁).2.deleteExpired t₂).2 = (s.deleteExpired (max t₁ t₂)).2 ∧
    (s.deleteExpired t₁).1 + ((s.deleteExpired t₁).2.deleteExpired t₂).1 =
      (s.deleteExpired (max t₁ t₂)).1 := by
  have both := filter_live_filter_live s.entries t₁ t₂
  have first := List.length_filter_le (Entry.live t₁) s.entries
  have second := List.length_filter_le (Entry.live t₂) (s.entries.filter (Entry.live t₁))
  rw [both] at second
  simp only [deleteExpired_eq, both, true_and]
  omega

/-- A save of a message live at `t` commutes with a sweep at `t` on a store
held in key order: the same id, the same count, the same store. -/
theorem save_deleteExpired (id : Uuid) {d : Draft} {t : Instant} (alive : t < d.expiresAt)
    (sorted : s.entries.Pairwise fun a b => a.before b) :
    (s.save id d).2.deleteExpired t = ((s.deleteExpired t).1, ((s.deleteExpired t).2.save id d).2) ∧
    (s.save id d).1 = ((s.deleteExpired t).2.save id d).1 := by
  let e : Entry := ⟨s.nextSeq, d.withId id⟩
  have pass : Entry.live t e = true := (Entry.live_iff t e).mpr alive
  have commute := filter_insertEntry pass sorted
  have grown : (insertEntry e s.entries).length = s.entries.length + 1 := (insertEntry_perm e _).length_eq
  have grownKept : (insertEntry e (s.entries.filter (Entry.live t))).length =
      (s.entries.filter (Entry.live t)).length + 1 := (insertEntry_perm e _).length_eq
  have saved : (s.save id d).2 = { entries := insertEntry e s.entries, nextSeq := s.nextSeq + 1 } := rfl
  have savedAfter : ((s.deleteExpired t).2.save id d).2 =
      { entries := insertEntry e (s.entries.filter (Entry.live t)), nextSeq := s.nextSeq + 1 } := rfl
  refine ⟨?_, rfl⟩
  rw [saved, savedAfter, deleteExpired_eq, deleteExpired_eq]
  simp only [commute, grown, grownKept, Nat.add_sub_add_right]

end MemoryStore

/-- A sweep removes exactly what has expired. For every store and instant `t`:
the sweep keeps, in their order and under their keys, exactly the entries whose
message expires after `t`, reports the number of those expiring at or before
`t`, and leaves the next save number alone; every history query at `t` or later
answers as before; a second sweep at or before `t` reports nothing and changes
nothing; and sweeps at `t₁` then `t₂` leave the store as one sweep at the later
of the two does, their counts adding up to its count. -/
theorem deleteExpired_exact (s : MemoryStore) (t : Instant) :
    (s.deleteExpired t).2.entries = s.entries.filter (fun e => !decide (e.message.expiresAt ≤ t)) ∧
    (s.deleteExpired t).1 = s.entries.countP (fun e => decide (e.message.expiresAt ≤ t)) ∧
    (s.deleteExpired t).2.nextSeq = s.nextSeq ∧
    (∀ now, t ≤ now → ∀ limit, (s.deleteExpired t).2.findRecent limit now = s.findRecent limit now) ∧
    (∀ t', t' ≤ t → (s.deleteExpired t).2.deleteExpired t' = (0, (s.deleteExpired t).2)) ∧
    ∀ t₁ t₂, ((s.deleteExpired t₁).2.deleteExpired t₂).2 = (s.deleteExpired (max t₁ t₂)).2 ∧
      (s.deleteExpired t₁).1 + ((s.deleteExpired t₁).2.deleteExpired t₂).1 =
        (s.deleteExpired (max t₁ t₂)).1 :=
  ⟨rfl, s.deleteExpired_count t, rfl, fun _ early limit => s.findRecent_deleteExpired early limit,
    fun _ early => s.deleteExpired_again early, s.deleteExpired_deleteExpired⟩

/-- Sweeps cannot be observed and do not race with saves. (a) On every store, a
sweep at `t` changes no history query at `t` or later. (b) On every store a run
of saves and sweeps reaches, saving a message that expires after `t` and
sweeping at `t` give the same id, the same count and the same store in either
order. -/
theorem sweeps_unobservable :
    (∀ (s : MemoryStore) (t now : Instant), t ≤ now → ∀ limit,
      (s.deleteExpired t).2.findRecent limit now = s.findRecent limit now) ∧
    ∀ (ops : List StoreOp) (id : Uuid) (d : Draft) (t : Instant), t < d.expiresAt →
      let s := (MemoryStore.empty.runOps ops).1
      (s.save id d).2.deleteExpired t = ((s.deleteExpired t).1, ((s.deleteExpired t).2.save id d).2) ∧
      (s.save id d).1 = ((s.deleteExpired t).2.save id d).1 := by
  refine ⟨fun s t now early limit => s.findRecent_deleteExpired early limit, fun ops id d t alive => ?_⟩
  exact MemoryStore.save_deleteExpired _ id alive (Holds.empty.runOps ops).sorted

end ChatRelay.Store

import Mathlib
import ChatRelay.Api.Router
import ChatRelay.Proofs.Time.Order

/-! The memory store's history: its contents are given by the operations alone
(`contents`), and a history query returns the newest unexpired ones. -/
namespace ChatRelay.Store

open Chat Time Api

namespace Entry

/-- A key comes before another: created earlier, or at the same instant and
saved earlier. -/
theorem before_iff (a b : Entry) : a.before b = true ↔
    a.message.createdAt.seconds < b.message.createdAt.seconds ∨
      (a.message.createdAt.seconds = b.message.createdAt.seconds ∧
        (a.message.createdAt.nanos < b.message.createdAt.nanos ∨
          (a.message.createdAt.nanos = b.message.createdAt.nanos ∧ a.seq < b.seq))) := by
  simp only [before, Bool.or_eq_true, Bool.and_eq_true, decide_eq_true_eq, Instant.lt_iff_parts,
    Instant.eq_iff_parts]
  omega

theorem before_asymm {a b : Entry} (ab : a.before b = true) : b.before a = false := by
  rw [← Bool.not_eq_true, before_iff]
  rw [before_iff] at ab
  omega

theorem before_trans {a b c : Entry} (ab : a.before b = true) (bc : b.before c = true) :
    a.before c = true := by
  rw [before_iff] at ab bc ⊢
  omega

/-- Entries saved under different numbers have different keys, one before the other. -/
theorem before_total {a b : Entry} (apart : a.seq ≠ b.seq) : a.before b = true ∨ b.before a = true := by
  rw [before_iff, before_iff]
  omega

def live (now : Instant) (e : Entry) : Bool := !e.message.isExpiredAt now

end Entry

theorem insertEntry_perm (e : Entry) (es : List Entry) : (insertEntry e es).Perm (e :: es) := by
  induction es with
  | nil => rfl
  | cons x xs ih =>
    unfold insertEntry
    split
    · rfl
    · exact (ih.cons x).trans (List.Perm.swap e x xs)

/-- Inserting an entry whose save number is new keeps the entries in key order. -/
theorem insertEntry_sorted {e : Entry} {es : List Entry} (sorted : es.Pairwise fun a b => a.before b)
    (fresh : ∀ x ∈ es, x.seq ≠ e.seq) : (insertEntry e es).Pairwise fun a b => a.before b := by
  induction es with
  | nil => simp [insertEntry]
  | cons x xs ih =>
    rw [List.pairwise_cons] at sorted
    unfold insertEntry
    split
    · rename_i first
      refine List.Pairwise.cons (fun y mem => ?_) (List.Pairwise.cons sorted.1 sorted.2)
      rcases List.mem_cons.mp mem with rfl | later
      · exact first
      · exact Entry.before_trans first (sorted.1 y later)
    · rename_i later
      refine List.Pairwise.cons (fun y mem => ?_) (ih sorted.2 fun y mem => fresh y (List.mem_cons_of_mem x mem))
      rcases List.mem_cons.mp ((insertEntry_perm e xs).subset mem) with rfl | old
      · have apart : x.seq ≠ y.seq := fresh x List.mem_cons_self
        exact (Entry.before_total apart).resolve_right later
      · exact sorted.1 y old

/-! ### Runs of operations -/

/-- What a client may do to the store. -/
inductive StoreOp where
  | save (id : Uuid) (d : Draft)
  | deleteExpired (now : Instant)
  deriving DecidableEq, Repr

def saves (ops : List StoreOp) : Nat :=
  (ops.filter fun | .save _ _ => true | .deleteExpired _ => false).length

@[simp] theorem saves_save (id : Uuid) (d : Draft) (ops : List StoreOp) :
    saves (.save id d :: ops) = saves ops + 1 := rfl

@[simp] theorem saves_deleteExpired (now : Instant) (ops : List StoreOp) :
    saves (.deleteExpired now :: ops) = saves ops := rfl

namespace MemoryStore

/-- Run operations on a store: the store after them, and the sum of the counts
the deletions returned. -/
def runOps : MemoryStore → List StoreOp → MemoryStore × Nat
  | s, [] => (s, 0)
  | s, .save id d :: ops => runOps (s.save id d).2 ops
  | s, .deleteExpired now :: ops =>
    let rest := runOps (s.deleteExpired now).2 ops
    (rest.1, (s.deleteExpired now).1 + rest.2)

end MemoryStore

/-- The store's contents as its history gives them, in save order: a save
appends its message under the next save number `n`, a deletion keeps the
messages that have not expired. -/
def contents : List Entry → Nat → List StoreOp → List Entry
  | c, _, [] => c
  | c, n, .save id d :: ops => contents (c ++ [⟨n, d.withId id⟩]) (n + 1) ops
  | c, n, .deleteExpired now :: ops => contents (c.filter (Entry.live now)) n ops

def byNewest (es : List Entry) : List Entry := es.mergeSort fun a b => !a.before b

/-- The reference answer to a history query on the contents `c`: the first
`limit` messages not expired at `now`, newest first. -/
def recent (c : List Entry) (limit : Nat) (now : Instant) : List Message :=
  ((byNewest (c.filter (Entry.live now))).map (·.message)).take limit

/-- The store holds the contents `c`, listed in save order: its entries are
those of `c`, held in key order, and every save number of `c` is below the next
one. -/
structure Holds (s : MemoryStore) (c : List Entry) : Prop where
  perm : s.entries.Perm c
  sorted : s.entries.Pairwise fun a b => a.before b
  saveOrder : c.Pairwise fun a b => a.seq < b.seq
  below : ∀ e ∈ c, e.seq < s.nextSeq

namespace Holds

variable {s : MemoryStore} {c : List Entry}

theorem empty : Holds MemoryStore.empty [] := ⟨.nil, .nil, .nil, by simp⟩

theorem save (holds : Holds s c) (id : Uuid) (d : Draft) :
    Holds (s.save id d).2 (c ++ [⟨s.nextSeq, d.withId id⟩]) where
  perm := (insertEntry_perm _ _).trans ((holds.perm.cons _).trans (List.perm_append_singleton _ _).symm)
  sorted := insertEntry_sorted holds.sorted fun x mem same =>
    Nat.lt_irrefl _ (same ▸ holds.below x (holds.perm.subset mem))
  saveOrder := List.pairwise_append.mpr
    ⟨holds.saveOrder, List.pairwise_singleton _ _, fun x mem y new => by
      rw [List.mem_singleton] at new
      exact new ▸ holds.below x mem⟩
  below e mem := by
    rcases List.mem_append.mp mem with old | new
    · exact Nat.lt_succ_of_lt (holds.below e old)
    · rw [List.mem_singleton] at new
      exact new ▸ Nat.lt_succ_self _

theorem deleteExpired (holds : Holds s c) (now : Instant) :
    Holds (s.deleteExpired now).2 (c.filter (Entry.live now)) where
  perm := holds.perm.filter _
  sorted := holds.sorted.filter _
  saveOrder := holds.saveOrder.filter _
  below e mem := holds.below e (List.mem_of_mem_filter mem)

/-- The store walks its entries from the last key back, so the unexpired ones
come out as the reference orders them. -/
theorem byNewest_eq (holds : Holds s c) (now : Instant) :
    byNewest (c.filter (Entry.live now)) = s.entries.reverse.filter (Entry.live now) := by
  have walked : (s.entries.reverse.filter (Entry.live now)).Pairwise fun a b => b.before a :=
    (List.pairwise_reverse.mpr holds.sorted).filter _
  have sorted : (byNewest (c.filter (Entry.live now))).Pairwise fun a b => (!a.before b) = true :=
    List.pairwise_mergeSort
      (fun a b d ab bd => by
        simp only [Bool.not_eq_eq_eq_not, Bool.not_true] at ab bd ⊢
        rw [← Bool.not_eq_true, Entry.before_iff] at ab bd ⊢
        omega)
      (fun a b => by
        cases ab : a.before b
        · rfl
        · simp [Entry.before_asymm ab])
      _
  -- two keys neither before the other are one save number, so one entry of `c`
  have unique : ∀ a b, a ∈ byNewest (c.filter (Entry.live now)) → b ∈ s.entries.reverse.filter (Entry.live now) →
      (!a.before b) = true → (!b.before a) = true → a = b := by
    intro a b ain bin ab ba
    have ac : a ∈ c := List.mem_of_mem_filter ((List.mergeSort_perm _ _).subset ain)
    have bc : b ∈ c := holds.perm.subset (List.mem_reverse.mp (List.mem_of_mem_filter bin))
    have same : a.seq = b.seq := by
      by_contra apart
      rcases Entry.before_total apart with ab' | ba' <;> simp_all
    exact List.inj_on_of_nodup_map (holds.saveOrder.imp Nat.ne_of_lt |> List.pairwise_map.mpr) ac bc same
  have held : (c.filter (Entry.live now)).Perm (s.entries.reverse.filter (Entry.live now)) :=
    (holds.perm.symm.trans (List.reverse_perm _).symm).filter _
  exact List.Perm.eq_of_pairwise unique sorted (walked.imp fun ba => by simp [Entry.before_asymm ba])
    ((List.mergeSort_perm _ _).trans held)

/-- The unexpired contents newest first go strictly from later keys to earlier
ones: no entry twice, and no two with one key. -/
theorem byNewest_strict (holds : Holds s c) (now : Instant) :
    (byNewest (c.filter (Entry.live now))).Pairwise fun a b => b.before a := by
  rw [holds.byNewest_eq now]
  exact (List.pairwise_reverse.mpr holds.sorted).filter _

/-- A store answers every history query with the reference answer of the
contents it holds. -/
theorem findRecent (holds : Holds s c) (limit : Nat) (now : Instant) :
    s.findRecent limit now = recent c limit now := by
  rw [recent, holds.byNewest_eq now, MemoryStore.findRecent, MemoryStore.newestFirst, ← List.map_reverse,
    List.filter_map]
  rfl

theorem runOps (holds : Holds s c) (ops : List StoreOp) :
    Holds (s.runOps ops).1 (contents c s.nextSeq ops) := by
  induction ops generalizing s c with
  | nil => exact holds
  | cons op ops ih =>
    cases op with
    | save id d => exact ih (holds.save id d)
    | deleteExpired now => exact ih (holds.deleteExpired now)

end Holds

/-- Cutting a list sorted by `R` skips an element only when the cut is full and
all it keeps comes before that element. -/
theorem take_skips {α : Type} {R : α → α → Prop} {l : List α} (sorted : l.Pairwise R) {e : α}
    (mem : e ∈ l) {k : Nat} (left : e ∉ l.take k) : (l.take k).length = k ∧ ∀ x ∈ l.take k, R x e := by
  have later : e ∈ l.drop k := by
    rw [← List.take_append_drop k l, List.mem_append] at mem
    exact mem.resolve_left left
  refine ⟨List.length_take_of_le ?_, fun x kept => ?_⟩
  · -- a cut past the end keeps everything, `e` with it
    by_contra short
    rw [List.drop_eq_nil_of_le (Nat.le_of_not_le short)] at later
    exact List.not_mem_nil later
  · rw [← List.take_append_drop k l] at sorted
    exact (List.pairwise_append.mp sorted).2.2 x kept e later

/-- Each save adds one entry and each deletion reports what it removes, so the
store's size is the number of saves less the counts the deletions returned. -/
theorem size_runOps (s : MemoryStore) (ops : List StoreOp) :
    (s.runOps ops).1.size + (s.runOps ops).2 = s.size + saves ops := by
  induction ops generalizing s with
  | nil => rfl
  | cons op ops ih =>
    cases op with
    | save id d =>
      have grown : (s.save id d).2.size = s.size + 1 := by
        simp [MemoryStore.size, MemoryStore.save, (insertEntry_perm _ _).length_eq]
      rw [MemoryStore.runOps, ih, grown, saves_save]
      omega
    | deleteExpired now =>
      have kept : (s.deleteExpired now).2.size + (s.deleteExpired now).1 = s.size := by
        simp only [MemoryStore.deleteExpired, MemoryStore.size]
        have := List.length_filter_le (fun e => !e.message.isExpiredAt now) s.entries
        omega
      have rest := ih (s.deleteExpired now).2
      simp only [MemoryStore.runOps, saves_deleteExpired]
      omega

end ChatRelay.Store

namespace ChatRelay.Api.App

open Store

/-- The history page asks the store for as many messages as the request names,
but never more than the configured page, and answers with them, or with the
store's failure. -/
theorem messages_of_limit (app : App) {query : Option String} {requested : Option Nat}
    (parsed : historyLimit query = .ok requested) :
    (app.messages query).1 =
      if app.service.store.outage.queries then
        errorResponse app.runMode (.chat (.query (.unavailable app.service.store.outage.reason)))
      else
        okJson (.array ((app.service.store.memory.findRecent
          (min (requested.getD app.settings.chat.historyPageSize) app.settings.chat.historyPageSize)
          app.clock.next).map Chat.Message.toJson)) := by
  cases down : app.service.store.outage.queries <;>
    simp [messages, parsed, now, Time.Clock.read, Chat.Service.recent, Backend.findRecent, down, Except.mapError]

end ChatRelay.Api.App

namespace ChatRelay.Store

open Chat Time Api

/-- The history of the memory store. After any saves and deletions, whatever
the creation and expiry instants of the saved messages: every query returns the
first `limit` unexpired messages of the contents the history gives, ordered
newest first with the later save first among messages created at one instant;
that order is strict, so no entry comes twice; a message is left out only when
`limit` messages were returned, all of them newer; a smaller limit returns a
prefix of what a larger one returns; the store's size is the number of saves
less the counts the deletions returned; and the history endpoint answers with
the reference answer for the request's limit cut to the page size, or with the
store's failure, so never with more than a page of messages. -/
theorem history_is_newest_first (ops : List StoreOp) :
    let run := MemoryStore.empty.runOps ops
    let c := contents [] 0 ops
    (∀ limit now, run.1.findRecent limit now = recent c limit now) ∧
    (∀ now, (byNewest (c.filter (Entry.live now))).Pairwise fun a b => b.before a) ∧
    (∀ limit now, ∀ e ∈ c.filter (Entry.live now), e ∉ (byNewest (c.filter (Entry.live now))).take limit →
      ((byNewest (c.filter (Entry.live now))).take limit).length = limit ∧
      ∀ x ∈ (byNewest (c.filter (Entry.live now))).take limit, e.before x) ∧
    (∀ k k' now, k ≤ k' → (recent c k now).IsPrefix (recent c k' now)) ∧
    run.1.size + run.2 = saves ops ∧
    ∀ (app : App) (query : Option String) (requested : Option Nat),
      app.service.store.memory = run.1 → historyLimit query = .ok requested →
      let page := app.settings.chat.historyPageSize
      let ms := recent c (min (requested.getD page) page) app.clock.next
      (app.messages query).1 =
        (if app.service.store.outage.queries then
          errorResponse app.runMode (.chat (.query (.unavailable app.service.store.outage.reason)))
        else okJson (.array (ms.map Message.toJson))) ∧
      ms.length ≤ page := by
  intro run c
  have holds : Holds run.1 c := Holds.empty.runOps ops
  refine ⟨holds.findRecent, holds.byNewest_strict, fun limit now e live left => ?_,
    fun k k' now le => List.take_isPrefix_take.mpr (.inl le), ?_,
    fun app query requested stored parsed => ?_⟩
  · have mem : e ∈ byNewest (c.filter (Entry.live now)) := (List.mergeSort_perm _ _).symm.subset live
    exact take_skips (holds.byNewest_strict now) mem left
  · exact (size_runOps MemoryStore.empty ops).trans (by simp [MemoryStore.size, MemoryStore.empty])
  · rw [App.messages_of_limit app parsed, stored, holds.findRecent]
    exact ⟨rfl, (List.length_take_le _ _).trans (Nat.min_le_right _ _)⟩

/- Two messages created at one instant come back the later save first, and one
that has expired is skipped. -/
example :
    ((MemoryStore.empty.runOps [.save .nil ⟨"a", "first", ⟨100, 0⟩, ⟨200, 0⟩⟩,
      .save .nil ⟨"a", "second", ⟨100, 0⟩, ⟨200, 0⟩⟩, .save .nil ⟨"a", "gone", ⟨150, 0⟩, ⟨120, 0⟩⟩]).1.findRecent 5
      ⟨130, 0⟩).map (·.text) = ["second", "first"] := by
  decide

end ChatRelay.Store

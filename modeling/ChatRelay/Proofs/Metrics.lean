import Mathlib.Data.String.Basic
import ChatRelay.Api.Router

/-! What a scrape reads from the metrics endpoint: the first registered family of a
name, so the service's families read as the counts behind them. -/
namespace ChatRelay.Metrics

/-- The value a scrape reads from the family it found: its first sample's, or
zero when it found none. -/
def reading : Option Family → Float
  | some f => (f.samples.head?.map (·.value)).getD 0
  | none => 0

/-- What a scrape reads for the family `name` in what was gathered. -/
def valueOf (families : List Family) (name : String) : Float :=
  reading ((gather families).find? (·.name == name))

@[simp] theorem counter_name (n h : String) (v : Nat) : (counter n h v).name = n := rfl
@[simp] theorem gauge_name (n h : String) (v : Nat) : (gauge n h v).name = n := rfl
@[simp] theorem counterVec_name (n h l : String) (c : List (String × Nat)) : (counterVec n h l c).name = n := rfl
@[simp] theorem histogram_name (n h : String) (b o : List Float) : (histogram n h b o).name = n := rfl
@[simp] theorem counter_samples (n h : String) (v : Nat) : (counter n h v).samples = [{ value := Float.ofNat v }] := rfl
@[simp] theorem gauge_samples (n h : String) (v : Nat) : (gauge n h v).samples = [{ value := Float.ofNat v }] := rfl

abbrev byName (a b : Family) : Bool := decide (a.name ≤ b.name)

theorem byName_trans (a b c : Family) : byName a b → byName b c → byName a c := by
  simpa using le_trans

theorem byName_total (a b : Family) : byName a b || byName b a := by
  simpa using le_total a.name b.name

theorem gather_sorted (fs : List Family) : (gather fs).Pairwise fun a b => a.name ≤ b.name := by
  have sorted : (gather fs).Pairwise (byName · ·) := List.pairwise_mergeSort byName_trans byName_total _
  simpa using sorted

@[simp] theorem mem_gather {f : Family} {fs : List Family} : f ∈ gather fs ↔ f ∈ fs ∧ f.samples ≠ [] := by
  simp [gather]

/-- The families of one name are gathered in the order they were registered. -/
theorem filter_gather (fs : List Family) (n : String) :
    (gather fs).filter (·.name == n) = fs.filter fun f => f.name == n && !f.samples.isEmpty := by
  let kept := fs.filter fun f => !f.samples.isEmpty
  -- the families named `n` are equal in the sort's order, and the sort is stable
  have named : (kept.filter (·.name == n)).Pairwise (byName · ·) :=
    List.pairwise_of_forall_mem_list fun a ha b hb => by simp_all
  have stable : (kept.filter (·.name == n)).Sublist (gather fs) :=
    List.sublist_mergeSort byName_trans byName_total named List.filter_sublist
  have again : (kept.filter (·.name == n)).filter (·.name == n) = kept.filter (·.name == n) := by simp
  have sub := stable.filter (·.name == n)
  rw [again] at sub
  have same := sub.eq_of_length ((List.mergeSort_perm _ _).filter _).length_eq.symm
  rw [← same, List.filter_filter]

theorem find?_gather (fs : List Family) (n : String) :
    (gather fs).find? (·.name == n) = fs.find? fun f => f.name == n && !f.samples.isEmpty := by
  rw [← List.head?_filter, filter_gather, List.head?_filter]

/-- A counter registered at its first increment reads its count either way. -/
theorem reading_once {n : Nat} {f : Family} (sample : f.samples = [{ value := Float.ofNat n }]) :
    reading (if 0 < n then some f else none) = Float.ofNat n := by
  split
  · simp [reading, sample]
  · rename_i zero
    rw [Nat.eq_zero_of_not_pos zero]
    rfl

end ChatRelay.Metrics

namespace ChatRelay.Api

open Metrics Hub

/-- A scrape reads each of the service's counters as the count behind it: the
gauge as the active sessions, the stored and dropped messages as the chat
service counted them, and the hub's broadcasts, frames and evictions as the hub
counted them, frames being delivered only by broadcasts. -/
theorem valueOf_families (active persisted dropped : Nat) (hub : Registry) (a : Activity)
    (quiet : hub.broadcasts = 0 → hub.framesDelivered = 0) :
    let fs := families active persisted dropped hub a
    valueOf fs "ara_chat_sessions_active" = Float.ofNat active ∧
    valueOf fs "ara_chat_messages_persisted_total" = Float.ofNat persisted ∧
    valueOf fs "ara_chat_messages_dropped_total" = Float.ofNat dropped ∧
    valueOf fs "ara_chat_broadcasts_total" = Float.ofNat hub.broadcasts ∧
    valueOf fs "ara_chat_frames_delivered_total" = Float.ofNat hub.framesDelivered ∧
    valueOf fs "ara_chat_sessions_evicted_total" = Float.ofNat hub.evictions := by
  simp only [valueOf, find?_gather]
  simp [families, counterOnce, activeGauge, broadcastsCounter, framesCounter, evictedCounter,
    apply_ite (List.find? _)]
  refine ⟨by simp [reading], reading_once rfl, reading_once rfl, reading_once rfl, ?_, reading_once rfl⟩
  -- the frames counter registers with the first broadcast, before which no frame went out
  by_cases some : 0 < hub.broadcasts
  · simp [reading, some]
  · rw [if_neg some, quiet (Nat.eq_zero_of_not_pos some)]
    rfl

/-- While the hub runs, the gauge is set from its report: the registry size. -/
theorem App.families_of_running {app : App} (running : app.hub.running = true) :
    app.families = Api.families app.hub.hub.members.length app.service.persisted app.service.dropped app.hub.hub
      app.activity := by
  simp [App.families, Switchboard.stats, running, Registry.stats]

end ChatRelay.Api

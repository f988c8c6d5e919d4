import Mathlib
import ChatRelay.Socket.Pump
import ChatRelay.Proofs.Hub.Registry
import ChatRelay.Proofs.Store.History

/-! The read pump stores before it publishes, whatever the store does between
frames. `Ledger` says what processing a run of texts did to the pump's state. -/
namespace ChatRelay.Chat

open Store Time

namespace Service

variable {v : Service} {id : Uuid} {u t : String} {now : Instant} {d : Draft}

theorem process_overflow (made : Draft.create? u t now v.lifetime = none) :
    v.process id u t now = (.overflow, v) := by
  simp [Service.process, made]

theorem process_saved (made : Draft.create? u t now v.lifetime = some d)
    (up : v.store.outage.saves = false) :
    v.process id u t now =
      (.stored (d.withId id),
        { v with store := { v.store with memory := (v.store.memory.save id d).2 }, persisted := v.persisted + 1 }) := by
  simp [Service.process, made, Backend.save, up, MemoryStore.save]

theorem process_dropped (made : Draft.create? u t now v.lifetime = some d)
    (down : v.store.outage.saves = true) :
    v.process id u t now = (.failed (.persistence (.unavailable v.store.outage.reason)), { v with dropped := v.dropped + 1 }) := by
  simp [Service.process, made, Backend.save, down]

end Service

theorem Draft.create?_fields {u t : String} {now : Instant} {l : Delta} {d : Draft}
    (made : Draft.create? u t now l = some d) : d.username = u ∧ d.text = t := by
  obtain ⟨e, -, rfl⟩ := Option.map_eq_some_iff.mp made
  exact ⟨rfl, rfl⟩

end ChatRelay.Chat

namespace ChatRelay.Socket

open Chat Hub Api Store Time Config

/-- A frame that ends the read loop by itself: a close frame or a read error. -/
def Inbound.ends : Inbound → Bool
  | .close | .failure => true
  | _ => false

def Inbound.text? : Inbound → Option String
  | .text t => some t
  | _ => none

namespace Reading

/-- The pump's state with the store failing as `o` says. -/
def under (r : Reading) (o : Outage) : Reading :=
  { r with app := { r.app with service := { r.app.service with store := { r.app.service.store with outage := o } } } }

/-- The pump's state once it has counted a text frame and read the clock for it. -/
def took (r : Reading) : Reading := { r with app := r.app.now.2, received := r.received + 1 }

/-- A message written at the clock's next reading would expire outside the
supported range of instants. -/
def overflows (r : Reading) : Prop :=
  r.app.clock.next.truncMicros.addDelta? r.app.service.lifetime = none

end Reading

/-- The read pump while the store's availability changes under it: each frame
is taken while the store fails as the outage beside it says. -/
def readPumpUnder (s : Session) : List (Outage × Inbound) → Reading → Reading × ReadEnd
  | [], r => (r.leave s.id, .ended)
  | (o, f) :: rest, r =>
    match readFrame s (r.under o) f with
    | .inl r => readPumpUnder s rest r
    | .inr stop => stop

/-- The texts of the frames before the first close frame or read error, each
with the store's state when it came. -/
def texts (steps : List (Outage × Inbound)) : List (Outage × String) :=
  (steps.takeWhile fun p => !p.2.ends).filterMap fun p => p.2.text?.map (p.1, ·)

/-- How the frames run out: at a close frame, at a read error, or at the end of
the stream. -/
def runOut (steps : List (Outage × Inbound)) : ReadEnd :=
  match steps.find? (·.2.ends) with
  | some (_, .close) => .closed
  | some _ => .failed
  | none => .ended

/-- Entries for messages saved one after another from save number `n` on. -/
def numbered : Nat → List Message → List Entry
  | _, [] => []
  | n, m :: ms => ⟨n, m⟩ :: numbered (n + 1) ms

theorem numbered_append (n : Nat) (ms ms' : List Message) :
    numbered n (ms ++ ms') = numbered n ms ++ numbered (n + ms.length) ms' := by
  induction ms generalizing n with
  | nil => rfl
  | cons m ms ih => simp [numbered, ih, Nat.add_assoc, Nat.add_comm 1]

/-! ### The ledger of a run of texts -/

/-- What processing the texts `calls` took the read pump of `s` from `r` to
`r'`, the store saving `saved` for them: one count for each text; the saved
messages are the session user's texts that came while the store took saves, in
order, and the store gained exactly them, under the next save numbers; each
other text was counted as dropped; and the hub was asked to broadcast the saved
messages in turn and nothing else. -/
structure Ledger (s : Session) (r r' : Reading) (calls : List (Outage × String))
    (saved : List Message) : Prop where
  received : r'.received = r.received + calls.length
  texts : saved.map (·.text) = (calls.filter fun c => !c.1.saves).map (·.2)
  users : ∀ m ∈ saved, m.username = s.username
  entries : r'.app.service.store.memory.entries.Perm
    (r.app.service.store.memory.entries ++ numbered r.app.service.store.memory.nextSeq saved)
  nextSeq : r'.app.service.store.memory.nextSeq = r.app.service.store.memory.nextSeq + saved.length
  persisted : r'.app.service.persisted = r.app.service.persisted + saved.length
  dropped : r'.app.service.dropped = r.app.service.dropped + (calls.filter (·.1.saves)).length
  lifetime : r'.app.service.lifetimeMicros = r.app.service.lifetimeMicros
  hub : r'.app.hub = saved.foldl (fun b m => (b.broadcast m).2) r.app.hub
  published : r'.published = r.published ++ if r.app.hub.running then saved else []

namespace Ledger

variable {s : Session} {r r' r'' : Reading} {calls calls' : List (Outage × String)}
  {saved saved' : List Message}

theorem refl (s : Session) (r : Reading) : Ledger s r r [] [] where
  received := rfl
  texts := rfl
  users := by simp
  entries := by simp [numbered]
  nextSeq := rfl
  persisted := rfl
  dropped := rfl
  lifetime := rfl
  hub := rfl
  published := by simp

theorem of_under {o : Outage} (l : Ledger s (r.under o) r' calls saved) : Ledger s r r' calls saved :=
  ⟨l.received, l.texts, l.users, l.entries, l.nextSeq, l.persisted, l.dropped, l.lifetime, l.hub,
    l.published⟩

theorem under (o : Outage) (l : Ledger s r r' calls saved) : Ledger s r (r'.under o) calls saved :=
  ⟨l.received, l.texts, l.users, l.entries, l.nextSeq, l.persisted, l.dropped, l.lifetime, l.hub,
    l.published⟩

theorem trans (l : Ledger s r r' calls saved) (l' : Ledger s r' r'' calls' saved') :
    Ledger s r r'' (calls ++ calls') (saved ++ saved') where
  received := by rw [l'.received, l.received, List.length_append, Nat.add_assoc]
  texts := by rw [List.map_append, l.texts, l'.texts, List.filter_append, List.map_append]
  users m mem := (List.mem_append.mp mem).elim (l.users m) (l'.users m)
  entries := by
    have chained := l'.entries.trans (l.entries.append_right _)
    rwa [List.append_assoc, l.nextSeq, ← numbered_append] at chained
  nextSeq := by rw [l'.nextSeq, l.nextSeq, List.length_append, Nat.add_assoc]
  persisted := by rw [l'.persisted, l.persisted, List.length_append, Nat.add_assoc]
  dropped := by rw [l'.dropped, l.dropped, List.filter_append, List.length_append, Nat.add_assoc]
  lifetime := l'.lifetime.trans l.lifetime
  hub := by rw [l'.hub, l.hub, List.foldl_append]
  published := by
    have running : r'.app.hub.running = r.app.hub.running := by
      rw [l.hub, Switchboard.broadcasts_running]
    rw [l'.published, l.published, running]
    split <;> simp

theorem counted (l : Ledger s r r' calls saved) :
    r'.received + r.app.service.persisted + r.app.service.dropped =
      r.received + r'.app.service.persisted + r'.app.service.dropped := by
  have split := List.length_eq_length_filter_add (l := calls) fun c => !c.1.saves
  have stored := congrArg List.length l.texts
  simp only [List.length_map, Bool.not_not] at split stored
  rw [l.received, l.persisted, l.dropped]
  omega

/-- Every frame now queued anywhere was queued there before, or is the wire
form of a message the store saved. -/
theorem queued (l : Ledger s r r' calls saved) (k : QueueId) :
    r'.app.hub.hub.queues.queued k ⊆ r.app.hub.hub.queues.queued k ++ saved.map Message.wire := by
  rw [l.hub]
  exact Switchboard.queued_broadcasts saved r.app.hub k

end Ledger

/-! ### One frame -/

/-- What a text frame does: the pump stops on an expiry outside the range, or
it processes the text, the store saving it if it takes saves; a saved message
goes to the hub, and a hub that has stopped refuses it, which stops the pump. -/
theorem readFrame_text (s : Session) (r : Reading) (t : String) :
    (r.overflows ∧ readFrame s r (.text t) = .inr (r.took, .crashed)) ∨
    ∃ r' saved, Ledger s r r' [(r.app.service.store.outage, t)] saved ∧
      r'.app.service.store.outage = r.app.service.store.outage ∧
      if r.app.hub.running = false ∧ saved ≠ [] then readFrame s r (.text t) = .inr (r'.leave s.id, .refused)
      else readFrame s r (.text t) = .inl r' := by
  cases made : Draft.create? s.username t r.app.clock.next r.app.service.lifetime with
  | none =>
    refine .inl ⟨?_, ?_⟩
    · simpa [Reading.overflows, Draft.create?] using made
    · simp only [readFrame, App.now, Clock.read, Service.process_overflow made]
      rfl
  | some d =>
    right
    obtain ⟨user, text⟩ := Draft.create?_fields made
    cases up : r.app.service.store.outage.saves
    · -- the store saves the draft under its next save number and the hub gets it
      let m := d.withId r.app.ids.next.1
      let service := { r.app.service with
        store := { r.app.service.store with memory := (r.app.service.store.memory.save r.app.ids.next.1 d).2 }
        persisted := r.app.service.persisted + 1 }
      refine ⟨{ r.took with
          app := { r.took.app with service := service, hub := (r.app.hub.broadcast m).2, ids := r.app.ids.next.2 }
          published := r.published ++ if r.app.hub.running then [m] else [] }, [m], ?_, rfl, ?_⟩
      · exact {
          received := rfl
          texts := by simp [m, Draft.withId, text, up]
          users := by simp [m, Draft.withId, user]
          entries := (insertEntry_perm _ _).trans (List.perm_append_singleton _ _).symm
          nextSeq := rfl
          persisted := rfl
          dropped := by simp [up, service]
          lifetime := rfl
          hub := rfl
          published := rfl }
      · cases running : r.app.hub.running
        · simp only [readFrame, App.now, Clock.read, Service.process_saved made up, Switchboard.broadcast, running,
            Bool.false_eq_true, ↓reduceIte, List.append_nil]
          rfl
        · simp only [readFrame, App.now, Clock.read, Service.process_saved made up, Switchboard.broadcast, running,
            ↓reduceIte]
          rfl
    · -- the store is down: the text is counted as dropped and the session stays
      refine ⟨{ r.took with
          app := { r.took.app with service := { r.app.service with dropped := r.app.service.dropped + 1 } } },
        [], ?_, rfl, ?_⟩
      · exact {
          received := rfl
          texts := by simp [up]
          users := by simp
          entries := by simp [numbered]
          nextSeq := rfl
          persisted := rfl
          dropped := by simp [up]
          lifetime := rfl
          hub := rfl
          published := by simp [Reading.took] }
      · rw [if_neg fun refused => refused.2 rfl]
        simp only [readFrame, App.now, Clock.read, Service.process_dropped made up]
        rfl

theorem readFrame_binary (s : Session) (r : Reading) (d : List UInt8) : readFrame s r (.binary d) = .inl r := rfl

theorem readFrame_ping (s : Session) (r : Reading) : readFrame s r .ping = .inl r := rfl

theorem readFrame_pong (s : Session) (r : Reading) : readFrame s r .pong = .inl r := rfl

/-! ### A whole run -/

theorem texts_cons (o : Outage) (f : Inbound) (rest : List (Outage × Inbound)) :
    texts ((o, f) :: rest) = if f.ends then [] else (f.text?.map (o, ·)).toList ++ texts rest := by
  by_cases stop : f.ends
  · simp [texts, stop]
  · cases found : f.text? <;> simp [texts, stop, found]

theorem runOut_cons (o : Outage) (f : Inbound) (rest : List (Outage × Inbound)) :
    runOut ((o, f) :: rest) = if f.ends then (if f = .close then .closed else .failed) else runOut rest := by
  cases f <;> simp [runOut, Inbound.ends]

/-- How a run that processed the first `k` of its texts, reaching `mid` with
`saved` stored, came to `result`: it ran out of frames with every text
processed and asked the hub to forget the session; or a stopped hub refused a
saved message, and it asked the hub to forget the session; or the next text's
expiry was out of range, and it stopped there with that text counted. -/
def Ends (s : Session) (steps : List (Outage × Inbound)) (r : Reading) (k : Nat) (mid : Reading)
    (saved : List Message) (result : Reading × ReadEnd) : Prop :=
  (result = (mid.leave s.id, runOut steps) ∧ k = (texts steps).length) ∨
  (result = (mid.leave s.id, .refused) ∧ r.app.hub.running = false ∧ saved ≠ []) ∨
  (result = (mid.took, .crashed) ∧ k < (texts steps).length ∧ mid.overflows)

/-- The run, frame by frame: the ledger of the texts processed, and how the
run ended. -/
theorem readPumpUnder_run (s : Session) (steps : List (Outage × Inbound)) (r : Reading) :
    ∃ k ≤ (texts steps).length, ∃ mid saved,
      Ledger s r mid ((texts steps).take k) saved ∧ Ends s steps r k mid saved (readPumpUnder s steps r) := by
  induction steps generalizing r with
  | nil => exact ⟨0, le_rfl, r, [], Ledger.refl s r, .inl ⟨rfl, rfl⟩⟩
  | cons step rest ih =>
    obtain ⟨o, f⟩ := step
    -- a frame the pump skips leaves everything but the store's availability as it was
    have skip (f : Inbound) (skips : ∀ r, readFrame s r f = .inl r) (stays : f.ends = false)
        (silent : f.text? = none) :
        ∃ k ≤ (texts ((o, f) :: rest)).length, ∃ mid saved,
          Ledger s r mid ((texts ((o, f) :: rest)).take k) saved ∧
          Ends s ((o, f) :: rest) r k mid saved (readPumpUnder s ((o, f) :: rest) r) := by
      have same : texts ((o, f) :: rest) = texts rest := by simp [texts_cons, stays, silent]
      have out : runOut ((o, f) :: rest) = runOut rest := by simp [runOut_cons, stays]
      have step : readPumpUnder s ((o, f) :: rest) r = readPumpUnder s rest (r.under o) := by
        simp [readPumpUnder, skips]
      obtain ⟨k, hk, mid, saved, l, ends⟩ := ih (r.under o)
      rw [same, step]
      refine ⟨k, hk, mid, saved, l.of_under, ?_⟩
      unfold Ends at ends ⊢
      rw [same, out]
      exact ends
    cases f with
    | close =>
      refine ⟨0, Nat.zero_le _, r.under o, [], (Ledger.refl s r).under o, .inl ⟨rfl, ?_⟩⟩
      simp [texts_cons, Inbound.ends]
    | failure =>
      refine ⟨0, Nat.zero_le _, r.under o, [], (Ledger.refl s r).under o, .inl ⟨rfl, ?_⟩⟩
      simp [texts_cons, Inbound.ends]
    | binary d => exact skip _ (readFrame_binary s · d) rfl rfl
    | ping => exact skip _ (readFrame_ping s) rfl rfl
    | pong => exact skip _ (readFrame_pong s) rfl rfl
    | text t =>
      have T : texts ((o, .text t) :: rest) = (o, t) :: texts rest := by
        simp [texts_cons, Inbound.ends, Inbound.text?]
      have out : runOut ((o, .text t) :: rest) = runOut rest := by simp [runOut_cons, Inbound.ends]
      rcases readFrame_text s (r.under o) t with ⟨beyond, crashed⟩ | ⟨r1, saved1, l1, -, next⟩
      · -- the text's expiry is out of range
        refine ⟨0, Nat.zero_le _, r.under o, [], (Ledger.refl s r).under o, .inr (.inr ⟨?_, ?_, beyond⟩)⟩
        · simp [readPumpUnder, crashed]
        · simp [T]
      · split at next
        · -- a stopped hub refused the saved text
          rename_i refused
          refine ⟨1, by simp [T], r1, saved1, by rw [T]; exact l1.of_under, .inr (.inl ⟨?_, refused⟩)⟩
          simp [readPumpUnder, next]
        · -- the text is processed and the run goes on
          obtain ⟨k, hk, mid, saved, l, ends⟩ := ih r1
          refine ⟨k + 1, by simpa [T] using hk, mid, saved1 ++ saved, by rw [T]; exact l1.of_under.trans l, ?_⟩
          have step : readPumpUnder s ((o, .text t) :: rest) r = readPumpUnder s rest r1 := by
            simp [readPumpUnder, next]
          have running : r1.app.hub.running = r.app.hub.running := by
            rw [l1.hub, Switchboard.broadcasts_running]
            rfl
          rw [step]
          rcases ends with ⟨done, all⟩ | ⟨done, stopped, some⟩ | ⟨done, short, beyond⟩
          · exact .inl ⟨by rw [done, out], by simp [T, all]⟩
          · exact .inr (.inl ⟨done, running ▸ stopped, by simp [some]⟩)
          · exact .inr (.inr ⟨done, by simp [T, short], beyond⟩)

theorem runOut_ne_crashed (steps : List (Outage × Inbound)) : runOut steps ≠ .crashed := by
  unfold runOut
  split <;> simp

/-- The read pump stores before it publishes. Whatever frames come and however
the store's availability changes between them, the pump processes, in order,
the texts before the first close frame or read error and no other frame; the
ledger `mid` of the first `k` of them tells what that did: one count for each
text, each text that came while the store took saves stored as a message of the
session's user under the next save number and handed to the hub in turn, and
each other text counted as dropped. The pump stops before the last of those
texts only where a stopped hub refused a saved message, or at a text whose
expiry falls outside the range of instants; in that case alone it counts the
text as neither stored nor dropped and does not ask the hub to forget the
session. Every frame queued anywhere afterwards was queued there before, or is
the wire form of a message the store saved. -/
theorem read_pump_stores_before_publishing (s : Session) (steps : List (Outage × Inbound)) (r : Reading) :
    let run := readPumpUnder s steps r
    ∃ k ≤ (texts steps).length, ∃ mid saved,
      Ledger s r mid ((texts steps).take k) saved ∧ Ends s steps r k mid saved run ∧
      run.1.received + r.app.service.persisted + r.app.service.dropped =
        r.received + run.1.app.service.persisted + run.1.app.service.dropped +
          (if run.2 = .crashed then 1 else 0) ∧
      ∀ q, run.1.app.hub.hub.queues.queued q ⊆ r.app.hub.hub.queues.queued q ++ saved.map Message.wire := by
  obtain ⟨k, hk, mid, saved, l, ends⟩ := readPumpUnder_run s steps r
  refine ⟨k, hk, mid, saved, l, ends, ?_⟩
  have counted := l.counted
  -- forgetting the session changes no counter and queues nothing
  have forgets (e : ReadEnd) (alive : e ≠ .crashed) :
      (mid.leave s.id).received + r.app.service.persisted + r.app.service.dropped =
        r.received + (mid.leave s.id).app.service.persisted + (mid.leave s.id).app.service.dropped +
          (if e = .crashed then 1 else 0) ∧
      ∀ q, (mid.leave s.id).app.hub.hub.queues.queued q ⊆
        r.app.hub.hub.queues.queued q ++ saved.map Message.wire :=
    ⟨by simpa [alive, Reading.leave] using counted,
      fun q => List.Subset.trans (Switchboard.queued_unregister _ _ q) (l.queued q)⟩
  rcases ends with ⟨done, -⟩ | ⟨done, -, -⟩ | ⟨done, -, -⟩ <;> rw [done]
  · exact forgets (runOut steps) (runOut_ne_crashed steps)
  · exact forgets .refused (by decide)
  · -- the crash counts the text and touches neither the service nor the hub
    refine ⟨?_, l.queued⟩
    simp only [Reading.took, App.now, if_true]
    omega

/-- Settings the service starts with may make messages live nine trillion
seconds. Then the first text a session sends stops its read pump at once: the
text is counted but neither stored nor dropped, the next text is never taken,
and the session is left registered. -/
theorem read_pump_crashes_on_far_expiry :
    Settings.validate { chat := { messageLifetimeSeconds := 9000000000000 } } = none ∧
    ((App.start { chat := { messageLifetimeSeconds := 9000000000000 } } none { draw := Uuid.ofNat } {}).toOption.bind
      fun app => (App.accept app "alice").toOption).map
        (fun (s, app) =>
          let run := readPump s [.text "hi", .text "again"] { app := app }
          (run.2, run.1.received, run.1.app.service.persisted + run.1.app.service.dropped,
            run.1.app.hub.hub.isMember s.id)) =
      some (.crashed, 1, 0, true) := by
  decide

/-- The read pump is the run in which nothing changes the store. -/
theorem readPump_eq_under (s : Session) (frames : List Inbound) (r : Reading) :
    readPump s frames r = readPumpUnder s (frames.map (r.app.service.store.outage, ·)) r := by
  induction frames generalizing r with
  | nil => rfl
  | cons f rest ih =>
    have still : r.under r.app.service.store.outage = r := rfl
    simp only [List.map_cons, readPump, readPumpUnder, still]
    cases f with
    | text t =>
      rcases readFrame_text s r t with ⟨-, crashed⟩ | ⟨r1, saved, -, kept, next⟩
      · simp [crashed]
      · split at next
        · simp [next]
        · simp only [next]
          rw [ih r1, kept]
    | binary d => simp [readFrame_binary, ih]
    | ping => simp [readFrame_ping, ih]
    | pong => simp [readFrame_pong, ih]
    | close => rfl
    | failure => rfl

end ChatRelay.Socket

import Mathlib
import ChatRelay.Api.Router
import ChatRelay.Proofs.Hub.Shutdown

/-! A connection's session leaves the hub for good once its handler's last letter is
taken. Session ids are drawn at random, so the ids drawn are taken to be
distinct and clients make sessions only under new ids. -/
namespace ChatRelay.Api

open Http

/-- A handshake without a username, or with an empty one, is refused with 400
and a validation error; no session is made and the service is left as it was. -/
theorem App.serve_socket_unnamed (app : App) {req : Request} {key : String} (get : req.method = .get)
    (path : req.target.path = "/api/ws") (upgrade : upgradeKey req = .ok key)
    (unnamed : socketUsername req.target.query = .ok none ∨ socketUsername req.target.query = .ok (some "")) :
    (app.serve req).2 = app ∧ (app.serve req).1.session = none ∧ (app.serve req).1.response.status = 400 ∧
      (app.serve req).1.response.body =
        "\x7b\"error\":\x7b\"code\":\"VALIDATION_ERROR\",\"message\":\"username parameter is required\"\x7d\x7d" := by
  have refused : socket app.runMode req =
      ⟨errorResponse app.runMode (.validation "username parameter is required"), none⟩ := by
    unfold socket
    rw [upgrade]
    rcases unnamed with none | empty
    · rw [none]
    · rw [empty]
      rfl
  unfold App.serve
  rw [path, show Route.ofPath? "/api/ws" = some .socket from rfl, get]
  -- a validation error reads the same in production
  simp only [App.handle, refused, errorResponse, AppError.response]
  -- a GET answer keeps its body, and the error renders as its JSON object
  exact ⟨trivial, trivial, rfl, rfl⟩

end ChatRelay.Api

namespace ChatRelay.Hub

open Chat

/-! ### What a step does to the registry -/

namespace Loop

variable (l : Loop)

/-- Handling a letter adds to the registry at most the session of a register letter. -/
theorem handle_members (letter : Letter) {u : Session} (member : u ∈ (l.handle letter).board.hub.members) :
    u ∈ l.board.hub.members ∨ letter = .register u := by
  cases letter with
  | register t =>
    simp only [handle, Switchboard.register] at member
    split at member
    · rw [Registry.register_members] at member
      split at member
      · exact .inl member
      · rcases List.mem_append.mp member with old | new
        · exact .inl old
        · exact .inr (by rw [List.mem_singleton.mp new])
    · exact .inl member
  | unregister id =>
    simp only [handle, Switchboard.unregister] at member
    split at member
    · rw [Registry.unregister_members] at member
      exact .inl (List.mem_of_mem_filter member)
    · exact .inl member
  | broadcast m =>
    simp only [handle, Switchboard.broadcast] at member
    split at member
    · exact .inl (l.board.hub.broadcast_members_sub m member)
    · exact .inl member
  | stats n => exact .inl member

theorem handle_mailbox (letter : Letter) : (l.handle letter).mailbox = l.mailbox := by
  cases letter <;> rfl

theorem handle_nextId (letter : Letter) : (l.handle letter).board.nextId = l.board.nextId := by
  cases letter <;> simp only [handle, Switchboard.register, Switchboard.unregister, Switchboard.broadcast] <;>
    split_ifs <;> rfl

theorem handle_unregister (running : l.board.running = true) (id : SessionId) :
    (l.handle (.unregister id)).board.hub.members = l.board.hub.members.filter (·.id != id) := by
  simp only [handle, Switchboard.unregister, if_pos running, Registry.unregister_members]

theorem take_cases :
    l.take = l ∨
      (∃ letter rest, l.board.running = true ∧ l.mailbox = letter :: rest ∧
        l.take = { l with mailbox := rest }.handle letter) ∨
      l.take = l.stop := by
  unfold take
  split
  · rename_i running
    split
    · rename_i letter rest taken
      exact .inr (.inl ⟨letter, rest, running, taken, rfl⟩)
    · split
      · exact .inr (.inr rfl)
      · exact .inl rfl
  · exact .inl rfl

theorem hear_cases :
    l.hear = l.stop ∨
      (l.hear.mailbox = l.mailbox ∧ l.hear.board.hub.members = l.board.hub.members ∧
        l.hear.board.nextId = l.board.nextId) := by
  unfold hear
  split
  · split
    · exact .inl rfl
    · exact .inr ⟨rfl, rfl, rfl⟩
    · exact .inr ⟨rfl, rfl, rfl⟩
  · exact .inr ⟨rfl, rfl, rfl⟩

end Loop

namespace Scene

def run (s : Scene) : List Move → Scene
  | [] => s
  | m :: ms => (s.step m).run ms

/-- The id the scene draws next differs from every id drawn before. -/
def Fresh (s : Scene) : Prop := ∀ k < s.loop.board.nextId, s.ids k ≠ s.ids s.loop.board.nextId

/-- A client's move that makes a session only under a new id, and hands over a
session only as it was made. -/
def Honest (s : Scene) : Move → Prop
  | .make _ _ => s.Fresh
  | .register t => t ∈ s.held
  | _ => True

def HonestRun : Scene → List Move → Prop
  | _, [] => True
  | s, m :: ms => s.Honest m ∧ (s.step m).HonestRun ms

theorem call_registry (s : Scene) (letter : Letter) :
    ((s.call letter).loop.mailbox = s.loop.mailbox ∨ (s.call letter).loop.mailbox = s.loop.mailbox ++ [letter]) ∧
      (s.call letter).loop.board.hub.members = s.loop.board.hub.members ∧
      (s.call letter).loop.board.nextId = s.loop.board.nextId ∧ (s.call letter).held = s.held := by
  unfold call
  split
  · split
    · rename_i posted
      obtain ⟨mailbox, members, nextId⟩ := s.loop.post_frame posted
      exact ⟨mailbox, members, nextId, rfl⟩
    · exact ⟨.inl rfl, rfl, rfl, rfl⟩
  · exact ⟨.inl rfl, rfl, rfl, rfl⟩

/-- What one step does to the mailbox and the registry: nothing; a call puts a
letter at the end of the mailbox, a register letter only by handing over its
session; the loop takes the first letter and handles it; or the loop stops and
both are empty. -/
theorem step_registry (s : Scene) (m : Move) :
    ((s.step m).loop.mailbox = s.loop.mailbox ∧ (s.step m).loop.board.hub.members = s.loop.board.hub.members) ∨
    (∃ letter, (s.step m).loop.mailbox = s.loop.mailbox ++ [letter] ∧
      (s.step m).loop.board.hub.members = s.loop.board.hub.members ∧ ∀ u, letter = .register u → m = .register u) ∨
    (∃ letter rest, m = .take ∧ s.loop.board.running = true ∧ s.loop.mailbox = letter :: rest ∧
      (s.step m).loop = { s.loop with mailbox := rest }.handle letter) ∨
    ((s.step m).loop.mailbox = [] ∧ (s.step m).loop.board.hub.members = []) := by
  -- a call of a letter other than a register letter
  have called (letter : Letter) (plain : ∀ u, letter ≠ .register u) :
      ((s.call letter).loop.mailbox = s.loop.mailbox ∧
        (s.call letter).loop.board.hub.members = s.loop.board.hub.members) ∨
      ∃ letter', (s.call letter).loop.mailbox = s.loop.mailbox ++ [letter'] ∧
        (s.call letter).loop.board.hub.members = s.loop.board.hub.members ∧ ∀ u, letter' ≠ .register u := by
    obtain ⟨mailbox | mailbox, members, -⟩ := s.call_registry letter
    · exact .inl ⟨mailbox, members⟩
    · exact .inr ⟨letter, mailbox, members, plain⟩
  cases m with
  | make u c =>
    left
    simp only [step]
    split
    · rename_i made
      obtain ⟨-, rfl⟩ := Switchboard.openSession_ok made
      exact ⟨rfl, rfl⟩
    · exact ⟨rfl, rfl⟩
  | register t =>
    simp only [step]
    split_ifs
    · split
      · rename_i posted
        obtain ⟨same | added, members, -⟩ := s.loop.post_frame posted
        · exact .inl ⟨same, members⟩
        · exact .inr (.inl ⟨.register t, added, members, fun u same => by cases same; rfl⟩)
      · exact .inl ⟨rfl, rfl⟩
    · exact .inl ⟨rfl, rfl⟩
  | unregister id =>
    rcases called (.unregister id) (fun _ => by simp) with same | ⟨letter, mailbox, members, plain⟩
    · exact .inl same
    · exact .inr (.inl ⟨letter, mailbox, members, fun u carried => absurd carried (plain u)⟩)
  | broadcast msg =>
    rcases called (.broadcast msg) (fun _ => by simp) with same | ⟨letter, mailbox, members, plain⟩
    · exact .inl same
    · exact .inr (.inl ⟨letter, mailbox, members, fun u carried => absurd carried (plain u)⟩)
  | stats =>
    simp only [step]
    split_ifs
    · split
      · rename_i posted
        obtain ⟨same | added, members, -⟩ := Loop.post_frame _ posted
        · exact .inl ⟨same, members⟩
        · exact .inr (.inl ⟨.stats s.loop.answers.length, added, members, fun u same => by cases same⟩)
      · exact .inl ⟨rfl, rfl⟩
    · exact .inl ⟨rfl, rfl⟩
  | take =>
    -- the only move that hands a letter to the registry
    rcases s.loop.take_cases with same | ⟨letter, rest, running, first, taken⟩ | stopped
    · exact .inl ⟨congrArg Loop.mailbox same, congrArg (·.board.hub.members) same⟩
    · exact .inr (.inr (.inl ⟨letter, rest, rfl, running, first, taken⟩))
    · obtain ⟨-, -, -, -, members, mailbox, -⟩ := s.loop.stop_spec
      exact .inr (.inr (.inr ⟨by simp only [step, stopped, mailbox], by simp only [step, stopped, members]⟩))
  | hear =>
    -- a stopping loop drops its mailbox and its registry
    rcases s.loop.hear_cases with stopped | ⟨mailbox, members, -⟩
    · obtain ⟨-, -, -, -, members, mailbox, -⟩ := s.loop.stop_spec
      exact .inr (.inr (.inr ⟨by simp only [step, stopped, mailbox], by simp only [step, stopped, members]⟩))
    · exact .inl ⟨mailbox, members⟩
  | signal =>
    left
    simp only [step]
    unfold Loop.signal
    split <;> exact ⟨rfl, rfl⟩
  | dropSignal => exact .inl ⟨rfl, rfl⟩
  | cloneHandle =>
    left
    simp only [step]
    split <;> exact ⟨rfl, rfl⟩
  | dropHandle => exact .inl ⟨rfl, rfl⟩
  | drain k =>
    refine .inl ⟨rfl, ?_⟩
    show (s.loop.board.drain k).2.2.hub.members = _
    unfold Switchboard.drain
    split <;> rfl
  | dropReceiver k => exact .inl ⟨rfl, rfl⟩
  | dropSession k =>
    left
    simp only [step]
    split <;> exact ⟨rfl, rfl⟩

theorem members_step (s : Scene) (m : Move) {u : Session} (member : u ∈ (s.step m).loop.board.hub.members) :
    u ∈ s.loop.board.hub.members ∨
      (m = .take ∧ s.loop.board.running = true ∧ s.loop.mailbox.head? = some (.register u)) := by
  rcases step_registry s m with ⟨-, members⟩ | ⟨-, -, members, -⟩ | ⟨letter, rest, took, running, first, taken⟩ |
    ⟨-, members⟩
  · exact .inl (members ▸ member)
  · exact .inl (members ▸ member)
  · rw [taken] at member
    rcases Loop.handle_members _ letter member with old | rfl
    · exact .inl old
    · exact .inr ⟨took, running, by rw [first]; rfl⟩
  · rw [members] at member
    cases member

@[simp] theorem step_ids (s : Scene) (m : Move) : (s.step m).ids = s.ids := by
  cases m <;> simp only [step, call] <;> (repeat' split) <;> rfl

/-- Queues only grow, and the only session a step gives a client is one just
made, with the id drawn for the next queue and that queue. -/
theorem step_held (s : Scene) (m : Move) :
    s.loop.board.nextId ≤ (s.step m).loop.board.nextId ∧
    ∀ u ∈ (s.step m).held, u ∈ s.held ∨
      (u.id = s.ids s.loop.board.nextId ∧ u.queue = s.loop.board.nextId ∧ ∃ c, m = .make u.username c) := by
  cases m with
  | make u c =>
    simp only [step]
    split
    · rename_i made
      obtain ⟨rfl, rfl⟩ := Switchboard.openSession_ok made
      refine ⟨Nat.le_succ _, fun v mine => ?_⟩
      rcases List.mem_append.mp mine with old | new
      · exact .inl old
      · exact .inr (by rw [List.mem_singleton.mp new]; exact ⟨rfl, rfl, c, rfl⟩)
    · exact ⟨le_refl _, fun u mine => .inl mine⟩
  | register t =>
    simp only [step]
    split_ifs
    · split
      · rename_i posted
        exact ⟨(s.loop.post_frame posted).2.2.ge, fun u mine => .inl (List.mem_of_mem_filter mine)⟩
      · exact ⟨le_refl _, fun u mine => .inl mine⟩
    · exact ⟨le_refl _, fun u mine => .inl mine⟩
  | unregister id =>
    obtain ⟨-, -, nextId, held⟩ := s.call_registry (.unregister id)
    exact ⟨nextId.ge, fun u mine => .inl (held ▸ mine)⟩
  | broadcast msg =>
    obtain ⟨-, -, nextId, held⟩ := s.call_registry (.broadcast msg)
    exact ⟨nextId.ge, fun u mine => .inl (held ▸ mine)⟩
  | stats =>
    simp only [step]
    split_ifs
    · split
      · rename_i posted
        exact ⟨(Loop.post_frame _ posted).2.2.ge, fun u mine => .inl mine⟩
      · exact ⟨le_refl _, fun u mine => .inl mine⟩
    · exact ⟨le_refl _, fun u mine => .inl mine⟩
  | take =>
    have same : s.loop.take.board.nextId = s.loop.board.nextId := by
      rcases s.loop.take_cases with same | ⟨letter, rest, -, -, taken⟩ | stopped
      · rw [same]
      · rw [taken, Loop.handle_nextId]
      · rw [stopped]
        exact s.loop.stop_spec.2.2.2.1
    exact ⟨same.ge, fun u mine => .inl mine⟩
  | hear =>
    have same : s.loop.hear.board.nextId = s.loop.board.nextId := by
      rcases s.loop.hear_cases with stopped | ⟨-, -, nextId⟩
      · rw [stopped]
        exact s.loop.stop_spec.2.2.2.1
      · exact nextId
    exact ⟨same.ge, fun u mine => .inl mine⟩
  | signal =>
    simp only [step]
    unfold Loop.signal
    split <;> exact ⟨le_refl _, fun u mine => .inl mine⟩
  | dropSignal => exact ⟨le_refl _, fun u mine => .inl mine⟩
  | cloneHandle =>
    simp only [step]
    split <;> exact ⟨le_refl _, fun u mine => .inl mine⟩
  | dropHandle => exact ⟨le_refl _, fun u mine => .inl mine⟩
  | drain k =>
    refine ⟨?_, fun u mine => .inl mine⟩
    show _ ≤ (s.loop.board.drain k).2.2.nextId
    unfold Switchboard.drain
    split <;> exact le_refl _
  | dropReceiver k => exact ⟨le_refl _, fun u mine => .inl mine⟩
  | dropSession k =>
    simp only [step]
    split
    · exact ⟨le_refl _, fun u mine => .inl (List.mem_of_mem_filter mine)⟩
    · exact ⟨le_refl _, fun u mine => .inl mine⟩

/-- Every session a client holds has the id drawn for its queue. -/
theorem Reachable.held_numbered {s : Scene} (reachable : s.Reachable) : ∀ u ∈ s.held, u.id = s.ids u.queue := by
  -- along the run: a step gives a client only a session made with the next queue
  induction reachable with
  | start => simp
  | step m _ ih =>
    intro u mine
    rw [step_ids]
    rcases (step_held _ m).2 u mine with old | ⟨id, queue, -⟩
    · exact ih u old
    · rw [id, queue]

/-! ### Leaving for good -/

section Leaving

variable {s : Scene} {id : SessionId} {n : Nat}

/-- The id was drawn for a queue already made, and no session still held has
it: no one can hand over a session with it any more. -/
structure Spent (s : Scene) (id : SessionId) : Prop where
  issued : ∃ k < s.loop.board.nextId, s.ids k = id
  unheld : ∀ u ∈ s.held, u.id ≠ id

theorem Spent.step (spent : s.Spent id) {m : Move} (honest : s.Honest m) : (s.step m).Spent id := by
  obtain ⟨grows, held⟩ := step_held s m
  obtain ⟨k, made, drawn⟩ := spent.issued
  refine ⟨⟨k, lt_of_lt_of_le made grows, by rw [step_ids, drawn]⟩, fun u mine => ?_⟩
  rcases held u mine with old | ⟨fresh, -, c, rfl⟩
  · exact spent.unheld u old
  · -- a session just made, under an id not drawn before
    rw [fresh, ← drawn]
    exact (honest k made).symm

/-- The id has left the hub: it is spent, no register letter carries it, and
no registered session has it. -/
structure Gone (s : Scene) (id : SessionId) : Prop extends s.Spent id where
  unposted : ∀ u, Letter.register u ∈ s.loop.mailbox → u.id ≠ id
  absent : ∀ u ∈ s.loop.board.hub.members, u.id ≠ id

/-- The hub's last letter for the id waits at place `n` of the mailbox, behind
every register letter that carries the id. -/
structure Pending (s : Scene) (id : SessionId) (n : Nat) : Prop extends s.Spent id where
  waiting : s.loop.mailbox[n]? = some (Letter.unregister id)
  ahead : ∀ (j : Nat) (u : Session), s.loop.mailbox[j]? = some (Letter.register u) → u.id = id → j < n

def took (s : Scene) (m : Move) : Nat :=
  if m = .take ∧ s.loop.board.running = true ∧ s.loop.mailbox ≠ [] then 1 else 0

/-- How many letters the loop takes from its mailbox along the moves. -/
def lettersTaken : Scene → List Move → Nat
  | _, [] => 0
  | s, m :: ms => s.took m + lettersTaken (s.step m) ms

theorem Gone.step (gone : s.Gone id) {m : Move} (honest : s.Honest m) : (s.step m).Gone id := by
  have spent := gone.toSpent.step honest
  rcases step_registry s m with ⟨mailbox, members⟩ | ⟨letter, mailbox, members, posted⟩ |
    ⟨letter, rest, -, -, first, taken⟩ | ⟨mailbox, members⟩
  · exact ⟨spent, by rw [mailbox]; exact gone.unposted, by rw [members]; exact gone.absent⟩
  · refine ⟨spent, fun u carried => ?_, by rw [members]; exact gone.absent⟩
    rw [mailbox] at carried
    rcases List.mem_append.mp carried with old | new
    · exact gone.unposted u old
    · -- a register letter just posted hands over a session still held
      obtain rfl := posted u (List.mem_singleton.mp new).symm
      exact gone.unheld u honest
  · have unposted : ∀ u, Letter.register u ∈ letter :: rest → u.id ≠ id := first ▸ gone.unposted
    refine ⟨spent, fun u carried => ?_, fun u member => ?_⟩
    · rw [taken, Loop.handle_mailbox] at carried
      exact unposted u (List.mem_cons_of_mem _ carried)
    · rw [taken] at member
      rcases Loop.handle_members _ letter member with old | rfl
      · exact gone.absent u old
      · exact unposted u List.mem_cons_self
  · exact ⟨spent, by simp [mailbox], by simp [members]⟩

/-- The loop takes the first letter, the waiting one at place 0: nothing
carries the id any more and the registry forgets it. -/
theorem Pending.take_first (pending : s.Pending id 0) (running : s.loop.board.running = true) :
    (s.step .take).Gone id := by
  obtain ⟨letter, rest, first⟩ : ∃ letter rest, s.loop.mailbox = letter :: rest :=
    List.exists_cons_of_ne_nil fun empty => by simpa [empty] using pending.waiting
  have taken : (s.step .take).loop = { s.loop with mailbox := rest }.handle letter := by
    simp [step, Loop.take, running, first]
  have ahead := pending.ahead
  have waiting := pending.waiting
  rw [first] at waiting ahead
  obtain rfl : letter = .unregister id := by simpa using waiting
  refine ⟨pending.toSpent.step trivial, fun u carried same => ?_, fun u member same => ?_⟩
  · rw [taken, Loop.handle_mailbox] at carried
    obtain ⟨j, found⟩ := List.getElem?_of_mem carried
    exact absurd (ahead (j + 1) u (by simpa using found) same) (Nat.not_lt_zero _)
  · rw [taken, Loop.handle_unregister { s.loop with mailbox := rest } running] at member
    simp [same] at member

/-- The mailbox is first in, first out: the waiting letter moves one place up
when the loop takes a letter, and stays where it is when a letter is posted;
once it is taken itself, or the loop stops, the id is gone. -/
theorem Pending.step (pending : s.Pending id n) {m : Move} (honest : s.Honest m) :
    (n < s.took m → (s.step m).Gone id) ∧ ((s.step m).Pending id (n - s.took m) ∨ (s.step m).Gone id) := by
  have spent := pending.toSpent.step honest
  by_cases takes : m = .take ∧ s.loop.board.running = true ∧ s.loop.mailbox ≠ []
  · rw [took, if_pos takes]
    obtain ⟨rfl, running, full⟩ := takes
    cases n with
    | zero =>
      have gone := pending.take_first running
      exact ⟨fun _ => gone, .inr gone⟩
    | succ k =>
      -- the letter ahead of it goes, and it moves up one place
      obtain ⟨letter, rest, first⟩ := List.exists_cons_of_ne_nil full
      have handled : (s.step .take).loop.mailbox = rest := by
        simp [step, Loop.take, running, first, Loop.handle_mailbox]
      have waiting := pending.waiting
      have ahead := pending.ahead
      rw [first] at waiting ahead
      refine ⟨fun early => absurd early (by omega), .inl ⟨spent, ?_, fun j u carried same => ?_⟩⟩
      · rw [handled]
        simpa using waiting
      · rw [handled] at carried
        exact Nat.lt_of_succ_lt_succ (ahead (j + 1) u (by simpa using carried) same)
  · rw [took, if_neg takes, Nat.sub_zero]
    refine ⟨fun early => absurd early (Nat.not_lt_zero _), ?_⟩
    rcases step_registry s m with ⟨mailbox, -⟩ | ⟨letter, mailbox, -, posted⟩ |
      ⟨letter, rest, rfl, running, first, -⟩ | ⟨mailbox, members⟩
    · exact .inl ⟨spent, by rw [mailbox]; exact pending.waiting, by rw [mailbox]; exact pending.ahead⟩
    · have within : n < s.loop.mailbox.length := (List.getElem?_eq_some_iff.mp pending.waiting).1
      refine .inl ⟨spent, by rw [mailbox, List.getElem?_append_left within]; exact pending.waiting,
        fun j u carried same => ?_⟩
      rw [mailbox] at carried
      by_cases old : j < s.loop.mailbox.length
      · rw [List.getElem?_append_left old] at carried
        exact pending.ahead j u carried same
      · -- the letter just posted is no register letter with the id: its session is still held
        rw [List.getElem?_append_right (Nat.le_of_not_lt old)] at carried
        have new : letter = .register u := by
          obtain ⟨_, found⟩ := List.getElem?_eq_some_iff.mp carried
          simpa using found
        obtain rfl := posted u new
        exact absurd same (pending.unheld u honest)
    · exact absurd ⟨rfl, running, by simp [first]⟩ takes
    · exact .inr ⟨spent, by simp [mailbox], by simp [members]⟩

theorem Gone.run (gone : s.Gone id) {ms : List Move} (honest : s.HonestRun ms) : (s.run ms).Gone id := by
  induction ms generalizing s with
  | nil => exact gone
  | cons m ms ih => exact ih (gone.step honest.1) honest.2

/-- Along a run the waiting letter moves up one place for each letter the loop
takes; once the loop has taken more letters than stood ahead of it, the id is
gone. -/
theorem Pending.run (pending : s.Pending id n) {ms : List Move} (honest : s.HonestRun ms) :
    (n < s.lettersTaken ms → (s.run ms).Gone id) ∧
      ((s.run ms).Pending id (n - s.lettersTaken ms) ∨ (s.run ms).Gone id) := by
  induction ms generalizing s n with
  | nil => exact ⟨fun early => absurd early (Nat.not_lt_zero _), .inl pending⟩
  | cons m ms ih =>
    obtain ⟨early, next⟩ := pending.step honest.1
    simp only [lettersTaken, run]
    rcases next with later | gone
    · obtain ⟨earlyRest, rest⟩ := ih later honest.2
      refine ⟨fun before => ?_, by rwa [Nat.sub_sub] at rest⟩
      by_cases first : n < s.took m
      · exact (early first).run honest.2
      · exact earlyRest (by omega)
    · exact ⟨fun _ => gone.run honest.2, .inr (gone.run honest.2)⟩

theorem Reachable.spent_of_handed (reachable : s.Reachable) (distinct : Set.InjOn s.ids (Set.Iio s.loop.board.nextId))
    {t : Session} (handed : t ∈ s.handed) (numbered : t.id = s.ids t.queue) : s.Spent t.id := by
  have kept := reachable.kept
  -- every queue made lies below the next one
  have below (u : Session) (mine : u ∈ s.held ++ s.handed) : u.queue < s.loop.board.nextId := by
    by_contra later
    have made := kept.made u mine
    rw [kept.fresh u.queue (Nat.le_of_not_lt later)] at made
    exact absurd made (by simp)
  have handedBelow := below t (List.mem_append_right _ handed)
  refine ⟨⟨t.queue, handedBelow, numbered.symm⟩, fun u mine same => ?_⟩
  -- a held session has the id drawn for its queue, and no two queues made drew one id
  have drawn : s.ids u.queue = s.ids t.queue := by
    rw [← reachable.held_numbered u mine, same, numbered]
  exact kept.apart t handed u mine (distinct (below u (List.mem_append_left _ mine)) handedBelow drawn)

/-- The connection's last call, for the id of the session it handed over: the
letter waits at the end of the mailbox, or the hub has stopped and the id is
gone. -/
theorem Reachable.unregister_pending (reachable : s.Reachable)
    (distinct : Set.InjOn s.ids (Set.Iio s.loop.board.nextId)) {t : Session} (handed : t ∈ s.handed)
    (numbered : t.id = s.ids t.queue) (calls : 0 < s.loop.handles) (room : (s.loop.post (.unregister t.id)).isSome) :
    (s.step (.unregister t.id)).Pending t.id s.loop.mailbox.length ∨ (s.step (.unregister t.id)).Gone t.id := by
  have spent := (reachable.spent_of_handed distinct handed numbered).step (m := .unregister t.id) trivial
  obtain ⟨⟨r, l⟩, posted⟩ := Option.isSome_iff_exists.mp room
  have stepped : (s.step (.unregister t.id)).loop = l := by
    show (s.call (.unregister t.id)).loop = l
    unfold call
    rw [if_pos calls, posted]
  rcases Loop.post_some s.loop posted with ⟨-, rfl⟩ | ⟨stopped, rfl⟩
  · -- the letter goes to the end of the mailbox, behind every letter there
    refine .inl ⟨spent, by simp [stepped], fun j u carried same => ?_⟩
    rw [stepped] at carried
    have within : j < s.loop.mailbox.length + 1 := by
      simpa using (List.getElem?_eq_some_iff.mp carried).1
    rcases Nat.lt_succ_iff_lt_or_eq.mp within with before | last
    · exact before
    · subst last
      simp at carried
  · obtain ⟨empty, none⟩ := reachable.kept.quiet stopped
    obtain ⟨-, -, -, -, members, mailbox, -⟩ := s.loop.drop_frame (.unregister t.id)
    exact .inr ⟨spent, by simp [stepped, mailbox, empty], by simp [stepped, members, none]⟩

end Leaving

end Scene

/-- A connection's session leaves the hub for good. A session enters the
registry only when the running loop takes a register letter that carries it.
Take a connection that has handed over its session as it was made, with an id
no other session made so far has drawn, and has made its last call, to forget
the id, when the mailbox held `n` letters. In every later scene of clients that
hand over sessions only as they were made and make sessions only under new
ids, that letter waits at place `n` less the letters the loop has taken since,
behind every register letter with the id, or the id is gone: no registered
session, no register letter and no session still held has it; and once the
loop has taken more than `n` letters, so the letter itself, the id is gone. A
gone id stays gone. A handshake without a username, or with an empty one, is
refused with 400 and a validation error, and leaves the service as it was. -/
theorem session_leaves_for_good :
    (∀ (s : Scene) (m : Move) {u : Session}, u ∈ (s.step m).loop.board.hub.members →
      u ∈ s.loop.board.hub.members ∨
        (m = .take ∧ s.loop.board.running = true ∧ s.loop.mailbox.head? = some (.register u))) ∧
    (∀ {s : Scene}, s.Reachable → Set.InjOn s.ids (Set.Iio s.loop.board.nextId) →
      ∀ t ∈ s.handed, t.id = s.ids t.queue → 0 < s.loop.handles →
      (s.loop.post (.unregister t.id)).isSome → ∀ ms, (s.step (.unregister t.id)).HonestRun ms →
        let called := s.step (.unregister t.id)
        (s.loop.mailbox.length < called.lettersTaken ms → (called.run ms).Gone t.id) ∧
        ((called.run ms).Pending t.id (s.loop.mailbox.length - called.lettersTaken ms) ∨
          (called.run ms).Gone t.id)) ∧
    (∀ {s : Scene} {id : SessionId} (ms : List Move), s.Gone id → s.HonestRun ms → (s.run ms).Gone id) ∧
    (∀ (app : Api.App) (req : Http.Request) (key : String), req.method = .get → req.target.path = "/api/ws" →
      Http.upgradeKey req = .ok key →
      (Api.socketUsername req.target.query = .ok none ∨ Api.socketUsername req.target.query = .ok (some "")) →
      (app.serve req).2 = app ∧ (app.serve req).1.session = none ∧ (app.serve req).1.response.status = 400 ∧
        (app.serve req).1.response.body =
          "\x7b\"error\":\x7b\"code\":\"VALIDATION_ERROR\",\"message\":\"username parameter is required\"\x7d\x7d") := by
  refine ⟨Scene.members_step, ?_, fun _ gone honest => gone.run honest,
    fun app _ _ get path upgrade unnamed => Api.App.serve_socket_unnamed app get path upgrade unnamed⟩
  intro s reachable distinct t handed numbered calls room ms honest
  rcases reachable.unregister_pending distinct handed numbered calls room with pending | gone
  · exact pending.run honest
  · exact ⟨fun _ => gone.run honest, .inr (gone.run honest)⟩

/-- Alice's connection registers, makes its last call behind the register
letter, and the loop takes both letters: her id is gone. -/
theorem session_leaves_for_good_after_two_takes :
    let s := ((Scene.mk { board := {}, room := 2 } [] [] Uuid.ofNat).step (.make "alice" 1)).step
      (.register ⟨Uuid.ofNat 0, "alice", 0⟩)
    let called := s.step (.unregister (Uuid.ofNat 0))
    s.Reachable ∧ s.loop.mailbox.length < called.lettersTaken [.take, .take] ∧
      (called.run [.take, .take]).Gone (Uuid.ofNat 0) ∧ (called.run [.take, .take]).loop.mailbox = [] ∧
      (called.run [.take, .take]).loop.board.hub.members = [] :=
  have started : Scene.Reachable ⟨{ board := {}, room := 2 }, [], [], Uuid.ofNat⟩ :=
    .start (show Loop.start 2 = .ok { board := {}, room := 2 } from rfl)
  have reachable := (started.step (.make "alice" 1)).step (.register ⟨Uuid.ofNat 0, "alice", 0⟩)
  -- one session made so far, so one id drawn
  have distinct : Set.InjOn Uuid.ofNat (Set.Iio 1) := fun a first b second _ => by
    simp only [Set.mem_Iio, Nat.lt_one_iff] at first second
    rw [first, second]
  have taken : 1 < 2 := by decide
  ⟨reachable, taken,
    (session_leaves_for_good.2.1 reachable distinct ⟨Uuid.ofNat 0, "alice", 0⟩ (by decide) rfl (by decide)
      (by decide) [.take, .take] ⟨trivial, trivial, trivial⟩).1 taken, rfl, rfl⟩

end ChatRelay.Hub

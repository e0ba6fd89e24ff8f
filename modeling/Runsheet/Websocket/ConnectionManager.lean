import Mathlib.Data.List.Nodup

/-!
# `ConnectionManager`: fleet live updates under interleaving

Every client of `/api/fleet/live` runs `fleet_live_websocket`. It calls `connect`, which
awaits `websocket.accept()` and then adds the websocket to `active_connections`. When its
receive loop ends, its `finally` calls `disconnect`, which discards the websocket.
`broadcast(message)` returns 0 when no connection is active. Otherwise it copies the set
into `connections` and awaits `asyncio.gather` over one `_send_to_client` per connection.
It then counts the `True` results and discards every client whose result was `False` or an
`Exception`. `DataIngestionService` calls it through `broadcast_location_update` after each
stored location update, whatever other requests are doing.

No `async with self._lock` block awaits anything, so an `asyncio.Lock` taken there is always
free, and each block runs with no other coroutine in between. What can interleave are the
stretches between awaits. Each of them is a step here:
* the add of `connect`;
* the first stretch of `broadcast`, up to `gather`;
* the end of one send task;
* the stretch of `broadcast` after `gather`;
* the discard of `disconnect`.

The state keeps ghost fields that no code reads: the websockets accepted so far, those whose
endpoint has disconnected, and a log of what happens to broadcasts.

## Main results

* `returned_counts_deliveries`: a broadcast that returned `n` has delivered its message to
  exactly `n` clients, none of them twice;
* `failed_send_mutes`: once a send to a client failed and its broadcast returned, the client
  is gone from `active_connections`, and no broadcast that starts afterwards sends to it,
  although only the endpoint's own `disconnect` marks it disconnected;
* `sequential_broadcasts_in_order`: if one broadcast returned before another started,
  every send of the first ended before any send of the second.
-/

namespace Runsheet.Websocket

/-- A websocket connection to `/api/fleet/live`. Each request gets its own `WebSocket`
object, so a number that no other connection shares names it. -/
abbrev WebSocket := Nat

/-- What `asyncio.gather(*send_tasks, return_exceptions=True)` gives for one send.
`_send_to_client` returns `True`, or `False` once `send_json` raised an `Exception`. A
cancelled task gives its `CancelledError`, which is no `Exception`. -/
inductive SendResult where
  | sent
  | failed
  | cancelled
  deriving DecidableEq, Repr

/-- A `broadcast` call suspended in `await asyncio.gather(...)`, with its snapshot
`connections = list(self.active_connections)`. -/
structure Gather where
  id : Nat
  connections : List WebSocket
  deriving DecidableEq, Repr

/-- What happens to broadcasts: one starts, one of its sends ends, one returns its
`successful_sends`. -/
inductive Event where
  | started (broadcast : Nat)
  | finished (broadcast : Nat) (websocket : WebSocket) (result : SendResult)
  | returned (broadcast : Nat) (successfulSends : Nat)
  deriving DecidableEq, Repr

/-- The send of broadcast `k` that an event records, if any. -/
def Event.sendOf (k : Nat) : Event → Option (WebSocket × SendResult)
  | .finished k' ws r => if k' = k then some (ws, r) else none
  | _ => none

/-- The sends of broadcast `k` that have ended, with their results, in order. -/
def sendsOf (k : Nat) (events : List Event) : List (WebSocket × SendResult) :=
  events.filterMap (Event.sendOf k)

/-- The clients that broadcast `k` reached: its sends that returned `True`. -/
def deliveries (k : Nat) (events : List Event) : List WebSocket :=
  ((sendsOf k events).filter (·.2 == .sent)).map Prod.fst

section Log

variable {a b c d e e' : Event} {l new : List Event}

/-- Some occurrence of `e` comes before some occurrence of `e'`. -/
def Precedes (e e' : Event) (l : List Event) : Prop :=
  ∃ i j : Nat, i < j ∧ l[i]? = some e ∧ l[j]? = some e'

/-- Every occurrence of `e` comes before every occurrence of `e'`. -/
def Before (e e' : Event) (l : List Event) : Prop :=
  ∀ i j : Nat, l[i]? = some e → l[j]? = some e' → i < j

theorem Precedes.mem_left (h : Precedes e e' l) : e ∈ l := by
  obtain ⟨i, _, _, found, _⟩ := h
  exact List.getElem?_mem found

theorem Before.of_not_mem_right (h : e' ∉ l) : Before e e' l :=
  fun _ _ _ found => absurd (List.getElem?_mem found) h

theorem getElem?_append_of_not_mem {i : Nat} (h : (l ++ new)[i]? = some e) (old : e ∉ new) :
    i < l.length ∧ l[i]? = some e := by
  by_cases lt : i < l.length
  · exact ⟨lt, by rwa [List.getElem?_append_left lt] at h⟩
  · rw [List.getElem?_append_right (by omega)] at h
    exact absurd (List.getElem?_mem h) old

theorem Before.append (h : Before e e' l) (old : e ∉ new) : Before e e' (l ++ new) := by
  intro i j hi hj
  obtain ⟨lt, hi⟩ := getElem?_append_of_not_mem hi old
  by_cases jlt : j < l.length
  · exact h i j hi (by rwa [List.getElem?_append_left jlt] at hj)
  · omega

theorem Precedes.of_append (h : Precedes e e' (l ++ new)) (old : e' ∉ new) : Precedes e e' l := by
  obtain ⟨i, j, lt, hi, hj⟩ := h
  obtain ⟨jlt, hj⟩ := getElem?_append_of_not_mem hj old
  exact ⟨i, j, lt, by rwa [List.getElem?_append_left (by omega)] at hi, hj⟩

theorem Before.trans (h₁ : Before a b l) (h₂ : Precedes b c l) (h₃ : Before c d l) :
    Before a d l := by
  obtain ⟨p, q, lt, hp, hq⟩ := h₂
  intro i j hi hj
  have := h₁ i p hi hp
  have := h₃ q j hq hj
  omega

end Log

@[simp] theorem Event.sendOf_started (k k' : Nat) : (Event.started k').sendOf k = none := rfl
@[simp] theorem Event.sendOf_returned (k k' n : Nat) : (Event.returned k' n).sendOf k = none := rfl

@[simp] theorem mem_sendsOf {k : Nat} {p : WebSocket × SendResult} {events : List Event} :
    p ∈ sendsOf k events ↔ Event.finished k p.1 p.2 ∈ events := by
  simp only [sendsOf, List.mem_filterMap]
  constructor
  · rintro ⟨e, mem, found⟩
    cases e with
    | finished k' ws r =>
      simp only [Event.sendOf] at found
      split at found
      · cases found; subst k'; exact mem
      · cases found
    | _ => cases found
  · intro mem
    exact ⟨_, mem, by simp [Event.sendOf]⟩

@[simp] theorem sendsOf_append (k : Nat) (l new : List Event) :
    sendsOf k (l ++ new) = sendsOf k l ++ sendsOf k new := List.filterMap_append _ _ _

@[simp] theorem sendsOf_started (k k' : Nat) : sendsOf k [.started k'] = [] := rfl
@[simp] theorem sendsOf_returned (k k' n : Nat) : sendsOf k [.returned k' n] = [] := rfl

theorem sendsOf_finished (k k' : Nat) (ws : WebSocket) (r : SendResult) :
    sendsOf k [.finished k' ws r] = if k' = k then [(ws, r)] else [] := by
  by_cases h : k' = k <;> simp [sendsOf, Event.sendOf, h]

theorem sendsOf_eq_nil {k : Nat} {events : List Event}
    (none : ∀ ws r, Event.finished k ws r ∉ events) : sendsOf k events = [] :=
  List.eq_nil_iff_forall_not_mem.mpr fun p mem => none p.1 p.2 (mem_sendsOf.mp mem)

theorem lookup_eq_some {l : List (WebSocket × SendResult)} {ws : WebSocket} {r : SendResult}
    (nodup : (l.map Prod.fst).Nodup) : l.lookup ws = some r ↔ (ws, r) ∈ l := by
  induction l with
  | nil => simp
  | cons p rest ih =>
    obtain ⟨ws', r'⟩ := p
    simp only [List.map_cons, List.nodup_cons] at nodup
    rw [List.lookup_cons, List.mem_cons]
    by_cases same : ws = ws'
    · subst same
      simp only [beq_self_eq_true, Option.some.injEq, Prod.mk.injEq, true_and]
      constructor
      · exact fun h => .inl h.symm
      · rintro (h | h)
        · exact h.symm
        · exact absurd (List.mem_map_of_mem Prod.fst h) nodup.1
    · rw [beq_false_of_ne same, ih nodup.2]
      simp [same]

/-- The loop over `zip(connections, results)` after `gather`. A `True` result is counted,
a `False` one puts the client in `disconnected_clients`, and a `CancelledError` does neither. -/
def tally : List (WebSocket × SendResult) → Nat × List WebSocket
  | [] => (0, [])
  | (ws, r) :: rest =>
    match r with
    | .sent => ((tally rest).1 + 1, (tally rest).2)
    | .failed => ((tally rest).1, ws :: (tally rest).2)
    | .cancelled => tally rest

theorem tally_fst (rs : List (WebSocket × SendResult)) :
    (tally rs).1 = (rs.filter (·.2 == .sent)).length := by
  induction rs with
  | nil => rfl
  | cons p rest ih =>
    obtain ⟨ws, r⟩ := p
    cases r <;> simp [tally, ih]

theorem mem_tally_snd {rs : List (WebSocket × SendResult)} {ws : WebSocket}
    (h : (ws, .failed) ∈ rs) : ws ∈ (tally rs).2 := by
  induction rs with
  | nil => cases h
  | cons p rest ih =>
    obtain ⟨ws', r⟩ := p
    rcases List.mem_cons.mp h with same | later
    · cases same; exact .head _
    · cases r <;> simp only [tally, List.mem_cons] <;> simp [ih later]

theorem foldl_erase_sublist (rm l : List WebSocket) : (rm.foldl List.erase l).Sublist l := by
  induction rm generalizing l with
  | nil => exact .refl l
  | cons a rm ih => exact (ih (l.erase a)).trans (List.erase_sublist a l)

theorem not_mem_foldl_erase {rm l : List WebSocket} {ws : WebSocket} (nodup : l.Nodup)
    (removed : ws ∈ rm) : ws ∉ rm.foldl List.erase l := by
  induction rm generalizing l with
  | nil => cases removed
  | cons a rm ih =>
    rcases List.mem_cons.mp removed with rfl | later
    · exact fun mem => (nodup.mem_erase_iff.mp ((foldl_erase_sublist rm _).subset mem)).1 rfl
    · exact ih (nodup.erase a) later

/-- One step of some coroutine. `broadcast k` is the stretch of broadcast `k` up to `gather`,
`send k ws r` the end of its send to `ws`, `collect k` its stretch after `gather`. -/
inductive Action where
  | connect (websocket : WebSocket)
  | broadcast (id : Nat)
  | send (id : Nat) (websocket : WebSocket) (result : SendResult)
  | collect (id : Nat)
  | disconnect (websocket : WebSocket)
  deriving DecidableEq, Repr

/-- The manager's `active_connections`, the broadcasts suspended in `gather`, the websockets
accepted so far, those whose endpoint has disconnected, and the event log. -/
structure Fleet where
  activeConnections : List WebSocket
  gathering : List Gather
  accepted : List WebSocket
  closed : List WebSocket
  events : List Event
  deriving DecidableEq, Repr

namespace Fleet

/-- `ConnectionManager()`: no connection, no broadcast. -/
def init : Fleet := ⟨[], [], [], [], []⟩

/-- The `results` of `gather` in the order of `connections`, for the sends that have ended. -/
def results (s : Fleet) (g : Gather) : List (WebSocket × SendResult) :=
  g.connections.filterMap fun ws => ((sendsOf g.id s.events).lookup ws).map (ws, ·)

/-- `connect(websocket)` once `await websocket.accept()` returned. The endpoint calls it once
for its own new websocket. -/
def connect (s : Fleet) (ws : WebSocket) : Option Fleet :=
  if ws ∈ s.accepted then none
  else some { s with activeConnections := s.activeConnections.insert ws,
                     accepted := ws :: s.accepted }

/-- The first stretch of `broadcast`: `return 0` with no active connection, or the snapshot. -/
def broadcast (s : Fleet) (k : Nat) : Option Fleet :=
  if Event.started k ∈ s.events then none
  else if s.activeConnections = [] then
    some { s with events := s.events ++ [.started k, .returned k 0] }
  else
    some { s with gathering := s.gathering ++ [⟨k, s.activeConnections⟩],
                  events := s.events ++ [.started k] }

/-- A send task of broadcast `k` to a client of its snapshot ends, once. -/
def send (s : Fleet) (k : Nat) (ws : WebSocket) (r : SendResult) : Option Fleet :=
  if ∃ g ∈ s.gathering, g.id = k ∧ ws ∈ g.connections ∧
      ws ∉ (sendsOf k s.events).map Prod.fst then
    some { s with events := s.events ++ [.finished k ws r] }
  else none

/-- The stretch of `broadcast` after `gather`: count, discard the failed clients, return. -/
def collect (s : Fleet) (k : Nat) : Option Fleet :=
  match s.gathering.find? (·.id = k) with
  | none => none
  | some g =>
    if ∀ ws ∈ g.connections, ws ∈ (sendsOf k s.events).map Prod.fst then
      some { s with
        activeConnections := (tally (s.results g)).2.foldl List.erase s.activeConnections,
        gathering := s.gathering.filter (·.id ≠ k),
        events := s.events ++ [.returned k (tally (s.results g)).1] }
    else none

/-- `disconnect(websocket)` in the endpoint's `finally`, once its `connect` has returned. -/
def disconnect (s : Fleet) (ws : WebSocket) : Option Fleet :=
  if ws ∈ s.accepted ∧ ws ∉ s.closed then
    some { s with activeConnections := s.activeConnections.erase ws, closed := ws :: s.closed }
  else none

/-- One step: the stretch of some coroutine that runs with no other in between. -/
def step (s : Fleet) : Action → Option Fleet
  | .connect ws => s.connect ws
  | .broadcast k => s.broadcast k
  | .send k ws r => s.send k ws r
  | .collect k => s.collect k
  | .disconnect ws => s.disconnect ws

/-- Steps one after another; `none` when one of them cannot happen. -/
def run (s : Fleet) : List Action → Option Fleet
  | [] => some s
  | a :: as => (s.step a).bind (·.run as)

/-- A state that some interleaving reaches from `init`. -/
def Reachable (s : Fleet) : Prop := ∃ as, init.run as = some s

theorem results_nodup {s : Fleet} {g : Gather} (snapshot : g.connections.Nodup) :
    (s.results g).Nodup := by
  refine snapshot.filterMap fun a a' p ha ha' => ?_
  simp only [Option.mem_def, Option.map_eq_some'] at ha ha'
  obtain ⟨_, _, rfl⟩ := ha
  obtain ⟨_, _, same⟩ := ha'
  exact (congrArg Prod.fst same).symm

theorem results_perm {s : Fleet} {g : Gather} (snapshot : g.connections.Nodup)
    (sends : ((sendsOf g.id s.events).map Prod.fst).Nodup)
    (within : ∀ p ∈ sendsOf g.id s.events, p.1 ∈ g.connections) :
    (s.results g).Perm (sendsOf g.id s.events) := by
  rw [List.perm_ext_iff_of_nodup (results_nodup snapshot) (sends.of_map Prod.fst)]
  rintro ⟨ws, r⟩
  simp only [results, List.mem_filterMap, Option.map_eq_some', Prod.mk.injEq]
  constructor
  · rintro ⟨_, _, _, found, rfl, rfl⟩
    exact (lookup_eq_some sends).mp found
  · intro mem
    exact ⟨ws, within _ mem, r, (lookup_eq_some sends).mpr mem, rfl, rfl⟩

variable {s t : Fleet} {k n : Nat} {ws : WebSocket} {r : SendResult}

theorem connect_eq (h : s.connect ws = some t) : ws ∉ s.accepted ∧
    t = { s with activeConnections := s.activeConnections.insert ws,
                 accepted := ws :: s.accepted } := by
  unfold connect at h
  split at h
  · cases h
  · exact ⟨‹_›, (Option.some.inj h).symm⟩

theorem broadcast_eq (h : s.broadcast k = some t) : Event.started k ∉ s.events ∧
    (s.activeConnections = [] ∧
      t = { s with events := s.events ++ [.started k, .returned k 0] } ∨
     t = { s with gathering := s.gathering ++ [⟨k, s.activeConnections⟩],
                  events := s.events ++ [.started k] }) := by
  unfold broadcast at h
  split at h
  · cases h
  · split at h
    · exact ⟨‹_›, .inl ⟨‹_›, (Option.some.inj h).symm⟩⟩
    · exact ⟨‹_›, .inr (Option.some.inj h).symm⟩

theorem send_eq (h : s.send k ws r = some t) :
    (∃ g ∈ s.gathering, g.id = k ∧ ws ∈ g.connections ∧
      ws ∉ (sendsOf k s.events).map Prod.fst) ∧
    t = { s with events := s.events ++ [.finished k ws r] } := by
  unfold send at h
  split at h
  · exact ⟨‹_›, (Option.some.inj h).symm⟩
  · cases h

theorem collect_eq (h : s.collect k = some t) : ∃ g ∈ s.gathering, g.id = k ∧
    t = { s with
      activeConnections := (tally (s.results g)).2.foldl List.erase s.activeConnections,
      gathering := s.gathering.filter (·.id ≠ k),
      events := s.events ++ [.returned k (tally (s.results g)).1] } := by
  unfold collect at h
  split at h
  · cases h
  · rename_i g found
    split at h
    · exact ⟨g, List.mem_of_find?_eq_some found, by simpa using List.find?_some found,
        (Option.some.inj h).symm⟩
    · cases h

theorem disconnect_eq (h : s.disconnect ws = some t) : ws ∈ s.accepted ∧ ws ∉ s.closed ∧
    t = { s with activeConnections := s.activeConnections.erase ws,
                 closed := ws :: s.closed } := by
  unfold disconnect at h
  split at h
  · exact ⟨(‹_ ∧ _›).1, (‹_ ∧ _›).2, (Option.some.inj h).symm⟩
  · cases h

/-- What holds in every reachable state. -/
structure Invariant (s : Fleet) : Prop where
  nodup : s.activeConnections.Nodup
  active_accepted : ∀ ws ∈ s.activeConnections, ws ∈ s.accepted
  active_open : ∀ ws ∈ s.activeConnections, ws ∉ s.closed
  closed_accepted : ∀ ws ∈ s.closed, ws ∈ s.accepted
  snapshot_accepted : ∀ g ∈ s.gathering, ∀ ws ∈ g.connections, ws ∈ s.accepted
  snapshot_nodup : ∀ g ∈ s.gathering, g.connections.Nodup
  gathering_ids : (s.gathering.map (·.id)).Nodup
  gathering_started : ∀ g ∈ s.gathering, .started g.id ∈ s.events
  gathering_open : ∀ g ∈ s.gathering, ∀ n, .returned g.id n ∉ s.events
  returned_started : ∀ k n, .returned k n ∈ s.events → .started k ∈ s.events
  sent_started : ∀ k ws r, .finished k ws r ∈ s.events → .started k ∈ s.events
  sent_accepted : ∀ k ws r, .finished k ws r ∈ s.events → ws ∈ s.accepted
  sends_nodup : ∀ k, ((sendsOf k s.events).map Prod.fst).Nodup
  sends_snapshot : ∀ g ∈ s.gathering, ∀ p ∈ sendsOf g.id s.events, p.1 ∈ g.connections
  returned_deliveries : ∀ k n, .returned k n ∈ s.events → (deliveries k s.events).length = n
  sends_before_return : ∀ k ws r n, Before (.finished k ws r) (.returned k n) s.events
  start_before_sends : ∀ k ws r, Before (.started k) (.finished k ws r) s.events
  failed_removed : ∀ j ws n, .finished j ws .failed ∈ s.events →
    .returned j n ∈ s.events → ws ∉ s.activeConnections
  failed_not_snapshot : ∀ g ∈ s.gathering, ∀ j ws n,
    .finished j ws .failed ∈ s.events →
    Precedes (.returned j n) (.started g.id) s.events → ws ∉ g.connections
  failed_muted : ∀ j k ws n r, .finished j ws .failed ∈ s.events →
    Precedes (.returned j n) (.started k) s.events → .finished k ws r ∉ s.events

theorem init_invariant : init.Invariant where
  nodup := List.nodup_nil
  active_accepted := nofun
  active_open := nofun
  closed_accepted := nofun
  snapshot_accepted := nofun
  snapshot_nodup := nofun
  gathering_ids := List.nodup_nil
  gathering_started := nofun
  gathering_open := nofun
  returned_started := nofun
  sent_started := nofun
  sent_accepted := nofun
  sends_nodup _ := List.nodup_nil
  sends_snapshot := nofun
  returned_deliveries := nofun
  sends_before_return _ _ _ _ := Before.of_not_mem_right nofun
  start_before_sends _ _ _ := Before.of_not_mem_right nofun
  failed_removed := nofun
  failed_not_snapshot := nofun
  failed_muted := nofun

namespace Invariant

variable (h : s.Invariant)
include h

theorem gather_unique {g g' : Gather} (mem : g ∈ s.gathering) (mem' : g' ∈ s.gathering)
    (same : g.id = g'.id) : g = g' :=
  List.inj_on_of_nodup_map h.gathering_ids mem mem' same

theorem unsent_of_fresh (fresh : Event.started k ∉ s.events) :
    ∀ ws r, .finished k ws r ∉ s.events :=
  fun _ _ sent => fresh (h.sent_started _ _ _ sent)

theorem connect (fresh : ws ∉ s.accepted) :
    Invariant { s with activeConnections := s.activeConnections.insert ws,
                       accepted := ws :: s.accepted } :=
  { h with
    nodup := h.nodup.insert
    active_accepted := fun x mem => by
      rcases List.mem_insert_iff.mp mem with rfl | mem
      · exact .head _
      · exact .tail _ (h.active_accepted x mem)
    active_open := fun x mem => by
      rcases List.mem_insert_iff.mp mem with rfl | mem
      · exact fun closed => fresh (h.closed_accepted x closed)
      · exact h.active_open x mem
    closed_accepted := fun x mem => .tail _ (h.closed_accepted x mem)
    snapshot_accepted := fun g mem x inSnap => .tail _ (h.snapshot_accepted g mem x inSnap)
    sent_accepted := fun k x r sent => .tail _ (h.sent_accepted k x r sent)
    failed_removed := fun j x n failed returned mem => by
      rcases List.mem_insert_iff.mp mem with rfl | mem
      · exact fresh (h.sent_accepted _ _ _ failed)
      · exact h.failed_removed j x n failed returned mem }

theorem disconnect (accepted : ws ∈ s.accepted) :
    Invariant { s with activeConnections := s.activeConnections.erase ws,
                       closed := ws :: s.closed } :=
  { h with
    nodup := h.nodup.erase ws
    active_accepted := fun x mem => h.active_accepted x (List.mem_of_mem_erase mem)
    active_open := fun x mem => by
      obtain ⟨ne, mem⟩ := h.nodup.mem_erase_iff.mp mem
      exact fun closed => (List.mem_cons.mp closed).elim ne (h.active_open x mem)
    closed_accepted := fun x mem =>
      (List.mem_cons.mp mem).elim (· ▸ accepted) (h.closed_accepted x)
    failed_removed := fun j x n failed returned mem =>
      h.failed_removed j x n failed returned (List.mem_of_mem_erase mem) }

theorem broadcastIdle (fresh : Event.started k ∉ s.events) :
    Invariant { s with events := s.events ++ [.started k, .returned k 0] } := by
  have unsent := h.unsent_of_fresh fresh
  have quiet : ∀ k', sendsOf k' [Event.started k, .returned k 0] = [] := fun _ => rfl
  have finished_mem : ∀ {k' x r'},
      Event.finished k' x r' ∈ s.events ++ [.started k, .returned k 0] →
      Event.finished k' x r' ∈ s.events := by simp
  have returned_new : ∀ {k' n'}, Event.returned k' n' ∈ [Event.started k, .returned k 0] →
      k' = k ∧ n' = 0 := by simp
  exact
  { h with
    gathering_started := fun g mem => List.mem_append_left _ (h.gathering_started g mem)
    gathering_open := fun g mem n' returned => by
      rcases List.mem_append.mp returned with returned | returned
      · exact h.gathering_open g mem n' returned
      · exact fresh ((returned_new returned).1 ▸ h.gathering_started g mem)
    returned_started := fun k' n' returned => by
      rcases List.mem_append.mp returned with returned | returned
      · exact List.mem_append_left _ (h.returned_started k' n' returned)
      · exact (returned_new returned).1 ▸ List.mem_append_right _ (.head _)
    sent_started := fun k' x r' sent =>
      List.mem_append_left _ (h.sent_started k' x r' (finished_mem sent))
    sent_accepted := fun k' x r' sent => h.sent_accepted k' x r' (finished_mem sent)
    sends_nodup := fun k' => by simpa [quiet] using h.sends_nodup k'
    sends_snapshot := fun g mem p sent => by
      simp only [sendsOf_append, quiet, List.append_nil] at sent
      exact h.sends_snapshot g mem p sent
    returned_deliveries := fun k' n' returned => by
      simp only [deliveries, sendsOf_append, quiet, List.append_nil]
      rcases List.mem_append.mp returned with returned | returned
      · exact h.returned_deliveries k' n' returned
      · obtain ⟨rfl, rfl⟩ := returned_new returned
        simp [sendsOf_eq_nil unsent]
    sends_before_return := fun k' x r' n' => h.sends_before_return k' x r' n' |>.append (by simp)
    start_before_sends := fun k' x r' => by
      by_cases same : k' = k
      · subst same
        exact Before.of_not_mem_right fun sent => unsent x r' (finished_mem sent)
      · exact (h.start_before_sends k' x r').append (by simp [same])
    failed_removed := fun j x n' failed returned => by
      rcases List.mem_append.mp returned with returned | returned
      · exact h.failed_removed j x n' (finished_mem failed) returned
      · exact absurd (finished_mem failed) ((returned_new returned).1 ▸ unsent x .failed)
    failed_not_snapshot := fun g mem j x n' failed after => by
      have ne : g.id ≠ k := fun same => fresh (same ▸ h.gathering_started g mem)
      exact h.failed_not_snapshot g mem j x n' (finished_mem failed)
        (after.of_append (by simp [ne]))
    failed_muted := fun j k' x n' r' failed after sent => by
      by_cases same : k' = k
      · subst same
        exact unsent x r' (finished_mem sent)
      · exact h.failed_muted j k' x n' r' (finished_mem failed) (after.of_append (by simp [same]))
          (finished_mem sent) }

theorem broadcastSnapshot (fresh : Event.started k ∉ s.events) :
    Invariant { s with gathering := s.gathering ++ [⟨k, s.activeConnections⟩],
                       events := s.events ++ [.started k] } := by
  have unsent := h.unsent_of_fresh fresh
  have finished_mem : ∀ {k' x r'}, Event.finished k' x r' ∈ s.events ++ [.started k] →
      Event.finished k' x r' ∈ s.events := by simp
  have returned_mem : ∀ {k' n'}, Event.returned k' n' ∈ s.events ++ [.started k] →
      Event.returned k' n' ∈ s.events := by simp
  have old_id : ∀ g ∈ s.gathering, g.id ≠ k := fun g mem same =>
    fresh (same ▸ h.gathering_started g mem)
  exact
  { h with
    snapshot_accepted := fun g mem => by
      rcases List.mem_append.mp mem with mem | mem
      · exact h.snapshot_accepted g mem
      · obtain rfl := List.mem_singleton.mp mem
        exact h.active_accepted
    snapshot_nodup := fun g mem => by
      rcases List.mem_append.mp mem with mem | mem
      · exact h.snapshot_nodup g mem
      · obtain rfl := List.mem_singleton.mp mem
        exact h.nodup
    gathering_ids := by
      rw [List.map_append, List.nodup_append]
      exact ⟨h.gathering_ids, List.nodup_singleton _, fun x old new => by
        obtain ⟨g, mem, rfl⟩ := List.mem_map.mp old
        exact old_id g mem (List.mem_singleton.mp new)⟩
    gathering_started := fun g mem => by
      rcases List.mem_append.mp mem with mem | mem
      · exact List.mem_append_left _ (h.gathering_started g mem)
      · obtain rfl := List.mem_singleton.mp mem
        exact List.mem_append_right _ (.head _)
    gathering_open := fun g mem n' returned => by
      rcases List.mem_append.mp mem with mem | mem
      · exact h.gathering_open g mem n' (returned_mem returned)
      · obtain rfl := List.mem_singleton.mp mem
        exact fresh (h.returned_started _ n' (returned_mem returned))
    returned_started := fun k' n' returned =>
      List.mem_append_left _ (h.returned_started k' n' (returned_mem returned))
    sent_started := fun k' x r' sent =>
      List.mem_append_left _ (h.sent_started k' x r' (finished_mem sent))
    sent_accepted := fun k' x r' sent => h.sent_accepted k' x r' (finished_mem sent)
    sends_nodup := fun k' => by simpa using h.sends_nodup k'
    sends_snapshot := fun g mem p sent => by
      simp only [sendsOf_append, sendsOf_started, List.append_nil] at sent
      rcases List.mem_append.mp mem with mem | mem
      · exact h.sends_snapshot g mem p sent
      · rw [List.mem_singleton.mp mem, sendsOf_eq_nil unsent] at sent
        cases sent
    returned_deliveries := fun k' n' returned => by
      simpa [deliveries] using h.returned_deliveries k' n' (returned_mem returned)
    sends_before_return := fun k' x r' n' => h.sends_before_return k' x r' n' |>.append (by simp)
    start_before_sends := fun k' x r' => by
      by_cases same : k' = k
      · subst same
        exact Before.of_not_mem_right fun sent => unsent x r' (finished_mem sent)
      · exact (h.start_before_sends k' x r').append (by simp [same])
    failed_removed := fun j x n' failed returned =>
      h.failed_removed j x n' (finished_mem failed) (returned_mem returned)
    failed_not_snapshot := fun g mem j x n' failed after => by
      rcases List.mem_append.mp mem with mem | mem
      · exact h.failed_not_snapshot g mem j x n' (finished_mem failed)
          (after.of_append (by simp [old_id g mem]))
      · obtain rfl := List.mem_singleton.mp mem
        have returned := after.mem_left
        exact h.failed_removed j x n' (finished_mem failed) (returned_mem returned)
    failed_muted := fun j k' x n' r' failed after sent => by
      by_cases same : k' = k
      · subst same
        exact unsent x r' (finished_mem sent)
      · exact h.failed_muted j k' x n' r' (finished_mem failed) (after.of_append (by simp [same]))
          (finished_mem sent) }

theorem send {g : Gather} (mem : g ∈ s.gathering) (id : g.id = k) (inSnap : ws ∈ g.connections)
    (unsent : ws ∉ (sendsOf k s.events).map Prod.fst) :
    Invariant { s with events := s.events ++ [.finished k ws r] } := by
  have started : Event.started k ∈ s.events := id ▸ h.gathering_started g mem
  have unreturned : ∀ n', Event.returned k n' ∉ s.events := id ▸ h.gathering_open g mem
  have returned_mem : ∀ {k' n'}, Event.returned k' n' ∈ s.events ++ [.finished k ws r] →
      Event.returned k' n' ∈ s.events := by simp
  exact
  { h with
    gathering_started := fun g' mem' => List.mem_append_left _ (h.gathering_started g' mem')
    gathering_open := fun g' mem' n' returned => h.gathering_open g' mem' n' (returned_mem returned)
    returned_started := fun k' n' returned =>
      List.mem_append_left _ (h.returned_started k' n' (returned_mem returned))
    sent_started := fun k' x r' sent => by
      rcases List.mem_append.mp sent with sent | sent
      · exact List.mem_append_left _ (h.sent_started k' x r' sent)
      · obtain ⟨rfl, rfl, rfl⟩ := Event.finished.inj (List.mem_singleton.mp sent)
        exact List.mem_append_left _ started
    sent_accepted := fun k' x r' sent => by
      rcases List.mem_append.mp sent with sent | sent
      · exact h.sent_accepted k' x r' sent
      · obtain ⟨rfl, rfl, rfl⟩ := Event.finished.inj (List.mem_singleton.mp sent)
        exact h.snapshot_accepted g mem x inSnap
    sends_nodup := fun k' => by
      rw [sendsOf_append, sendsOf_finished]
      split
      · rename_i same
        subst same
        rw [List.map_append, List.nodup_append]
        exact ⟨h.sends_nodup k, List.nodup_singleton _, fun x old new => by
          obtain rfl := List.mem_singleton.mp new
          exact unsent old⟩
      · simpa using h.sends_nodup k'
    sends_snapshot := fun g' mem' p sent => by
      rw [sendsOf_append, sendsOf_finished] at sent
      rcases List.mem_append.mp sent with sent | sent
      · exact h.sends_snapshot g' mem' p sent
      · split at sent
        · rename_i same
          obtain rfl := List.mem_singleton.mp sent
          obtain rfl := h.gather_unique mem mem' (id.trans same)
          exact inSnap
        · cases sent
    returned_deliveries := fun k' n' returned => by
      have returned := returned_mem returned
      have ne : k ≠ k' := fun same => unreturned n' (same ▸ returned)
      simpa [deliveries, sendsOf_finished, ne] using h.returned_deliveries k' n' returned
    sends_before_return := fun k' x r' n' => by
      by_cases new : k' = k ∧ x = ws ∧ r' = r
      · obtain ⟨rfl, rfl, rfl⟩ := new
        exact Before.of_not_mem_right (by simpa using unreturned n')
      · exact (h.sends_before_return k' x r' n').append (by simpa using new)
    start_before_sends := fun k' x r' => (h.start_before_sends k' x r').append (by simp)
    failed_removed := fun j x n' failed₀ returned => by
      rcases List.mem_append.mp failed₀ with failed | failed
      · exact h.failed_removed j x n' failed (returned_mem returned)
      · obtain ⟨rfl, rfl, -⟩ := Event.finished.inj (List.mem_singleton.mp failed)
        exact absurd (returned_mem returned) (unreturned n')
    failed_not_snapshot := fun g' mem' j x n' failed₀ after₀ => by
      have after := after₀.of_append (by simp)
      rcases List.mem_append.mp failed₀ with failed | failed
      · exact h.failed_not_snapshot g' mem' j x n' failed after
      · obtain ⟨rfl, rfl, -⟩ := Event.finished.inj (List.mem_singleton.mp failed)
        exact absurd after.mem_left (unreturned n')
    failed_muted := fun j k' x n' r' failed₀ after₀ sent₀ => by
      have after := after₀.of_append (by simp)
      rcases List.mem_append.mp failed₀ with failed | failed
      · rcases List.mem_append.mp sent₀ with sent | sent
        · exact h.failed_muted j k' x n' r' failed after sent
        · obtain ⟨rfl, rfl, rfl⟩ := Event.finished.inj (List.mem_singleton.mp sent)
          exact h.failed_not_snapshot g mem j x n' failed (id ▸ after) inSnap
      · obtain ⟨rfl, rfl, -⟩ := Event.finished.inj (List.mem_singleton.mp failed)
        exact absurd after.mem_left (unreturned n') }

theorem collect {g : Gather} (mem : g ∈ s.gathering) (id : g.id = k) :
    Invariant { s with
      activeConnections := (tally (s.results g)).2.foldl List.erase s.activeConnections,
      gathering := s.gathering.filter (·.id ≠ k),
      events := s.events ++ [.returned k (tally (s.results g)).1] } := by
  have kept := foldl_erase_sublist (tally (s.results g)).2 s.activeConnections
  have finished_mem : ∀ {k' x r'},
      Event.finished k' x r' ∈ s.events ++ [.returned k (tally (s.results g)).1] →
      Event.finished k' x r' ∈ s.events := by simp
  have remaining : ∀ {g'}, g' ∈ s.gathering.filter (·.id ≠ k) →
      g' ∈ s.gathering ∧ g'.id ≠ k := by simp
  have perm := results_perm (h.snapshot_nodup g mem) (h.sends_nodup g.id) (h.sends_snapshot g mem)
  exact
  { h with
    nodup := h.nodup.sublist kept
    active_accepted := fun x m => h.active_accepted x (kept.subset m)
    active_open := fun x m => h.active_open x (kept.subset m)
    snapshot_accepted := fun g' m => h.snapshot_accepted g' (remaining m).1
    snapshot_nodup := fun g' m => h.snapshot_nodup g' (remaining m).1
    gathering_ids := h.gathering_ids.sublist ((List.filter_sublist _).map _)
    gathering_started := fun g' m => List.mem_append_left _ (h.gathering_started g' (remaining m).1)
    gathering_open := fun g' m n' returned => by
      obtain ⟨m, ne⟩ := remaining m
      rcases List.mem_append.mp returned with returned | returned
      · exact h.gathering_open g' m n' returned
      · exact ne (Event.returned.inj (List.mem_singleton.mp returned)).1
    returned_started := fun k' n' returned => by
      rcases List.mem_append.mp returned with returned | returned
      · exact List.mem_append_left _ (h.returned_started k' n' returned)
      · obtain ⟨rfl, -⟩ := Event.returned.inj (List.mem_singleton.mp returned)
        exact List.mem_append_left _ (id ▸ h.gathering_started g mem)
    sent_started := fun k' x r' sent =>
      List.mem_append_left _ (h.sent_started k' x r' (finished_mem sent))
    sent_accepted := fun k' x r' sent => h.sent_accepted k' x r' (finished_mem sent)
    sends_nodup := fun k' => by simpa using h.sends_nodup k'
    sends_snapshot := fun g' m p sent => h.sends_snapshot g' (remaining m).1 p (by simpa using sent)
    returned_deliveries := fun k' n' returned => by
      have same : deliveries k' (s.events ++ [.returned k (tally (s.results g)).1]) =
          deliveries k' s.events := by simp [deliveries]
      rw [same]
      rcases List.mem_append.mp returned with returned | returned
      · exact h.returned_deliveries k' n' returned
      · obtain ⟨rfl, rfl⟩ := Event.returned.inj (List.mem_singleton.mp returned)
        rw [tally_fst, deliveries, List.length_map, ← id]
        exact ((perm.filter _).length_eq).symm
    sends_before_return := fun k' x r' n' => (h.sends_before_return k' x r' n').append (by simp)
    start_before_sends := fun k' x r' => (h.start_before_sends k' x r').append (by simp)
    failed_removed := fun j x n' failed₀ returned₀ m => by
      have failed := finished_mem failed₀
      rcases List.mem_append.mp returned₀ with returned | returned
      · exact h.failed_removed j x n' failed returned (kept.subset m)
      · obtain ⟨rfl, -⟩ := Event.returned.inj (List.mem_singleton.mp returned)
        have result : (x, SendResult.failed) ∈ s.results g :=
          perm.mem_iff.mpr (mem_sendsOf.mpr (id ▸ failed))
        exact not_mem_foldl_erase h.nodup (mem_tally_snd result) m
    failed_not_snapshot := fun g' m j x n' failed after =>
      h.failed_not_snapshot g' (remaining m).1 j x n' (finished_mem failed)
        (after.of_append (by simp))
    failed_muted := fun j k' x n' r' failed after sent =>
      h.failed_muted j k' x n' r' (finished_mem failed) (after.of_append (by simp))
        (finished_mem sent) }

end Invariant

theorem step_invariant (h : s.Invariant) {a : Action} (stepped : s.step a = some t) :
    t.Invariant := by
  cases a with
  | connect ws =>
    obtain ⟨fresh, rfl⟩ := connect_eq stepped
    exact h.connect fresh
  | broadcast k =>
    obtain ⟨fresh, ⟨-, rfl⟩ | rfl⟩ := broadcast_eq stepped
    · exact h.broadcastIdle fresh
    · exact h.broadcastSnapshot fresh
  | send k ws r =>
    obtain ⟨⟨g, mem, id, inSnap, unsent⟩, rfl⟩ := send_eq stepped
    exact h.send mem id inSnap unsent
  | collect k =>
    obtain ⟨g, mem, id, rfl⟩ := collect_eq stepped
    exact h.collect mem id
  | disconnect ws =>
    obtain ⟨accepted, -, rfl⟩ := disconnect_eq stepped
    exact h.disconnect accepted

theorem run_invariant : ∀ {s t : Fleet} (as : List Action), s.Invariant → s.run as = some t →
    t.Invariant
  | _, _, [], h, ran => by
    cases ran
    exact h
  | s, t, a :: as, h, ran => by
    simp only [run, Option.bind_eq_some] at ran
    obtain ⟨s', stepped, ran⟩ := ran
    exact run_invariant as (step_invariant h stepped) ran

theorem Reachable.invariant (reach : s.Reachable) : s.Invariant :=
  let ⟨as, ran⟩ := reach
  run_invariant as init_invariant ran

/-- Only the endpoint's own `disconnect` marks its websocket disconnected. -/
theorem step_closed {a : Action} (stepped : s.step a = some t) :
    ws ∈ t.closed ↔ ws ∈ s.closed ∨ Action.disconnect ws = a := by
  cases a with
  | connect ws' => obtain ⟨-, rfl⟩ := connect_eq stepped; simp
  | broadcast k => obtain ⟨-, ⟨-, rfl⟩ | rfl⟩ := broadcast_eq stepped <;> simp
  | send k ws' r => obtain ⟨-, rfl⟩ := send_eq stepped; simp
  | collect k => obtain ⟨g, -, -, rfl⟩ := collect_eq stepped; simp
  | disconnect ws' => obtain ⟨-, -, rfl⟩ := disconnect_eq stepped; simp [or_comm]

theorem run_closed : ∀ {s t : Fleet} (as : List Action), s.run as = some t →
    (ws ∈ t.closed ↔ ws ∈ s.closed ∨ Action.disconnect ws ∈ as)
  | _, _, [], ran => by cases ran; simp
  | s, t, a :: as, ran => by
    simp only [run, Option.bind_eq_some] at ran
    obtain ⟨s', stepped, ran⟩ := ran
    rw [run_closed as ran, step_closed stepped, List.mem_cons, or_assoc]

end Fleet

open Fleet

variable {s : Fleet} {j k n : Nat} {ws ws' : WebSocket} {r r' : SendResult}

/-- **A broadcast returns the number of clients it reached.** In every state that any
interleaving of connections, disconnections and broadcasts reaches, a broadcast that
returned `n` has delivered its message to exactly `n` clients, none of them twice. -/
theorem returned_counts_deliveries (reach : s.Reachable)
    (returned : Event.returned k n ∈ s.events) :
    (deliveries k s.events).length = n ∧ (deliveries k s.events).Nodup := by
  have h := reach.invariant
  exact ⟨h.returned_deliveries k n returned,
    (h.sends_nodup k).sublist ((List.filter_sublist _).map _)⟩

/-- **One failed send mutes a client for good.** Along every interleaving, once the send of
broadcast `j` to `ws` failed and `j` has returned, `ws` is no longer active, and no broadcast
`k` that starts afterwards sends to it. Its endpoint is not told: `ws` counts as disconnected
only once its own endpoint has called `disconnect`, so it stays open and muted. -/
theorem failed_send_mutes {as : List Action} (ran : init.run as = some s)
    (failed : Event.finished j ws .failed ∈ s.events)
    (returned : Event.returned j n ∈ s.events) :
    ws ∉ s.activeConnections ∧
      (∀ k, Precedes (.returned j n) (.started k) s.events →
        ∀ r, Event.finished k ws r ∉ s.events) ∧
      (ws ∈ s.closed ↔ Action.disconnect ws ∈ as) := by
  have h := run_invariant as init_invariant ran
  refine ⟨h.failed_removed j ws n failed returned,
    fun k after r => h.failed_muted j k ws n r failed after, ?_⟩
  simpa [init] using run_closed as ran

/-- **Broadcasts one after another arrive in order.** If broadcast `j` returned before
broadcast `k` started, every send of `j` ended before any send of `k`. Each client
therefore gets the two messages in that order. Two broadcasts that overlap have no such
order. -/
theorem sequential_broadcasts_in_order (reach : s.Reachable)
    (sequential : Precedes (.returned j n) (.started k) s.events) :
    Before (.finished j ws r) (.finished k ws' r') s.events := by
  have h := reach.invariant
  exact (h.sends_before_return j ws r n).trans sequential (h.start_before_sends k ws' r')

/-- Two clients and two broadcasts. The send of the first to client 2 fails, and the
second starts after the first returned. -/
def mutedRun : List Action :=
  [.connect 1, .connect 2, .broadcast 0, .send 0 2 .failed, .send 0 1 .sent, .collect 0,
   .broadcast 1, .send 1 1 .sent, .collect 1]

/-- Where `mutedRun` ends. -/
def mutedFleet : Fleet :=
  ⟨[1], [], [2, 1], [], [.started 0, .finished 0 2 .failed, .finished 0 1 .sent, .returned 0 1,
    .started 1, .finished 1 1 .sent, .returned 1 1]⟩

theorem mutedFleet_reachable : mutedFleet.Reachable := ⟨mutedRun, by decide⟩

theorem first_broadcast_reached_one :
    (deliveries 0 mutedFleet.events).length = 1 ∧ (deliveries 0 mutedFleet.events).Nodup :=
  returned_counts_deliveries mutedFleet_reachable (by decide)

/-- Client 2 never disconnected, yet the second broadcast does not send to it. -/
theorem failed_send_mutes_open_client :
    Action.disconnect 2 ∉ mutedRun ∧ 2 ∉ mutedFleet.activeConnections ∧
      (∀ k, Precedes (.returned 0 1) (.started k) mutedFleet.events →
        ∀ r, Event.finished k 2 r ∉ mutedFleet.events) ∧
      (2 ∈ mutedFleet.closed ↔ Action.disconnect 2 ∈ mutedRun) :=
  ⟨by decide, failed_send_mutes (by decide : init.run mutedRun = some mutedFleet)
    (show Event.finished 0 2 .failed ∈ mutedFleet.events by decide)
    (show Event.returned 0 1 ∈ mutedFleet.events by decide)⟩

theorem client_one_in_order :
    Before (.finished 0 1 .sent) (.finished 1 1 .sent) mutedFleet.events :=
  sequential_broadcasts_in_order mutedFleet_reachable
    (show Precedes (.returned 0 1) (.started 1) mutedFleet.events from
      ⟨3, 4, by decide, rfl, rfl⟩)

end Runsheet.Websocket

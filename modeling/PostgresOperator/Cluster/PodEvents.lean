import PostgresOperator.Cluster.Volumes

/-!
# The pod-event queue and its dispatcher

`New` gives every cluster a FIFO of pod events keyed by `namespace/name-version`, so
events with one key take one slot. The loop of `processPodEventQueue` checks the stop
channel, pops the oldest event and hands it to its pod's subscriber, or drops it.

## Implementation notes

`PodEventQueue` models client-go's `cache.FIFO` by its keys and its map of events;
`events_add` and `events_of_pop` show that it is the queue of `enqueue`. A hand-off to a
subscriber is one `DispatchStep`.
-/

namespace PostgresOperator

/-- `spec.PodEvent`, with the fields the key function reads. -/
structure PodEvent where
  podName : NamespacedName
  resourceVersion : String
  deriving DecidableEq

/-- The key function of `podEventsQueue` in `New`: `fmt.Sprintf("%s-%s", e.PodName,
e.ResourceVersion)`. Its cast error is never met, as only pod events are queued. -/
def podEventKey (e : PodEvent) : String :=
  let podName := e.podName
  let resourceVersion := e.resourceVersion
  s!"{podName}-{resourceVersion}"

/-- The key spelt out: namespace, `/`, name, `-`, resource version. -/
theorem podEventKey_data (e : PodEvent) :
    (podEventKey e).data = e.podName.namespace.data ++
      '/' :: (e.podName.name.data ++ '-' :: e.resourceVersion.data) := by
  simp [podEventKey, toString, String.data_append]

/-- A list cut at the first occurrence of `x` has one way to be cut. -/
theorem append_cons_eq_of_not_mem {x : Char} {a b a' b' : List Char} (ha : x ∉ a)
    (ha' : x ∉ a') (h : a ++ x :: b = a' ++ x :: b') : a = a' ∧ b = b' := by
  rcases List.append_eq_append_iff.mp h with ⟨c, rfl, hc⟩ | ⟨c, rfl, hc⟩
  · cases c with
    | nil => simpa using hc
    | cons y c =>
        obtain ⟨rfl, -⟩ := List.cons_eq_cons.mp hc
        simp at ha'
  · cases c with
    | nil => simpa using hc.symm
    | cons y c =>
        obtain ⟨rfl, -⟩ := List.cons_eq_cons.mp hc
        simp at ha

/-- For events whose namespaces contain no `/` and whose resource versions contain no
`-`, the keys of `New`'s queue agree exactly when the pods and the resource versions do:
the queue merges no two events that differ in either. -/
theorem podEventKey_eq_iff (e₁ e₂ : PodEvent)
    (hns : '/' ∉ e₁.podName.namespace.data ∧ '/' ∉ e₂.podName.namespace.data)
    (hrv : '-' ∉ e₁.resourceVersion.data ∧ '-' ∉ e₂.resourceVersion.data) :
    podEventKey e₁ = podEventKey e₂ ↔
      e₁.podName = e₂.podName ∧ e₁.resourceVersion = e₂.resourceVersion := by
  obtain ⟨⟨ns₁, name₁⟩, rv₁⟩ := e₁
  obtain ⟨⟨ns₂, name₂⟩, rv₂⟩ := e₂
  refine ⟨fun h => ?_, fun ⟨hp, hr⟩ => by simp only at hp hr; rw [hp, hr]⟩
  have hdata := congrArg String.data h
  simp only [podEventKey_data] at hdata
  obtain ⟨hnamespace, hrest⟩ := append_cons_eq_of_not_mem hns.1 hns.2 hdata
  have hrev := congrArg List.reverse hrest
  simp only [List.reverse_append, List.reverse_cons, List.append_assoc, List.singleton_append]
    at hrev
  obtain ⟨hversion, hname⟩ :=
    append_cons_eq_of_not_mem (by simpa using hrv.1) (by simpa using hrv.2) hrev
  simp only [List.reverse_inj] at hversion hname
  simp only [NamespacedName.mk.injEq, String.ext_iff] at hnamespace ⊢
  exact ⟨⟨hnamespace, hname⟩, hversion⟩

/-- Two pods of one namespace at one resource version get different keys. -/
theorem podEventKey_eq_iff_sample :
    let e₁ : PodEvent := ⟨⟨"default", "acid-0"⟩, "1234"⟩
    let e₂ : PodEvent := ⟨⟨"default", "acid-1"⟩, "1234"⟩
    podEventKey e₁ ≠ podEventKey e₂ :=
  fun h => absurd ((podEventKey_eq_iff _ _ (by decide) (by decide)).1 h).1 (by decide)

/-- Pods of one namespace whose names have no `/` share a key when the resource
version of one carries a `-`: the queue would merge their events. -/
theorem podEventKey_collision :
    let e₁ : PodEvent := ⟨⟨"default", "acid-0"⟩, "1-2"⟩
    let e₂ : PodEvent := ⟨⟨"default", "acid-0-1"⟩, "2"⟩
    (∀ e ∈ [e₁, e₂], '/' ∉ e.podName.namespace.data ∧ '/' ∉ e.podName.name.data) ∧
      podEventKey e₁ = podEventKey e₂ ∧ e₁.podName ≠ e₂.podName := by
  decide

/-! ### The FIFO -/

/-- `cache.FIFO` as `New` keys it: the queued keys in order of arrival and the event
stored under each, a Go map. No key is queued twice, and exactly the queued keys have an
event, stored under its own key. -/
structure PodEventQueue where
  queue : List String
  items : String → Option PodEvent
  nodup : queue.Nodup
  mem_queue : ∀ k, k ∈ queue ↔ items k ≠ none
  key_eq : ∀ k e, items k = some e → podEventKey e = k

/-- The empty queue `New` makes. -/
def PodEventQueue.empty : PodEventQueue where
  queue := []
  items := fun _ => none
  nodup := List.nodup_nil
  mem_queue := by simp
  key_eq := by simp

/-- `Add`: the event is stored under its key, which joins the end of the queue unless an
event is stored under it already. -/
def PodEventQueue.add (q : PodEventQueue) (e : PodEvent) : PodEventQueue where
  queue := if q.items (podEventKey e) = none then q.queue ++ [podEventKey e] else q.queue
  items := Function.update q.items (podEventKey e) (some e)
  nodup := by
    split
    · exact q.nodup.append (List.nodup_singleton _)
        (List.disjoint_singleton.2 fun h => (q.mem_queue _).1 h ‹_›)
    · exact q.nodup
  mem_queue := by
    intro k
    by_cases hk : k = podEventKey e
    · subst hk
      split <;> simp_all [q.mem_queue]
    · rw [Function.update_noteq hk]
      split <;> simp [hk, q.mem_queue]
  key_eq := by
    intro k e' h
    by_cases hk : k = podEventKey e
    · subst hk
      rw [Function.update_same, Option.some.injEq] at h
      rw [← h]
    · rw [Function.update_noteq hk] at h
      exact q.key_eq k e' h

/-- The queue after `Pop` took its first key `k`. -/
def PodEventQueue.dropFirst (q : PodEventQueue) {k : String} {rest : List String}
    (h : q.queue = k :: rest) : PodEventQueue where
  queue := rest
  items := Function.update q.items k none
  nodup := (List.nodup_cons.mp (h ▸ q.nodup)).2
  mem_queue := by
    intro k'
    by_cases hk' : k' = k
    · subst hk'
      simpa using (List.nodup_cons.mp (h ▸ q.nodup)).1
    · rw [Function.update_noteq hk', ← q.mem_queue, h]
      simp [hk']
  key_eq := by
    intro k' e he
    by_cases hk' : k' = k
    · subst hk'
      simp at he
    · rw [Function.update_noteq hk'] at he
      exact q.key_eq k' e he

/-- `Pop`: the event of the first key, and the queue without it; `none` on an empty
queue, where `Pop` blocks. Every queued key has its event, so the skip of a deleted key
never happens. -/
def PodEventQueue.pop (q : PodEventQueue) : Option (PodEvent × PodEventQueue) :=
  match h : q.queue with
  | [] => none
  | k :: _ => (q.items k).map fun e => (e, q.dropFirst h)

/-- The queued events, in the order of their keys. -/
def PodEventQueue.events (q : PodEventQueue) : List PodEvent :=
  q.queue.filterMap q.items

/-- `Add` on a queue of events with distinct keys: an event whose key is queued replaces
the queued one in its place, and another joins the end. -/
def enqueue (events : List PodEvent) (e : PodEvent) : List PodEvent :=
  if events.any fun e' => podEventKey e' = podEventKey e then
    events.map fun e' => if podEventKey e' = podEventKey e then e else e'
  else events ++ [e]

theorem mem_enqueue {l : List PodEvent} {e x : PodEvent} (hx : x ∈ enqueue l e) :
    x = e ∨ x ∈ l := by
  unfold enqueue at hx
  split at hx
  · obtain ⟨x', hx', rfl⟩ := List.mem_map.mp hx
    split
    · exact .inl rfl
    · exact .inr hx'
  · simpa [or_comm] using hx

theorem mem_enqueue_self (l : List PodEvent) (e : PodEvent) : e ∈ enqueue l e := by
  unfold enqueue
  split
  · next h =>
      obtain ⟨x, hx, hk⟩ := List.any_eq_true.mp h
      exact List.mem_map.2 ⟨x, hx, by simp [of_decide_eq_true hk]⟩
  · simp

/-- An event of the queue leaves its key there when another is added. -/
theorem exists_key_enqueue {l : List PodEvent} (e : PodEvent) {x : PodEvent} (hx : x ∈ l) :
    ∃ y ∈ enqueue l e, podEventKey y = podEventKey x := by
  unfold enqueue
  split
  · refine ⟨_, List.mem_map_of_mem _ hx, ?_⟩
    split <;> simp_all
  · exact ⟨x, List.mem_append_left _ hx, rfl⟩

/-- Adding a second event of one key replaces the first in its slot. -/
theorem enqueue_enqueue {e₁ e₂ : PodEvent} (h : podEventKey e₁ = podEventKey e₂)
    (l : List PodEvent) : enqueue (enqueue l e₁) e₂ = enqueue l e₂ := by
  have hany : ((enqueue l e₁).any fun e' => podEventKey e' = podEventKey e₂) = true :=
    List.any_eq_true.2 ⟨e₁, mem_enqueue_self l e₁, decide_eq_true h⟩
  rw [enqueue, if_pos hany]
  unfold enqueue
  simp only [h]
  split
  · rw [List.map_map]
    refine List.map_congr_left fun x _ => ?_
    by_cases hx : podEventKey x = podEventKey e₂ <;> simp [hx, h]
  · next hl =>
      rw [List.map_append, List.map_singleton, if_pos h]
      refine congrArg (· ++ [e₂])
        ((List.map_congr_left fun x hx => if_neg ?_).trans (List.map_id _))
      exact fun hk => hl (List.any_eq_true.2 ⟨x, hx, decide_eq_true hk⟩)

/-- The queued events are keyed by the queue, in its order. -/
theorem PodEventQueue.keys_events (q : PodEventQueue) : q.events.map podEventKey = q.queue := by
  have h : ∀ l : List String, (∀ k ∈ l, q.items k ≠ none) →
      (l.filterMap q.items).map podEventKey = l := by
    intro l hl
    induction l with
    | nil => rfl
    | cons k l ih =>
        rw [List.forall_mem_cons] at hl
        obtain ⟨e, he⟩ := Option.ne_none_iff_exists'.mp hl.1
        simp [List.filterMap_cons, he, q.key_eq k e he, ih hl.2]
  exact h q.queue fun k hk => (q.mem_queue k).1 hk

theorem PodEventQueue.nodup_keys (q : PodEventQueue) : (q.events.map podEventKey).Nodup := by
  rw [q.keys_events]
  exact q.nodup

/-- Storing an event under a key replaces the queued event of that key in place. -/
theorem filterMap_update_some (q : PodEventQueue) (e : PodEvent) (l : List String)
    (hl : ∀ k ∈ l, q.items k ≠ none) :
    l.filterMap (Function.update q.items (podEventKey e) (some e)) =
      (l.filterMap q.items).map fun e' => if podEventKey e' = podEventKey e then e else e' := by
  induction l with
  | nil => rfl
  | cons k l ih =>
      rw [List.forall_mem_cons] at hl
      obtain ⟨e', he'⟩ := Option.ne_none_iff_exists'.mp hl.1
      have hkey := q.key_eq k e' he'
      by_cases hk : k = podEventKey e
      · subst hk
        simp [List.filterMap_cons, he', hkey, ih hl.2]
      · simp [List.filterMap_cons, Function.update_noteq hk, he', hkey, hk, ih hl.2]

/-- `Add` is `enqueue` on the queued events. -/
theorem PodEventQueue.events_add (q : PodEventQueue) (e : PodEvent) :
    (q.add e).events = enqueue q.events e := by
  have hl : ∀ k ∈ q.queue, q.items k ≠ none := fun k hk => (q.mem_queue k).1 hk
  have hany : (q.events.any fun e' => podEventKey e' = podEventKey e) =
      decide (podEventKey e ∈ q.queue) := by
    rw [Bool.eq_iff_iff, List.any_eq_true, decide_eq_true_iff, ← q.keys_events, List.mem_map]
    simp only [decide_eq_true_iff]
  simp only [PodEventQueue.events, PodEventQueue.add, enqueue] at hany ⊢
  rw [hany]
  by_cases hk : podEventKey e ∈ q.queue
  · rw [if_neg (hl _ hk), if_pos (decide_eq_true hk)]
    exact filterMap_update_some q e q.queue hl
  · have hnone : q.items (podEventKey e) = none := by
      by_contra hne
      exact hk ((q.mem_queue _).2 hne)
    rw [if_pos hnone, if_neg (by simpa using hk), List.filterMap_append,
      filterMap_update_some q e q.queue hl]
    simp only [List.filterMap_cons, Function.update_same, List.filterMap_nil]
    congr 1
    refine (List.map_congr_left fun e' he' => ?_).trans (List.map_id _)
    have : podEventKey e' ≠ podEventKey e := fun h => hk (by
      rw [← q.keys_events, ← h]
      exact List.mem_map_of_mem podEventKey he')
    simp [this]

/-- `Pop` blocks exactly on an empty queue. -/
theorem PodEventQueue.pop_eq_none (q : PodEventQueue) : q.pop = none ↔ q.events = [] := by
  unfold PodEventQueue.pop PodEventQueue.events
  split
  · next h => simp [h]
  · next k rest h =>
      obtain ⟨e, he⟩ :=
        Option.ne_none_iff_exists'.mp ((q.mem_queue k).1 (h ▸ List.mem_cons_self _ _))
      simp [h, he, List.filterMap_cons]

/-- `Pop` takes the first queued event and leaves the others. -/
theorem PodEventQueue.events_of_pop {q q' : PodEventQueue} {e : PodEvent}
    (h : q.pop = some (e, q')) : q.events = e :: q'.events := by
  unfold PodEventQueue.pop at h
  split at h
  · cases h
  · next k rest hq =>
      cases he : q.items k with
      | none => simp [he] at h
      | some e' =>
          simp only [he, Option.map_some', Option.some.injEq, Prod.mk.injEq] at h
          obtain ⟨rfl, rfl⟩ := h
          have hk : k ∉ rest := (List.nodup_cons.mp (hq ▸ q.nodup)).1
          simp only [PodEventQueue.events, hq, List.filterMap_cons, he, PodEventQueue.dropFirst]
          congr 1
          refine List.filterMap_congr fun k' hk' => ?_
          rw [Function.update_noteq (show k' ≠ k from fun h => hk (h ▸ hk'))]

/-- Events with one key take one slot while queued: adding two of them leaves the queue
as adding the later one alone. -/
theorem PodEventQueue.events_add_add (q : PodEventQueue) {e₁ e₂ : PodEvent}
    (h : podEventKey e₁ = podEventKey e₂) :
    ((q.add e₁).add e₂).events = (q.add e₂).events := by
  rw [PodEventQueue.events_add, PodEventQueue.events_add, PodEventQueue.events_add,
    enqueue_enqueue h]

/-! ### The dispatcher -/

/-- Where the loop of `processPodEventQueue` is: at its `select` on the stop channel,
inside `Pop` waiting for an event, or returned. -/
inductive Loop where
  | select
  | popping
  | returned
  deriving DecidableEq

/-- The pod-event side of a cluster: its FIFO, the pods with a registered subscriber,
whether the stop channel is closed, where the loop is, and the events it handed to a
subscriber or dropped. -/
structure Dispatcher where
  queue : PodEventQueue
  subscribers : List NamespacedName
  stopped : Bool
  loop : Loop
  delivered : List PodEvent
  dropped : List PodEvent

/-- The dispatcher after `New` and `Run`: an empty queue, no subscriber, the loop at its
`select`. -/
def Dispatcher.started : Dispatcher := ⟨.empty, [], false, .select, [], []⟩

/-- `ReceivePodEvent`: add the event to the FIFO. -/
def receivePodEvent (e : PodEvent) (d : Dispatcher) : Dispatcher :=
  { d with queue := d.queue.add e }

/-- `processPodEvent`: hand the event to the subscriber registered for its pod, or drop
it when there is none. The cast never fails, as only pod events are queued. -/
def processPodEvent (e : PodEvent) (d : Dispatcher) : Dispatcher :=
  if e.podName ∈ d.subscribers then { d with delivered := d.delivered ++ [e] }
  else { d with dropped := d.dropped ++ [e] }

/-- One step of the loop of `processPodEventQueue`: at the `select`, return once the stop
channel is closed and enter `Pop` otherwise; inside `Pop`, wait for an event, then
process the oldest one and go round. -/
def processPodEventQueueStep (d : Dispatcher) : Dispatcher :=
  match d.loop with
  | .returned => d
  | .select => if d.stopped then { d with loop := .returned } else { d with loop := .popping }
  | .popping =>
      match d.queue.pop with
      | none => d
      | some (e, q) => processPodEvent e { d with queue := q, loop := .select }

/-- What can happen to the dispatcher: a pod event arrives, a subscriber registers or
leaves, the stop channel closes, or the loop takes a step. -/
inductive DispatchStep where
  | receive (e : PodEvent)
  | subscribe (pod : NamespacedName)
  | unsubscribe (pod : NamespacedName)
  | stop
  | next

/-- One step; registration, which is outside cluster.go, keeps one subscriber per pod. -/
def DispatchStep.apply : DispatchStep → Dispatcher → Dispatcher
  | .receive e, d => receivePodEvent e d
  | .subscribe pod, d => { d with subscribers := pod :: d.subscribers }
  | .unsubscribe pod, d => { d with subscribers := d.subscribers.filter (· ≠ pod) }
  | .stop, d => { d with stopped := true }
  | .next, d => processPodEventQueueStep d

/-- A run of steps. -/
def dispatch (d : Dispatcher) (steps : List DispatchStep) : Dispatcher :=
  steps.foldl (fun d s => s.apply d) d

/-- The events a run receives, in order. -/
def received (steps : List DispatchStep) : List PodEvent :=
  steps.filterMap fun
    | .receive e => some e
    | _ => none

/-- The pods a run registers a subscriber for. -/
def subscribed (steps : List DispatchStep) : List NamespacedName :=
  steps.filterMap fun
    | .subscribe pod => some pod
    | _ => none

/-- The events the dispatcher holds or has handled. -/
def Dispatcher.seen (d : Dispatcher) : List PodEvent :=
  d.queue.events ++ d.delivered ++ d.dropped

theorem Dispatcher.mem_seen {d : Dispatcher} {x : PodEvent} :
    x ∈ d.seen ↔ x ∈ d.queue.events ∨ x ∈ d.delivered ∨ x ∈ d.dropped := by
  simp only [Dispatcher.seen, List.mem_append, or_assoc]

theorem mem_seen_receivePodEvent {e x : PodEvent} {d : Dispatcher} :
    x ∈ (receivePodEvent e d).seen ↔
      x ∈ enqueue d.queue.events e ∨ x ∈ d.delivered ∨ x ∈ d.dropped := by
  simp only [Dispatcher.mem_seen, receivePodEvent, PodEventQueue.events_add]

/-- The events handled so far, delivered or dropped. -/
def Dispatcher.handled (d : Dispatcher) : Nat :=
  d.delivered.length + d.dropped.length

/-- A step of the loop handles at most the event it pops, which was the oldest queued:
what the dispatcher holds or has handled stays the same. -/
theorem seen_processPodEventQueueStep (d : Dispatcher) (e : PodEvent) :
    e ∈ (processPodEventQueueStep d).seen ↔ e ∈ d.seen := by
  unfold processPodEventQueueStep
  split
  · rfl
  · split <;> rfl
  · split
    · rfl
    · next e' q hpop =>
        have hq := PodEventQueue.events_of_pop hpop
        unfold processPodEvent
        split <;> simp only [Dispatcher.seen, hq, List.mem_append, List.mem_cons,
          List.mem_singleton] <;> tauto

/-- A step of the loop keeps the subscribers, and delivers only to a registered pod. -/
theorem processPodEventQueueStep_delivered (d : Dispatcher) :
    (processPodEventQueueStep d).subscribers = d.subscribers ∧
      ∀ e ∈ (processPodEventQueueStep d).delivered,
        e ∈ d.delivered ∨ e.podName ∈ d.subscribers := by
  unfold processPodEventQueueStep
  split
  · exact ⟨rfl, fun e he => .inl he⟩
  · split <;> exact ⟨rfl, fun e he => .inl he⟩
  · split
    · exact ⟨rfl, fun e he => .inl he⟩
    · unfold processPodEvent
      split
      · next e' q _ h => exact ⟨rfl, fun e he => by
          rcases List.mem_append.mp he with he | he
          · exact .inl he
          · rw [List.mem_singleton.mp he]; exact .inr h⟩
      · exact ⟨rfl, fun e he => .inl he⟩

/-- Every event of a run is accounted for: each one received has an event of its key
queued or handled, every one queued or handled was received, and every one delivered
went to a pod that registered a subscriber. -/
structure Accounted (rcv : List PodEvent) (subs : List NamespacedName) (d : Dispatcher) :
    Prop where
  kept : ∀ e ∈ rcv, ∃ e' ∈ d.seen, podEventKey e' = podEventKey e
  known : ∀ e ∈ d.seen, e ∈ rcv
  subscribers : ∀ pod ∈ d.subscribers, pod ∈ subs
  delivered : ∀ e ∈ d.delivered, e.podName ∈ subs

theorem Accounted.step {rcv : List PodEvent} {subs : List NamespacedName} {d : Dispatcher}
    (h : Accounted rcv subs d) (s : DispatchStep) :
    Accounted (rcv ++ received [s]) (subs ++ subscribed [s]) (s.apply d) := by
  cases s with
  | receive e =>
      show Accounted (rcv ++ [e]) (subs ++ []) (receivePodEvent e d)
      rw [List.append_nil]
      refine ⟨fun x hx => ?_, fun x hx => ?_, h.subscribers, h.delivered⟩
      · rcases List.mem_append.mp hx with hx | hx
        · obtain ⟨y, hy, hk⟩ := h.kept x hx
          rcases Dispatcher.mem_seen.1 hy with hy | hy
          · obtain ⟨z, hz, hk'⟩ := exists_key_enqueue e hy
            exact ⟨z, mem_seen_receivePodEvent.2 (.inl hz), hk'.trans hk⟩
          · exact ⟨y, mem_seen_receivePodEvent.2 (.inr hy), hk⟩
        · rw [List.mem_singleton.mp hx]
          exact ⟨e, mem_seen_receivePodEvent.2 (.inl (mem_enqueue_self _ _)), rfl⟩
      · rcases mem_seen_receivePodEvent.1 hx with hx | hx
        · rcases mem_enqueue hx with rfl | hx
          · exact List.mem_append_right _ (List.mem_singleton_self _)
          · exact List.mem_append_left _ (h.known x (Dispatcher.mem_seen.2 (.inl hx)))
        · exact List.mem_append_left _ (h.known x (Dispatcher.mem_seen.2 (.inr hx)))
  | subscribe pod =>
      exact ⟨by simpa [received] using h.kept, by simpa [received] using h.known,
        by simpa [subscribed, DispatchStep.apply] using fun p hp => Or.inl (h.subscribers p hp),
        fun e he => List.mem_append_left _ (h.delivered e he)⟩
  | unsubscribe pod =>
      exact ⟨by simpa [received] using h.kept, by simpa [received] using h.known,
        fun p hp => by simpa [subscribed] using h.subscribers p (List.mem_of_mem_filter hp),
        by simpa [subscribed] using h.delivered⟩
  | stop =>
      exact ⟨by simpa [received] using h.kept, by simpa [received] using h.known,
        by simpa [subscribed] using h.subscribers, by simpa [subscribed] using h.delivered⟩
  | next =>
      obtain ⟨hsubs, hdel⟩ := processPodEventQueueStep_delivered d
      refine ⟨fun x hx => ?_, fun x hx => ?_, fun p hp => ?_, fun x hx => ?_⟩
      · obtain ⟨y, hy, hk⟩ := h.kept x (by simpa [received] using hx)
        exact ⟨y, (seen_processPodEventQueueStep d y).2 hy, hk⟩
      · simpa [received] using h.known x ((seen_processPodEventQueueStep d x).1 hx)
      · simpa [subscribed] using h.subscribers p (hsubs ▸ hp)
      · rcases hdel x hx with hx | hx
        · simpa [subscribed] using h.delivered x hx
        · simpa [subscribed] using h.subscribers _ hx

theorem received_cons (s : DispatchStep) (steps : List DispatchStep) :
    received (s :: steps) = received [s] ++ received steps := by
  cases s <;> rfl

theorem subscribed_cons (s : DispatchStep) (steps : List DispatchStep) :
    subscribed (s :: steps) = subscribed [s] ++ subscribed steps := by
  cases s <;> rfl

theorem Accounted.dispatch {rcv : List PodEvent} {subs : List NamespacedName} {d : Dispatcher}
    (h : Accounted rcv subs d) (steps : List DispatchStep) :
    Accounted (rcv ++ received steps) (subs ++ subscribed steps) (dispatch d steps) := by
  induction steps generalizing rcv subs d with
  | nil => simpa [received, subscribed, dispatch] using h
  | cons s steps ih =>
      rw [received_cons, subscribed_cons, ← List.append_assoc, ← List.append_assoc]
      exact ih (h.step s)

/-- An event received twice takes one slot, and its pod's subscriber gets it once. -/
example :
    let e : PodEvent := ⟨⟨"default", "acid-0"⟩, "7"⟩
    let d := dispatch .started [.subscribe e.podName, .receive e, .receive e, .next, .next]
    d.delivered = [e] ∧ d.queue.events = [] ∧ d.loop = .select := by
  decide

/-- What the loop may still hand on: the events handled, and the one its `Pop` waits for. -/
def Dispatcher.owed (d : Dispatcher) : Nat :=
  d.handled + if d.loop = .popping then 1 else 0

theorem Dispatcher.owed_step {d : Dispatcher} (hd : d.stopped = true) (s : DispatchStep) :
    (s.apply d).stopped = true ∧ (s.apply d).owed ≤ d.owed := by
  cases s with
  | next =>
      simp only [DispatchStep.apply]
      unfold processPodEventQueueStep
      split
      · exact ⟨hd, le_rfl⟩
      · next hl => simp [hd, Dispatcher.owed, Dispatcher.handled, hl]
      · next hl =>
          split
          · exact ⟨hd, le_rfl⟩
          · unfold processPodEvent
            split <;> simp [hd, Dispatcher.owed, Dispatcher.handled, hl] <;> omega
  | _ => simp [DispatchStep.apply, receivePodEvent, hd, Dispatcher.owed, Dispatcher.handled]

/-- Once the stop channel is closed, the loop hands on at most the one event its `Pop`
was already waiting for, and then returns, whatever arrives. -/
theorem dispatch_after_stop (d : Dispatcher) (hd : d.stopped = true) (steps : List DispatchStep) :
    (dispatch d steps).handled ≤ d.handled + if d.loop = .popping then 1 else 0 := by
  suffices h : ∀ d : Dispatcher, d.stopped = true → (dispatch d steps).owed ≤ d.owed from
    (Nat.le_add_right _ _).trans (h d hd)
  induction steps with
  | nil => exact fun _ _ => le_rfl
  | cons s steps ih =>
      intro d hd
      obtain ⟨hs, hle⟩ := Dispatcher.owed_step hd s
      exact (ih _ hs).trans hle

/-- A loop already inside `Pop` when the stop closes: of the two events that arrive after,
at most the first is handed on. -/
theorem dispatch_after_stop_sample :
    let e₁ : PodEvent := ⟨⟨"default", "acid-0"⟩, "7"⟩
    let e₂ : PodEvent := ⟨⟨"default", "acid-0"⟩, "8"⟩
    let d := dispatch .started [.subscribe e₁.podName, .next, .stop]
    let steps : List DispatchStep := [.receive e₁, .receive e₂, .next, .next, .next]
    d.stopped = true ∧
      (dispatch d steps).handled ≤ d.handled + if d.loop = .popping then 1 else 0 :=
  ⟨by decide, dispatch_after_stop _ (by decide) _⟩

end PostgresOperator
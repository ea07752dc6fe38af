import Dispatch.Cluster.Running

/-!
# Machines that nobody interrupts

A machine that runs alone goes on from place to place: `Leads` says that it comes by a place, and
`Ends` that it ends there with a result, however many steps it is granted beyond those it needs.
`LeadsIn` and `StopsIn` say besides how many it needs, and whether it ends or breaks off.  In a
cluster without faults a call is what the store or the queue does with it.
-/

namespace Dispatch

namespace Cluster

variable {c : Cluster}

/-- No fault is planned. -/
structure Faultless (c : Cluster) : Prop where
  store : c.storeFaults = []
  queue : c.queueFaults = []

/-- Nothing goes wrong with any call. -/
structure Clean (c : Cluster) : Prop extends Faultless c where
  usable : c.queue.closed = false

theorem askStore_faultless (faultless : c.Faultless) (call : StoreCall) :
    c.askStore call = c.storeDirectly call := by
  obtain ⟨hstore, -⟩ := faultless
  obtain ⟨now, store, queue, alarms, pushes, storeFaults, queueFaults, coins, crews, ready,
    parked⟩ := c
  cases hstore
  rfl

theorem askQueue_faultless (faultless : c.Faultless) (call : QueueCall) :
    c.askQueue call = c.queueDirectly call := by
  obtain ⟨-, hqueue⟩ := faultless
  obtain ⟨now, store, queue, alarms, pushes, storeFaults, queueFaults, coins, crews, ready,
    parked⟩ := c
  cases hqueue
  rfl

/-- What a call to the queue does that comes to its end. -/
def performed (call : QueueCall) (c : Cluster) : call.Reply × Cluster :=
  ((c.queue.perform c.now call).1,
    { c with queue := (c.queue.perform c.now call).2, pushes := c.pushes + pushed call })

theorem queueDirectly_of_returns {call : QueueCall} (usable : c.queue.closed = false)
    (returns : c.queue.breaksOff c.now call = false) : c.queueDirectly call = c.performed call := by
  simp only [performed, queueDirectly, LeaseQueue.call_of_returns usable returns,
    LeaseQueue.closed_perform, usable, Option.getD_some, Bool.false_eq_true, if_false]

end Cluster

namespace Running

variable {σ ρ : Type} {next : Time → σ → Next σ ρ} {r r' r'' : Running σ} {c c' c'' : Cluster}
  {result : ρ}

/-- The machine comes by a place. -/
def Leads (next : Time → σ → Next σ ρ) (r : Running σ) (c : Cluster) (r' : Running σ)
    (c' : Cluster) : Prop :=
  ∃ steps, ∀ fuel, r.run next (fuel + steps) c = r'.run next fuel c'

/-- The machine ends with a result. -/
def Ends (next : Time → σ → Next σ ρ) (r : Running σ) (c : Cluster) (result : ρ)
    (c' : Cluster) : Prop :=
  ∃ steps, ∀ fuel, r.run next (fuel + steps) c = (.ended result, c')

/-- The machine comes by a place after so many steps. -/
def LeadsIn (next : Time → σ → Next σ ρ) (n : Nat) (r : Running σ) (c : Cluster) (r' : Running σ)
    (c' : Cluster) : Prop :=
  ∀ fuel, r.run next (fuel + n) c = r'.run next fuel c'

/-- The machine goes no further than so many steps: it rests, has ended or has broken off. -/
def StopsIn (next : Time → σ → Next σ ρ) (n : Nat) (r : Running σ) (c : Cluster)
    (progress : Progress σ ρ) (c' : Cluster) : Prop :=
  ∀ fuel, r.run next (fuel + n) c = (progress, c')

variable {n m : Nat}

theorem LeadsIn.leads (h : r.LeadsIn next n c r' c') : r.Leads next c r' c' := ⟨n, h⟩

theorem LeadsIn.trans (h : r.LeadsIn next n c r' c') (h' : r'.LeadsIn next m c' r'' c'') :
    r.LeadsIn next (m + n) c r'' c'' := by
  intro fuel
  rw [← Nat.add_assoc, h, h']

theorem LeadsIn.stops {progress : Progress σ ρ} (h : r.LeadsIn next n c r' c')
    (h' : r'.StopsIn next m c' progress c'') : r.StopsIn next (m + n) c progress c'' := by
  intro fuel
  rw [← Nat.add_assoc, h, h']

theorem StopsIn.run_stride {progress : Progress σ ρ} (h : r.StopsIn next n c progress c')
    (few : n ≤ Cluster.stride) : r.run next Cluster.stride c = (progress, c') := by
  have hrun := h (Cluster.stride - n)
  rwa [Nat.sub_add_cancel few] at hrun

theorem Leads.refl (r : Running σ) (c : Cluster) : r.Leads next c r c := ⟨0, fun _ => rfl⟩

theorem Leads.trans (h : r.Leads next c r' c') (h' : r'.Leads next c' r'' c'') :
    r.Leads next c r'' c'' := by
  obtain ⟨n, hn⟩ := h
  obtain ⟨m, hm⟩ := h'
  exact ⟨m + n, LeadsIn.trans hn hm⟩

theorem Leads.ends (h : r.Leads next c r' c') (h' : r'.Ends next c' result c'') :
    r.Ends next c result c'' := by
  obtain ⟨n, hn⟩ := h
  obtain ⟨m, hm⟩ := h'
  exact ⟨m + n, LeadsIn.stops hn hm⟩

theorem askStore_faultless (faultless : c.Faultless) (r : Running σ) (call : StoreCall) :
    r.askStore call c = c.storeDirectly call := by
  unfold askStore
  split
  · rfl
  · exact Cluster.askStore_faultless faultless call

theorem askQueue_faultless (faultless : c.Faultless) (r : Running σ) (call : QueueCall) :
    r.askQueue call c = c.queueDirectly call := by
  unfold askQueue
  split
  · rfl
  · exact Cluster.askQueue_faultless faultless call

variable {state state' : σ}

/-- A step is what the machine does about the thing that it does next. -/
theorem run_succ {asked : Next σ ρ} (asks : next c.now r.state = asked) (fuel : Nat) :
    r.run next (fuel + 1) c = r.follow (run next fuel) c asked := by
  rw [← asks]
  rfl

theorem leadsIn_store (clean : c.Clean) {call : StoreCall} {k : call.Reply → σ}
    {reply : call.Reply} (asks : next c.now state = .store call k)
    (answered : c.storeDirectly call = (reply, c')) (goes : k reply = state') :
    (r.moved state).LeadsIn next 1 c (r.moved state') c' := by
  intro fuel
  have hasked : (r.moved state).askStore call c = (reply, c') :=
    (askStore_faultless clean.toFaultless _ call).trans answered
  rw [run_succ asks, follow, hasked, ← goes]
  rfl

/-- A call to an open queue that comes to its end. -/
theorem leadsIn_queue (clean : c.Clean) {call : QueueCall} {k : call.Reply → σ}
    {reply : call.Reply} (asks : next c.now state = .queue call k)
    (returns : c.queue.breaksOff c.now call = false) (answered : c.performed call = (reply, c'))
    (goes : k reply = state') : (r.moved state).LeadsIn next 1 c (r.moved state') c' := by
  intro fuel
  have hasked : (r.moved state).askQueue call c = (reply, c') :=
    (askQueue_faultless clean.toFaultless _ call).trans
      ((Cluster.queueDirectly_of_returns clean.usable returns).trans answered)
  have husable : c'.queue.closed = false := by
    rw [← (Prod.mk.inj answered).2]
    exact (LeaseQueue.closed_perform _ _ _).trans clean.usable
  rw [run_succ asks, follow, hasked, ← goes]
  simp only [husable, Bool.false_and, Bool.false_eq_true, if_false]
  rfl

theorem leadsIn_go (goes : next c.now state = .go state') :
    (r.moved state).LeadsIn next 1 c (r.moved state') c := by
  intro fuel
  rw [run_succ goes]
  rfl

theorem leadsIn_toss {k : Bool → σ} (tosses : next c.now state = .toss k)
    (goes : k c.toss.1 = state') :
    (r.moved state).LeadsIn next 1 c (r.moved state') c.toss.2 := by
  intro fuel
  rw [run_succ tosses, ← goes]
  rfl

/-- The provider's answer is known when the job is handed to it. -/
theorem leadsIn_execute {job : Job} {pace limit : Span} {k : Answer → σ}
    (hands : next c.now state = .execute job pace limit k)
    (timely : c.hasTimeFor pace limit = true)
    (goes : k (c.heard r.crew limit) = state') :
    (r.moved state).LeadsIn next 1 c (r.moved state') (c.updateCrew r.crew (·.hand job)) := by
  intro fuel
  rw [run_succ hands, ← goes]
  exact if_pos timely

theorem leadsIn_arm {due : Time} {k : Alarm → σ} (arms : next c.now state = .arm due k)
    (goes : k ⟨due, c.alarms⟩ = state') :
    (r.moved state).LeadsIn next 1 c (r.moved state') { c with alarms := c.alarms + 1 } := by
  intro fuel
  rw [run_succ arms, ← goes]
  rfl

/-- A machine that waits goes on when one of its alarms has gone off. -/
theorem leadsIn_sleep {alarms : List Alarm} (sleeps : next c.now state = .sleep alarms state')
    (rung : alarms.any (·.isDue c.now) = true) (wait : Wait) :
    ((r.moved state).waiting wait).LeadsIn next 1 c (r.moved state') c := by
  intro fuel
  rw [run_succ sleeps]
  exact if_pos rung

/-- A machine whose alarms have not gone off waits for them. -/
theorem run_sleep {alarms : List Alarm} (sleeps : next c.now state = .sleep alarms state')
    (silent : ¬ alarms.any (·.isDue c.now) = true) (fuel : Nat) :
    (r.moved state).run next (fuel + 1) c =
      (.resting ((r.moved state).waiting (.alarm alarms)), c) := by
  rw [run_succ sleeps]
  exact if_neg silent

theorem LeadsIn.run_stride {alarms : List Alarm} (h : r'.LeadsIn next n c' (r.moved state) c)
    (sleeps : next c.now state = .sleep alarms state')
    (silent : ¬ alarms.any (·.isDue c.now) = true) (few : 1 + n ≤ Cluster.stride) :
    r'.run next Cluster.stride c' = (.resting ((r.moved state).waiting (.alarm alarms)), c) := by
  have hrun := h (Cluster.stride - (1 + n) + 1)
  rw [Nat.add_assoc, Nat.sub_add_cancel few] at hrun
  exact hrun.trans (run_sleep sleeps silent _)

theorem stopsIn_finished (ended : next c.now state = .finished result) :
    (r.moved state).StopsIn next 1 c (.ended result) c := by
  intro fuel
  rw [run_succ ended]
  rfl

theorem leads_store (clean : c.Clean) {call : StoreCall} {k : call.Reply → σ} {reply : call.Reply}
    (asks : next c.now state = .store call k) (answered : c.storeDirectly call = (reply, c'))
    (goes : k reply = state') : (r.moved state).Leads next c (r.moved state') c' :=
  (leadsIn_store clean asks answered goes).leads

theorem leads_queue (clean : c.Clean) {call : QueueCall} {k : call.Reply → σ}
    {reply : call.Reply} (asks : next c.now state = .queue call k)
    (returns : c.queue.breaksOff c.now call = false) (answered : c.performed call = (reply, c'))
    (goes : k reply = state') : (r.moved state).Leads next c (r.moved state') c' :=
  (leadsIn_queue clean asks returns answered goes).leads

theorem leads_go (goes : next c.now state = .go state') :
    (r.moved state).Leads next c (r.moved state') c :=
  (leadsIn_go goes).leads

theorem ends_finished (ended : next c.now state = .finished result) :
    (r.moved state).Ends next c result c :=
  ⟨1, stopsIn_finished ended⟩

end Running

end Dispatch

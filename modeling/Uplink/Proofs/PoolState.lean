/-
A pool among those who use it.

Connections join a pool and leave it, writes are placed, moved and handed back, and meanwhile the
task of any connection may make a turn.  A close of the whole pool takes its time: it waits for one
member after the other, and nothing else is asked of the pool until it is done.  The state of a pool
is the pool and its fleet together with what the owner holds and with a record of what has happened.

* `Uplink.PoolState` — the pool, the fleet, what the owner holds, and the record;
* `Uplink.Operation`, `Uplink.PoolState.step` — what can happen, and its outcome; an operation that
  is not possible changes nothing;
* `Uplink.PoolState.Reachable` — the states that runs lead to, whatever their operations are;
* `Uplink.PoolState.Altered` — what an operation does to the pool and adds to its history;
* `Uplink.PoolState.handles_resolve` — **a handle leads to its member until the member leaves**, and
  the pool knows its members and its spare slots.
-/

import Uplink.Connection.Task
import Uplink.Proofs.Placing
import Uplink.Proofs.SlotHistory

set_option relaxedAutoImplicit false
set_option autoImplicit false

namespace Uplink

/-! ### What can happen -/

/-- What the owner asks of a member through its handle. -/
inductive Request
  | connect
  | shutdown
  | close (waiter : Waiter)
deriving DecidableEq, Repr

/-- Asks for it. -/
def Request.run : Request → Connection → Progress
  | connect, c => c.connect
  | shutdown, c => c.shutdown
  | close waiter, c => c.close waiter

/-- What can happen to a pool. -/
inductive Operation
  /-- The task of a connection makes a turn. -/
  | turn (number : Nat) (now : Instant) (stimulus : Stimulus)
  /-- A new connection joins the pool. -/
  | add (now : Instant) (blueprint : Blueprint)
  /-- A member leaves the pool, and its writes are handed back. -/
  | remove (handle : PoolHandle)
  /-- A write is submitted to the pool.  One in the course of a reroute excludes a member. -/
  | submit (w : PendingWrite) (excluded : Option PoolHandle)
  /-- The writes that wait at a member are moved to others. -/
  | reroute (handle : PoolHandle)
  /-- The pool is asked for a free member. -/
  | select
  | connectAll
  | reconnectFailed (now : Instant)
  /-- Something is asked of a member. -/
  | ask (handle : PoolHandle) (request : Request)
  /-- A write is submitted to a member. -/
  | write (handle : PoolHandle) (w : PendingWrite)
  /-- The writes that wait at a member are handed back. -/
  | take (handle : PoolHandle)
  /-- A write that was handed back is dropped. -/
  | discard (w : PendingWrite)
  /-- A close of the pool begins. -/
  | closeAll
  /-- It asks the next member for a close and waits. -/
  | await (waiter : Waiter)
  /-- It gives up the next member; after the last one, the pool is empty. -/
  | giveUp

/-- A pool among those who use it. -/
structure PoolState where
  /-- The pool. -/
  pool : Pool := {}
  /-- The connections it has made. -/
  fleet : Fleet := []
  /-- The members that a close of the pool has still to give up, while there is one. -/
  closing : Option (List Nat) := none
  /-- Writes that were handed back and are still held. -/
  handed : List PendingWrite := []
  /-- Every write submitted so far. -/
  submitted : List PendingWrite := []
  /-- What the surroundings learnt, in order. -/
  happenings : List Happening := []
  /-- How members have come and gone. -/
  history : List Turnover := []

namespace PoolState

variable {s t : PoolState}

/-- A connection does something. -/
def work (s : PoolState) (number : Nat) (act : Connection → Progress) : PoolState :=
  let (fleet, happenings) := s.fleet.step number act
  { s with fleet, happenings := s.happenings ++ happenings }

/-- The member that a handle names does something. -/
def workAt (s : PoolState) (h : PoolHandle) (act : Connection → Progress) : PoolState :=
  match s.pool.get? h with
  | some member => s.work member act
  | none => s

/-- A write that was handed back is used again, or a fresh one is used. -/
def offer (s : PoolState) (w : PendingWrite) : Option PoolState :=
  if w ∈ s.handed then some { s with handed := s.handed.erase w }
  else if w.ticket ∉ s.submitted.map (·.ticket) ∧ w.dispatchedAt = none then
    some { s with submitted := s.submitted ++ [w] }
  else none

/-- A new connection joins the pool. -/
def add (s : PoolState) (now : Instant) (blueprint : Blueprint) : PoolState :=
  let (result, pool, fleet) := s.pool.add s.fleet now blueprint
  { s with
    pool, fleet
    history := s.history ++ result.toOption.toList.map (.joined · s.fleet.length) }

/-- A member leaves the pool. -/
def remove (s : PoolState) (h : PoolHandle) : PoolState :=
  let (waiting, pool, fleet, happenings) := s.pool.discharge s.fleet h
  { s with
    pool, fleet
    handed := s.handed ++ waiting
    happenings := s.happenings ++ happenings
    history := s.history ++ if (s.pool.get? h).isSome then [.left h] else [] }

/-- A write is placed. -/
def place (s : PoolState) (w : PendingWrite) (excluded : Option PoolHandle) : PoolState :=
  let (_, pool, fleet, happenings) := s.pool.place s.fleet w excluded
  { s with pool, fleet, happenings := s.happenings ++ happenings }

/-- The writes that wait at a member are moved to others. -/
def reroute (s : PoolState) (h : PoolHandle) : PoolState :=
  let (_, pool, fleet, happenings) := s.pool.reroute s.fleet h
  { s with pool, fleet, happenings := s.happenings ++ happenings }

/-- The writes that wait at a member are handed back. -/
def take (s : PoolState) (h : PoolHandle) : PoolState :=
  match s.pool.get? h with
  | some member =>
      match s.fleet[member]? with
      | some c =>
          { s with
            fleet := s.fleet.set member c.takePending.2
            handed := s.handed ++ c.takePending.1 }
      | none => s
  | none => s

/-- The next step of a close of the pool: the next member is given up. -/
def giveUp (s : PoolState) : PoolState :=
  match s.closing with
  | some (member :: rest) => { s.work member (·.letGo) with closing := some rest }
  | some [] =>
      { s with
        pool := s.pool.clear
        closing := none
        history := s.history ++ [.closed (s.pool.entries.map (·.1))] }
  | none => s

/-- The pool is at the disposal of its owner. -/
def isOpen (s : PoolState) : Bool := s.closing.isNone

/-- An operation; one that is not possible changes nothing. -/
def step (s : PoolState) : Operation → PoolState
  | .turn number now stimulus => s.work number (·.turn now stimulus)
  | .add now blueprint => if s.isOpen then s.add now blueprint else s
  | .remove h => if s.isOpen then s.remove h else s
  | .submit w excluded =>
      if s.isOpen then ((s.offer w).map (·.place w excluded)).getD s else s
  | .reroute h => if s.isOpen then s.reroute h else s
  | .select => if s.isOpen then { s with pool := (s.pool.nextFree s.fleet).2 } else s
  | .connectAll =>
      if s.isOpen then
        let (_, fleet, happenings) := s.pool.connectAll s.fleet
        { s with fleet, happenings := s.happenings ++ happenings }
      else s
  | .reconnectFailed now =>
      if s.isOpen then
        let (_, fleet, happenings) := s.pool.reconnectFailed s.fleet now
        { s with fleet, happenings := s.happenings ++ happenings }
      else s
  | .ask h request => if s.isOpen then s.workAt h request.run else s
  | .write h w =>
      if s.isOpen ∧ (s.pool.get? h).isSome then
        ((s.offer w).map (·.workAt h (·.write w))).getD s
      else s
  | .take h => if s.isOpen then s.take h else s
  | .discard w =>
      if w ∈ s.handed then
        { s with
          handed := s.handed.erase w
          happenings := s.happenings ++
            [⟨none, .resolved w.ticket (w.undelivered .cancelled)⟩] }
      else s
  | .closeAll =>
      if s.isOpen then { s with closing := some (s.pool.entries.map (·.2)) } else s
  | .await waiter =>
      match s.closing with
      | some (member :: _) => s.work member (·.close waiter)
      | _ => s
  | .giveUp => s.giveUp

/-- A sequence of operations. -/
def run (s : PoolState) (operations : List Operation) : PoolState := operations.foldl step s

/-- A run from an empty pool leads to it. -/
inductive Reachable : PoolState → Prop
  | start : Reachable {}
  | step {s : PoolState} (h : Reachable s) (operation : Operation) : Reachable (s.step operation)

theorem Reachable.run (h : s.Reachable) (operations : List Operation) :
    (s.run operations).Reachable := by
  induction operations generalizing s with
  | nil => exact h
  | cons operation operations ih => exact ih (h.step operation)

/-! ### What operations do to the pool -/

/-- What an operation does to the pool and adds to its history. -/
structure Altered (s t : PoolState) (events : List Turnover) : Prop where
  alters : s.pool.Alters s.fleet.length t.pool t.fleet.length events
  history_eq : t.history = s.history ++ events

/-- The pool may be left alone. -/
theorem Altered.of_alike (hp : s.pool.Alike t.pool) (hh : t.history = s.history)
    (hf : s.fleet.length ≤ t.fleet.length) : Altered s t [] :=
  ⟨.stays hp.slots_eq hp.spare_eq hf, by rw [hh, List.append_nil]⟩

theorem Altered.refl (s : PoolState) : Altered s s [] := .of_alike (.refl _) rfl (Nat.le_refl _)

theorem altered_work (s : PoolState) (number : Nat) (act : Connection → Progress) :
    Altered s (s.work number act) [] :=
  .of_alike (.refl _) rfl (Nat.le_of_eq (s.fleet.length_step number act).symm)

theorem altered_workAt (s : PoolState) (h : PoolHandle) (act : Connection → Progress) :
    Altered s (s.workAt h act) [] := by
  unfold workAt
  split
  · exact altered_work s _ act
  · exact .refl s

/-- An offer leaves the pool alone. -/
theorem offer_eq_some {w : PendingWrite} (ho : s.offer w = some t) :
    ∃ handed submitted, t = { s with handed, submitted } := by
  unfold offer at ho
  split at ho
  · cases ho
    exact ⟨_, _, rfl⟩
  · split at ho
    · cases ho
      exact ⟨_, _, rfl⟩
    · cases ho

/-- What is done with an offer alters the pool as it does after the offer was made. -/
theorem altered_offer (s : PoolState) (w : PendingWrite) {f : PoolState → PoolState}
    (hf : ∀ t : PoolState, Altered t (f t) []) : Altered s (((s.offer w).map f).getD s) [] := by
  cases ho : s.offer w with
  | none => exact .refl s
  | some t =>
      obtain ⟨handed, submitted, rfl⟩ := offer_eq_some ho
      obtain ⟨halters, hhistory⟩ := hf { s with handed, submitted }
      exact ⟨halters, hhistory⟩

theorem altered_add (ht : s.pool.Tidy) (now : Instant) (blueprint : Blueprint) :
    ∃ events, Altered s (s.add now blueprint) events := by
  unfold add Pool.add
  cases blueprint.build now with
  | error fault => exact ⟨[], .of_alike (.refl _) (List.append_nil _) (Nat.le_refl _)⟩
  | ok c =>
      obtain ⟨index, generation, q, hinsert, hq⟩ := Pool.insert_eq ht s.fleet.length
      simp only [hinsert]
      by_cases hfull : Pool.wordSize ≤ index
      · simp only [hfull, if_true]
        exact ⟨[], .overflows index generation hfull hq (by simp), rfl⟩
      · simp only [hfull, if_false]
        exact ⟨[.joined ⟨index, generation⟩ s.fleet.length],
          .joins index generation hq (by simp), rfl⟩

theorem length_place (p : Pool) (f : Fleet) (w : PendingWrite) (excluded : Option PoolHandle) :
    (p.place f w excluded).2.2.1.length = f.length := by
  have hplaced := p.placed f w excluded
  generalize p.place f w excluded = result at hplaced
  cases hplaced with
  | waits => exact f.length_step _ _
  | cancels => rfl

theorem altered_place (s : PoolState) (w : PendingWrite) (excluded : Option PoolHandle) :
    Altered s (s.place w excluded) [] :=
  .of_alike (s.pool.placed s.fleet w excluded).alike rfl
    (Nat.le_of_eq (length_place s.pool s.fleet w excluded).symm)

theorem alike_placeAll (p : Pool) (f : Fleet) (excluded : Option PoolHandle)
    (writes : List PendingWrite) : p.Alike (p.placeAll f excluded writes).2.1 ∧
      (p.placeAll f excluded writes).2.2.1.length = f.length := by
  induction writes generalizing p f with
  | nil => exact ⟨.refl p, rfl⟩
  | cons w rest ih =>
      have halike := (p.placed f w excluded).alike
      have hlength := length_place p f w excluded
      obtain ⟨halike', hlength'⟩ := ih (p.place f w excluded).2.1 (p.place f w excluded).2.2.1
      exact ⟨halike.trans halike', hlength'.trans hlength⟩

theorem altered_reroute (s : PoolState) (h : PoolHandle) : Altered s (s.reroute h) [] := by
  unfold reroute
  rcases s.pool.reroute_cases s.fleet h with heq | ⟨member, c, hget, hc⟩
  · rw [heq]
    exact .of_alike (.refl _) rfl (Nat.le_refl _)
  · obtain ⟨halike, hlength⟩ :=
      alike_placeAll s.pool (s.fleet.set member c.takePending.2) (some h) c.queue
    rw [Pool.reroute_eq hget hc]
    refine .of_alike halike rfl (Nat.le_of_eq ?_)
    rw [hlength, List.length_set]

/-- A member leaves, unless the handle leads nowhere. -/
theorem altered_remove (hm : ∀ h member, s.pool.get? h = some member → member < s.fleet.length)
    (h : PoolHandle) : ∃ events, Altered s (s.remove h) events := by
  unfold remove
  cases hget : s.pool.get? h with
  | none =>
      rw [Pool.discharge_of_none hget]
      exact ⟨[], .of_alike (.refl _) (List.append_nil _) (Nat.le_refl _)⟩
  | some member =>
      have hlt := hm h member hget
      obtain ⟨q, hq, heq⟩ := Pool.discharge_eq hget (List.getElem?_eq_getElem hlt)
      rw [heq]
      exact ⟨[.left h], .leaves h member hget hq (by simp [Fleet.length_step]), rfl⟩

theorem altered_take (s : PoolState) (h : PoolHandle) : Altered s (s.take h) [] := by
  unfold take
  split
  · split
    · exact .of_alike (.refl _) rfl (by simp)
    · exact .refl s
  · exact .refl s

theorem altered_giveUp (s : PoolState) : ∃ events, Altered s s.giveUp events := by
  unfold giveUp
  split
  next member rest _ =>
    obtain ⟨halters, hhistory⟩ := altered_work s member (·.letGo)
    exact ⟨[], halters, hhistory⟩
  next => exact ⟨[.closed (s.pool.entries.map (·.1))], .closes rfl (Nat.le_refl _), rfl⟩
  next => exact ⟨[], .refl s⟩

/-- **Every operation does one thing** to the pool and its history. -/
theorem altered_step (hm : s.pool.Manned s.fleet.length) (operation : Operation) :
    ∃ events, Altered s (s.step operation) events := by
  have hite {p : Prop} [Decidable p] {t : PoolState} (ht : ∃ events, Altered s t events) :
      ∃ events, Altered s (if p then t else s) events := by
    split
    · exact ht
    · exact ⟨[], .refl s⟩
  cases operation with
  | turn number now stimulus => exact ⟨[], altered_work s number _⟩
  | add now blueprint => exact hite (altered_add hm.tidy now blueprint)
  | remove h => exact hite (altered_remove hm.member_lt h)
  | submit w excluded => exact hite ⟨[], altered_offer s w fun t => altered_place t w excluded⟩
  | reroute h => exact hite ⟨[], altered_reroute s h⟩
  | select => exact hite ⟨[], .of_alike (s.pool.alike_selectFree _) rfl (Nat.le_refl _)⟩
  | connectAll | reconnectFailed now =>
      exact hite ⟨[], .of_alike (.refl _) rfl (Nat.le_of_eq (s.fleet.length_steps _).symm)⟩
  | ask h request => exact hite ⟨[], altered_workAt s h _⟩
  | write h w => exact hite ⟨[], altered_offer s w fun t => altered_workAt t h _⟩
  | take h => exact hite ⟨[], altered_take s h⟩
  | discard w => exact hite ⟨[], .of_alike (.refl _) rfl (Nat.le_refl _)⟩
  | closeAll => exact hite ⟨[], .of_alike (.refl _) rfl (Nat.le_refl _)⟩
  | await waiter =>
      simp only [step]
      split
      · exact ⟨[], altered_work s _ _⟩
      · exact ⟨[], .refl s⟩
  | giveUp => exact altered_giveUp s

theorem Reachable.manned (h : s.Reachable) : s.pool.Manned s.fleet.length := by
  induction h with
  | start => exact Pool.manned_empty
  | step _ operation ih =>
      obtain ⟨events, ha⟩ := altered_step ih operation
      exact ih.alters ha.alters

/-! ### What the history tells -/

/-- Slots and departures can be counted. -/
structure Countable (s : PoolState) : Prop where
  slots_lt : s.pool.slots.length < Pool.wordSize
  departures_lt : ∀ index, Turnover.departures s.history index < Pool.wordSize

theorem Altered.countable {events : List Turnover} (ha : Altered s t events) (ht : t.Countable) :
    s.Countable where
  slots_lt := Nat.lt_of_le_of_lt ha.alters.length_le ht.slots_lt
  departures_lt index := by
    have hlt := ht.departures_lt index
    rw [ha.history_eq, Turnover.departures_append] at hlt
    exact Nat.lt_of_le_of_lt (Nat.le_add_right _ _) hlt

/-- **The history tells who the members are**, as long as slots and departures can be counted. -/
theorem Reachable.chronicle (h : s.Reachable) (hc : s.Countable) :
    s.pool.Chronicle s.history s.fleet.length := by
  induction h with
  | start => exact Pool.chronicle_empty
  | step hr operation ih =>
      obtain ⟨events, ha⟩ := altered_step hr.manned operation
      rw [ha.history_eq]
      refine (ih (ha.countable hc)).alters ha.alters hc.slots_lt ?_
      rw [← ha.history_eq]
      exact hc.departures_lt

/-- The history only grows. -/
theorem Reachable.history_grows (h : s.Reachable) (operations : List Operation) :
    s.history <+: (s.run operations).history := by
  induction operations generalizing s with
  | nil => exact List.prefix_refl _
  | cons operation operations ih =>
      obtain ⟨events, ha⟩ := altered_step h.manned operation
      have hfirst : s.history <+: (s.step operation).history := ⟨events, ha.history_eq.symm⟩
      exact hfirst.trans (ih (h.step operation))

/-- **A handle leads to the member that joined under it until that member leaves**, and nowhere for
ever after; no handle is given out twice.  The members are those who joined and did not leave, each
under its handle, and the spare slots are those without a member, each once.  A handle that leads
nowhere removes nothing. -/
theorem handles_resolve (h : s.Reachable) (hc : s.Countable) :
    s.pool.spare.Nodup ∧
    (∀ index, index ∈ s.pool.spare ↔
      ∃ generation, s.pool.slots[index]? = some ⟨generation, none⟩) ∧
    (∀ handle member, (handle, member) ∈ Turnover.arrivals s.history →
      s.pool.get? handle =
        if handle ∈ Turnover.departed s.history then none else some member) ∧
    (∀ operations, (s.run operations).Countable → ∀ handle ∈ Turnover.departed s.history,
      (s.run operations).pool.get? handle = none) ∧
    ((Turnover.arrivals s.history).map (·.1)).Nodup ∧
    ((Turnover.arrivals s.history).map (·.2)).Nodup ∧
    s.pool.entries.Perm
      ((Turnover.arrivals s.history).filter (·.1 ∉ Turnover.departed s.history)) ∧
    (∀ handle member, (handle, member) ∈ s.pool.entries ↔ s.pool.get? handle = some member) ∧
    s.pool.size =
      ((Turnover.arrivals s.history).filter (·.1 ∉ Turnover.departed s.history)).length ∧
    (∀ handle, s.pool.get? handle = none →
      s.pool.discharge s.fleet handle = ([], s.pool, s.fleet, []) ∧
        s.step (.remove handle) = s) := by
  have hchronicle := h.chronicle hc
  have hperm := hchronicle.entries_perm (Nat.le_of_lt hc.slots_lt)
  refine ⟨hchronicle.tidy.nodup, hchronicle.tidy.mem_spare_iff,
    fun handle member he => hchronicle.get?_eq he, fun operations hc' handle hh => ?_,
    hchronicle.handles_nodup, hchronicle.members_nodup, hperm,
    fun handle member => Pool.mem_entries_iff (Nat.le_of_lt hc.slots_lt), hperm.length_eq,
    fun handle hget => ⟨Pool.discharge_of_none hget, ?_⟩⟩
  · refine ((h.run operations).chronicle hc').get?_eq_none ?_
    obtain ⟨events, hevents⟩ := h.history_grows operations
    rw [← hevents, Turnover.departed_append]
    exact List.mem_append_left _ hh
  · have hremove : s.remove handle = s := by
      simp [remove, Pool.discharge_of_none hget, hget]
    rw [step, hremove, ite_self]

/-! ### A run -/

/-- A run in which a slot is used three times: its member leaves, the pool is closed, and a third
member comes. -/
def turnoverRun : List Operation :=
  let join : Operation := .add ⟨0⟩ { endpoint := ⟨"node", 9001⟩ }
  [join, join, .remove ⟨0, 0⟩, join, .closeAll, .giveUp, .giveUp, .giveUp, join, join]

theorem handles_resolve_turnoverRun :
    let s : PoolState := run {} turnoverRun
    s.history = [.joined ⟨0, 0⟩ 0, .joined ⟨1, 0⟩ 1, .left ⟨0, 0⟩, .joined ⟨0, 1⟩ 2,
      .closed [⟨0, 1⟩, ⟨1, 0⟩], .joined ⟨1, 1⟩ 3, .joined ⟨0, 2⟩ 4] ∧
    s.pool.get? ⟨0, 0⟩ = none ∧ s.pool.get? ⟨0, 2⟩ = some 4 := by
  have hhistory : (run {} turnoverRun).history = [.joined ⟨0, 0⟩ 0, .joined ⟨1, 0⟩ 1,
      .left ⟨0, 0⟩, .joined ⟨0, 1⟩ 2, .closed [⟨0, 1⟩, ⟨1, 0⟩], .joined ⟨1, 1⟩ 3,
      .joined ⟨0, 2⟩ 4] := by decide
  have hcountable : (run {} turnoverRun).Countable := by
    refine ⟨by decide, fun index => Nat.lt_of_le_of_lt List.count_le_length ?_⟩
    rw [hhistory]
    decide
  obtain ⟨-, -, hget, -⟩ := handles_resolve (Reachable.start.run turnoverRun) hcountable
  refine ⟨hhistory, ?_, ?_⟩
  · rw [hget ⟨0, 0⟩ 0 (by rw [hhistory]; decide), hhistory]
    decide
  · rw [hget ⟨0, 2⟩ 4 (by rw [hhistory]; decide), hhistory]
    decide

end PoolState

end Uplink

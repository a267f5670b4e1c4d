/-
The order in which writes are sent.

The writes that are queued stand in line.  The task takes the first one when it can send it; all
others leave the line only when they are handed back, or when nobody is left who could send them.

* `Uplink.Connection.Leaving`, `Uplink.Connection.Intact.leaving` — how a turn takes writes from the
  queue;
* `Uplink.Scene.lineup` — the writes of a run in the order in which they were queued, without those
  that were handed back;
* `Uplink.Scene.ordered_run` — those that were dispatched come first in it, then those that wait;
* `Uplink.Scene.stream` — all that a socket was handed.

Main result: `Uplink.Scene.sent_in_order`.
-/

import Uplink.Proofs.Accounts
import Uplink.Proofs.Parcels

set_option relaxedAutoImplicit false
set_option autoImplicit false

namespace Uplink

namespace Connection

variable {c : Connection} {now : Instant} {stimulus : Stimulus}

/-! ### How writes leave the queue -/

/-- How a turn takes writes from the queue: none, the first to send it, or all when nobody is left
who can send them. -/
inductive Leaving (c : Connection) (p : Progress) : Prop
  | stays (hb : c.begun p.next = []) (hq : p.next.queue = c.queue)
  | begins (w : PendingWrite) (hb : c.begun p.next = [w.ticket]) (hq : c.queue = w :: p.next.queue)
  | ends (hb : c.begun p.next = []) (hq : p.next.queue = [])
      (hend : p.next.status = .stopped ∨ p.next.IsLost)

theorem Passing.leaving {p : Progress} (hp : c.Passing now stimulus p) : c.Leaving p := by
  have hb := hp.begun_eq
  obtain h | ⟨keepAlive, rfl⟩ := hp.contained
  · exact .stays hb (by rw [h.next_eq])
  · by_cases hheld : c.isHeld = true
    · exact .stays hb (by rw [next_crash]; exact if_pos hheld)
    · refine .ends hb ?_ (.inr ?_)
      · rw [next_crash]
        exact if_neg hheld
      · rw [next_crash]
        exact ⟨rfl, by simpa using hheld⟩

theorem leaving_beginWrite {d : Connection} {p : Progress} (hf : c.inFlight = none)
    (hq : c.queue ≠ []) (hd : d.queue = c.queue) (hn : p.next = d.beginWrite now) :
    c.Leaving p := by
  obtain ⟨w, rest, hq⟩ := List.exists_cons_of_ne_nil hq
  refine .begins w ?_ ?_ <;> simp [hn, begun, beginWrite, hf, hd, hq]

theorem Firing.leaving {signal : Signal} {p : Progress} (hf : c.Firing now signal p)
    (h : c.Holding) : c.Leaving p := by
  have hstays (hi : p.next.inFlight = c.inFlight ∨ p.next.inFlight = none)
      (hq : p.next.queue = c.queue) : c.Leaving p := .stays (begun_of_inFlight hi) hq
  cases hf with
  | settlesBusy link took hs hq =>
      obtain ⟨-, hnone⟩ := h.idle (by rw [hs]; rfl)
      refine leaving_beginWrite hnone hq ?_ rfl
      simp [next_moveTo, establish, touch, attend]
  | dispatches hs hq =>
      obtain ⟨-, hnone⟩ := h.idle (by rw [hs]; rfl)
      refine leaving_beginWrite hnone hq ?_ rfl
      simp [next_moveTo, attend]
  | closes waiter hs =>
      refine .ends (begun_of_inFlight (.inr ?_)) ?_ (.inl ?_) <;>
        simp [next_moveTo, doClose]
  | delivers | responds =>
      refine hstays (.inr (inFlight_resolve _ _ _)) ?_
      simp [next_moveTo, attend, absorb, touch]
  | drops =>
      refine hstays (.inr rfl) ?_
      simp [next_moveTo, attend, absorb, touch]
  | fails =>
      refine hstays (.inr (inFlight_handleFail _ _ _)) ?_
      simp [next_moveTo, attend]
  | _ =>
      refine hstays (.inl ?_) ?_ <;>
        simp [next_moveTo, attend, absorb, touch, startConnect, establish]

/-- **A turn takes writes from the queue in one of these ways.** -/
theorem Intact.leaving (h : c.Intact) (now : Instant) (stimulus : Stimulus) :
    c.Leaving (c.turn now stimulus) := by
  obtain ⟨-, hp⟩ | ⟨signal, hpos, -, hf⟩ := turn_cases now stimulus h.fits
  · exact hp.leaving
  · exact hf.leaving (h.sound (by rw [hpos]; nofun)).toHolding

end Connection

/-! ### The line of writes -/

/-- What happens at the end of the line of writes that are submitted. -/
inductive Standing
  /-- A write joins the line. -/
  | joins (ticket : Nat)
  /-- Writes are taken out of it. -/
  | leave (tickets : List Nat)

/-- The line after that. -/
def Standing.apply (line : List Nat) : Standing → List Nat
  | joins ticket => line ++ [ticket]
  | leave tickets => line.filter (· ∉ tickets)

namespace Scene

variable {s t : Scene}

/-- Who joins the line, and who is taken out of it. -/
def standings (s : Scene) : Move → List Standing
  | .push w | .pushAgain w _ => if s.connection.status = .stopped then [] else [.joins w.ticket]
  | .take => [.leave s.queued]
  | _ => []

/-- All writes that were queued, in the order in which they were submitted, without those that were
handed back. -/
def lineup (s : Scene) (moves : List Move) : List Nat :=
  (s.record standings moves).foldl Standing.apply []

theorem lineup_concat (s : Scene) (moves : List Move) (move : Move) :
    s.lineup (moves ++ [move]) = if (s.run moves).Allows move then
      (standings (s.run moves) move).foldl Standing.apply (s.lineup moves) else s.lineup moves := by
  rw [lineup, record_concat, List.foldl_append]
  split <;> rfl

/-- The writes that were dispatched come first in the line, then those that wait.  Others are left
in it only when nobody can send them any more. -/
def Ordered (line : List Nat) (s : Scene) : Prop :=
  ∃ gone, line = s.dispatched ++ s.queued ++ gone ∧
    (gone ≠ [] → s.queued = [] ∧ (s.connection.status = .stopped ∨ s.connection.IsLost))

/-- Nobody who could send a write comes back. -/
theorem ended_step (hi : s.connection.Intact) (move : Move)
    (h : s.connection.status = .stopped ∨ s.connection.IsLost) :
    (s.step move).connection.status = .stopped ∨ (s.step move).connection.IsLost :=
  h.imp (fun hs => (stopped_step hi hs move).1) fun hlost => lost_step hlost hi

/-- A move that leaves the line and the queue alone. -/
theorem Ordered.keep {line : List Nat} {move : Move} (h : s.Ordered line)
    (hi : s.connection.Intact) (hd : (s.step move).dispatched = s.dispatched)
    (hq : (s.step move).queued = s.queued) : (s.step move).Ordered line := by
  obtain ⟨gone, hline, hgone⟩ := h
  refine ⟨gone, by rw [hd, hq, hline], fun hne => ?_⟩
  rw [hq]
  exact (hgone hne).imp_right (ended_step hi move)

/-- The queue is given up as a whole. -/
theorem Ordered.giveUp {line : List Nat} (h : s.Ordered line)
    (hd : t.dispatched = s.dispatched) (hq : t.queued = [])
    (hend : t.connection.status = .stopped ∨ t.connection.IsLost) : t.Ordered line := by
  obtain ⟨gone, hline, -⟩ := h
  exact ⟨s.queued ++ gone, by rw [hd, hq, hline, List.append_nil, List.append_assoc],
    fun _ => ⟨hq, hend⟩⟩

theorem ordered_turn {line : List Nat} (h : s.Ordered line) (hi : s.connection.Intact)
    {now : Instant} {stimulus : Stimulus} (ha : s.Allows (.turn now stimulus)) :
    (s.step (.turn now stimulus)).Ordered line := by
  have hstep := step_turn ha
  cases hi.leaving now stimulus with
  | stays hb hq =>
      exact h.keep hi (by rw [hstep, dispatched_turn_of_nil hb])
        (by rw [hstep, queued, queued, connection_turn, hq])
  | begins w hb hq =>
      obtain ⟨gone, hline, hgone⟩ := h
      -- Somebody waits, so that nobody was left in the line.
      obtain rfl : gone = [] := by
        by_contra hne
        have hnil := (hgone hne).1
        rw [queued, hq] at hnil
        cases hnil
      have hdispatched : (s.turn now stimulus).dispatched = s.dispatched ++ [w.ticket] :=
        congrArg (s.dispatched ++ ·) hb
      refine ⟨[], ?_, fun hne => absurd rfl hne⟩
      rw [hstep, hdispatched, hline, queued, queued, hq, connection_turn]
      simp
  | ends hb hq hend =>
      rw [hstep]
      exact h.giveUp (dispatched_turn_of_nil hb) (by rw [queued, connection_turn, hq]; rfl) hend

/-- A write that is queued joins the line at its end. -/
theorem ordered_push {line : List Nat} {w : PendingWrite} (h : s.Ordered line)
    (hheld : s.connection.isHeld = true) :
    (s.push w).Ordered
      ((if s.connection.status = .stopped then [] else [.joins w.ticket]).foldl
        Standing.apply line) := by
  obtain ⟨gone, hline, hgone⟩ := h
  unfold push
  cases hc : s.connection.push? w with
  | some connection =>
      have hs : s.connection.status ≠ .stopped := fun hs => by
        rw [Connection.push?_eq_none_iff.2 hs] at hc
        cases hc
      have hnil : gone = [] := by
        by_contra hne
        rcases (hgone hne).2 with hstop | hlost
        · exact hs hstop
        · rw [hlost.2] at hheld
          cases hheld
      cases Connection.eq_of_push? hc
      refine ⟨[], ?_, nofun⟩
      rw [if_neg hs, hline, hnil]
      simp [Standing.apply, queued]
  | none =>
      rw [if_pos (Connection.push?_eq_none_iff.1 hc)]
      exact ⟨gone, hline, hgone⟩

/-- The writes that are handed back are taken out of the line. -/
theorem ordered_take {line : List Nat} (h : s.Ordered line) (hr : s.Reachable)
    (ha : s.Allows .take) : (s.step .take).Ordered (line.filter (· ∉ s.queued)) := by
  by_cases hqueue : s.queued = []
  · have hline : line.filter (· ∉ s.queued) = line := by simp [hqueue]
    rw [hline]
    exact h.keep hr.intact (by rw [step_take ha]) (by rw [step_take ha, hqueue]; rfl)
  · obtain ⟨gone, hline, hgone⟩ := h
    obtain rfl : gone = [] := by_contra fun hne => hqueue (hgone hne).1
    -- Those that were dispatched do not wait any more, and keep their place.
    have hleft : s.dispatched.filter (· ∉ s.queued) = s.dispatched := by
      rw [List.filter_eq_self]
      intro ticket hticket
      simpa using (hr.dispatching.left ticket hticket).1
    refine ⟨[], ?_, nofun⟩
    rw [step_take ha, hline, List.append_nil, List.filter_append, hleft]
    simp [queued]

/-- The owner who gives up the handle leaves the queue to the task, if there is one. -/
theorem ordered_letGo {line : List Nat} (h : s.Ordered line) (hi : s.connection.Intact)
    (ha : s.Allows .letGo) : (s.step .letGo).Ordered line := by
  have hstep := step_letGo ha
  obtain ⟨hp, heq⟩ | ⟨-, asked, -, heq⟩ := s.connection.letGo_cases <;> rw [heq] at hstep
  · rw [hstep]
    refine h.giveUp rfl ?_ (.inr ?_)
    · simp [queued, after, Connection.abandonQueue]
    · simp [after, Connection.abandonQueue, hp]
  · exact h.keep hi (by rw [hstep]; rfl) (by rw [hstep]; rfl)

theorem queued_post (s : Scene) (command : Command) :
    (s.after (s.connection.post command)).queued = s.queued := by
  rw [queued, after, Connection.post]
  split <;> rfl

/-- **Every move keeps the writes in line.** -/
theorem ordered_step {line : List Nat} (h : s.Ordered line) (hr : s.Reachable) {move : Move}
    (ha : s.Allows move) :
    (s.step move).Ordered ((standings s move).foldl Standing.apply line) := by
  cases move with
  | turn now stimulus => exact ordered_turn h hr.intact ha
  | push w =>
      rw [step_push ha]
      exact ordered_push h ha.1
  | pushAgain w expects =>
      rw [step_pushAgain ha]
      exact ordered_push (s := { s with handed := s.handed.erase w }) (w := { w with expects }) h
        ha.1
  | take => exact ordered_take h hr ha
  | letGo => exact ordered_letGo h hr.intact ha
  | wake =>
      refine h.keep hr.intact (by rw [step_wake ha]; rfl) ?_
      rw [step_wake ha]
      exact s.queued_post .wake
  | connect =>
      refine h.keep hr.intact (by rw [step_connect ha]; rfl) ?_
      rw [step_connect ha]
      exact s.queued_post .connect
  | shutdown =>
      refine h.keep hr.intact (by rw [step_shutdown ha]; rfl) ?_
      rw [step_shutdown ha]
      exact s.queued_post (.close none)
  | close waiter =>
      refine h.keep hr.intact (by rw [step_close ha]; rfl) ?_
      rw [step_close ha, queued, after, Connection.close]
      split <;> rfl
  | discard w => exact h.keep hr.intact (by rw [step_discard ha]) (by rw [step_discard ha]; rfl)
  | recode codec => exact h.keep hr.intact rfl rfl

/-- The writes are in line after every run. -/
theorem ordered_run (now : Instant) (endpoint : Endpoint) (config : Config) (codec : FrameCodec)
    (name : Option String) (moves : List Move) :
    ((start now endpoint config codec name).run moves).Ordered
      ((start now endpoint config codec name).lineup moves) := by
  refine run_induction
    (P := fun moves s => s.Ordered ((start now endpoint config codec name).lineup moves))
    (.start now endpoint config codec name) ⟨[], rfl, nofun⟩ (fun moves move ha h => ?_)
    (fun moves move hr ha h => ?_) moves
  · rw [lineup_concat, if_neg ha]
    exact h
  · rw [lineup_concat, if_pos ha]
    exact ordered_step h hr ha

/-! ### What is handed to one socket -/

/-- All that a socket was handed. -/
def stream (s : Scene) (socket : SocketId) : Bytes :=
  (s.shipped.filter (·.socket = socket)).flatMap (·.bytes)

theorem Packed.stream_eq {parcels : List Parcel} (h : s.Packed parcels) (socket : SocketId) :
    s.stream socket = (parcels.filter (·.socket = socket)).flatMap Parcel.sent := by
  have hone (a : Parcel) : (a.shipments.filter (·.socket = socket)).flatMap (·.bytes) =
      if a.socket = socket then a.sent else [] := by
    by_cases heq : a.socket = socket <;>
      simp [Parcel.shipments, Parcel.sent, heq, List.filter_map, Function.comp_def,
        List.flatMap_map, List.flatMap_id']
  rw [stream, h.shipped_eq, List.filter_flatMap, List.flatMap_assoc]
  simp only [hone]
  clear h
  induction parcels with
  | nil => rfl
  | cons a parcels ih => by_cases heq : a.socket = socket <;> simp [heq, ih]

/-- Over each socket, all parcels but the last are whole. -/
theorem Packed.isWhole_of_mem_dropLast {parcels : List Parcel} (h : s.Packed parcels)
    (socket : SocketId) :
    ∀ a ∈ (parcels.filter (·.socket = socket)).dropLast, a.IsWhole := by
  have hpairwise := (h.pairwise.filter (·.socket = socket))
  generalize hitems : parcels.filter (·.socket = socket) = items at *
  have hsocket : ∀ a ∈ items, a.socket = socket := by
    rw [← hitems]
    simp
  intro a ha
  rcases items.eq_nil_or_concat' with rfl | ⟨init, last, rfl⟩
  · cases ha
  · rw [List.dropLast_concat] at ha
    have hmem : a ∈ init ++ [last] := List.mem_append_left _ ha
    refine (List.pairwise_append.1 hpairwise).2.2 a ha last (List.mem_singleton_self _) ?_
    rw [hsocket a hmem, hsocket last (List.mem_append_right _ (List.mem_singleton_self _))]

/-! ### What is sent, and in which order -/

/-- **What is sent, and in which order**, in every run.  The sockets are handed parcels, one after
the other: the payloads of the writes that were dispatched, in that order, and probes.  All that
one socket was handed consists of its parcels, of which all but the last are whole.  The last one is
whole, or it is being sent, or nothing more is handed to that socket ever.  No write is dispatched
twice, and the writes are dispatched in the order in which they were queued, without those that were
handed back; unless the connection has stopped or is lost, the next ones are those that wait. -/
theorem sent_in_order (now : Instant) (endpoint : Endpoint) (config : Config) (codec : FrameCodec)
    (name : Option String) (moves : List Move) :
    let first := start now endpoint config codec name
    let s := first.run moves
    (∃ parcels : List Parcel,
      s.shipped = parcels.flatMap Parcel.shipments ∧
      parcels.filterMap (·.ticket) = s.dispatched ∧
      (∀ a ∈ parcels,
        (∃ w ∈ s.submitted, a.ticket = some w.ticket ∧ a.content = w.payload) ∨
        a.ticket = none ∧ ∃ before, before <+: moves ∧
          (first.run before).connection.codec.probe = some a.content) ∧
      ∀ socket,
        s.stream socket = (parcels.filter (·.socket = socket)).flatMap Parcel.sent ∧
        (∀ a ∈ (parcels.filter (·.socket = socket)).dropLast, a.IsWhole) ∧
        ∀ a ∈ (parcels.filter (·.socket = socket)).getLast?, a.sent <+: a.content ∧
          (a.IsWhole ∨ s.connection.Underway a ∨
            ∀ more, (s.run more).stream socket = s.stream socket)) ∧
    s.dispatched.Nodup ∧
    s.dispatched <+: first.lineup moves ∧
    (s.connection.status ≠ .stopped → ¬s.connection.IsLost →
      first.lineup moves = s.dispatched ++ s.queued) := by
  intro first s
  have hr : s.Reachable := (Reachable.start now endpoint config codec name).run moves
  obtain ⟨parcels, hp, hprobes⟩ := packed_run now endpoint config codec name moves
  obtain ⟨gone, hline, hgone⟩ := ordered_run now endpoint config codec name moves
  refine ⟨⟨parcels, hp.shipped_eq, hp.dispatched_eq.symm, fun a ha => ?_, fun socket =>
    ⟨hp.stream_eq socket, hp.isWhole_of_mem_dropLast socket, fun a ha => ?_⟩⟩,
    hr.dispatching.nodup, ?_, fun hs hlost => ?_⟩
  · cases hticket : a.ticket with
    | some ticket =>
        obtain ⟨w, hw, rfl, heq⟩ := hp.content a ha ticket hticket
        exact .inl ⟨w, hw, rfl, heq.symm⟩
    | none => exact .inr ⟨rfl, hprobes a ha hticket⟩
  · obtain ⟨hmem, hsocket⟩ := List.mem_filter.1 (List.mem_of_getLast? ha)
    obtain rfl : a.socket = socket := by simpa using hsocket
    refine ⟨hp.sent a hmem, ?_⟩
    -- A socket that does not go on is handed nothing any more.
    by_cases hlive : s.connection.live? = some a.socket
    · exact (hp.last a hmem hlive).imp_right fun hunder => .inl hunder.2
    · refine .inr (.inr fun more => ?_)
      rw [stream, shipped_run_of_gone hr (hp.known a hmem) hlive, stream]
  · rw [hline, List.append_assoc]
    exact List.prefix_append _ _
  · obtain rfl : gone = [] := by_contra fun hne => (hgone hne).2.elim hs hlost
    rw [hline, List.append_nil]

end Scene
end Uplink

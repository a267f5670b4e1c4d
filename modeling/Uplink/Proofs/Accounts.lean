/-
The counters agree with what has happened.

A run leaves on record which writes were submitted and which were handed back, which payloads were
completed and which probes were sent; the scene keeps the outcomes and the changes of the status.
All of it can be compared with the counters, in every scene of every run.

* `Uplink.Scene.submissions`, `Uplink.Scene.takings` — the writes that enter, and those that are
  handed back;
* `Uplink.Scene.droppings`, `Uplink.Scene.abandonings` — the writes that go with a task that is
  stopped, and those that are left behind when nobody is left;
* `Uplink.Scene.completions`, `Uplink.Scene.probings` — what is completely sent;
* `Uplink.Scene.Booked` — the counters agree with the record.

Main result: `Uplink.Scene.counters_tell`.
-/

import Uplink.Proofs.ClockRange
import Uplink.Proofs.Counting

set_option relaxedAutoImplicit false
set_option autoImplicit false

namespace Uplink

namespace Scene

variable {s t : Scene}

/-! ### The records that are kept -/

/-- The writes that are submitted, or submitted again. -/
def submissions (_ : Scene) : Move → List PendingWrite
  | .push w => [w]
  | .pushAgain w expects => [{ w with expects }]
  | _ => []

/-- The writes that are handed back. -/
def takings (s : Scene) : Move → List PendingWrite
  | .take => s.connection.queue
  | _ => []

/-- The writes that go with a task that is stopped. -/
def droppings (s : Scene) (move : Move) : List PendingWrite :=
  s.connection.dropped (s.step move).connection

/-- The writes that are left behind when neither the task nor the owner is left. -/
def abandonings (s : Scene) (move : Move) : List PendingWrite :=
  s.connection.abandoned (s.step move).connection

/-- The payloads that are reported as completely written. -/
def completions (s : Scene) : Move → List Bytes
  | .turn _ _ => s.connection.completed
  | _ => []

/-- The probes that are counted as sent. -/
def probings (s : Scene) : Move → List Bytes
  | .turn now stimulus => s.connection.probed (s.connection.turn now stimulus).next
  | _ => []

/-! ### The books -/

/-- The counters agree with the record of the run, and with the state it leads to. -/
structure Booked (first : Scene) (moves : List Move) (s : Scene) : Prop where
  /-- The length that is about to be counted is that of the payload in flight. -/
  measured : s.connection.Measured
  writes : (first.record submissions moves).length = s.connection.counters.ended +
    s.connection.queue.length + s.connection.inFlight.toList.length +
      (first.record takings moves).length + (first.record droppings moves).length +
        (first.record abandonings moves).length
  dropped : ¬s.connection.IsDoomed → first.record droppings moves = []
  abandoned : ¬s.connection.IsLost → first.record abandonings moves = []
  connects : s.connection.counters.connectAttempts = s.connection.counters.connects +
    s.connection.counters.connectFailures + s.connection.status.dialling +
      s.changes.count (.connecting, .stopped)
  idles : s.connection.counters.idleTimeouts + s.connection.status.joined ≤
    s.connection.counters.connects
  delivered : s.connection.counters.writesSucceeded = s.outcomes.countP (·.2.isDelivered)
  answered : s.connection.counters.responses = s.outcomes.countP (·.2.isAnswered)
  probes : s.connection.counters.probesSent = (first.record probings moves).length
  sent : s.connection.counters.bytesSent = ((first.record completions moves).map List.length).sum +
    ((first.record probings moves).map List.length).sum

theorem booked_start (now : Instant) (endpoint : Endpoint) (config : Config) (codec : FrameCodec)
    (name : Option String) :
    Booked (start now endpoint config codec name) [] (start now endpoint config codec name) where
  measured := nofun
  writes := rfl
  dropped _ := rfl
  abandoned _ := rfl
  connects := rfl
  idles := Nat.le_refl _
  delivered := rfl
  answered := rfl
  probes := rfl
  sent := rfl

theorem Booked.skip {first : Scene} {moves : List Move} {move : Move}
    (h : Booked first moves (first.run moves)) (ha : ¬(first.run moves).Allows move) :
    Booked first (moves ++ [move]) (first.run moves) := by
  have hrecord {α : Type} (f : Scene → Move → List α) :
      first.record f (moves ++ [move]) = first.record f moves := record_concat_of_not_allows ha
  constructor
  case measured => exact h.measured
  case writes => simpa only [hrecord] using h.writes
  case dropped => simpa only [hrecord] using h.dropped
  case abandoned => simpa only [hrecord] using h.abandoned
  case connects => exact h.connects
  case idles => exact h.idles
  case delivered => exact h.delivered
  case answered => exact h.answered
  case probes => simpa only [hrecord] using h.probes
  case sent => simpa only [hrecord] using h.sent

/-- The writes that are counted, wait, or are in flight. -/
def present (s : Scene) : Nat :=
  s.connection.counters.ended + s.connection.queue.length + s.connection.inFlight.toList.length

/-- A write that is submitted is one more. -/
theorem present_push (s : Scene) (w : PendingWrite) : (s.push w).present = s.present + 1 := by
  unfold push
  cases hc : s.connection.push? w with
  | some connection =>
      cases Connection.eq_of_push? hc
      simp [present]
      omega
  | none =>
      simp [present, after, Connection.reject, Counters.cancelled]
      omega

@[simp] theorem isHeld_push (s : Scene) (w : PendingWrite) :
    (s.push w).connection.isHeld = s.connection.isHeld := by
  unfold push
  cases hc : s.connection.push? w with
  | some connection => cases Connection.eq_of_push? hc; rfl
  | none => rfl

/-- What the owner asks of the task is not counted. -/
theorem present_post (s : Scene) (command : Command) :
    (s.after (s.connection.post command)).present = s.present ∧
      (s.connection.post command).next.isHeld = s.connection.isHeld := by
  unfold Connection.post
  split <;> exact ⟨rfl, rfl⟩

theorem present_close (s : Scene) (waiter : Waiter) :
    (s.after (s.connection.close waiter)).present = s.present ∧
      (s.connection.close waiter).next.isHeld = s.connection.isHeld := by
  unfold Connection.close
  split <;> exact ⟨rfl, rfl⟩

/-- A move of others drops no write that is in flight. -/
theorem droppings_of_apart {move : Move} (h : Apart s (s.step move)) : droppings s move = [] :=
  Connection.dropped_of_inFlight h.inFlight_eq

/-- A move of others changes the number of these writes by those it submits, those it hands back,
and those it leaves behind. -/
theorem present_step {move : Move} (ha : s.Allows move)
    (hturn : ∀ now stimulus, move ≠ .turn now stimulus) :
    (s.step move).present + (takings s move).length + (abandonings s move).length =
      s.present + (submissions s move).length := by
  have hapart := apart_step s hturn
  have hkept (hh : (s.step move).connection.isHeld = s.connection.isHeld) :
      abandonings s move = [] :=
    Connection.abandoned_of_imp fun hlost =>
      ⟨hapart.position_eq ▸ hlost.1, hh ▸ hlost.2⟩
  cases move with
  | turn now stimulus => exact absurd rfl (hturn now stimulus)
  | push w =>
      have hw := s.present_push w
      rw [hkept (by rw [step_push ha]; exact s.isHeld_push w), step_push ha]
      exact hw
  | pushAgain w expects =>
      have hw := present_push { s with handed := s.handed.erase w } { w with expects }
      rw [hkept (by rw [step_pushAgain ha]; exact isHeld_push _ _), step_pushAgain ha]
      exact hw
  | wake =>
      obtain ⟨hw, hh⟩ := s.present_post .wake
      rw [hkept (by rw [step_wake ha]; exact hh), step_wake ha]
      exact hw
  | take =>
      rw [hkept (by rw [step_take ha]; rfl), step_take ha]
      simp [present, takings, submissions, Connection.takePending]
      omega
  | discard w =>
      rw [hkept (by rw [step_discard ha]), step_discard ha]
      rfl
  | connect =>
      obtain ⟨hw, hh⟩ := s.present_post .connect
      rw [hkept (by rw [step_connect ha]; exact hh), step_connect ha]
      exact hw
  | shutdown =>
      obtain ⟨hw, hh⟩ := s.present_post (.close none)
      rw [hkept (by rw [step_shutdown ha]; exact hh), step_shutdown ha]
      exact hw
  | close waiter =>
      obtain ⟨hw, hh⟩ := s.present_close waiter
      rw [hkept (by rw [step_close ha]; exact hh), step_close ha]
      exact hw
  | letGo =>
      rw [abandonings, step_letGo ha]
      obtain ⟨hp, heq⟩ | ⟨hp, asked, -, heq⟩ := s.connection.letGo_cases <;> rw [heq]
      · -- The task is gone as well, and the queue with it.
        simp [present, takings, submissions, after, Connection.abandonQueue, hp, ha.1]
        omega
      · simp [present, takings, submissions, after, hp]
  | recode => exact congrArg (s.present + ·) (congrArg List.length (hkept rfl))

/-- When neither the task nor the owner is left, nothing brings them back. -/
theorem lost_step {move : Move} (h : s.connection.IsLost) (hi : s.connection.Intact) :
    (s.step move).connection.IsLost := by
  by_cases ha : s.Allows move
  · have hheld : s.connection.isHeld ≠ true := by rw [h.2]; nofun
    cases move with
    | turn now stimulus =>
        have hwrecked := hi.resolve_left fun hsound => hsound.position_ne h.1
        rw [step_turn ha, connection_turn, hwrecked.turn_eq]
        exact h
    | push => exact absurd ha.1 hheld
    | pushAgain => exact absurd ha.1 hheld
    | letGo => exact absurd ha.1 hheld
    | take | connect | shutdown | close => exact absurd ha hheld
    | wake =>
        rw [step_wake ha]
        exact ⟨(Connection.aloof_post .wake).position_eq.trans h.1,
          (s.present_post .wake).2.trans h.2⟩
    | discard => rw [step_discard ha]; exact h
    | recode => exact h
  · rw [step_of_not_allows ha]
    exact h

/-- A task that is stopped, or about to be, stays so. -/
theorem doomed_step {move : Move} (h : s.connection.IsDoomed) (hi : s.connection.Intact) :
    (s.step move).connection.IsDoomed := by
  rcases s.turned_or_apart move with ⟨now, stimulus, -, hstep⟩ | hapart
  · rw [hstep, connection_turn]
    rcases h with hp | hp
    · have hwrecked := hi.resolve_left fun hsound => hsound.position_ne hp
      rw [hwrecked.turn_eq]
      exact .inl hp
    · have hturn : s.connection.turn now stimulus = s.connection.crash := by
        rw [Connection.turn, hp]
      rw [hturn, Connection.next_crash]
      exact .inl rfl
  · rwa [Connection.IsDoomed, hapart.position_eq]

theorem Booked.dropped_concat {first : Scene} {moves : List Move} {move : Move}
    (h : Booked first moves (first.run moves)) (hi : (first.run moves).connection.Intact)
    (ha : (first.run moves).Allows move)
    (hleft : ¬((first.run moves).step move).connection.IsDoomed) :
    first.record droppings (moves ++ [move]) = [] := by
  rw [record_concat, if_pos ha, h.dropped fun hdoomed => hleft (doomed_step hdoomed hi)]
  exact if_neg fun hdoomed => hleft hdoomed.1

theorem Booked.abandoned_concat {first : Scene} {moves : List Move} {move : Move}
    (h : Booked first moves (first.run moves)) (hi : (first.run moves).connection.Intact)
    (ha : (first.run moves).Allows move)
    (hleft : ¬((first.run moves).step move).connection.IsLost) :
    first.record abandonings (moves ++ [move]) = [] := by
  rw [record_concat, if_pos ha, h.abandoned fun hlost => hleft (lost_step hlost hi)]
  exact if_neg fun hlost => hleft hlost.1

theorem booked_turn {first : Scene} {moves : List Move} {now : Instant} {stimulus : Stimulus}
    (h : Booked first moves (first.run moves)) (hi : (first.run moves).connection.Intact)
    (ha : (first.run moves).Allows (.turn now stimulus)) :
    Booked first (moves ++ [.turn now stimulus])
      ((first.run moves).step (.turn now stimulus)) := by
  have hkept := h.dropped_concat hi ha
  have hleft := h.abandoned_concat hi ha
  generalize hs : first.run moves = s at *
  have hrecord {α : Type} (f : Scene → Move → List α) :
      first.record f (moves ++ [.turn now stimulus]) =
        first.record f moves ++ f s (.turn now stimulus) := by
    rw [record_concat, hs, if_pos ha]
  -- What the turn counts is added to what was counted before.
  have hcounted := hi.counted h.measured now stimulus
  have hdelivered := hi.delivered now stimulus
  have hcount := (hi.changing now stimulus).count_eq
  have hdropped : droppings s (.turn now stimulus) =
      s.connection.dropped (s.connection.turn now stimulus).next := by
    rw [droppings, step_turn ha, connection_turn]
  have habandoned : abandonings s (.turn now stimulus) =
      s.connection.abandoned (s.connection.turn now stimulus).next := by
    rw [abandonings, step_turn ha, connection_turn]
  have houtcomes : (s.turn now stimulus).outcomes =
      s.outcomes ++ (s.connection.turn now stimulus).outcomes := by
    simp [outcomes, turn, after, Progress.outcomes]
  have hchanges : (s.turn now stimulus).changes =
      s.changes ++ (s.connection.turn now stimulus).changes := changes_after s _
  rw [step_turn ha] at hkept hleft ⊢
  constructor
  case measured => exact hi.measured h.measured now stimulus
  case writes =>
    have hw := hcounted.writes
    have hb := h.writes
    simp only [hrecord, hdropped, habandoned, submissions, takings, List.append_nil,
      List.length_append, connection_turn]
    omega
  case dropped => exact hkept
  case abandoned => exact hleft
  case connects =>
    have hc := hcounted.connects
    have hb := h.connects
    rw [hchanges, List.count_append, hcount, connection_turn]
    omega
  case idles =>
    have hc := hcounted.idles
    have hb := h.idles
    rw [connection_turn]
    omega
  case delivered =>
    rw [connection_turn, hdelivered.delivered, h.delivered, houtcomes, List.countP_append]
  case answered =>
    rw [connection_turn, hdelivered.answered, h.answered, houtcomes, List.countP_append]
  case probes =>
    rw [connection_turn, hcounted.probes, h.probes, hrecord, List.length_append]
    rfl
  case sent =>
    rw [connection_turn, hcounted.sent, h.sent, hrecord, hrecord]
    simp only [List.map_append, List.sum_append, completions, probings]
    omega

theorem booked_apart {first : Scene} {moves : List Move} {move : Move}
    (h : Booked first moves (first.run moves)) (hi : (first.run moves).connection.Intact)
    (ha : (first.run moves).Allows move) (hturn : ∀ now stimulus, move ≠ .turn now stimulus) :
    Booked first (moves ++ [move]) ((first.run moves).step move) := by
  have hkept := h.dropped_concat hi ha
  have hleft := h.abandoned_concat hi ha
  generalize hs : first.run moves = s at *
  have hrecord {α : Type} (f : Scene → Move → List α) :
      first.record f (moves ++ [move]) = first.record f moves ++ f s move := by
    rw [record_concat, hs, if_pos ha]
  -- Only the task sends anything, and only it counts what it sends.
  have hquiet : completions s move = [] ∧ probings s move = [] := by
    cases move with
    | turn now stimulus => exact absurd rfl (hturn now stimulus)
    | _ => exact ⟨rfl, rfl⟩
  have hapart := apart_step s hturn
  obtain ⟨count, hcounters⟩ := hapart.counters_eq
  obtain ⟨told, houtcomes, htold⟩ := hapart.outcomes_eq
  obtain ⟨hdelivered, hanswered⟩ := Connection.countP_undelivered htold
  constructor
  case measured =>
    intro bytes hbytes
    rw [hapart.position_eq] at hbytes
    rw [hapart.inFlight_eq]
    exact h.measured bytes hbytes
  case writes =>
    have hpresent := present_step ha hturn
    have hb := h.writes
    simp only [present] at hpresent
    simp only [hrecord, droppings_of_apart hapart, List.append_nil, List.length_append]
    omega
  case dropped => exact hkept
  case abandoned => exact hleft
  case connects =>
    rw [hcounters, hapart.status_eq, hapart.changes_eq]
    exact h.connects
  case idles =>
    rw [hcounters, hapart.status_eq]
    exact h.idles
  case delivered =>
    rw [hcounters, houtcomes, List.countP_append, hdelivered]
    exact h.delivered
  case answered =>
    rw [hcounters, houtcomes, List.countP_append, hanswered]
    exact h.answered
  case probes =>
    rw [hcounters, hrecord, hquiet.2, List.append_nil]
    exact h.probes
  case sent =>
    rw [hcounters, hrecord, hrecord, hquiet.1, hquiet.2, List.append_nil, List.append_nil]
    exact h.sent

/-- **The counters agree with the record of every run.** -/
theorem booked_run (now : Instant) (endpoint : Endpoint) (config : Config) (codec : FrameCodec)
    (name : Option String) (moves : List Move) :
    Booked (start now endpoint config codec name) moves
      ((start now endpoint config codec name).run moves) := by
  refine run_induction (P := Booked (start now endpoint config codec name))
    (.start now endpoint config codec name) (booked_start ..) (fun moves move ha h => h.skip ha)
    (fun moves move hr ha h => ?_) moves
  obtain ⟨later, stimulus, rfl⟩ | ⟨hturn, -⟩ :=
    turn_or_apart ((start now endpoint config codec name).run moves) move
  · exact booked_turn h hr.intact ha
  · exact booked_apart h hr.intact ha hturn

/-- A connect is cut off by a close once at most, and then the connection is stopped. -/
theorem Traced.cutOff_eq (h : s.Traced) : s.connection.status.dialling +
    s.changes.count (.connecting, .stopped) =
      if s.connection.status = .connecting ∨ (.connecting, .stopped) ∈ s.changes
        then 1 else 0 := by
  have hle : s.changes.count (.connecting, .stopped) ≤
      if s.connection.status = .stopped then 1 else 0 := by
    rw [← h.stops]
    exact List.countP_mono_left fun change _ heq => by simp [eq_of_beq heq]
  -- There is one change to `stopped` at most, and none while a connect is awaited.
  by_cases hmem : (.connecting, .stopped) ∈ s.changes
  · have hpos := List.count_pos_iff.2 hmem
    have hs : s.connection.status = .stopped := by
      by_contra hs
      rw [if_neg hs] at hle
      omega
    rw [if_pos hs] at hle
    simp [hmem, hs]
    omega
  · simp [hmem, List.count_eq_zero_of_not_mem hmem]

/-- **The counters account for every write and every connect**, after any run.  As long as the task
is not stopped, nor about to be, each write that was submitted is counted as delivered, failed or
cancelled, or else it waits, is in flight, or was handed back.  What is not counted otherwise is the
write in flight that goes with the task, and, once the owner is gone as well, what waits then and is
left behind.  Each connect attempt is counted as made or failed, unless it is awaited or was cut off
by a close.  A socket is idle too long once at most.  The responses are the deliveries that carry
one; the bytes are those of the completed payloads and of the probes that are counted; and the
transitions are the changes of the status that were published. -/
theorem counters_tell (now : Instant) (endpoint : Endpoint) (config : Config) (codec : FrameCodec)
    (name : Option String) (moves : List Move) :
    let first := start now endpoint config codec name
    let s := first.run moves
    let k := s.connection.counters
    ((s.connection.position ≠ .crashed ∧ s.connection.position ≠ .overflowed →
        (first.record submissions moves).length =
          k.writesSucceeded + k.writesFailed + k.writesCancelled + s.connection.queue.length +
            (if s.connection.inFlight.isSome then 1 else 0) +
            (first.record takings moves).length) ∧
      (first.record submissions moves).length =
        k.writesSucceeded + k.writesFailed + k.writesCancelled + s.connection.queue.length +
          (if s.connection.inFlight.isSome then 1 else 0) + (first.record takings moves).length +
          (first.record droppings moves).length + (first.record abandonings moves).length ∧
      (s.connection.isHeld = true → first.record abandonings moves = [])) ∧
    k.connectAttempts = k.connects + k.connectFailures +
      (if s.connection.status = .connecting ∨ (.connecting, .stopped) ∈ s.changes
        then 1 else 0) ∧
    k.idleTimeouts ≤ k.connects ∧
    (k.writesSucceeded = s.outcomes.countP (·.2.isDelivered) ∧
      k.responses = s.outcomes.countP (·.2.isAnswered) ∧ k.responses ≤ k.writesSucceeded) ∧
    (k.probesSent = (first.record probings moves).length ∧
      k.bytesSent = ((first.record completions moves).map List.length).sum +
        ((first.record probings moves).map List.length).sum) ∧
    k.transitions = s.changes.length ∧ (∀ change ∈ s.changes, change.1 ≠ change.2) ∧
      s.connection.watched = s.connection.status := by
  intro first s k
  have hr : s.Reachable := (Reachable.start now endpoint config codec name).run moves
  have hb : Booked first moves s := booked_run now endpoint config codec name moves
  have ht := hr.traced
  have hwrites := hb.writes
  have hflight : s.connection.inFlight.toList.length =
      if s.connection.inFlight.isSome then 1 else 0 := by cases s.connection.inFlight <;> rfl
  rw [hflight] at hwrites
  refine ⟨⟨fun ⟨hcrashed, hoverflowed⟩ => ?_, hwrites, fun hheld => ?_⟩, ?_, ?_,
    ⟨hb.delivered, hb.answered, ?_⟩, ⟨hb.probes, hb.sent⟩, ht.transitions_eq, ht.ne, ht.watched_eq⟩
  · have hdoomed : ¬s.connection.IsDoomed := fun h => h.elim hcrashed hoverflowed
    rwa [hb.dropped hdoomed, hb.abandoned fun hlost => hcrashed hlost.1] at hwrites
  · exact hb.abandoned fun hlost => by
      rw [hlost.2] at hheld
      cases hheld
  · have hc := hb.connects
    have hcut := ht.cutOff_eq
    simp only [k]
    omega
  · exact Nat.le_trans (Nat.le_add_right _ _) hb.idles
  · -- An answer is delivered.
    rw [show k.responses = _ from hb.answered, show k.writesSucceeded = _ from hb.delivered]
    refine List.countP_mono_left fun e _ => ?_
    cases e.2 <;> simp [Outcome.isAnswered, Outcome.isDelivered]

/-- A run in which one write is dispatched, and another one is handed back. -/
def handbackRun : List Move :=
  sampleRun ++ [.push { sampleWrite with ticket := 8 }, .wake, .take]

theorem counters_tell_handbackRun :
    let first := start ⟨0⟩ ⟨"node", 9001⟩ {} .line none
    let s := first.run handbackRun
    let k := s.connection.counters
    (s.connection.position ≠ .crashed ∧ s.connection.position ≠ .overflowed) ∧
      s.connection.inFlight.isSome = true ∧ (first.record takings handbackRun).length = 1 ∧
      (first.record submissions handbackRun).length =
        k.writesSucceeded + k.writesFailed + k.writesCancelled + s.connection.queue.length +
          1 + 1 := by
  obtain ⟨⟨hcounted, -⟩, -⟩ := counters_tell ⟨0⟩ ⟨"node", 9001⟩ {} .line none handbackRun
  exact ⟨by decide, by decide, by decide, hcounted (by decide)⟩

/-- **A crash leaves writes uncounted**, with settings that were checked.  One write is in flight
when the task crashes, and another one waits; then the owner gives up the handle.  Both are resolved
as cancelled, nothing waits, nothing is in flight and nothing was handed back; but no write is
counted. -/
theorem uncounted_after_crash :
    let config : Config := { idleTime := .ofSecs maxWord }
    let first := start ⟨0⟩ ⟨"node", 9001⟩ config .line none
    let moves := strandedRun ++ [.letGo]
    let s := first.run moves
    let k := s.connection.counters
    config.check = .ok config ∧
      (first.record submissions moves).map (·.ticket) = [7, 8] ∧
      s.outcomes =
        [(7, .undelivered ⟨[65], .cancelled⟩), (8, .undelivered ⟨[65], .cancelled⟩)] ∧
      s.connection.queue = [] ∧ s.connection.inFlight = none ∧
      first.record takings moves = [] ∧
      ∀ flying ≤ 1, (first.record submissions moves).length ≠
        k.writesSucceeded + k.writesFailed + k.writesCancelled + s.connection.queue.length +
          flying + (first.record takings moves).length := by
  decide

end Scene

end Uplink

/-
What a run leaves on record.

A scene keeps what has happened to the connection, and not who did what.  A run is a sequence of
moves, of which some are not possible when their turn comes; the others leave a record, which tells
what was read off each of them and off the scene that it found.

* `Uplink.Scene.Allows` — the moves that are possible, the only ones that a step makes;
* `Uplink.Scene.record` — what a run leaves on record;
* `Uplink.Scene.run_induction` — what holds at the start and is kept by a move holds after a run;
* `Uplink.Scene.turned_or_apart` — a step is a turn of the task, or leaves alone what the task has;
* `Uplink.Scene.changes` — the changes of the status, which **end with `stopped` if they come to
  it** (`Uplink.Scene.Reachable.traced`).
-/

import Mathlib.Data.List.Induction
import Uplink.Proofs.Scene

set_option relaxedAutoImplicit false
set_option autoImplicit false

namespace Uplink

namespace Connection

variable {c : Connection} {now : Instant} {stimulus : Stimulus}

/-! ### How a step changes the status -/

/-- How a step changes the status: not at all, or once, which is published and counted. -/
inductive Changing (c : Connection) (p : Progress) : Prop
  | stays (hs : p.next.status = c.status) (hw : p.next.watched = c.watched)
      (hk : p.next.counters.transitions = c.counters.transitions) (hc : p.changes = [])
  | moves (target : Status) (hne : target ≠ c.status) (hlive : c.status ≠ .stopped)
      (hs : p.next.status = target) (hw : p.next.watched = target)
      (hk : p.next.counters.transitions = c.counters.transitions + 1)
      (hc : p.changes = [(c.status, target)])

/-- A piece of work that leaves the status alone. -/
structure Settled (d : Connection) (p : Progress) : Prop where
  status_eq : p.next.status = d.status
  watched_eq : p.next.watched = d.watched
  transitions_eq : p.next.counters.transitions = d.counters.transitions
  changes_eq : p.changes = []

theorem Settled.changing {p : Progress} (h : c.Settled p) : c.Changing p :=
  .stays h.status_eq h.watched_eq h.transitions_eq h.changes_eq

theorem Changing.andThen {p : Progress} {f : Connection → Progress} (h : c.Changing p)
    (hf : p.next.Settled (f p.next)) : c.Changing (p.andThen f) := by
  obtain ⟨hs', hw', hk', hc'⟩ := hf
  cases h with
  | stays hs hw hk hc =>
      exact .stays (hs'.trans hs) (hw'.trans hw) (hk'.trans hk) (by simp [hc, hc'])
  | moves target hne hlive hs hw hk hc =>
      exact .moves target hne hlive (hs'.trans hs) (hw'.trans hw) (hk'.trans hk) (by simp [hc, hc'])

theorem changing_moveTo (signal : Signal) (target : Status) (event : Event)
    (hlive : c.status ≠ .stopped) : c.Changing ((c.attend signal).moveTo target event) := by
  have hstatus : (c.attend signal).status = c.status := rfl
  by_cases ht : target = c.status
  · rw [moveTo_of_eq (c := c.attend signal) ht]
    exact .stays rfl rfl rfl rfl
  · have hchanges := (c.attend signal).changes_moveTo target event
    rw [hstatus, if_neg ht] at hchanges
    refine .moves target ht hlive (status_moveTo _ _ _) ?_ ?_ hchanges
    · simp [next_moveTo, hstatus, ht]
    · simp [next_moveTo, ht, Counters.moved, attend]

section

variable (d : Connection)

theorem settled_startConnect : d.Settled (d.startConnect now) := ⟨rfl, rfl, rfl, by simp⟩

theorem settled_establish (link : Link) (took : Duration) :
    d.Settled (d.establish now link took) := ⟨rfl, rfl, rfl, by simp⟩

theorem settled_beginWrite : d.Settled ⟨d.beginWrite now, []⟩ := by
  unfold beginWrite
  cases d.queue <;> exact ⟨rfl, rfl, rfl, rfl⟩

theorem settled_written (bytes : Nat) : d.Settled (d.absorb now (.written bytes)) :=
  ⟨rfl, rfl, rfl, rfl⟩

theorem settled_resolve (response? : Option Nat) : d.Settled (d.resolve now response?) := by
  refine ⟨by simp, ?_, ?_, by simp⟩ <;> unfold resolve
  · cases d.inFlight <;> rfl
  · cases d.inFlight <;> cases response? <;> rfl

theorem settled_dropInFlight : d.Settled d.dropInFlight := by
  refine ⟨?_, ?_, ?_, by simp⟩ <;> unfold dropInFlight <;> cases d.inFlight <;> rfl

theorem settled_handleFail (error? : Option ConnectionError) :
    d.Settled (d.handleFail now error?) := by
  have hk (k : Counters) (error : ConnectionError) :
      (countFailure k error).transitions = k.transitions := by
    unfold countFailure
    split <;> rfl
  refine ⟨by simp, ?_, ?_, by simp⟩ <;> unfold handleFail failInFlight
  · cases d.inFlight <;> simp
  · cases d.inFlight <;> simp [hk, Counters.failed]

theorem settled_doClose : d.Settled d.doClose := ⟨rfl, rfl, rfl, by simp⟩

end

/-- A turn that fires no signal leaves the status alone. -/
theorem Passing.settled {p : Progress} (hp : c.Passing now stimulus p) : c.Settled p := by
  obtain h | ⟨keepAlive, rfl⟩ := hp.contained
  · exact ⟨by rw [h.next_eq], by rw [h.next_eq], by rw [h.next_eq], h.changes_eq⟩
  · refine ⟨?_, ?_, ?_, by simp⟩ <;> rw [next_crash]

/-- A turn that fires a signal changes the status once at most, and never one that is stopped. -/
theorem Firing.changing {signal : Signal} {p : Progress} (hf : c.Firing now signal p) :
    c.Changing p := by
  cases hf with
  | rests => exact .stays rfl rfl rfl rfl
  | readsOn hs => exact changing_moveTo _ _ _ (by rw [hs]; decide)
  | connects hs =>
      refine (changing_moveTo _ _ _ ?_).andThen (settled_startConnect _)
      rcases hs with hs | hs | hs <;> rw [hs] <;> decide
  | settles link took hs =>
      exact (changing_moveTo _ _ _ (by rw [hs]; decide)).andThen (settled_establish _ link took)
  | settlesBusy link took hs =>
      exact ((changing_moveTo _ _ _ (by rw [hs]; decide)).andThen
        (settled_establish _ link took)).andThen (settled_beginWrite _)
  | dispatches hs =>
      exact (changing_moveTo _ _ _ (by rw [hs]; decide)).andThen (settled_beginWrite _)
  | awaits bytes hs =>
      exact ((changing_moveTo _ _ _ (by rw [hs]; decide)).andThen (settled_written _ bytes)).andThen
        ⟨rfl, rfl, rfl, rfl⟩
  | delivers bytes hs =>
      exact ((changing_moveTo _ _ _ (by rw [hs]; decide)).andThen (settled_written _ bytes)).andThen
        (settled_resolve _ none)
  | drops bytes hs =>
      exact ((changing_moveTo _ _ _ (by rw [hs]; decide)).andThen (settled_written _ bytes)).andThen
        (settled_dropInFlight _)
  | responds length hs =>
      exact (changing_moveTo _ _ _ (by rw [hs]; decide)).andThen (settled_resolve _ (some length))
  | fails _ error event herror hs =>
      refine (changing_moveTo _ _ _ fun hstop => ?_).andThen (settled_handleFail _ (some error))
      simp [hstop, Status.isBusy] at hs
  | closes waiter hs => exact (changing_moveTo _ _ _ hs).andThen (settled_doClose _)

/-- **A turn changes the status once at most**, and never one that is stopped. -/
theorem Intact.changing (h : c.Intact) (now : Instant) (stimulus : Stimulus) :
    c.Changing (c.turn now stimulus) := by
  obtain ⟨-, hp⟩ | ⟨signal, -, -, hf⟩ := turn_cases now stimulus h.fits
  · exact hp.settled.changing
  · exact hf.changing

/-! ### What the owner does -/

/-- What the owner does leaves alone what the task has and publishes; only the count of cancelled
writes may grow. -/
structure Aloof (c : Connection) (p : Progress) : Prop where
  status_eq : p.next.status = c.status
  watched_eq : p.next.watched = c.watched
  isBusy_eq : p.next.isBusy = c.isBusy
  position_eq : p.next.position = c.position
  socket_eq : p.next.socket = c.socket
  inFlight_eq : p.next.inFlight = c.inFlight
  counters_eq : ∃ count, p.next.counters = c.counters.cancelled count
  changes_eq : p.changes = []
  /-- Nothing is delivered. -/
  undelivered : ∀ e ∈ p.outcomes, ∃ returned, e.2 = .undelivered returned

theorem aloof_post (command : Command) : c.Aloof (c.post command) := by
  unfold post
  split <;> exact ⟨rfl, rfl, rfl, rfl, rfl, rfl, ⟨0, rfl⟩, rfl, nofun⟩

theorem aloof_close (waiter : Waiter) : c.Aloof (c.close waiter) := by
  unfold close
  split <;> exact ⟨rfl, rfl, rfl, rfl, rfl, rfl, ⟨0, rfl⟩, rfl, nofun⟩

theorem aloof_letGo : c.Aloof c.letGo := by
  obtain ⟨-, heq⟩ | ⟨-, asked, -, heq⟩ := c.letGo_cases <;> rw [heq]
  · refine ⟨rfl, rfl, rfl, rfl, rfl, rfl, ⟨0, rfl⟩, by simp, fun e he => ?_⟩
    rw [outcomes_abandonQueue] at he
    obtain ⟨w, -, rfl⟩ := List.mem_map.1 he
    exact ⟨_, rfl⟩
  · exact ⟨rfl, rfl, rfl, rfl, rfl, rfl, ⟨0, rfl⟩, rfl, nofun⟩

theorem aloof_reject (w : PendingWrite) : c.Aloof (c.reject w) := by
  refine ⟨rfl, rfl, rfl, rfl, rfl, rfl, ⟨1, rfl⟩, rfl, fun e he => ?_⟩
  cases List.mem_singleton.1 he
  exact ⟨_, rfl⟩

end Connection

namespace Scene

variable {s t : Scene}

/-! ### The moves that are possible -/

/-- The move is possible. -/
def Allows (s : Scene) : Move → Prop
  | .turn _ stimulus => ∀ socket ∈ stimulus.sockets, socket ∉ s.sockets
  | .push w =>
      s.connection.isHeld ∧ w.ticket ∉ s.submitted.map (·.ticket) ∧ w.dispatchedAt = none
  | .pushAgain w _ => s.connection.isHeld ∧ w ∈ s.handed
  | .wake => 0 < s.pushing
  | .take | .connect | .shutdown | .close _ => s.connection.isHeld
  | .discard w => w ∈ s.handed
  | .letGo => s.connection.isHeld ∧ s.pushing = 0
  | .recode _ => True

instance (s : Scene) : DecidablePred s.Allows
  | .turn _ stimulus =>
      inferInstanceAs (Decidable (∀ socket ∈ stimulus.sockets, socket ∉ s.sockets))
  | .push w => inferInstanceAs (Decidable (s.connection.isHeld ∧
      w.ticket ∉ s.submitted.map (·.ticket) ∧ w.dispatchedAt = none))
  | .pushAgain w _ => inferInstanceAs (Decidable (s.connection.isHeld ∧ w ∈ s.handed))
  | .wake => inferInstanceAs (Decidable (0 < s.pushing))
  | .take | .connect | .shutdown | .close _ => inferInstanceAs (Decidable (s.connection.isHeld))
  | .discard w => inferInstanceAs (Decidable (w ∈ s.handed))
  | .letGo => inferInstanceAs (Decidable (s.connection.isHeld ∧ s.pushing = 0))
  | .recode _ => inferInstanceAs (Decidable True)

/-- A move that is not possible changes nothing. -/
theorem step_of_not_allows {move : Move} (h : ¬s.Allows move) : s.step move = s := by
  cases move with
  | recode => exact absurd trivial h
  | _ => exact if_neg h

section

variable {w : PendingWrite} {expects : Option Bool}

theorem step_turn {now : Instant} {stimulus : Stimulus} (h : s.Allows (.turn now stimulus)) :
    s.step (.turn now stimulus) = s.turn now stimulus := if_pos h

theorem step_push (h : s.Allows (.push w)) :
    s.step (.push w) = { s.push w with submitted := s.submitted ++ [w] } := if_pos h

theorem step_pushAgain (h : s.Allows (.pushAgain w expects)) : s.step (.pushAgain w expects) =
    ({ s with handed := s.handed.erase w } : Scene).push { w with expects } := if_pos h

theorem step_wake (h : s.Allows .wake) : s.step .wake =
    { s.after (s.connection.post .wake) with pushing := s.pushing - 1 } := if_pos h

theorem step_take (h : s.Allows .take) : s.step .take = { s with
    connection := s.connection.takePending.2, handed := s.handed ++ s.connection.queue } :=
  if_pos h

theorem step_connect (h : s.Allows .connect) :
    s.step .connect = s.after (s.connection.post .connect) := if_pos h

theorem step_shutdown (h : s.Allows .shutdown) :
    s.step .shutdown = s.after (s.connection.post (.close none)) := if_pos h

theorem step_close {waiter : Waiter} (h : s.Allows (.close waiter)) :
    s.step (.close waiter) = s.after (s.connection.close waiter) := if_pos h

theorem step_letGo (h : s.Allows .letGo) : s.step .letGo = s.after s.connection.letGo := if_pos h

theorem step_discard (h : s.Allows (.discard w)) : s.step (.discard w) = { s with
    handed := s.handed.erase w
    effects := s.effects ++ [.resolved w.ticket (w.undelivered .cancelled)] } := if_pos h

end

/-! ### Runs and their records -/

/-- What a run leaves on record, if a move leaves what `f` reads off it and the scene it finds. -/
def record {α : Type} (f : Scene → Move → List α) : Scene → List Move → List α
  | _, [] => []
  | s, move :: moves => (if s.Allows move then f s move else []) ++ record f (s.step move) moves

theorem run_append (s : Scene) (first second : List Move) :
    s.run (first ++ second) = (s.run first).run second :=
  List.foldl_append

theorem run_concat (s : Scene) (moves : List Move) (move : Move) :
    s.run (moves ++ [move]) = (s.run moves).step move := by
  rw [run_append]
  rfl

theorem record_append {α : Type} (f : Scene → Move → List α) (s : Scene)
    (first second : List Move) :
    s.record f (first ++ second) = s.record f first ++ (s.run first).record f second := by
  induction first generalizing s with
  | nil => rfl
  | cons move moves ih =>
      rw [List.cons_append, record, record, ih, List.append_assoc]
      rfl

theorem record_concat {α : Type} (f : Scene → Move → List α) (s : Scene) (moves : List Move)
    (move : Move) : s.record f (moves ++ [move]) =
      s.record f moves ++ if (s.run moves).Allows move then f (s.run moves) move else [] := by
  rw [record_append, record, record, List.append_nil]

/-- A move that is not possible leaves nothing on record. -/
theorem record_concat_of_not_allows {α : Type} {f : Scene → Move → List α} {moves : List Move}
    {move : Move} (ha : ¬(s.run moves).Allows move) :
    s.record f (moves ++ [move]) = s.record f moves := by
  rw [record_concat, if_neg ha, List.append_nil]

/-- What holds of a scene and is kept by every possible move holds after every run. -/
theorem run_induction {P : List Move → Scene → Prop} (hr : s.Reachable) (hstart : P [] s)
    (hskip : ∀ moves move, ¬(s.run moves).Allows move →
      P moves (s.run moves) → P (moves ++ [move]) (s.run moves))
    (hstep : ∀ moves move, (s.run moves).Reachable → (s.run moves).Allows move →
      P moves (s.run moves) → P (moves ++ [move]) ((s.run moves).step move))
    (moves : List Move) : P moves (s.run moves) := by
  -- A run leaves its record at the end, so that the last move is taken off.
  induction moves using List.reverseRecOn with
  | nil => exact hstart
  | append_singleton moves move ih =>
      rw [run_concat]
      by_cases ha : (s.run moves).Allows move
      · exact hstep moves move (hr.run moves) ha ih
      · rw [step_of_not_allows ha]
        exact hskip moves move ha ih

/-! ### The changes of the status -/

/-- How the status has changed so far, in order. -/
def changes (s : Scene) : List (Status × Status) := s.effects.filterMap Effect.change?

/-- What the changes tell. -/
structure Traced (s : Scene) : Prop where
  /-- Those who watch are told the status. -/
  watched_eq : s.connection.watched = s.connection.status
  /-- All changes are counted. -/
  transitions_eq : s.connection.counters.transitions = s.changes.length
  /-- Each of them is one. -/
  ne : ∀ change ∈ s.changes, change.1 ≠ change.2
  /-- The status comes to `stopped` once. -/
  stops : s.changes.countP (·.2 = .stopped) = if s.connection.status = .stopped then 1 else 0

@[simp] theorem changes_after (s : Scene) (p : Progress) :
    (s.after p).changes = s.changes ++ p.changes := by
  simp [changes, after, Progress.changes]

theorem Traced.congr (h : s.Traced) (hs : t.connection.status = s.connection.status)
    (hw : t.connection.watched = s.connection.watched)
    (hk : t.connection.counters.transitions = s.connection.counters.transitions)
    (hc : t.changes = s.changes) : t.Traced where
  watched_eq := by rw [hw, hs, h.watched_eq]
  transitions_eq := by rw [hk, hc, h.transitions_eq]
  ne := by
    rw [hc]
    exact h.ne
  stops := by rw [hc, hs, h.stops]

theorem traced_turn (h : s.Traced) (hi : s.connection.Intact) (now : Instant)
    (stimulus : Stimulus) : (s.turn now stimulus).Traced := by
  have hchanges : (s.turn now stimulus).changes =
      s.changes ++ (s.connection.turn now stimulus).changes := changes_after s _
  cases hi.changing now stimulus with
  | stays hs hw hk hc => exact h.congr hs hw hk (by rw [hchanges, hc, List.append_nil])
  | moves target hne hlive hs hw hk hc =>
      rw [hc] at hchanges
      constructor
      case watched_eq => exact hw.trans hs.symm
      case transitions_eq =>
        rw [hchanges, List.length_append, ← h.transitions_eq]
        exact hk
      case ne =>
        intro change hmem
        rw [hchanges] at hmem
        rcases List.mem_append.1 hmem with hmem | hmem
        · exact h.ne change hmem
        · rw [List.mem_singleton.1 hmem]
          exact hne.symm
      case stops =>
        -- The status was not `stopped`, so that no change has come to it before.
        rw [hchanges, List.countP_append, h.stops, if_neg hlive, connection_turn, hs]
        simp

/-- A move of others leaves alone what the task has and publishes, and hands nothing to a socket. -/
structure Apart (s t : Scene) : Prop where
  status_eq : t.connection.status = s.connection.status
  watched_eq : t.connection.watched = s.connection.watched
  isBusy_eq : t.connection.isBusy = s.connection.isBusy
  position_eq : t.connection.position = s.connection.position
  socket_eq : t.connection.socket = s.connection.socket
  inFlight_eq : t.connection.inFlight = s.connection.inFlight
  counters_eq : ∃ count, t.connection.counters = s.connection.counters.cancelled count
  changes_eq : t.changes = s.changes
  /-- Nothing is delivered. -/
  outcomes_eq : ∃ told, t.outcomes = s.outcomes ++ told ∧
    ∀ e ∈ told, ∃ returned, e.2 = .undelivered returned
  dispatched_eq : t.dispatched = s.dispatched
  shipped_eq : t.shipped = s.shipped
  sockets_eq : t.sockets = s.sockets
  submitted_grows : s.submitted <+: t.submitted

theorem Apart.refl (s : Scene) : Apart s s :=
  ⟨rfl, rfl, rfl, rfl, rfl, rfl, ⟨0, rfl⟩, rfl, ⟨[], (List.append_nil _).symm, nofun⟩, rfl, rfl,
    rfl, List.prefix_refl _⟩

theorem apart_after {p : Progress} (h : s.connection.Aloof p) (pushing : Nat) :
    Apart s { s.after p with pushing } where
  status_eq := h.status_eq
  watched_eq := h.watched_eq
  isBusy_eq := h.isBusy_eq
  position_eq := h.position_eq
  socket_eq := h.socket_eq
  inFlight_eq := h.inFlight_eq
  counters_eq := h.counters_eq
  changes_eq := by
    have hnone := h.changes_eq
    rw [Progress.changes] at hnone
    simp only [changes, after, List.filterMap_append, hnone, List.append_nil]
  outcomes_eq := ⟨p.outcomes, by simp [outcomes, after, Progress.outcomes], h.undelivered⟩
  dispatched_eq := rfl
  shipped_eq := rfl
  sockets_eq := rfl
  submitted_grows := List.prefix_refl _

theorem apart_push (s : Scene) (w : PendingWrite) : Apart s (s.push w) := by
  unfold push
  cases hc : s.connection.push? w with
  | some connection =>
      cases Connection.eq_of_push? hc
      exact { Apart.refl s with }
  | none => exact apart_after (Connection.aloof_reject w) s.pushing

/-- **A move of others leaves alone what the task has and publishes.** -/
theorem apart_step (s : Scene) {move : Move} (hturn : ∀ now stimulus, move ≠ .turn now stimulus) :
    Apart s (s.step move) := by
  by_cases ha : s.Allows move
  · cases move with
    | turn now stimulus => exact absurd rfl (hturn now stimulus)
    | push w =>
        rw [step_push ha]
        exact { apart_push s w with
          submitted_grows := List.prefix_append _ _ }
    | pushAgain w expects =>
        rw [step_pushAgain ha]
        exact { apart_push { s with handed := s.handed.erase w } { w with expects } with }
    | wake =>
        rw [step_wake ha]
        exact apart_after (Connection.aloof_post .wake) _
    | take =>
        rw [step_take ha]
        exact { Apart.refl s with }
    | discard w =>
        rw [step_discard ha]
        refine { Apart.refl s with changes_eq := ?_, outcomes_eq := ?_ }
        · simp [changes, Effect.change?]
        · refine ⟨[(w.ticket, w.undelivered .cancelled)], by simp [outcomes, Effect.outcome?], ?_⟩
          simp [PendingWrite.undelivered]
    | connect =>
        rw [step_connect ha]
        exact apart_after (Connection.aloof_post .connect) s.pushing
    | shutdown =>
        rw [step_shutdown ha]
        exact apart_after (Connection.aloof_post (.close none)) s.pushing
    | close waiter =>
        rw [step_close ha]
        exact apart_after (Connection.aloof_close waiter) s.pushing
    | letGo =>
        rw [step_letGo ha]
        exact apart_after Connection.aloof_letGo s.pushing
    | recode codec => exact { Apart.refl s with }
  · rw [step_of_not_allows ha]
    exact .refl s

/-- A move is a turn of the task, or one of others. -/
theorem turn_or_apart (s : Scene) (move : Move) : (∃ now stimulus, move = .turn now stimulus) ∨
    (∀ now stimulus, move ≠ .turn now stimulus) ∧ Apart s (s.step move) := by
  cases move with
  | turn now stimulus => exact .inl ⟨now, stimulus, rfl⟩
  | _ => exact .inr ⟨nofun, apart_step s nofun⟩

/-- A step is a turn of the task, or leaves alone what the task has and publishes. -/
theorem turned_or_apart (s : Scene) (move : Move) :
    (∃ now stimulus, s.Allows (.turn now stimulus) ∧ s.step move = s.turn now stimulus) ∨
      Apart s (s.step move) := by
  rcases s.turn_or_apart move with ⟨now, stimulus, rfl⟩ | ⟨-, hapart⟩
  · by_cases ha : s.Allows (.turn now stimulus)
    · exact .inl ⟨now, stimulus, ha, step_turn ha⟩
    · rw [step_of_not_allows ha]
      exact .inr (.refl s)
  · exact .inr hapart

/-- A move leaves a stopped connection stopped, and publishes and counts no change. -/
theorem stopped_step (hi : s.connection.Intact) (hs : s.connection.status = .stopped)
    (move : Move) : (s.step move).connection.status = .stopped ∧
      (s.step move).connection.watched = s.connection.watched ∧
      (s.step move).connection.counters.transitions = s.connection.counters.transitions := by
  rcases s.turned_or_apart move with ⟨now, stimulus, -, hstep⟩ | hapart
  · rw [hstep, connection_turn]
    cases hi.changing now stimulus with
    | stays hs' hw hk => exact ⟨hs'.trans hs, hw, hk⟩
    | moves target hne hlive => exact absurd hs hlive
  · obtain ⟨count, hcounters⟩ := hapart.counters_eq
    exact ⟨hapart.status_eq.trans hs, hapart.watched_eq, by rw [hcounters]; rfl⟩

/-- **The changes of the status are told, counted, and come to `stopped` once**, in every scene. -/
theorem Reachable.traced (h : s.Reachable) : s.Traced := by
  induction h with
  | start => exact ⟨rfl, rfl, nofun, rfl⟩
  | @step s hr move ih =>
      rcases s.turned_or_apart move with ⟨now, stimulus, -, hstep⟩ | hapart
      · rw [hstep]
        exact traced_turn ih hr.intact now stimulus
      · obtain ⟨count, hcounters⟩ := hapart.counters_eq
        exact ih.congr hapart.status_eq hapart.watched_eq (by rw [hcounters]; rfl)
          hapart.changes_eq

end Scene

end Uplink

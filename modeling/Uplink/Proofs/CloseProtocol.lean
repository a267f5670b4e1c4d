/-
The close protocol.

Any number of owners may ask for a close, at any time and in any order, wait for it or not, and give
up the handle.  The connection is stopped once; by then every write is resolved or was handed back,
and everybody who waits is released afterwards.

* `Uplink.Scene.record_askings` — everybody who asked for a close waits or was released;
* `Uplink.Scene.stopped_run` — a stopped connection stays so, and nothing is told of it any more;
* `Uplink.Scene.stopped_of_released`, `Uplink.Scene.settled_of_stopped` — who is released finds
  every write resolved;
* `Uplink.Scene.count_actions` — the work of closing is done once.

Main result: `Uplink.Scene.close_protocol`.
-/

import Uplink.Proofs.Closing
import Uplink.Proofs.Delivery

set_option relaxedAutoImplicit false
set_option autoImplicit false

namespace Uplink

namespace Scene

variable {s t : Scene}

/-! ### What is recorded -/

/-- The owners that were released. -/
def released (s : Scene) : List Waiter := s.effects.filterMap Effect.release?

/-- The owners that ask for a close and wait for it. -/
def askings (_ : Scene) : Move → List Waiter
  | .close waiter => [waiter]
  | _ => []

/-- The actions that are performed. -/
def actions (s : Scene) : Move → List Action
  | .turn _ _ => s.connection.action?.toList
  | _ => []

@[simp] theorem released_after (s : Scene) (p : Progress) :
    (s.after p).released = s.released ++ p.releases := by
  simp [released, after, Progress.releases]

theorem released_turn (s : Scene) (now : Instant) (stimulus : Stimulus) :
    (s.turn now stimulus).released = s.released ++ (s.connection.turn now stimulus).releases := by
  simp [released, turn, after, Progress.releases]

/-! ### Those who wait -/

/-- A command that is given to a task waits in the inbox, and with it its owner. -/
theorem closers_post (c : Connection) (command : Command) :
    (c.post command).releases = [] ∧ (c.post command).next.closers =
      c.closers ++ if c.isGone then [] else command.signal.waiter?.toList := by
  unfold Connection.post
  split
  · simp [Progress.releases, Effect.release?]
  · refine ⟨rfl, ?_⟩
    cases command with
    | close waiter =>
        cases waiter <;>
          simp [Connection.closers, Connection.unreadWaiters, Command.signal, Signal.waiter?]
    | _ => simp [Connection.closers, Connection.unreadWaiters, Command.signal, Signal.waiter?]

/-- Who asks for a close waits, unless the task is gone. -/
theorem closers_close (c : Connection) (waiter : Waiter) :
    (c.isGone = true → (c.close waiter).releases = [waiter] ∧ (c.close waiter).next = c) ∧
      (c.isGone = false → (c.close waiter).releases = [] ∧
        (c.close waiter).next.closers = c.closers ++ [waiter]) := by
  unfold Connection.close
  constructor
  · intro hgone
    rw [if_pos hgone]
    exact ⟨rfl, rfl⟩
  · intro hgone
    rw [if_neg (by rw [hgone]; nofun)]
    exact ⟨rfl, by simp [Connection.closers, Connection.unreadWaiters]⟩

/-- Giving up the handle asks for a close that nobody waits for. -/
theorem closers_letGo (c : Connection) :
    c.letGo.releases = [] ∧ c.letGo.next.closers = c.closers := by
  obtain ⟨-, heq⟩ | ⟨-, asked, hasked, heq⟩ := c.letGo_cases <;> rw [heq]
  · refine ⟨?_, rfl⟩
    rw [Progress.releases_eq, Connection.news_abandonQueue, filterMap_map_of_none fun _ => rfl]
  · rcases hasked with rfl | rfl <;>
      exact ⟨rfl, by simp [Connection.closers, Connection.unreadWaiters]⟩

theorem closers_push (s : Scene) (w : PendingWrite) :
    (s.push w).released = s.released ∧ (s.push w).connection.closers = s.connection.closers := by
  unfold push
  cases hc : s.connection.push? w with
  | some connection =>
      cases Connection.eq_of_push? hc
      exact ⟨rfl, rfl⟩
  | none => exact ⟨by rw [released_after]; exact List.append_nil _, rfl⟩

/-- The owners that wait, and those that were released, after a move of others. -/
structure Relayed (s : Scene) (move : Move) (t : Scene) : Prop where
  asked : t.released ++ t.connection.closers = s.released ++ s.connection.closers ++ askings s move
  kept : s.connection.isGone = true → t.connection.closers = s.connection.closers
  gone : t.released ≠ s.released → s.connection.isGone = true

theorem Relayed.of_eq {move : Move} (hm : askings s move = []) (hr : t.released = s.released)
    (hn : t.connection.closers = s.connection.closers) : Relayed s move t where
  asked := by rw [hm, hr, hn, List.append_nil]
  kept _ := hn
  gone hne := absurd hr hne

theorem relayed_post (s : Scene) (command : Command) (hc : command.signal.waiter? = none) :
    (s.after (s.connection.post command)).released = s.released ∧
      (s.connection.post command).next.closers = s.connection.closers := by
  obtain ⟨hr, hn⟩ := closers_post s.connection command
  rw [hc] at hn
  simp [hr, hn]

/-- A move of others releases nobody but an owner that asks a task that is gone. -/
theorem relayed_step {move : Move} (ha : s.Allows move)
    (hturn : ∀ now stimulus, move ≠ .turn now stimulus)
    (hgone : s.connection.isGone = true → s.connection.closers = []) :
    Relayed s move (s.step move) := by
  cases move with
  | turn now stimulus => exact absurd rfl (hturn now stimulus)
  | push w =>
      obtain ⟨hr, hn⟩ := s.closers_push w
      rw [step_push ha]
      exact .of_eq rfl hr hn
  | pushAgain w expects =>
      obtain ⟨hr, hn⟩ := closers_push { s with handed := s.handed.erase w } { w with expects }
      rw [step_pushAgain ha]
      exact .of_eq rfl hr hn
  | wake =>
      obtain ⟨hr, hn⟩ := relayed_post s .wake rfl
      rw [step_wake ha]
      exact .of_eq rfl hr hn
  | connect =>
      obtain ⟨hr, hn⟩ := relayed_post s .connect rfl
      rw [step_connect ha]
      exact .of_eq rfl hr hn
  | shutdown =>
      obtain ⟨hr, hn⟩ := relayed_post s (.close none) rfl
      rw [step_shutdown ha]
      exact .of_eq rfl hr hn
  | close waiter =>
      obtain ⟨hleft, hthere⟩ := closers_close s.connection waiter
      have hreleased := s.released_after (s.connection.close waiter)
      rw [step_close ha]
      cases hg : s.connection.isGone with
      | true =>
          obtain ⟨hr, hn⟩ := hleft hg
          refine ⟨?_, fun _ => congrArg _ hn, fun _ => hg⟩
          rw [hreleased, hr]
          simp [after, hn, hgone hg, askings]
      | false =>
          obtain ⟨hr, hn⟩ := hthere hg
          rw [hr, List.append_nil] at hreleased
          refine ⟨?_, fun h => ?_, fun hne => absurd hreleased hne⟩
          · rw [hreleased]
            simp [after, hn, askings]
          · cases hg.symm.trans h
  | letGo =>
      obtain ⟨hr, hn⟩ := closers_letGo s.connection
      rw [step_letGo ha]
      exact .of_eq rfl (by rw [released_after, hr, List.append_nil]) hn
  | take =>
      rw [step_take ha]
      exact .of_eq rfl rfl rfl
  | discard w =>
      rw [step_discard ha]
      exact .of_eq rfl (by simp [released, Effect.release?]) rfl
  | recode => exact .of_eq rfl rfl rfl

/-- Nobody waits for a task that is gone. -/
theorem Reachable.closers_eq_nil (h : s.Reachable) (hg : s.connection.isGone = true) :
    s.connection.closers = [] := by
  induction h with
  | start => cases hg
  | @step s hr move ih =>
      by_cases ha : s.Allows move
      · rcases s.turn_or_apart move with ⟨now, stimulus, rfl⟩ | ⟨hturn, hapart⟩
        · have hrelays := hr.intact.relays now stimulus
          rw [step_turn ha, connection_turn] at hg ⊢
          -- A task that ends or crashes releases everybody; otherwise it was gone before.
          obtain ⟨hnone, hback⟩ | ⟨heq, -⟩ | ⟨-, hclosers⟩ := hr.intact.ending now stimulus
          · rw [hnone, List.nil_append] at hrelays
            rw [hrelays, ih (hback hg)]
          · rw [heq]
            rfl
          · exact hclosers
        · rw [Connection.isGone, hapart.position_eq] at hg
          rw [(relayed_step ha hturn ih).kept hg, ih hg]
      · rw [step_of_not_allows ha] at hg ⊢
        exact ih hg

/-- **Everybody who asks for a close waits or was released**, in the order in which they asked. -/
theorem record_askings (hr : s.Reachable) (moves : List Move) :
    s.released ++ s.connection.closers ++ s.record askings moves =
      (s.run moves).released ++ (s.run moves).connection.closers := by
  refine run_induction (P := fun moves t => s.released ++ s.connection.closers ++
    s.record askings moves = t.released ++ t.connection.closers) hr (List.append_nil _)
    (fun moves move ha h => ?_) (fun moves move hr ha h => ?_) moves
  · rw [record_concat_of_not_allows ha, h]
  · rw [record_concat, if_pos ha, ← List.append_assoc, h]
    rcases (s.run moves).turn_or_apart move with ⟨now, stimulus, rfl⟩ | ⟨hturn, -⟩
    · have hrelays := hr.intact.relays now stimulus
      rw [step_turn ha, released_turn, connection_turn,
        List.append_assoc _ _ (Progress.next _).closers, hrelays]
      exact List.append_nil _
    · exact (relayed_step ha hturn hr.closers_eq_nil).asked.symm

/-! ### A stopped connection -/

/-- **A stopped connection stays stopped**, whatever comes. -/
theorem stopped_run (hr : s.Reachable) (hs : s.connection.status = .stopped) (moves : List Move) :
    (s.run moves).connection.status = .stopped ∧
      (s.run moves).connection.watched = .stopped ∧
      (s.run moves).connection.counters.transitions = s.connection.counters.transitions ∧
      (s.run moves).connection.queue = [] := by
  induction moves generalizing s with
  | nil => exact ⟨hs, hr.traced.watched_eq.trans hs, rfl, hr.intact.published.queue_eq_nil hs⟩
  | cons move moves ih =>
      obtain ⟨hs', -, hk⟩ := stopped_step hr.intact hs move
      obtain ⟨hstatus, hwatched, htransitions, hqueue⟩ := ih (hr.step move) hs'
      exact ⟨hstatus, hwatched, htransitions.trans hk, hqueue⟩

/-- A write that is submitted to a stopped connection is cancelled at once. -/
theorem effects_push (hs : s.connection.status = .stopped) (w : PendingWrite) :
    (s.push w).effects =
      s.effects ++ [.resolved w.ticket (.undelivered ⟨w.payload, .cancelled⟩)] := by
  rw [push, Connection.push?_eq_none_iff.2 hs]
  rfl

/-- Who is released finds the connection stopped, unless the task crashes. -/
theorem stopped_of_released (hr : s.Reachable) {move : Move}
    (hlive : (s.step move).connection.position ≠ .crashed)
    (hne : (s.step move).released ≠ s.released) : s.connection.status = .stopped := by
  by_cases ha : s.Allows move
  · rcases s.turn_or_apart move with ⟨now, stimulus, rfl⟩ | ⟨hturn, hapart⟩
    · rw [step_turn ha] at hlive hne
      obtain ⟨hnone, -⟩ | ⟨-, hs⟩ | ⟨hcrash, -⟩ := hr.intact.ending now stimulus
      · rw [released_turn, hnone, List.append_nil] at hne
        exact absurd rfl hne
      · exact hs
      · exact absurd hcrash hlive
    · -- Others release only who asks a task that is gone, and it is gone once it has stopped.
      have hgone := (relayed_step ha hturn hr.closers_eq_nil).gone hne
      rw [hapart.position_eq] at hlive
      have hp : s.connection.position = .finished := by
        simpa [Connection.isGone, hlive] using hgone
      exact (hr.intact.sound hlive).fits_at hp
  · rw [step_of_not_allows ha] at hne
    exact absurd rfl hne

/-! ### Closing once -/

theorem count_actions (now : Instant) (endpoint : Endpoint) (config : Config) (codec : FrameCodec)
    (name : Option String) (moves : List Move) :
    ((start now endpoint config codec name).record actions moves).count .doClose =
      if ((start now endpoint config codec name).run moves).connection.status = .stopped
        then 1 else 0 := by
  generalize hfirst : start now endpoint config codec name = first
  have hr : first.Reachable := hfirst ▸ .start now endpoint config codec name
  refine run_induction (P := fun moves s => (first.record actions moves).count .doClose =
    if s.connection.status = .stopped then 1 else 0) hr ?_ (fun moves move ha h => ?_)
    (fun moves move hr ha h => ?_) moves
  · rw [← hfirst]
    rfl
  · rw [record_concat_of_not_allows ha, h]
  · generalize hs : first.run moves = s at *
    rw [record_concat, hs, if_pos ha, List.count_append, h]
    rcases s.turn_or_apart move with ⟨later, stimulus, rfl⟩ | ⟨hturn, hapart⟩
    · rw [step_turn ha, connection_turn]
      rw [← hr.intact.count_doClose later stimulus]
      rfl
    · have hnone : actions s move = [] := by
        cases move with
        | turn now stimulus => exact absurd rfl (hturn now stimulus)
        | _ => rfl
      rw [hapart.status_eq, hnone]
      rfl

/-- When the connection is stopped, the task is about to end, and releases everybody. -/
theorem ends_of_stopped (hr : s.Reachable) (hlive : s.connection.position ≠ .crashed)
    (hs : s.connection.status = .stopped) :
    s.connection.position = .finished ∧ s.connection.closers = [] ∨
      s.connection.position = .entering ∧ ∀ now stimulus,
        (s.connection.turn now stimulus).next.position = .finished ∧
          (s.connection.turn now stimulus).releases = s.connection.closers := by
  have hsound := hr.intact.sound hlive
  cases hp : s.connection.position with
  | spawned => exact absurd (hs.symm.trans (hsound.fits_at hp)) nofun
  | entering =>
      refine .inr ⟨rfl, fun now stimulus => ?_⟩
      have hturn : s.connection.turn now stimulus = s.connection.finish := by
        rw [Connection.turn, hp]
        exact if_pos (hsound.exiting_iff.2 hs)
      rw [hturn, Connection.releases_finish, Connection.closers, hp]
      exact ⟨rfl, by simp [Position.waiter?]⟩
  | parked phase => exact absurd hs (Phase.Fits.ne_stopped (hsound.fits_at hp))
  | signalled signal => exact absurd hs (Signal.Fits.ne_stopped (hsound.fits_at hp))
  | finished =>
      refine .inl ⟨rfl, hr.closers_eq_nil ?_⟩
      simp [Connection.isGone, hp]
  | overflowed =>
      have hconnected : s.connection.status.isConnected = true := hsound.fits_at hp
      rw [hs] at hconnected
      cases hconnected
  | crashed => exact absurd hp hlive

/-- When the connection is stopped, no write is left that is not resolved or handed back. -/
theorem settled_of_stopped (hr : s.Reachable) (hs : s.connection.status = .stopped) :
    s.connection.queue = [] ∧ s.connection.inFlight = none ∧
      ∀ w ∈ s.submitted, w.ticket ∈ s.takenBack ∨ w.ticket ∈ s.resolved := by
  have hqueue := hr.intact.published.queue_eq_nil hs
  have hflight := hr.intact.inFlight_eq_none hs
  refine ⟨hqueue, hflight, fun w hw => ?_⟩
  -- Each ticket is counted once among those kept, handed back and resolved, and none is kept.
  have hbalance := hr.accounted.balance w.ticket
  have hmem : 0 < (s.submitted.map (·.ticket)).count w.ticket :=
    List.count_pos_iff.2 (List.mem_map_of_mem hw)
  rw [Connection.held, hqueue, hflight] at hbalance
  by_cases hresolved : w.ticket ∈ s.resolved
  · exact .inr hresolved
  · rw [List.count_eq_zero.2 hresolved] at hbalance
    refine .inl (List.count_pos_iff.1 ?_)
    simp only [Option.toList_none, List.append_nil, List.map_nil, List.count_nil] at hbalance
    omega

/-! ### The protocol -/

/-- **The close protocol**, in every run in which the task does not crash.  The status never leaves
`stopped`, and from then on nothing is published or counted as a change, and nothing is queued.  The
work of closing is done once, when the status becomes `stopped`; it cancels the write in flight and
every write that waits, which get back their payloads.  Whoever is released finds the connection
stopped and every write resolved.  All who ask for a close wait or were released, in the order in
which they asked; the task of a stopped connection releases them in its next turn, those whose
command it has not read among them, and once it has ended nobody waits.  A write that is submitted
to a stopped connection is cancelled at once. -/
theorem close_protocol (now : Instant) (endpoint : Endpoint) (config : Config) (codec : FrameCodec)
    (name : Option String) (moves : List Move)
    (hlive : ((start now endpoint config codec name).run moves).connection.position ≠ .crashed) :
    let first := start now endpoint config codec name
    let s := first.run moves
    (s.connection.status = .stopped → ∀ more,
      (s.run more).connection.status = .stopped ∧ (s.run more).connection.watched = .stopped ∧
      (s.run more).connection.counters.transitions = s.connection.counters.transitions ∧
      (s.run more).connection.queue = []) ∧
    (first.record actions moves).count .doClose =
      (if s.connection.status = .stopped then 1 else 0) ∧
    (s.connection.action? = some .doClose → ∀ later stimulus,
      (s.connection.turn later stimulus).next.status = .stopped ∧
      (s.connection.turn later stimulus).outcomes =
        (s.connection.inFlight.toList ++ s.connection.queue).map
          fun w => (w.ticket, .undelivered ⟨w.payload, .cancelled⟩)) ∧
    (∀ move, (s.step move).connection.position ≠ .crashed → (s.step move).released ≠ s.released →
      s.connection.status = .stopped ∧ (s.step move).connection.status = .stopped ∧
      s.connection.queue = [] ∧ s.connection.inFlight = none ∧
      ∀ w ∈ s.submitted, w.ticket ∈ s.takenBack ∨ w.ticket ∈ s.resolved) ∧
    first.record askings moves = s.released ++ s.connection.closers ∧
    (s.connection.status = .stopped →
      s.connection.position = .finished ∧ s.connection.closers = [] ∨
      s.connection.position = .entering ∧ ∀ later stimulus,
        (s.connection.turn later stimulus).next.position = .finished ∧
          (s.connection.turn later stimulus).releases = s.connection.closers) ∧
    (s.connection.status = .stopped → ∀ w,
      (s.Allows (.push w) → (s.step (.push w)).effects = s.effects ++
        [.resolved w.ticket (.undelivered ⟨w.payload, .cancelled⟩)]) ∧
      ∀ expects, s.Allows (.pushAgain w expects) →
        (s.step (.pushAgain w expects)).effects = s.effects ++
          [.resolved w.ticket (.undelivered ⟨w.payload, .cancelled⟩)]) := by
  intro first s
  have hr : s.Reachable := (Reachable.start now endpoint config codec name).run moves
  refine ⟨stopped_run hr, count_actions now endpoint config codec name moves,
    fun ha later stimulus => ?_, fun move hmove hne => ?_, ?_, ends_of_stopped hr hlive,
    fun hs w => ⟨fun ha => ?_, fun expects ha => ?_⟩⟩
  · obtain ⟨hs, -, -, ho⟩ := Connection.turn_doClose ha later stimulus
    exact ⟨hs, ho⟩
  · have hs := stopped_of_released hr hmove hne
    exact ⟨hs, (stopped_step hr.intact hs move).1, settled_of_stopped hr hs⟩
  · exact record_askings (.start now endpoint config codec name) moves
  · rw [step_push ha]
    exact effects_push hs w
  · rw [step_pushAgain ha]
    exact effects_push (s := { s with handed := s.handed.erase w }) hs { w with expects }

/-- A run in which two owners ask for a close while a write is in flight and another waits; the
first of them has been heard. -/
def closingRun : List Move :=
  sampleRun ++ [.push { sampleWrite with ticket := 8 }, .close 1, .close 2, .turn ⟨3⟩ .command,
    .turn ⟨3⟩ .tick]

/-- Both owners are released in the next turn, and a third one that asks afterwards at once. -/
theorem close_protocol_closingRun :
    let s := (start ⟨0⟩ ⟨"node", 9001⟩ {} .line none).run closingRun
    s.connection.position = .entering ∧ s.connection.status = .stopped ∧ s.resolved = [7, 8] ∧
      s.connection.closers = [1, 2] ∧ s.connection.unreadWaiters = [2] ∧
      ([1, 2] : List Waiter) = s.released ++ s.connection.closers ∧
      (s.run [.turn ⟨4⟩ .tick, .close 3]).connection.status = .stopped ∧
      (s.run [.turn ⟨4⟩ .tick, .close 3]).released = [1, 2, 3] := by
  have h := close_protocol ⟨0⟩ ⟨"node", 9001⟩ {} .line none closingRun (by decide)
  exact ⟨by decide, by decide, by decide, by decide, by decide, h.2.2.2.2.1,
    (h.1 (by decide) _).1, by decide⟩

end Scene

end Uplink

/-
What a turn can do that fires no signal.

Between two signals the task enters a phase and observes what happens in it.  Each such turn is one
of a few kinds, told here with the state it leaves behind and with what the surroundings learn.  The
queue, the write in flight, the socket, the published status and the other things that a signal
decides are never among what changes, unless the task crashes.

* `Uplink.Connection.Passing` — the kinds of turns;
* `Uplink.Connection.Passing.contained` — **what none of them changes**, unless the task crashes;
* `Uplink.Connection.passing_enter`, `Uplink.Connection.passing_observe` — a phase is entered, and
  something happens in it;
* `Uplink.Connection.turn_cases` — **a task that stands where it fits passes, or fires its
  signal**.
-/

import Uplink.Proofs.Effects
import Uplink.Proofs.Firing

set_option relaxedAutoImplicit false
set_option autoImplicit false

namespace Uplink

/-- The signal that a command asks for. -/
def Command.signal : Command → Signal
  | connect => .connect
  | wake => .dispatch
  | close waiter => .close waiter

/-- A phase has ended. -/
def Position.isSignalled : Position → Bool
  | signalled _ => true
  | _ => false

/-- The socket gives some bytes. -/
def Stimulus.Gives (stimulus : Stimulus) : Prop := ∃ bytes, stimulus = .received bytes

/-- A stopped task waits in no phase. -/
theorem Phase.Fits.ne_stopped {c : Connection} {phase : Phase} (h : phase.Fits c) :
    c.status ≠ .stopped := by
  intro hs
  cases phase <;> simp_all [Phase.Fits]

/-- In a stopped task no phase ends. -/
theorem Signal.Fits.ne_stopped {c : Connection} {signal : Signal} (h : signal.Fits c) :
    c.status ≠ .stopped := by
  intro hs
  cases signal <;> simp_all [Signal.Fits, Status.isBusy]

namespace Connection

variable {c : Connection} {now : Instant} {stimulus : Stimulus}

/-! ### The kinds of turns -/

/-- The task waits for its peer to take a payload or to answer it. -/
def AwaitsPeer (c : Connection) : Prop :=
  c.position = .parked .waiting ∨ ∃ unsent, c.position = .parked (.writing unsent)

/-- The task needs times that have no representable sum: when it is started, after an activity that
has left no room for the next tick, or when it takes a tick that is due. -/
def Overflows (c : Connection) (now : Instant) (stimulus : Stimulus) : Prop :=
  c.position = .spawned ∧ Instant.limit ≤ now.ns + c.config.detectionInterval.ns ∨
    c.position = .overflowed ∨
    stimulus = .tick ∧ c.keepAlive.due ≤ now ∧
      ((c.position = .parked .free ∨ c.AwaitsPeer) ∧ c.keepAlive.tick? now = none ∨
        c.AwaitsPeer ∧ Duration.limit ≤ c.keepAlive.idleTime.ns + c.keepAlive.interval.ns)

/-- What a turn does that fires no signal.  Only bytes that the socket gives are ever read. -/
inductive Passing (c : Connection) (now : Instant) (stimulus : Stimulus) : Progress → Prop
  /-- Nothing happens. -/
  | rests (hp : (∃ phase, c.position = .parked phase) ∨ c.isGone = true) :
      Passing c now stimulus ⟨c, []⟩
  /-- The task runs for the first time. -/
  | starts (keepAlive : KeepAlive) (hp : c.position = .spawned)
      (hk : keepAlive.isProbing = false) :
      Passing c now stimulus ({ c with keepAlive, position := .entering }.say .started)
  /-- A time cannot be represented. -/
  | crashes (keepAlive : KeepAlive) (hp : c.Overflows now stimulus) :
      Passing c now stimulus { c with keepAlive }.crash
  /-- The task ends. -/
  | finishes (hp : c.position = .entering) (hs : c.exiting = true ∨ c.status = .stopped) :
      Passing c now stimulus c.finish
  /-- Without a socket, the task waits for a command. -/
  | idles (hp : c.position = .entering) (hs : c.status = .undefined ∨ c.status = .connectFailed) :
      Passing c now stimulus (c.park .idle)
  /-- A connect is awaited. -/
  | dials (hp : c.position = .entering) (hs : c.status = .connecting) :
      Passing c now stimulus ⟨{ c with position := .parked (.connecting now) }, [.dialled]⟩
  /-- A free connection has nothing to send. -/
  | settles (hp : c.position = .entering) (hs : c.status = .free)
      (hq : c.keepAlive.isProbing = false → c.queue = []) : Passing c now stimulus c.parkFree
  /-- A free connection has something to send. -/
  | dispatches (hp : c.position = .entering) (hs : c.status = .free)
      (hk : c.keepAlive.isProbing = false) (hq : c.queue ≠ []) :
      Passing c now stimulus (c.signal .dispatch)
  /-- The payload in flight is to be written. -/
  | writes (w : PendingWrite) (hp : c.position = .entering) (hs : c.status = .writing)
      (hw : c.inFlight = some w) : Passing c now stimulus (c.park (.writing w.payload))
  /-- The response is awaited. -/
  | awaits (hp : c.position = .entering) (hs : c.status = .waiting) :
      Passing c now stimulus (c.makeRoom.park .waiting)
  /-- A command is read, and means nothing here. -/
  | swallows (phase : Phase) (command : Command) (hp : c.position = .parked phase)
      (hi : c.inbox.head? = some command) (hc : ∀ waiter, command ≠ .close waiter)
      (hw : phase = .free →
        command = .wake ∧ (c.keepAlive.isProbing = false → c.queue = [])) :
      Passing c now stimulus ⟨{ c with inbox := c.inbox.tail }, []⟩
  /-- A command is read, and obeyed. -/
  | obeys (phase : Phase) (command : Command) (hp : c.position = .parked phase)
      (hi : c.inbox.head? = some command ∨
        c.inbox = [] ∧ c.isHeld = false ∧ command = .close none)
      (hf : command.signal.Fits c) (hw : command = .wake → phase = .free ∧ c.queue ≠ []) :
      Passing c now stimulus ({ c with inbox := c.inbox.tail }.signal command.signal)
  /-- The socket is there. -/
  | connects (link : Link) (since : Instant) (hst : stimulus = .dialled link)
      (hp : c.position = .parked (.connecting since)) (hs : c.status = .connecting) :
      Passing c now stimulus (c.signal (.connected link (now.since since)))
  /-- A tick is due, and only plans the next one. -/
  | plans (phase : Phase) (keepAlive : KeepAlive) (hp : c.position = .parked phase)
      (hk : keepAlive.isProbing = c.keepAlive.isProbing) :
      Passing c now stimulus ⟨{ c with keepAlive }, []⟩
  /-- Something goes wrong.  A deadline that was due is not armed any more. -/
  | fails (signal : Signal) (deadline : Deadline) (keepAlive : KeepAlive) (notices : List Notice)
      (herror : signal.error?.isSome = true) (hf : signal.Fits c)
      (hd : deadline = c.deadline ∨ deadline = c.deadline.cancel)
      (hk : keepAlive.isProbing = c.keepAlive.isProbing) :
      Passing c now stimulus
        ⟨{ c with deadline, keepAlive, position := .signalled signal }, notices.map .noticed⟩
  /-- The socket takes some of the payload. -/
  | sends (unsent : Bytes) (count : Nat) (hp : c.position = .parked (.writing unsent))
      (hr : unsent.drop count ≠ []) :
      Passing c now stimulus
        ((c.transmit unsent count).andThen (·.park (.writing (unsent.drop count))))
  /-- The socket takes the last of the payload. -/
  | sendsLast (unsent : Bytes) (count bytes : Nat) (hp : c.position = .parked (.writing unsent))
      (hs : c.status = .writing) (hr : unsent.drop count = [])
      (hb : bytes = (c.inFlight.map (·.payload.length)).getD 0) :
      Passing c now stimulus ((c.transmit unsent count).andThen (·.signal (.written bytes)))
  /-- A tick sends a probe. -/
  | probes (probe : Bytes) (keepAlive : KeepAlive) (tick expiry : Instant)
      (hp : c.position = .parked .free) (hs : c.status = .free)
      (hk : c.keepAlive.isProbing = false) (hk' : keepAlive.isProbing = false)
      (hb : c.codec.probe = some probe) :
      Passing c now stimulus ({ c with keepAlive }.park (.probing probe probe tick expiry))
  /-- The socket takes some of the probe. -/
  | probesOn (probe unsent : Bytes) (count : Nat) (tick expiry : Instant)
      (hp : c.position = .parked (.probing probe unsent tick expiry))
      (hr : unsent.drop count ≠ []) :
      Passing c now stimulus ((c.transmit unsent count).andThen
        (·.park (.probing probe (unsent.drop count) tick expiry)))
  /-- The socket takes the last of the probe. -/
  | probesLast (probe unsent : Bytes) (count : Nat) (tick expiry : Instant)
      (hp : c.position = .parked (.probing probe unsent tick expiry)) (hs : c.status = .free)
      (hr : unsent.drop count = []) :
      Passing c now stimulus ((c.transmit unsent count).andThen (·.completeProbe probe tick))
  /-- A tick sends a probe that has no bytes. -/
  | probesAtOnce (keepAlive : KeepAlive) (tick : Instant) (hp : c.position = .parked .free)
      (hs : c.status = .free) (hk : c.keepAlive.isProbing = false)
      (hb : c.codec.probe = some []) :
      Passing c now stimulus ({ c with keepAlive }.completeProbe [] tick)
  /-- Some bytes may answer a probe. -/
  | answersPart (bytes : Bytes) (hst : stimulus.Gives)
      (hp : c.position = .parked .free) (hs : c.status = .free)
      (hk : c.keepAlive.isProbing = true)
      (hv : c.codec.check (c.receive bytes).block.held = .incomplete) :
      Passing c now stimulus (c.receive bytes).parkFree
  /-- A probe is answered. -/
  | answers (bytes : Bytes) (hst : stimulus.Gives)
      (hp : c.position = .parked .free) (hs : c.status = .free)
      (hk : c.keepAlive.isProbing = true)
      (hv : c.codec.check (c.receive bytes).block.held =
        .complete (c.receive bytes).block.held.length) :
      Passing c now stimulus
        (((c.receive bytes).say .probeAnswered).andThen fun c => (c.endProbe now).signal .again)
  /-- A probe is answered, and the clock has no room for the next tick. -/
  | answersBeyond (bytes : Bytes) (hst : stimulus.Gives)
      (hp : c.position = .parked .free) (hs : c.status = .free)
      (hk : c.keepAlive.isProbing = true) (hroom : c.keepAlive.hasRoom now = false)
      (hv : c.codec.check (c.receive bytes).block.held =
        .complete (c.receive bytes).block.held.length) :
      Passing c now stimulus
        (((c.receive bytes).say .probeAnswered).andThen fun c => ⟨c.endProbe now, []⟩)
  /-- Some bytes cannot answer a probe. -/
  | answersWrongly (bytes : Bytes) (hst : stimulus.Gives)
      (hp : c.position = .parked .free) (hs : c.status = .free)
      (hk : c.keepAlive.isProbing = true) :
      Passing c now stimulus ((c.receive bytes).signalIdle now)
  /-- Some bytes of the response are read. -/
  | reads (bytes : Bytes) (hst : stimulus.Gives)
      (hp : c.position = .parked .waiting) (hs : c.status = .waiting) :
      Passing c now stimulus
        (((c.receive bytes).touch now).signal ((c.receive bytes).touch now).verdict)
  /-- Some bytes of the response are read, and the clock has no room for the next tick. -/
  | readsBeyond (bytes : Bytes) (hst : stimulus.Gives)
      (hp : c.position = .parked .waiting) (hs : c.status = .waiting)
      (hroom : c.keepAlive.hasRoom now = false) :
      Passing c now stimulus ⟨(c.receive bytes).touch now, []⟩

/-! ### Activity -/

/-- Without room for the next tick, activity brings the task to where it is about to be stopped. -/
theorem position_touch_of_hasRoom (h : c.keepAlive.hasRoom now = false) :
    (c.touch now).position = .overflowed := by
  simp [touch, h]

theorem position_endProbe_of_hasRoom (h : c.keepAlive.hasRoom now = false) :
    (c.endProbe now).position = .overflowed :=
  position_touch_of_hasRoom (c := { c with
    keepAlive := c.keepAlive.clearProbe
    block := c.block.reset }) h

/-- After an activity in a phase the task goes on, unless the clock has no room for the next
tick. -/
theorem proceed_cases {phase : Phase} (hp : c.position = .parked phase) (now : Instant)
    (signal : Signal) :
    (c.touch now).proceed signal = (c.touch now).signal signal ∨
      c.keepAlive.hasRoom now = false ∧ (c.touch now).proceed signal = ⟨c.touch now, []⟩ := by
  rcases c.position_touch now with ⟨hpos, -⟩ | ⟨hpos, hroom⟩
  · exact .inl (if_neg (by rw [hpos, hp]; nofun))
  · exact .inr ⟨hroom, if_pos hpos⟩

theorem endProbe_cases {phase : Phase} (hp : c.position = .parked phase) (now : Instant) :
    (c.endProbe now).proceed .again = (c.endProbe now).signal .again ∨
      c.keepAlive.hasRoom now = false ∧ (c.endProbe now).proceed .again = ⟨c.endProbe now, []⟩ :=
  proceed_cases (c := { c with
    keepAlive := c.keepAlive.clearProbe
    block := c.block.reset }) hp now .again

/-! ### Pieces of turns -/

/-- Making room changes nothing but the size of the block. -/
theorem makeRoom_eq (c : Connection) :
    ∃ block : ReceiveBlock, block.held = c.block.held ∧ c.makeRoom = { c with block } := by
  unfold makeRoom
  split
  next block hb => exact ⟨block, ReceiveBlock.held_reserve hb, rfl⟩
  next => exact ⟨c.block, rfl, rfl⟩

theorem parkFree_eq (c : Connection) : ∃ block : ReceiveBlock, block.held = c.block.held ∧
    c.parkFree = ⟨{ c with block, position := .parked .free }, []⟩ := by
  unfold parkFree
  split
  · obtain ⟨block, hb, he⟩ := c.makeRoom_eq
    exact ⟨block, hb, by rw [he]; rfl⟩
  · exact ⟨c.block, rfl, rfl⟩

/-- A probe that is sent leaves an empty block, and is outstanding from then on. -/
theorem completeProbe_eq (c : Connection) (probe : Bytes) (tick : Instant) :
    ∃ block : ReceiveBlock, block.held = [] ∧ c.completeProbe probe tick = ⟨{ c with
      block
      counters := c.counters.probed.sent probe.length
      keepAlive := c.keepAlive.probeSent tick
      position := .parked .free }, [.noticed (.probeSent c.label)]⟩ := by
  unfold completeProbe
  simp only
  generalize hd : ({ c with block := _, keepAlive := _, counters := _ } : Connection) = d
  obtain ⟨block, hb, heq⟩ := d.parkFree_eq
  subst hd
  simp only [say, Progress.andThen, heq, List.append_nil]
  exact ⟨block, hb, rfl⟩

/-- A crash drops what the task has, and with the owner gone also what waits. -/
theorem next_crash (c : Connection) : c.crash.next = { c with
    position := .crashed
    socket := none
    keepAlive := c.keepAlive.clearProbe
    inFlight := none
    inbox := []
    waiters := []
    queue := if c.isHeld then c.queue else [] } := by
  unfold crash
  simp only [Progress.next_andThen]
  split <;> rfl

/-- How a response can stand. -/
theorem verdict_cases (c : Connection) :
    c.verdict = .incomplete ∧ c.codec.check c.block.held = .incomplete ∨
      c.verdict = .frame c.block.held.length ∧
        c.codec.check c.block.held = .complete c.block.held.length ∨
      ∃ fault, c.verdict = .responseFailed (.protocol fault) := by
  unfold verdict
  cases hv : c.codec.check c.block.held with
  | incomplete => exact .inl ⟨rfl, rfl⟩
  | malformed fault => exact .inr (.inr ⟨_, rfl⟩)
  | complete length =>
      by_cases hl : length = c.block.held.length
      · simp only [hl, if_true]
        exact .inr (.inl ⟨trivial, trivial⟩)
      · simp only [hl, if_false]
        exact .inr (.inr ⟨_, rfl⟩)

/-- A step leaves everything alone but the place where the task stands, what it has read and
received, its timers, and the record of its activity.  It tells of no write and of no change. -/
structure Contained (c : Connection) (p : Progress) : Prop where
  next_eq : p.next = { c with
    position := p.next.position
    inbox := p.next.inbox
    waiters := p.next.waiters
    activity := p.next.activity
    deadline := p.next.deadline
    keepAlive := p.next.keepAlive
    block := p.next.block
    counters := { c.counters with
      bytesReceived := p.next.counters.bytesReceived
      bytesSent := p.next.counters.bytesSent
      probesSent := p.next.counters.probesSent } }
  crashed : p.next.position = .crashed → c.position = .crashed
  outcomes_eq : p.outcomes = []
  changes_eq : p.changes = []

/-- A turn that fires no signal is contained, unless the task needs a sum that has no result. -/
theorem Passing.contained_or_crashes {p : Progress} (hp : c.Passing now stimulus p) :
    c.Contained p ∨ ∃ keepAlive, p = { c with keepAlive }.crash ∧ c.Overflows now stimulus := by
  cases hp with
  | crashes keepAlive hp => exact .inr ⟨keepAlive, rfl, hp⟩
  | rests | swallows | plans => exact .inl ⟨rfl, id, rfl, rfl⟩
  | finishes => exact .inl ⟨rfl, nofun, by simp, by simp⟩
  | fails => exact .inl ⟨rfl, nofun, outcomes_noticed _ _, changes_noticed _ _⟩
  | sends | sendsLast | probesOn => exact .inl ⟨rfl, nofun, by simp, by simp⟩
  | obeys phase command => exact .inl ⟨rfl, by cases command <;> nofun, rfl, rfl⟩
  | reads =>
      refine .inl ⟨rfl, ?_, rfl, rfl⟩
      obtain ⟨hv, -⟩ | ⟨hv, -⟩ | ⟨fault, hv⟩ := ((c.receive _).touch now).verdict_cases
      all_goals
        rw [hv]
        nofun
  | readsBeyond bytes _ _ _ hroom =>
      have hpos : ((c.receive bytes).touch now).position = .overflowed :=
        position_touch_of_hasRoom hroom
      exact .inl ⟨rfl, fun h => absurd (hpos.symm.trans h) nofun, rfl, rfl⟩
  | answersBeyond bytes _ _ _ _ hroom =>
      have hpos : ((c.receive bytes).endProbe now).position = .overflowed :=
        position_endProbe_of_hasRoom hroom
      exact .inl ⟨rfl, fun h => absurd (hpos.symm.trans h) nofun, rfl, rfl⟩
  | settles =>
      obtain ⟨block, -, heq⟩ := c.parkFree_eq
      rw [heq]
      exact .inl ⟨rfl, nofun, rfl, rfl⟩
  | awaits =>
      obtain ⟨block, -, heq⟩ := c.makeRoom_eq
      rw [heq]
      exact .inl ⟨rfl, nofun, rfl, rfl⟩
  | probesLast probe unsent count tick =>
      obtain ⟨block, -, heq⟩ := c.completeProbe_eq probe tick
      refine .inl ⟨?_, ?_, ?_, ?_⟩
      · rw [Progress.next_andThen, next_transmit, heq]
        rfl
      · rw [Progress.next_andThen, next_transmit, heq]
        nofun
      · rw [Progress.outcomes_andThen, outcomes_transmit, next_transmit, heq]
        rfl
      · rw [Progress.changes_andThen, changes_transmit, next_transmit, heq]
        rfl
  | probesAtOnce keepAlive tick =>
      obtain ⟨block, -, heq⟩ := { c with keepAlive }.completeProbe_eq [] tick
      rw [heq]
      exact .inl ⟨rfl, nofun, rfl, rfl⟩
  | answersPart bytes =>
      obtain ⟨block, -, heq⟩ := (c.receive bytes).parkFree_eq
      rw [heq]
      exact .inl ⟨rfl, nofun, rfl, rfl⟩
  | _ => exact .inl ⟨rfl, nofun, rfl, rfl⟩

/-- **A turn that fires no signal is contained**, unless the task crashes. -/
theorem Passing.contained {p : Progress} (hp : c.Passing now stimulus p) :
    c.Contained p ∨ ∃ keepAlive, p = { c with keepAlive }.crash :=
  hp.contained_or_crashes.imp_right fun ⟨keepAlive, heq, _⟩ => ⟨keepAlive, heq⟩

/-! ### Starting and entering a phase -/

theorem passing_start (hp : c.position = .spawned) : c.Passing now stimulus (c.start now) := by
  unfold start
  cases hk : KeepAlive.start? now c.config.idleTime c.config.detectionInterval with
  | some keepAlive =>
      refine .starts keepAlive hp ?_
      obtain ⟨due, -, rfl⟩ := Option.map_eq_some_iff.1 hk
      rfl
  | none => exact .crashes c.keepAlive (.inl ⟨hp, (KeepAlive.start?_eq_none_iff ..).1 hk⟩)

theorem passing_signalIdle (hs : c.status = .free ∨ c.status.isBusy = true) :
    c.Passing now stimulus (c.signalIdle now) :=
  .fails (.idle (c.idleFor now)) c.deadline c.keepAlive [] rfl hs (.inl rfl) rfl

theorem passing_enterFree (hp : c.position = .entering) (hs : c.status = .free) :
    c.Passing now stimulus (c.enterFree now) := by
  unfold enterFree
  split
  next h =>
    obtain ⟨hk, hq⟩ := h
    exact .dispatches hp hs (by simpa using hk) hq
  next h =>
    split
    · exact passing_signalIdle (.inl hs)
    · refine .settles hp hs fun hk => ?_
      simpa [hk] using h

theorem passing_enterWriting (hp : c.position = .entering) (hs : c.status = .writing) :
    c.Passing now stimulus c.enterWriting := by
  unfold enterWriting
  split
  · exact .fails (.writeFailed _) c.deadline c.keepAlive [] rfl ⟨hs, nofun⟩ (.inl rfl) rfl
  · exact .fails (.writeFailed _) c.deadline c.keepAlive [] rfl ⟨hs, nofun⟩ (.inl rfl) rfl
  next w _ hw _ => exact .writes w hp hs hw

theorem passing_enterWaiting (hp : c.position = .entering) (hs : c.status = .waiting) :
    c.Passing now stimulus c.enterWaiting := by
  unfold enterWaiting
  split
  · exact .fails (.responseFailed _) c.deadline c.keepAlive [] rfl ⟨hs, nofun⟩ (.inl rfl) rfl
  · exact .awaits hp hs

/-- Entering the phase of the status. -/
theorem passing_enter (hp : c.position = .entering) : c.Passing now stimulus (c.enter now) := by
  unfold enter
  split
  next he => exact .finishes hp (.inl he)
  next =>
    split
    next hs => exact .idles hp (.inl hs)
    next hs => exact .idles hp (.inr hs)
    next hs =>
      simp only [park, Progress.andThen, List.append_nil]
      exact .dials hp hs
    next hs => exact passing_enterFree hp hs
    next hs => exact passing_enterWriting hp hs
    next hs => exact passing_enterWaiting hp hs
    next hs => exact .finishes hp (.inr hs)

/-! ### Commands, deadlines and ticks -/

variable {phase : Phase}

theorem readCommand_eq_some {d : Connection} {command : Command}
    (h : c.readCommand = some (command, d)) :
    d = { c with inbox := c.inbox.tail } ∧ (c.inbox.head? = some command ∨
      c.inbox = [] ∧ c.isHeld = false ∧ command = .close none) := by
  unfold readCommand at h
  split at h
  next first rest hi =>
    cases h
    rw [hi]
    exact ⟨rfl, .inl rfl⟩
  next hi =>
    split at h
    · cases h
    next hheld =>
      cases h
      refine ⟨?_, .inr ⟨hi, by simpa using hheld, rfl⟩⟩
      cases c
      cases hi
      rfl

/-- A command that is no close comes from the inbox. -/
theorem head?_of_readCommand {d : Connection} {command : Command}
    (h : c.readCommand = some (command, d)) (hc : command ≠ .close none) :
    c.inbox.head? = some command := by
  obtain ⟨-, hi | ⟨-, -, rfl⟩⟩ := readCommand_eq_some h
  · exact hi
  · exact absurd rfl hc

/-- A close is obeyed in every phase. -/
theorem passing_close {d : Connection} {waiter : Option Waiter} (hp : c.position = .parked phase)
    (hf : phase.Fits c) (h : c.readCommand = some (.close waiter, d)) :
    c.Passing now stimulus (d.signal (.close waiter)) := by
  obtain ⟨rfl, hi⟩ := readCommand_eq_some h
  exact .obeys phase (.close waiter) hp hi hf.ne_stopped nofun

/-- A command that is no close can be left alone while the connection is not free. -/
theorem passing_swallow {d : Connection} {command : Command} (hp : c.position = .parked phase)
    (h : c.readCommand = some (command, d)) (hc : ∀ waiter, command ≠ .close waiter)
    (hw : phase = .free → command = .wake ∧ (c.keepAlive.isProbing = false → c.queue = [])) :
    c.Passing now stimulus ⟨d, []⟩ := by
  have hi := head?_of_readCommand h (hc none)
  obtain ⟨rfl, -⟩ := readCommand_eq_some h
  exact .swallows phase command hp hi hc hw

theorem passing_observeBusyCommand (hp : c.position = .parked phase) (hf : phase.Fits c)
    (hfree : phase ≠ .free) : c.Passing now stimulus c.observeBusyCommand := by
  unfold observeBusyCommand
  split
  next waiter d h => exact passing_close hp hf h
  next command d hc h =>
    exact passing_swallow hp h hc fun he => absurd he hfree
  next => exact .rests (.inl ⟨phase, hp⟩)

theorem passing_observeIdleCommand (hp : c.position = .parked .idle)
    (hf : c.status = .undefined ∨ c.status = .connectFailed) :
    c.Passing now stimulus c.observeIdleCommand := by
  unfold observeIdleCommand
  split
  next d h =>
    obtain ⟨rfl, hi⟩ := readCommand_eq_some h
    refine .obeys .idle .connect hp hi ?_ nofun
    exact hf.elim .inl fun h => .inr (.inl h)
  next d h => exact passing_swallow hp h nofun nofun
  next waiter d h => exact passing_close hp hf h
  next => exact .rests (.inl ⟨_, hp⟩)

theorem passing_observeFreeCommand (hp : c.position = .parked .free) (hs : c.status = .free) :
    c.Passing now stimulus c.observeFreeCommand := by
  unfold observeFreeCommand
  split
  next d h =>
    obtain ⟨rfl, hi⟩ := readCommand_eq_some h
    exact .obeys .free .connect hp hi (.inr (.inr hs)) nofun
  next d h =>
    obtain ⟨rfl, hi⟩ := readCommand_eq_some h
    split
    next hq =>
      obtain ⟨hk, hq⟩ := hq
      exact .obeys .free .wake hp hi ⟨hs, by simpa using hk⟩ fun _ => ⟨rfl, hq⟩
    next hq =>
      refine passing_swallow hp h nofun fun _ => ⟨rfl, fun hk => ?_⟩
      simpa [hk] using hq
  next waiter d h => exact passing_close hp hs h
  next => exact .rests (.inl ⟨_, hp⟩)

/-- A deadline that is due ends a phase with an error. -/
theorem passing_observeDeadline {ending : Duration → Signal} (hp : c.position = .parked phase)
    (herror : ∀ span, (ending span).error?.isSome = true) (hf : ∀ span, (ending span).Fits c) :
    c.Passing now stimulus (c.observeDeadline now ending) := by
  unfold observeDeadline
  split
  next span _ =>
    exact .fails (ending span) c.deadline.cancel c.keepAlive [] (herror span) (hf span)
      (.inr rfl) rfl
  next => exact .rests (.inl ⟨_, hp⟩)

theorem passing_observeBusyTick (hp : c.position = .parked phase) (ha : c.AwaitsPeer)
    (hs : c.status.isBusy = true) : c.Passing now .tick (c.observeBusyTick now) := by
  unfold observeBusyTick
  split
  · exact .rests (.inl ⟨_, hp⟩)
  next hlt =>
    have hdue : c.keepAlive.due ≤ now := Nat.le_of_not_lt hlt
    rcases c.keepAlive.tick?_cases now with htick | ⟨due, -, htick⟩
    · simp only [htick]
      exact .crashes c.keepAlive (.inr (.inr ⟨rfl, hdue, .inl ⟨.inr ha, htick⟩⟩))
    · simp only [htick]
      generalize hd : KeepAlive.check? _ _ _ _ _ = decision
      rcases decision with _ | _ | _ | idle
      · obtain ⟨-, hsum⟩ := (KeepAlive.check?_eq_none_iff ..).1 hd
        exact .crashes _ (.inr (.inr ⟨rfl, hdue, .inr ⟨ha, hsum⟩⟩))
      · exact .plans phase _ hp rfl
      · exact .plans phase _ hp rfl
      · exact .fails (.idle idle) c.deadline _ [] rfl (.inr hs) (.inl rfl) rfl

/-! ### Probes -/

theorem passing_failProbe {error : ConnectionError} (keepAlive : KeepAlive)
    (hs : c.status = .free) (hk : keepAlive.isProbing = c.keepAlive.isProbing) :
    c.Passing now stimulus ({ c with keepAlive }.failProbe now error) := by
  simp only [failProbe, say, signalIdle, signal, Progress.andThen, List.append_nil]
  exact .fails (.idle _) c.deadline keepAlive [.probeFailed c.label error] rfl (.inl hs) (.inl rfl)
    hk

/-- A free connection is probed only while no probe is outstanding, and only if it has a probe. -/
theorem check?_free_eq_probe {k : KeepAlive} {last tick : Instant} {canProbe : Bool}
    (h : k.check? .free last tick canProbe = some .probe) :
    k.isProbing = false ∧ canProbe = true := by
  simp only [KeepAlive.check?, KeepAlive.checkFree, Option.some.injEq] at h
  split at h
  · split at h <;> cases h
  next hk =>
    refine ⟨by simp [KeepAlive.isProbing, hk], ?_⟩
    split at h
    · cases h
    · split at h
      · assumption
      · cases h

theorem passing_beginProbe {keepAlive : KeepAlive} {tick : Instant}
    (hp : c.position = .parked .free) (hs : c.status = .free)
    (hk : c.keepAlive.isProbing = false) (hk' : keepAlive.isProbing = false) :
    c.Passing now stimulus ({ c with keepAlive }.beginProbe now tick) := by
  unfold beginProbe
  split
  · exact passing_failProbe keepAlive hs (hk'.trans hk.symm)
  · exact passing_failProbe keepAlive hs (hk'.trans hk.symm)
  next probe _ hb _ =>
    split
    next hnil =>
      cases hnil
      exact .probesAtOnce keepAlive tick hp hs hk hb
    next => exact .probes probe keepAlive tick _ hp hs hk hk' hb

theorem passing_observeFreeTick (hp : c.position = .parked .free) (hs : c.status = .free) :
    c.Passing now .tick (c.observeFreeTick now) := by
  unfold observeFreeTick
  split
  · exact .rests (.inl ⟨_, hp⟩)
  next hlt =>
    rcases c.keepAlive.tick?_cases now with htick | ⟨due, -, htick⟩
    · simp only [htick]
      exact .crashes c.keepAlive
        (.inr (.inr ⟨rfl, Nat.le_of_not_lt hlt, .inl ⟨.inl hp, htick⟩⟩))
    · simp only [htick]
      generalize hd : KeepAlive.check? _ _ _ _ _ = decision
      rcases decision with _ | _ | _ | idle
      · cases hd
      · exact .plans .free _ hp rfl
      · obtain ⟨hk, -⟩ := check?_free_eq_probe hd
        exact passing_beginProbe hp hs hk hk
      · exact .fails (.idle idle) c.deadline _ [] rfl (.inl hs) (.inl rfl) rfl

theorem passing_observeAnswer {bytes : Bytes} (hst : stimulus.Gives)
    (hp : c.position = .parked .free) (hs : c.status = .free)
    (hk : c.keepAlive.isProbing = true) :
    c.Passing now stimulus (c.observeAnswer now bytes) := by
  unfold observeAnswer
  simp only
  split
  · exact .rests (.inl ⟨_, hp⟩)
  · split
    next hv => exact .answersPart _ hst hp hs hk hv
    next length hv =>
      split
      next hl =>
        rw [hl] at hv
        generalize bytes.take c.block.room = bytes at hv
        have hp' : (c.receive bytes).position = .parked .free := hp
        rcases endProbe_cases hp' now with heq | ⟨hroom, heq⟩
        · rw [Progress.andThen_congr (g := fun c => (c.endProbe now).signal .again) heq]
          exact .answers bytes hst hp hs hk hv
        · rw [Progress.andThen_congr (g := fun c => ⟨c.endProbe now, []⟩) heq]
          exact .answersBeyond bytes hst hp hs hk hroom hv
      next => exact .answersWrongly _ hst hp hs hk
    next => exact .answersWrongly _ hst hp hs hk

theorem passing_observeNoAnswer {fault : ProtocolFault} (hs : c.status = .free) :
    c.Passing now stimulus (c.observeNoAnswer now fault) := by
  simp only [observeNoAnswer, say, signalIdle, signal, Progress.andThen, List.append_nil]
  exact .fails (.idle _) c.deadline c.keepAlive [.probeUnanswered c.label (.protocol fault)] rfl
    (.inl hs) (.inl rfl) rfl

theorem passing_observeOverfull {ending : ProtocolFault → Progress}
    (hp : c.position = .parked phase) (he : ∀ fault, c.Passing now stimulus (ending fault)) :
    c.Passing now stimulus (c.observeOverfull ending) := by
  unfold observeOverfull
  split
  · exact .rests (.inl ⟨_, hp⟩)
  · exact he _

/-! ### Every phase -/

theorem passing_observeResponse {bytes : Bytes} (hst : stimulus.Gives)
    (hp : c.position = .parked .waiting) (hs : c.status = .waiting) :
    c.Passing now stimulus (c.observeResponse now bytes) := by
  unfold observeResponse
  simp only
  split
  · exact .rests (.inl ⟨_, hp⟩)
  · generalize bytes.take c.block.room = bytes
    have hp' : (c.receive bytes).position = .parked .waiting := hp
    rcases proceed_cases hp' now ((c.receive bytes).touch now).verdict with
      heq | ⟨hroom, heq⟩
    · rw [heq]
      exact .reads bytes hst hp hs
    · rw [heq]
      exact .readsBeyond bytes hst hp hs hroom

theorem passing_observeConnecting {since : Instant}
    (hp : c.position = .parked (.connecting since)) (hs : c.status = .connecting) :
    c.Passing now stimulus (c.observeConnecting now since stimulus) := by
  unfold observeConnecting
  split
  next link => exact .connects link since rfl hp hs
  next => exact .fails (.connectFailed _) c.deadline c.keepAlive [] rfl ⟨hs, rfl⟩ (.inl rfl) rfl
  next => exact passing_observeDeadline hp (fun _ => rfl) fun _ => ⟨hs, rfl⟩
  next => exact passing_observeBusyCommand hp hs nofun
  next => exact .rests (.inl ⟨_, hp⟩)

theorem passing_observeFree (hp : c.position = .parked .free) (hs : c.status = .free) :
    c.Passing now stimulus (c.observeFree now stimulus) := by
  have hrests : c.Passing now stimulus ⟨c, []⟩ := .rests (.inl ⟨_, hp⟩)
  unfold observeFree
  split
  next => exact passing_observeFreeCommand hp hs
  next => exact passing_observeFreeTick hp hs
  next =>
    split
    next hk => exact passing_observeAnswer ⟨_, rfl⟩ hp hs hk
    next => exact hrests
  next =>
    split
    · exact passing_observeNoAnswer hs
    · exact hrests
  next =>
    split
    · exact passing_observeNoAnswer hs
    · exact hrests
  next =>
    split
    · exact passing_observeOverfull hp fun _ => passing_observeNoAnswer hs
    · exact hrests
  next => exact hrests

theorem passing_observeProbing {probe unsent : Bytes} {tick expiry : Instant}
    (hp : c.position = .parked (.probing probe unsent tick expiry)) (hs : c.status = .free) :
    c.Passing now stimulus (c.observeProbing now probe unsent tick expiry stimulus) := by
  unfold observeProbing
  split
  next count =>
    by_cases hr : unsent.drop count = []
    · simp only [hr, if_true]
      exact .probesLast probe unsent count tick expiry hp hs hr
    · simp only [hr, if_false]
      exact .probesOn probe unsent count tick expiry hp hr
  next => exact passing_failProbe c.keepAlive hs rfl
  next =>
    split
    · exact .rests (.inl ⟨_, hp⟩)
    · exact passing_failProbe c.keepAlive hs rfl
  next => exact .rests (.inl ⟨_, hp⟩)

theorem passing_observeWriting {unsent : Bytes} (hp : c.position = .parked (.writing unsent))
    (hs : c.status = .writing) : c.Passing now stimulus (c.observeWriting now unsent stimulus) := by
  unfold observeWriting
  split
  next count =>
    by_cases hr : unsent.drop count = []
    · simp only [hr, if_true]
      exact .sendsLast unsent count _ hp hs hr rfl
    · simp only [hr, if_false]
      exact .sends unsent count hp hr
  next => exact .fails (.writeFailed _) c.deadline c.keepAlive [] rfl ⟨hs, nofun⟩ (.inl rfl) rfl
  next => exact passing_observeDeadline hp (fun _ => rfl) fun _ => ⟨hs, nofun⟩
  next => exact passing_observeBusyTick hp (.inr ⟨unsent, hp⟩) (by rw [hs]; rfl)
  next => exact passing_observeBusyCommand hp hs nofun
  next => exact .rests (.inl ⟨_, hp⟩)

theorem passing_observeWaiting (hp : c.position = .parked .waiting) (hs : c.status = .waiting) :
    c.Passing now stimulus (c.observeWaiting now stimulus) := by
  have hfails (fault : ProtocolFault) :
      c.Passing now stimulus (c.signal (.responseFailed (.protocol fault))) :=
    .fails (.responseFailed _) c.deadline c.keepAlive [] rfl ⟨hs, nofun⟩ (.inl rfl) rfl
  unfold observeWaiting
  split
  next => exact passing_observeResponse ⟨_, rfl⟩ hp hs
  next => exact hfails _
  next => exact hfails _
  next => exact passing_observeOverfull hp fun _ => hfails _
  next => exact passing_observeDeadline hp (fun _ => rfl) fun _ => ⟨hs, nofun⟩
  next => exact passing_observeBusyTick hp (.inl hp) (by rw [hs]; rfl)
  next => exact passing_observeBusyCommand hp hs nofun
  next => exact .rests (.inl ⟨_, hp⟩)

/-- Something happens in a phase. -/
theorem passing_observe (hp : c.position = .parked phase) (hf : phase.Fits c) :
    c.Passing now stimulus (c.observe now phase stimulus) := by
  unfold observe
  cases phase with
  | idle =>
      simp only
      split
      · exact passing_observeIdleCommand hp hf
      · exact .rests (.inl ⟨_, hp⟩)
  | connecting since => exact passing_observeConnecting hp hf
  | free => exact passing_observeFree hp hf
  | probing probe unsent tick expiry => exact passing_observeProbing hp hf.1
  | writing unsent => exact passing_observeWriting hp hf
  | waiting => exact passing_observeWaiting hp hf

/-- **A task that stands where it fits passes, or fires its signal.**  A task that has crashed does
nothing. -/
theorem turn_cases (now : Instant) (stimulus : Stimulus)
    (hf : c.position = .crashed ∨ c.position.Fits c) :
    c.position.isSignalled = false ∧ c.Passing now stimulus (c.turn now stimulus) ∨
      ∃ signal, c.position = .signalled signal ∧ signal.Fits c ∧
        c.Firing now signal (c.turn now stimulus) := by
  unfold turn
  cases hp : c.position with
  | spawned => exact .inl ⟨rfl, passing_start hp⟩
  | entering => exact .inl ⟨rfl, passing_enter hp⟩
  | parked phase =>
      rw [hp] at hf
      exact .inl ⟨rfl, passing_observe hp (hf.resolve_left nofun)⟩
  | signalled signal =>
      rw [hp] at hf
      have hf : signal.Fits c := hf.resolve_left nofun
      exact .inr ⟨signal, rfl, hf, firing hf⟩
  | finished => exact .inl ⟨rfl, .rests (.inr (by simp [isGone, hp]))⟩
  | overflowed => exact .inl ⟨rfl, .crashes c.keepAlive (.inr (.inl hp))⟩
  | crashed => exact .inl ⟨rfl, .rests (.inr (by simp [isGone, hp]))⟩

end Connection

end Uplink

/-
What a connection does when a phase ends.

A signal stands for an event.  The table of the machine gives the step; its status is published, the
effects of the signal itself come next, and the action of the step last.

* `Uplink.Connection.eventOf?` — the event of a signal;
* `Uplink.Connection.perform` — the work of an action;
* `Uplink.Connection.fire` — all that follows from a signal.
-/

import Uplink.Connection.State

set_option relaxedAutoImplicit false
set_option autoImplicit false

namespace Uplink

namespace Signal

/-- The waiter that a signal brings. -/
def waiter? : Signal → Option Waiter
  | close waiter => waiter
  | _ => none

/-- The error that a signal brings. -/
def error? : Signal → Option ConnectionError
  | connectFailed error | writeFailed error | responseFailed error => some error
  | idle span => some (.idleTimeout span)
  | _ => none

/-- The length of the response that a signal brings. -/
def response? : Signal → Option Nat
  | frame length => some length
  | _ => none

end Signal

namespace Connection

/-- The event of a signal.  A write that was seen may have been taken back since; then there is
none. -/
def eventOf? (c : Connection) : Signal → Option Event
  | .again => none
  | .connect => some .asyncConnect
  | .close _ => some .close
  | .connected _ _ => some (.connected (c.queue ≠ []))
  | .connectFailed _ => some .connectFailed
  | .dispatch => if c.queue = [] then none else some .dispatch
  | .written _ => some (.writeComplete c.expectsResponse)
  | .writeFailed _ => some .writeFailed
  | .incomplete => some .framePartial
  | .frame _ => some .frameComplete
  | .responseFailed _ => some .responseFailed
  | .idle _ => some .idleTimeout

/-! ### Pieces of work -/

/-- Tells the log something about the connection. -/
def say (c : Connection) (notice : ClientInfo → Notice) : Progress :=
  ⟨c, [.noticed (notice c.label)]⟩

@[simp] theorem next_say (c : Connection) (notice : ClientInfo → Notice) :
    (c.say notice).next = c := rfl

/-- Tells the log something about the connection on a condition. -/
def sayIf (c : Connection) (condition : Bool) (notice : ClientInfo → Notice) : Progress :=
  ⟨c, if condition then [.noticed (notice c.label)] else []⟩

@[simp] theorem next_sayIf (c : Connection) (condition : Bool) (notice : ClientInfo → Notice) :
    (c.sayIf condition notice).next = c := rfl

/-- Gives up the socket. -/
def hangUp (c : Connection) : Progress :=
  ⟨{ c with socket := none }, c.socket.toList.map .hungUp⟩

@[simp] theorem next_hangUp (c : Connection) : c.hangUp.next = { c with socket := none } := rfl

/-- Publishes a new status. -/
def moveTo (c : Connection) (target : Status) (event : Event) : Progress :=
  if target = c.status then ⟨c, []⟩
  else
    ⟨{ c with status := target, watched := target, counters := c.counters.moved },
     [.moved c.status target event, .noticed (.moved c.label c.status target event)]⟩

/-- A status that stays is not published again. -/
theorem moveTo_of_eq {c : Connection} {target : Status} {event : Event} (h : target = c.status) :
    c.moveTo target event = ⟨c, []⟩ := if_pos h

@[simp] theorem status_moveTo (c : Connection) (target : Status) (event : Event) :
    (c.moveTo target event).next.status = target := by
  unfold moveTo
  split
  next h => exact h.symm
  next => rfl

/-- A new status is told to those who watch and counted; nothing else changes. -/
theorem next_moveTo (c : Connection) (target : Status) (event : Event) :
    (c.moveTo target event).next = { c with
      status := target
      watched := if target = c.status then c.watched else target
      counters := if target = c.status then c.counters else c.counters.moved } := by
  unfold moveTo
  split
  next h =>
    cases c
    simp_all
  next => rfl

/-- Starts to connect.  A socket that is still there is given up. -/
def startConnect (c : Connection) (now : Instant) : Progress :=
  c.hangUp.andThen fun c =>
  let c := { c with
    keepAlive := c.keepAlive.clearProbe
    block := c.block.reset
    counters := c.counters.attempted
    deadline := c.deadline.arm now c.config.connectTimeout }
  c.say (.connecting · c.endpoint)

/-- The options of a fresh socket are set. -/
def configure (c : Connection) (link : Link) : Progress :=
  let (settings, refusal) := c.config.socket.apply fun name => link.refusals.lookup name
  ⟨c, .configured settings ::
    refusal.toList.map fun error => .noticed (.optionRefused c.label error)⟩

@[simp] theorem next_configure (c : Connection) (link : Link) : (c.configure link).next = c := rfl

/-- Takes a fresh socket. -/
def establish (c : Connection) (now : Instant) (link : Link) (took : Duration) : Progress :=
  ({ c with deadline := c.deadline.cancel }.configure link).andThen fun c =>
  let route := match link.ends with
    | some (near, far) => Route.between near far
    | none => .toEndpoint c.endpoint
  let c := { c with
    info := ⟨c.name, route⟩
    label := ⟨c.name, route⟩
    counters := c.counters.connected took
    socket := some link.socket }
  -- Nothing is told any more by a task that is about to be stopped.
  (c.touch now).sayIf (c.keepAlive.hasRoom now) (.connected · took)

/-- Takes the first write from the queue. -/
def beginWrite (c : Connection) (now : Instant) : Connection :=
  let c := match c.queue with
    | [] => { c with inFlight := none }
    | w :: rest => { c with queue := rest, isBusy := true, inFlight := some (w.dispatch now) }
  { c with
    block := c.block.reset
    deadline :=
      match c.config.requestTimeout with
      | some limit => c.deadline.arm now limit
      | none => c.deadline.cancel }

@[simp] theorem position_beginWrite (c : Connection) (now : Instant) :
    (c.beginWrite now).position = c.position := by
  unfold beginWrite
  cases c.queue <;> rfl

@[simp] theorem codec_beginWrite (c : Connection) (now : Instant) :
    (c.beginWrite now).codec = c.codec := by
  unfold beginWrite
  cases c.queue <;> rfl

@[simp] theorem config_beginWrite (c : Connection) (now : Instant) :
    (c.beginWrite now).config = c.config := by
  unfold beginWrite
  cases c.queue <;> rfl

@[simp] theorem keepAlive_beginWrite (c : Connection) (now : Instant) :
    (c.beginWrite now).keepAlive = c.keepAlive := by
  unfold beginWrite
  cases c.queue <;> rfl

@[simp] theorem socket_beginWrite (c : Connection) (now : Instant) :
    (c.beginWrite now).socket = c.socket := by
  unfold beginWrite
  cases c.queue <;> rfl

/-- The write in flight is delivered, with a response of the given length if there is one. -/
def resolve (c : Connection) (now : Instant) (response? : Option Nat) : Progress :=
  let response := response?.map c.block.takeFrame
  let c := { c with
    isBusy := false
    deadline := c.deadline.cancel
    counters := if response?.isSome then c.counters.responded else c.counters
    block := c.block.reset }
  match c.inFlight with
  | some w =>
      ⟨{ c with inFlight := none, counters := c.counters.delivered (w.latency now) },
       [.resolved w.ticket (w.delivered now response)]⟩
  | none => ⟨c, []⟩

@[simp] theorem position_resolve (c : Connection) (now : Instant) (response? : Option Nat) :
    (c.resolve now response?).next.position = c.position := by
  unfold resolve
  cases c.inFlight <;> rfl

@[simp] theorem status_resolve (c : Connection) (now : Instant) (response? : Option Nat) :
    (c.resolve now response?).next.status = c.status := by
  unfold resolve
  cases c.inFlight <;> rfl

@[simp] theorem queue_resolve (c : Connection) (now : Instant) (response? : Option Nat) :
    (c.resolve now response?).next.queue = c.queue := by
  unfold resolve
  cases c.inFlight <;> rfl

@[simp] theorem inFlight_resolve (c : Connection) (now : Instant) (response? : Option Nat) :
    (c.resolve now response?).next.inFlight = none := by
  unfold resolve
  cases c.inFlight <;> simp

@[simp] theorem codec_resolve (c : Connection) (now : Instant) (response? : Option Nat) :
    (c.resolve now response?).next.codec = c.codec := by
  unfold resolve
  cases c.inFlight <;> rfl

@[simp] theorem config_resolve (c : Connection) (now : Instant) (response? : Option Nat) :
    (c.resolve now response?).next.config = c.config := by
  unfold resolve
  cases c.inFlight <;> rfl

@[simp] theorem socket_resolve (c : Connection) (now : Instant) (response? : Option Nat) :
    (c.resolve now response?).next.socket = c.socket := by
  unfold resolve
  cases c.inFlight <;> rfl

@[simp] theorem keepAlive_resolve (c : Connection) (now : Instant) (response? : Option Nat) :
    (c.resolve now response?).next.keepAlive = c.keepAlive := by
  unfold resolve
  cases c.inFlight <;> rfl

@[simp] theorem block_resolve (c : Connection) (now : Instant) (response? : Option Nat) :
    (c.resolve now response?).next.block = c.block.reset := by
  unfold resolve
  cases c.inFlight <;> rfl

/-- The write in flight goes with a task that is about to be stopped: it is cancelled, and not
counted. -/
def dropInFlight (c : Connection) : Progress :=
  ⟨{ c with
      isBusy := false
      deadline := c.deadline.cancel
      block := c.block.reset
      inFlight := none },
    c.inFlight.toList.map fun w => .resolved w.ticket (w.undelivered .cancelled)⟩

@[simp] theorem next_dropInFlight (c : Connection) : c.dropInFlight.next = { c with
    isBusy := false
    deadline := c.deadline.cancel
    block := c.block.reset
    inFlight := none } := rfl

/-- The write in flight, if there is one, fails with an error. -/
def failInFlight (c : Connection) (error : ConnectionError) : Progress :=
  match c.inFlight with
  | some w =>
      ⟨{ c with inFlight := none, counters := c.counters.failed },
       [.resolved w.ticket (w.undelivered error)]⟩
  | none => ⟨c, []⟩

/-- Counts a failure by its class. -/
def countFailure (c : Counters) (error : ConnectionError) : Counters :=
  match error.kind with
  | .connect => c.refused
  | .idleTimeout => c.idled
  | _ => c

/-- The connection fails with an error: the socket and the write in flight go, the queue stays. -/
def handleFail (c : Connection) (now : Instant) (error? : Option ConnectionError) : Progress :=
  let error := error?.getD (.protocol .unexplained)
  let c := { c with
    isBusy := false
    failure := error?.map fun error => ⟨error, now⟩
    deadline := c.deadline.cancel
    keepAlive := c.keepAlive.clearProbe
    block := c.block.reset
    counters := countFailure c.counters error }
  (c.hangUp.andThen (·.say (.failed · error))).andThen (·.failInFlight error)

@[simp] theorem position_handleFail (c : Connection) (now : Instant)
    (error? : Option ConnectionError) :
    (c.handleFail now error?).next.position = c.position := by
  unfold handleFail failInFlight
  cases c.inFlight <;> simp

@[simp] theorem status_handleFail (c : Connection) (now : Instant)
    (error? : Option ConnectionError) :
    (c.handleFail now error?).next.status = c.status := by
  unfold handleFail failInFlight
  cases c.inFlight <;> simp

@[simp] theorem queue_handleFail (c : Connection) (now : Instant)
    (error? : Option ConnectionError) : (c.handleFail now error?).next.queue = c.queue := by
  unfold handleFail failInFlight
  cases c.inFlight <;> simp

@[simp] theorem inFlight_handleFail (c : Connection) (now : Instant)
    (error? : Option ConnectionError) : (c.handleFail now error?).next.inFlight = none := by
  unfold handleFail failInFlight
  cases c.inFlight <;> simp

@[simp] theorem codec_handleFail (c : Connection) (now : Instant)
    (error? : Option ConnectionError) : (c.handleFail now error?).next.codec = c.codec := by
  unfold handleFail failInFlight
  cases c.inFlight <;> simp

@[simp] theorem config_handleFail (c : Connection) (now : Instant)
    (error? : Option ConnectionError) : (c.handleFail now error?).next.config = c.config := by
  unfold handleFail failInFlight
  cases c.inFlight <;> simp

@[simp] theorem keepAlive_handleFail (c : Connection) (now : Instant)
    (error? : Option ConnectionError) :
    (c.handleFail now error?).next.keepAlive = c.keepAlive.clearProbe := by
  unfold handleFail failInFlight
  cases c.inFlight <;> simp

@[simp] theorem socket_handleFail (c : Connection) (now : Instant)
    (error? : Option ConnectionError) : (c.handleFail now error?).next.socket = none := by
  unfold handleFail failInFlight
  cases c.inFlight <;> simp

/-- The connection closes: everything goes, and every write is cancelled. -/
def doClose (c : Connection) : Progress :=
  -- The order in which the outcomes are told.
  let cancelled := c.inFlight.toList ++ c.queue
  let c := { c with
    isBusy := false
    exiting := true
    deadline := c.deadline.cancel
    keepAlive := c.keepAlive.clearProbe
    block := c.block.release
    inFlight := none
    queue := []
    counters := c.counters.cancelled cancelled.length }
  (c.hangUp.andThen fun c =>
    ⟨c, cancelled.map fun w => .resolved w.ticket (w.undelivered .cancelled)⟩).andThen
    (·.say (.closed · cancelled.length))

/-! ### Signals -/

/-- What a signal means whatever the step is: a fresh socket is taken, a written payload counted. -/
def absorb (c : Connection) (now : Instant) : Signal → Progress
  | .connected link took => c.establish now link took
  | .written bytes => ⟨{ c with counters := c.counters.sent bytes }.touch now, []⟩
  | _ => ⟨c, []⟩

/-- The work of an action. -/
def perform (c : Connection) (now : Instant) (action : Action) (signal : Signal) : Progress :=
  match action with
  | .none | .continueRead => ⟨c, []⟩
  | .startConnect => c.startConnect now
  | .beginWrite => ⟨c.beginWrite now, []⟩
  | .awaitResponse => ⟨{ c with block := c.block.reset }, []⟩
  | .resolve =>
      if c.position = .overflowed then c.dropInFlight else c.resolve now signal.response?
  | .handleFail => c.handleFail now signal.error?
  | .doClose => c.doClose

/-- The task leaves its phase for the signal, and remembers the waiter that comes with it. -/
def attend (c : Connection) (signal : Signal) : Connection :=
  { c with position := .entering, waiters := c.waiters ++ signal.waiter?.toList }

/-- What follows from a signal. -/
def fire (c : Connection) (now : Instant) (signal : Signal) : Progress :=
  let c := c.attend signal
  match c.eventOf? signal with
  | none => ⟨c, []⟩
  | some event =>
      match transition c.status event with
      | .error rejection => c.say (.rejected · rejection)
      | .ok step =>
          -- The status is published before the signal and the action change anything else.
          ((c.moveTo step.target event).andThen (·.absorb now signal)).andThen
            (·.perform now step.action signal)

end Connection

end Uplink

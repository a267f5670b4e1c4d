/-
What a signal can lead to.

A phase ends with a signal that makes sense in its status: a payload is reported as written while
one is being written, and an answer while one is awaited.  For such a signal the table of the
machine has an entry, unless there is nothing to tell the machine at all, so that the work that
follows is one of a few kinds.

* `Uplink.Phase.Fits`, `Uplink.Signal.Fits`, `Uplink.Position.Fits` — where a task may stand in a
  status;
* `Uplink.Connection.Firing` — the kinds of work;
* `Uplink.Connection.firing` — **a signal that fits leads to one of them**, so no event is ever
  rejected.
-/

import Uplink.Connection.Task

set_option relaxedAutoImplicit false
set_option autoImplicit false

namespace Uplink

/-! ### Where a task may stand -/

/-- The status in which a phase is waited in. -/
def Phase.Fits (c : Connection) : Phase → Prop
  | idle => c.status = .undefined ∨ c.status = .connectFailed
  | connecting _ => c.status = .connecting
  | free => c.status = .free
  | probing _ _ _ _ => c.status = .free ∧ c.keepAlive.isProbing = false
  | writing _ => c.status = .writing
  | waiting => c.status = .waiting

/-- The status in which a phase can end with a signal.  Only a connect fails with an error of that
kind. -/
def Signal.Fits (c : Connection) : Signal → Prop
  | connect => c.status = .undefined ∨ c.status = .connectFailed ∨ c.status = .free
  | close _ => c.status ≠ .stopped
  | connected _ _ => c.status = .connecting
  | connectFailed error => c.status = .connecting ∧ error.kind = .connect
  | dispatch | again => c.status = .free ∧ c.keepAlive.isProbing = false
  | written _ => c.status = .writing
  | writeFailed error => c.status = .writing ∧ error.kind ≠ .connect
  | incomplete | frame _ => c.status = .waiting
  | responseFailed error => c.status = .waiting ∧ error.kind ≠ .connect
  | idle _ => c.status = .free ∨ c.status.isBusy = true

/-- Where a task that has not crashed stands makes sense in its status.  Only one that is connected
is about to be stopped. -/
def Position.Fits (c : Connection) : Position → Prop
  | spawned => c.status = .undefined
  | entering => True
  | parked phase => phase.Fits c
  | signalled signal => signal.Fits c
  | finished => c.status = .stopped
  | overflowed => c.status.isConnected = true
  | crashed => False

theorem Position.fits_of_entering {c : Connection} {position : Position}
    (h : position = .entering) : position.Fits c := by
  rw [h]
  trivial

/-- A task that is connected may look at its status or be about to be stopped. -/
theorem Position.fits_of_connected {c : Connection} {position : Position}
    (h : position = .entering ∨ position = .overflowed) (hs : c.status.isConnected = true) :
    position.Fits c := by
  rcases h with rfl | rfl
  · trivial
  · exact hs

/-- A signal that has nothing to tell the machine fits a free connection. -/
theorem Signal.Fits.status_of_rests {c : Connection} {signal : Signal} (h : signal.Fits c)
    (hr : signal = .again ∨ signal = .dispatch ∧ c.queue = []) : c.status = .free := by
  rcases hr with rfl | ⟨rfl, -⟩ <;> exact h.1

namespace Connection

variable {c : Connection} {now : Instant}

/-! ### The kinds of work -/

/-- What a signal leads to.  The status comes first, then the effects of the signal itself, then the
action. -/
inductive Firing (c : Connection) (now : Instant) : Signal → Progress → Prop
  /-- There is nothing to tell the machine, or the write that was seen has been taken back. -/
  | rests {signal : Signal} (h : signal = .again ∨ signal = .dispatch ∧ c.queue = []) :
      Firing c now signal ⟨c.attend signal, []⟩
  /-- The response is not complete. -/
  | readsOn (hs : c.status = .waiting) :
      Firing c now .incomplete ((c.attend .incomplete).moveTo .waiting .framePartial)
  /-- A connect is started. -/
  | connects (hs : c.status = .undefined ∨ c.status = .connectFailed ∨ c.status = .free) :
      Firing c now .connect
        (((c.attend .connect).moveTo .connecting .asyncConnect).andThen (·.startConnect now))
  /-- A fresh socket is taken, and nothing waits. -/
  | settles (link : Link) (took : Duration) (hs : c.status = .connecting) (hq : c.queue = []) :
      Firing c now (.connected link took)
        (((c.attend (.connected link took)).moveTo .free (.connected false)).andThen
          (·.establish now link took))
  /-- A fresh socket is taken, and the first write that waits is begun. -/
  | settlesBusy (link : Link) (took : Duration) (hs : c.status = .connecting) (hq : c.queue ≠ []) :
      Firing c now (.connected link took)
        ((((c.attend (.connected link took)).moveTo .writing (.connected true)).andThen
          (·.establish now link took)).andThen fun c => ⟨c.beginWrite now, []⟩)
  /-- The first write that waits is begun. -/
  | dispatches (hs : c.status = .free) (hq : c.queue ≠ []) :
      Firing c now .dispatch
        (((c.attend .dispatch).moveTo .writing .dispatch).andThen fun c => ⟨c.beginWrite now, []⟩)
  /-- The payload is written, and its response is awaited. -/
  | awaits (bytes : Nat) (hs : c.status = .writing) (he : c.expectsResponse = true) :
      Firing c now (.written bytes)
        ((((c.attend (.written bytes)).moveTo .waiting (.writeComplete true)).andThen
          (·.absorb now (.written bytes))).andThen fun c => ⟨{ c with block := c.block.reset }, []⟩)
  /-- The payload is written, and with that delivered. -/
  | delivers (bytes : Nat) (hs : c.status = .writing) (he : c.expectsResponse = false)
      (hroom : c.keepAlive.hasRoom now = true) :
      Firing c now (.written bytes)
        ((((c.attend (.written bytes)).moveTo .free (.writeComplete false)).andThen
          (·.absorb now (.written bytes))).andThen (·.resolve now none))
  /-- The payload is written, but the task is about to be stopped. -/
  | drops (bytes : Nat) (hs : c.status = .writing) (he : c.expectsResponse = false)
      (hroom : c.keepAlive.hasRoom now = false) :
      Firing c now (.written bytes)
        ((((c.attend (.written bytes)).moveTo .free (.writeComplete false)).andThen
          (·.absorb now (.written bytes))).andThen (·.dropInFlight))
  /-- The response is complete, and the payload delivered. -/
  | responds (length : Nat) (hs : c.status = .waiting) :
      Firing c now (.frame length)
        (((c.attend (.frame length)).moveTo .free .frameComplete).andThen
          (·.resolve now (some length)))
  /-- The connection fails. -/
  | fails (signal : Signal) (error : ConnectionError) (event : Event)
      (herror : signal.error? = some error)
      (hs : c.status = .connecting ∨ c.status = .free ∨ c.status.isBusy = true)
      (hk : error.kind = .connect ↔ c.status = .connecting) :
      Firing c now signal
        (((c.attend signal).moveTo .connectFailed event).andThen (·.handleFail now (some error)))
  /-- The connection closes. -/
  | closes (waiter : Option Waiter) (hs : c.status ≠ .stopped) :
      Firing c now (.close waiter)
        (((c.attend (.close waiter)).moveTo .stopped .close).andThen (·.doClose))

@[simp] theorem eventOf?_attend (first second : Signal) :
    (c.attend first).eventOf? second = c.eventOf? second := by
  cases second <;> rfl

/-- What follows from a signal whose event has an entry in the table. -/
theorem fire_of_transition {signal : Signal} {event : Event} (step : Step)
    (he : c.eventOf? signal = some event) (ht : transition c.status event = .ok step) :
    c.fire now signal = (((c.attend signal).moveTo step.target event).andThen
      (·.absorb now signal)).andThen (·.perform now step.action signal) := by
  have hs : (c.attend signal).status = c.status := rfl
  simp only [fire, eventOf?_attend, he, hs, ht]

theorem fire_of_eventOf?_eq_none {signal : Signal} (he : c.eventOf? signal = none) :
    c.fire now signal = ⟨c.attend signal, []⟩ := by
  simp only [fire, eventOf?_attend, he]

/-- What follows from a signal with an error whose event leads to a failure. -/
theorem fire_of_failure {signal : Signal} {error : ConnectionError} {event : Event}
    (herror : signal.error? = some error) (he : c.eventOf? signal = some event)
    (ht : transition c.status event = .ok ⟨.connectFailed, .handleFail⟩) :
    c.fire now signal = ((c.attend signal).moveTo .connectFailed event).andThen
      (·.handleFail now (some error)) := by
  have habsorb (d : Connection) : d.absorb now signal = ⟨d, []⟩ := by
    cases signal <;> first | rfl | cases herror
  rw [fire_of_transition _ he ht]
  simp only [habsorb, perform, herror, Progress.andThen_nothing]

/-! ### Every signal that fits -/

/-- The event of a signal with an error leads to a failure, in every status in which the signal
fits. -/
theorem firing_of_error {signal : Signal} {error : ConnectionError} (hf : signal.Fits c)
    (herror : signal.error? = some error) : c.Firing now signal (c.fire now signal) := by
  cases signal with
  | connectFailed e =>
      cases herror
      obtain ⟨hs, hkind⟩ := hf
      rw [fire_of_failure rfl rfl (by rw [hs]; rfl)]
      exact .fails _ error .connectFailed rfl (.inl hs) ⟨fun _ => hs, fun _ => hkind⟩
  | writeFailed e =>
      cases herror
      obtain ⟨hs, hkind⟩ := hf
      rw [fire_of_failure rfl rfl (by rw [hs]; rfl)]
      exact .fails _ error .writeFailed rfl (.inr (.inr (by rw [hs]; rfl)))
        ⟨fun hk => absurd hk hkind, fun hs' => by rw [hs] at hs'; cases hs'⟩
  | responseFailed e =>
      cases herror
      obtain ⟨hs, hkind⟩ := hf
      rw [fire_of_failure rfl rfl (by rw [hs]; rfl)]
      exact .fails _ error .responseFailed rfl (.inr (.inr (by rw [hs]; rfl)))
        ⟨fun hk => absurd hk hkind, fun hs' => by rw [hs] at hs'; cases hs'⟩
  | idle span =>
      cases herror
      have ht : transition c.status .idleTimeout = .ok ⟨.connectFailed, .handleFail⟩ := by
        rcases hf with hs | hs
        · rw [hs]
          rfl
        · cases hc : c.status <;> rw [hc] at hs <;> first | rfl | cases hs
      rw [fire_of_failure rfl rfl ht]
      refine .fails _ _ .idleTimeout rfl (.inr hf) ⟨nofun, fun hs' => ?_⟩
      simp [Signal.Fits, hs', Status.isBusy] at hf
  | _ => cases herror

theorem firing_connected (link : Link) (took : Duration) (hs : c.status = .connecting) :
    c.Firing now (.connected link took) (c.fire now (.connected link took)) := by
  by_cases hq : c.queue = []
  · have he : c.eventOf? (.connected link took) = some (.connected false) := by
      simp [eventOf?, hq]
    rw [fire_of_transition ⟨.free, .none⟩ he (by rw [hs]; rfl)]
    simp only [absorb, perform, Progress.andThen_nothing]
    exact .settles link took hs hq
  · have he : c.eventOf? (.connected link took) = some (.connected true) := by
      simp [eventOf?, hq]
    rw [fire_of_transition ⟨.writing, .beginWrite⟩ he (by rw [hs]; rfl)]
    simp only [absorb, perform]
    exact .settlesBusy link took hs hq

/-- What becomes of a payload that is written depends on whether it expects a response, and then on
whether the clock has room for the next tick. -/
theorem firing_written (bytes : Nat) (hs : c.status = .writing) :
    c.Firing now (.written bytes) (c.fire now (.written bytes)) := by
  cases he : c.expectsResponse with
  | true =>
      have ht : transition c.status (.writeComplete c.expectsResponse) =
          .ok ⟨.waiting, .awaitResponse⟩ := by rw [hs, he]; rfl
      rw [fire_of_transition _ rfl ht, he]
      exact .awaits bytes hs he
  | false =>
      have ht : transition c.status (.writeComplete c.expectsResponse) =
          .ok ⟨.free, .resolve⟩ := by rw [hs, he]; rfl
      rw [fire_of_transition _ rfl ht, he]
      cases hroom : c.keepAlive.hasRoom now with
      | true =>
          rw [Progress.andThen_congr (g := (·.resolve now none)) ?_]
          · exact .delivers bytes hs he hroom
          · refine if_neg ?_
            simp [absorb, touch, hroom, next_moveTo, attend]
      | false =>
          rw [Progress.andThen_congr (g := (·.dropInFlight)) ?_]
          · exact .drops bytes hs he hroom
          · refine if_pos ?_
            simp [absorb, touch, hroom, next_moveTo, attend]

/-- **A signal that fits leads to one kind of work**; the machine rejects none. -/
theorem firing {signal : Signal} (hf : signal.Fits c) :
    c.Firing now signal (c.fire now signal) := by
  cases signal with
  | again =>
      rw [fire_of_eventOf?_eq_none rfl]
      exact .rests (.inl rfl)
  | incomplete =>
      have hs : c.status = .waiting := hf
      rw [fire_of_transition ⟨.waiting, .continueRead⟩ rfl (by rw [hs]; rfl)]
      simp only [absorb, perform, Progress.andThen_nothing]
      exact .readsOn hs
  | connect =>
      have ht : transition c.status .asyncConnect = .ok ⟨.connecting, .startConnect⟩ := by
        rcases hf with hs | hs | hs <;> rw [hs] <;> rfl
      rw [fire_of_transition _ rfl ht]
      simp only [absorb, perform, Progress.andThen_nothing]
      exact .connects hf
  | close waiter =>
      have hs : c.status ≠ .stopped := hf
      have ht : transition c.status .close = .ok ⟨.stopped, .doClose⟩ := by
        revert hs
        cases c.status <;> first | (intro; rfl) | (intro h; exact absurd rfl h)
      rw [fire_of_transition _ rfl ht]
      simp only [absorb, perform, Progress.andThen_nothing]
      exact .closes waiter hs
  | connected link took => exact firing_connected link took hf
  | dispatch =>
      obtain ⟨hs, -⟩ := hf
      by_cases hq : c.queue = []
      · rw [fire_of_eventOf?_eq_none (by simp [eventOf?, hq])]
        exact .rests (.inr ⟨rfl, hq⟩)
      · have he : c.eventOf? .dispatch = some .dispatch := by simp [eventOf?, hq]
        rw [fire_of_transition ⟨.writing, .beginWrite⟩ he (by rw [hs]; rfl)]
        simp only [absorb, perform, Progress.andThen_nothing]
        exact .dispatches hs hq
  | written bytes => exact firing_written bytes hf
  | frame length =>
      have hs : c.status = .waiting := hf
      rw [fire_of_transition ⟨.free, .resolve⟩ rfl (by rw [hs]; rfl)]
      simp only [absorb, Progress.andThen_nothing]
      rw [Progress.andThen_congr (g := (·.resolve now (some length))) ?_]
      · exact .responds length hs
      · refine if_neg ?_
        rw [next_moveTo]
        nofun
  | connectFailed error => exact firing_of_error hf rfl
  | writeFailed error => exact firing_of_error hf rfl
  | responseFailed error => exact firing_of_error hf rfl
  | idle span => exact firing_of_error hf rfl

/-- Activity leaves the task where it stands, or about to be stopped. -/
theorem position_touch (d : Connection) (now : Instant) :
    (d.touch now).position = d.position ∧ d.keepAlive.hasRoom now = true ∨
      (d.touch now).position = .overflowed ∧ d.keepAlive.hasRoom now = false := by
  cases h : d.keepAlive.hasRoom now <;> simp [touch, h]

/-- After an activity the task looks at its status, or is about to be stopped. -/
theorem position_touch_of_entering {d : Connection} (hp : d.position = .entering) (now : Instant) :
    (d.touch now).position = .entering ∨ (d.touch now).position = .overflowed := by
  rw [← hp]
  exact (d.position_touch now).imp And.left And.left

/-- Whatever the work is, the task looks at its status next, unless it is about to be stopped. -/
theorem Firing.position_cases {signal : Signal} {p : Progress} (h : c.Firing now signal p) :
    p.next.position = .entering ∨
      p.next.position = .overflowed ∧ c.keepAlive.hasRoom now = false := by
  have htouched {d : Connection} (hp : d.position = .entering) (hk : d.keepAlive = c.keepAlive) :
      (d.touch now).position = .entering ∨
        (d.touch now).position = .overflowed ∧ c.keepAlive.hasRoom now = false := by
    rw [← hp, ← hk]
    exact d.position_touch now |>.imp_left And.left
  cases h with
  | rests => exact .inl rfl
  | readsOn => exact .inl (by rw [next_moveTo]; rfl)
  | connects => exact .inl (by rw [Progress.next_andThen, next_moveTo]; rfl)
  | settles =>
      rw [Progress.next_andThen, next_moveTo]
      exact htouched rfl rfl
  | settlesBusy link took hs hq =>
      rw [Progress.next_andThen, Progress.next_andThen, next_moveTo, position_beginWrite]
      exact htouched rfl rfl
  | dispatches =>
      rw [Progress.next_andThen, next_moveTo]
      exact .inl (position_beginWrite _ _)
  | awaits =>
      rw [Progress.next_andThen, Progress.next_andThen, next_moveTo]
      exact htouched rfl rfl
  | delivers =>
      rw [Progress.next_andThen, Progress.next_andThen, next_moveTo, position_resolve]
      exact htouched rfl rfl
  | drops =>
      rw [Progress.next_andThen, Progress.next_andThen, next_moveTo]
      exact htouched rfl rfl
  | responds =>
      rw [Progress.next_andThen, next_moveTo]
      exact .inl (position_resolve _ _ _)
  | fails =>
      rw [Progress.next_andThen, next_moveTo]
      exact .inl (position_handleFail _ _ _)
  | closes => exact .inl (by rw [Progress.next_andThen, next_moveTo]; rfl)

/-- After the work no phase has ended. -/
theorem Firing.position_ne {signal other : Signal} {p : Progress} (h : c.Firing now signal p) :
    p.next.position ≠ .signalled other := by
  rcases h.position_cases with hp | ⟨hp, -⟩ <;> rw [hp] <;> nofun

end Connection

end Uplink

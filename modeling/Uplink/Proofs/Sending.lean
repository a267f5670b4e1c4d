/-
What is being sent, and over which socket.

The socket is handed a payload, or a probe, piece by piece.  Between two pieces the task may obey
commands, plan its ticks, or fail; what has been begun is then carried on over the same socket, or
given up together with it.

* `Uplink.Connection.live?` — the socket over which the conversation goes on;
* `Uplink.Connection.load?` — what is being sent, and the bytes that the socket has not been handed;
* `Uplink.Connection.Sending` — what a turn does to them;
* `Uplink.Connection.Intact.sending` — **every turn does one of these things**.
-/

import Uplink.Proofs.Line

set_option relaxedAutoImplicit false
set_option autoImplicit false

namespace Uplink

namespace Connection

variable {c : Connection} {now : Instant} {stimulus : Stimulus}

/-! ### What is under way -/

/-- The socket over which the conversation goes on, unless it is about to end.  A fresh socket is
there before it is taken. -/
def live? (c : Connection) : Option SocketId :=
  match c.position with
  | .signalled (.connected link _) => some link.socket
  | .signalled signal => if signal.parts then none else c.socket
  | _ => c.socket

/-- What is being sent: the write whose payload it is, or `none` for a probe, and the bytes that the
socket has not been handed yet. -/
def load? (c : Connection) : Option (Option Nat × Bytes) :=
  match c.position with
  | .parked (.writing unsent) => some (c.inFlight.map (·.ticket), unsent)
  | .parked (.probing _ unsent _ _) => some (none, unsent)
  | .entering | .overflowed =>
      if c.status = .writing then c.inFlight.map fun w => (some w.ticket, w.payload) else none
  | _ => none

/-- What a turn does to what is being sent. -/
inductive Sending (c : Connection) (stimulus : Stimulus) (p : Progress) : Prop
  /-- Nothing is handed over. -/
  | keeps (hl : p.next.live? = c.live?) (hn : p.next.load? = c.load?) (hb : c.begun p.next = [])
      (ht : p.transmissions = [])
  /-- The socket is given up, and what is being sent with it. -/
  | parts (hl : p.next.live? = none) (hn : p.next.load? = none) (hb : c.begun p.next = [])
      (ht : p.transmissions = [])
  /-- There is a fresh socket. -/
  | dials (link : Link) (hst : stimulus = .dialled link) (hl : p.next.live? = some link.socket)
      (hn : p.next.load? = none) (hb : c.begun p.next = []) (ht : p.transmissions = [])
  /-- Something is to be sent: a write that waits, or a probe. -/
  | begins (socket : SocketId) (ticket : Option Nat) (content : Bytes)
      (hl : c.live? = some socket) (hl' : p.next.live? = some socket) (hc : c.load? = none)
      (hn : p.next.load? = some (ticket, content)) (hb : c.begun p.next = ticket.toList)
      (hi : (∃ w ∈ c.queue, ticket = some w.ticket ∧ content = w.payload) ∨
        ticket = none ∧ c.codec.probe = some content)
      (ht : p.transmissions = [])
  /-- The socket is handed some bytes. -/
  | sends (socket : SocketId) (unsent : Bytes) (count : Nat) (hl : c.live? = some socket)
      (hl' : p.next.live? = some socket) (hc : c.load? = some (c.carrying, unsent))
      (hn : p.next.load? =
        if unsent.drop count = [] then none else some (c.carrying, unsent.drop count))
      (hb : c.begun p.next = []) (ht : p.transmissions = [(socket, unsent.take count)])

theorem begun_of_inFlight {next : Connection}
    (h : next.inFlight = c.inFlight ∨ next.inFlight = none) : c.begun next = [] := by
  unfold begun
  split
  next hw =>
    rw [hw, or_self] at h
    rw [h]
    rfl
  next => rfl

/-- Unless it crashes, a task that fires no signal leaves the write in flight alone. -/
theorem Passing.begun_eq {p : Progress} (hp : c.Passing now stimulus p) : c.begun p.next = [] := by
  rcases hp.calm with hcalm | ⟨keepAlive, rfl⟩
  · exact begun_of_inFlight (.inl hcalm.inFlight_eq)
  · exact begun_of_inFlight (.inr (by rw [next_crash]))

theorem live?_of_parts {signal : Signal} (hp : c.position = .signalled signal)
    (h : signal.parts = true) : c.live? = none := by
  cases signal <;> simp_all [live?, Signal.parts]

theorem live?_of_isSignalled (hp : c.position.isSignalled = false) : c.live? = c.socket := by
  unfold live?
  split
  next h =>
    rw [h] at hp
    cases hp
  next h =>
    rw [h] at hp
    cases hp
  next => rfl

theorem live?_of_socket (hs : c.socket = none) (hp : c.position.isSignalled = false) :
    c.live? = none := (live?_of_isSignalled hp).trans hs

/-- A task that is not connected has no socket to carry anything on over. -/
theorem Sound.live?_of_status {d : Connection} (h : c.Sound) (hs : c.status.isConnected = false)
    (hd : d.socket = c.socket) (hp : d.position.isSignalled = false) : d.live? = none :=
  live?_of_socket (hd.trans (h.socket_eq_none hs)) hp

theorem live?_of_parked {phase : Phase} (hp : c.position = .parked phase) :
    c.live? = c.socket := live?_of_isSignalled (by rw [hp]; rfl)

/-- After a turn that fires a signal the socket is the one that the connection has. -/
theorem Firing.live?_eq {signal : Signal} {p : Progress} (hf : c.Firing now signal p) :
    p.next.live? = p.next.socket :=
  live?_of_isSignalled (by rcases hf.position_cases with hp | ⟨hp, -⟩ <;> rw [hp] <;> rfl)

/-- After a turn that fires a signal there is only a payload to be sent. -/
theorem Firing.load?_eq_none {signal : Signal} {p : Progress} (hf : c.Firing now signal p)
    (hs : p.next.status ≠ .writing) : p.next.load? = none := by
  rcases hf.position_cases with hp | ⟨hp, -⟩ <;> simp [load?, hp, hs]

theorem load?_of_writing {unsent : Bytes} (hp : c.position = .parked (.writing unsent)) :
    c.load? = some (c.carrying, unsent) := by
  simp [load?, carrying, hp]

theorem load?_of_probing {probe unsent : Bytes} {tick expiry : Instant}
    (hp : c.position = .parked (.probing probe unsent tick expiry)) :
    c.load? = some (c.carrying, unsent) := by
  simp [load?, carrying, hp]

/-! ### Turns that fire no signal -/

/-- The socket takes some of what is being sent. -/
theorem Sound.sending_transmit {phase : Phase} {unsent : Bytes} {count : Nat}
    {f : Connection → Progress} (h : c.Sound) (hp : c.position = .parked phase)
    (hs : c.status.isConnected = true) (hc : c.load? = some (c.carrying, unsent))
    (hl : (f c).next.live? = c.socket)
    (hn : (f c).next.load? =
      if unsent.drop count = [] then none else some (c.carrying, unsent.drop count))
    (hb : c.begun (f c).next = []) (ht : (f c).transmissions = []) :
    c.Sending stimulus ((c.transmit unsent count).andThen f) := by
  obtain ⟨socket, hsocket⟩ := h.exists_socket hs
  refine .sends socket unsent count (by rw [live?_of_parked hp, hsocket]) (hl.trans hsocket) hc hn
    hb ?_
  rw [Progress.transmissions_andThen, transmissions_transmit, next_transmit, ht, hsocket]
  rfl

/-- A wake that is obeyed goes on over the same socket; any other command gives it up. -/
theorem sending_obeys {phase : Phase} {command : Command} (hp : c.position = .parked phase)
    (hw : command = .wake → phase = .free ∧ c.queue ≠ []) :
    c.Sending stimulus ({ c with inbox := c.inbox.tail }.signal command.signal) := by
  have hb : c.begun ({ c with inbox := c.inbox.tail }.signal command.signal).next = [] :=
    begun_of_inFlight (.inl rfl)
  cases command with
  | wake =>
      obtain ⟨rfl, -⟩ := hw rfl
      exact .keeps (by simp [live?, hp, signal, Command.signal, Signal.parts])
        (by simp [load?, hp, signal]) hb rfl
  | connect | close waiter => exact .parts (live?_of_parts rfl rfl) rfl hb rfl

/-- Bytes of a response give nothing up, unless something is wrong with them. -/
theorem sending_reads {bytes : Bytes} (hp : c.position = .parked .waiting) :
    c.Sending stimulus
      (((c.receive bytes).touch now).signal ((c.receive bytes).touch now).verdict) := by
  have hb (signal : Signal) : c.begun (((c.receive bytes).touch now).signal signal).next = [] :=
    begun_of_inFlight (.inl rfl)
  have hkeeps {signal : Signal} (hs : signal = .incomplete ∨ ∃ length, signal = .frame length) :
      c.Sending stimulus (((c.receive bytes).touch now).signal signal) := by
    refine .keeps ?_ (by simp [load?, hp, Connection.signal]) (hb _) rfl
    rcases hs with rfl | ⟨length, rfl⟩ <;>
      simp [live?, hp, receive, touch, Connection.signal, Signal.parts]
  obtain ⟨hv, -⟩ | ⟨hv, -⟩ | ⟨fault, hv⟩ := ((c.receive bytes).touch now).verdict_cases
  · exact hkeeps (.inl hv)
  · exact hkeeps (.inr ⟨_, hv⟩)
  · rw [hv]
    exact .parts (live?_of_parts rfl rfl) rfl (hb _) rfl

/-- The socket takes the last of a probe. -/
theorem Sound.sending_completeProbe {probe unsent : Bytes} {count : Nat} {tick expiry : Instant}
    (h : c.Sound) (hp : c.position = .parked (.probing probe unsent tick expiry))
    (hs : c.status = .free) (hr : unsent.drop count = []) :
    c.Sending stimulus ((c.transmit unsent count).andThen (·.completeProbe probe tick)) := by
  obtain ⟨block, -, heq⟩ := c.completeProbe_eq probe tick
  refine h.sending_transmit hp (by rw [hs]; rfl) (load?_of_probing hp) ?_ ?_ ?_ ?_
  · rw [heq]
    rfl
  · rw [heq, if_pos hr]
    rfl
  · rw [heq]
    exact begun_of_inFlight (.inl rfl)
  · rw [heq]
    rfl

/-- A task that is about to be stopped gives nothing up. -/
theorem sending_overflowed {p : Progress} {phase : Phase} (hp : c.position = .parked phase)
    (hload : c.load? = none) (hpos : p.next.position = .overflowed)
    (hsocket : p.next.socket = c.socket) (hs : p.next.status ≠ .writing)
    (hb : c.begun p.next = []) (ht : p.transmissions = []) : c.Sending stimulus p := by
  refine .keeps ?_ (.trans (by simp [load?, hpos, hs]) hload.symm) hb ht
  exact (live?_of_isSignalled (by rw [hpos]; rfl)).trans (hsocket.trans (live?_of_parked hp).symm)

/-- What a turn that fires no signal does to what is being sent. -/
theorem Passing.sending {p : Progress} (hp : c.Passing now stimulus p) (h : c.Sound) :
    c.Sending stimulus p := by
  have hb := hp.begun_eq
  cases hp with
  | rests | swallows => exact .keeps rfl rfl hb rfl
  | plans phase keepAlive hp => exact .keeps (by simp [live?, hp]) (by simp [load?, hp]) hb rfl
  | starts keepAlive hp =>
      have hs : c.status = .undefined := h.fits_at hp
      exact .parts (h.live?_of_status (by rw [hs]; rfl) rfl rfl) (by simp [load?, hs, say]) hb rfl
  | crashes keepAlive =>
      refine .parts (live?_of_socket ?_ ?_) ?_ hb (transmissions_crash _) <;> rw [next_crash] <;>
        rfl
  | finishes hp hs =>
      have hstopped : c.status = .stopped := hs.elim h.exiting_iff.1 id
      exact .parts (h.live?_of_status (by rw [hstopped]; rfl) rfl rfl) rfl hb
        (transmissions_finish _)
  | idles hp hs =>
      have hleft : c.status.isConnected = false := by rcases hs with hs | hs <;> rw [hs] <;> rfl
      exact .parts (h.live?_of_status hleft rfl rfl) rfl hb rfl
  | dials hp hs => exact .parts (h.live?_of_status (by rw [hs]; rfl) rfl rfl) rfl hb rfl
  | settles hp hs hq =>
      obtain ⟨block, -, heq⟩ := c.parkFree_eq
      rw [heq] at hb ⊢
      exact .keeps (by simp [live?, hp]) (by simp [load?, hp, hs]) hb rfl
  | dispatches hp hs hk hq =>
      exact .keeps (by simp [live?, hp, signal, Signal.parts]) (by simp [load?, hp, hs, signal]) hb
        rfl
  | writes w hp hs hw =>
      exact .keeps (by simp [live?, hp, park]) (by simp [load?, hp, hs, hw, park]) hb rfl
  | awaits hp hs =>
      obtain ⟨block, -, heq⟩ := c.makeRoom_eq
      rw [heq] at hb ⊢
      exact .keeps (by simp [live?, hp, park]) (by simp [load?, hp, hs, park]) hb rfl
  | obeys phase command hp hi hf hw => exact sending_obeys hp hw
  | connects link since hlink hp hs => exact .dials link hlink rfl rfl hb rfl
  | fails signal deadline keepAlive notices herror =>
      exact .parts (live?_of_parts rfl (Signal.parts_of_error herror)) rfl hb
        (transmissions_noticed _ _)
  | sends unsent count hp hr =>
      have hs : c.status = .writing := h.fits_at hp
      refine h.sending_transmit hp (by rw [hs]; rfl) (load?_of_writing hp) rfl ?_ hb rfl
      simp [load?, park, hr, carrying, hp]
  | sendsLast unsent count bytes hp hs hr =>
      refine h.sending_transmit hp (by rw [hs]; rfl) (load?_of_writing hp) rfl ?_ hb rfl
      rw [if_pos hr]
      rfl
  | probes probe keepAlive tick expiry hp hs hk hk' hprobe =>
      obtain ⟨socket, hsocket⟩ := h.exists_socket (by rw [hs]; rfl)
      refine .begins socket none probe (by rw [live?_of_parked hp, hsocket]) ?_ ?_ rfl hb
        (.inr ⟨rfl, hprobe⟩) rfl
      · simp [live?, park, hsocket]
      · simp [load?, hp]
  | probesOn probe unsent count tick expiry hp hr =>
      obtain ⟨hs, -⟩ := h.fits_at hp
      refine h.sending_transmit hp (by rw [hs]; rfl) (load?_of_probing hp) rfl ?_ hb rfl
      simp [load?, park, hr, carrying, hp]
  | probesLast probe unsent count tick expiry hp hs hr =>
      exact h.sending_completeProbe hp hs hr
  | probesAtOnce keepAlive tick hp hs hk hprobe =>
      -- A probe without bytes needs no socket.
      obtain ⟨block, -, heq⟩ := { c with keepAlive }.completeProbe_eq [] tick
      rw [heq] at hb ⊢
      exact .keeps (by simp [live?, hp]) (by simp [load?, hp]) hb rfl
  | answersPart bytes hst hp =>
      obtain ⟨block, -, heq⟩ := (c.receive bytes).parkFree_eq
      rw [heq] at hb ⊢
      exact .keeps (by simp [live?, hp, receive]) (by simp [load?, hp]) hb rfl
  | answers bytes hst hp =>
      exact .keeps (by simp [live?, hp, receive, endProbe, touch, signal, Signal.parts])
        (by simp [load?, hp, signal]) hb rfl
  | answersBeyond bytes hst hp hs hk hroom =>
      have hfree : c.status ≠ .writing := by simp [hs]
      exact sending_overflowed hp (by simp [load?, hp])
        (position_endProbe_of_hasRoom (c := c.receive bytes) hroom) rfl hfree hb rfl
  | answersWrongly => exact .parts (live?_of_parts rfl rfl) rfl hb rfl
  | reads bytes hst hp => exact sending_reads hp
  | readsBeyond bytes hst hp hs hroom =>
      have hwaiting : c.status ≠ .writing := by simp [hs]
      exact sending_overflowed hp (by simp [load?, hp])
        (position_touch_of_hasRoom (c := c.receive bytes) hroom) rfl hwaiting hb rfl

/-! ### Turns that fire a signal -/

/-- The first write that waits is begun. -/
theorem sending_beginWrite {d : Connection} {p : Progress} {socket : SocketId}
    (hl : c.live? = some socket) (hc : c.load? = none) (hf : c.inFlight = none) (hq : c.queue ≠ [])
    (hd : d.queue = c.queue) (hs : d.status = .writing) (hsocket : d.socket = some socket)
    (hp : d.position = .entering ∨ d.position = .overflowed) (hn : p.next = d.beginWrite now)
    (ht : p.transmissions = []) : c.Sending stimulus p := by
  obtain ⟨w, rest, hq⟩ := List.exists_cons_of_ne_nil hq
  refine .begins socket (some w.ticket) w.payload hl ?_ hc ?_ ?_
    (.inl ⟨w, by simp [hq], rfl, rfl⟩) ht
  all_goals
    rw [hn]
    rcases hp with hp | hp <;>
      simp [live?, load?, begun, beginWrite, PendingWrite.dispatch, hd, hq, hs, hsocket, hp, hf]

/-- What a turn that fires a signal does to what is being sent. -/
theorem Firing.sending {signal : Signal} {p : Progress} (hf : c.Firing now signal p) (h : c.Sound)
    (hp : c.position = .signalled signal) : c.Sending stimulus p := by
  have ht := hf.transmissions
  have hnone : c.load? = none := by simp [load?, hp]
  -- Nothing is to be sent after the turn, unless a write is begun.
  have hkeeps (hl : p.next.socket = c.live?) (hs : p.next.status ≠ .writing)
      (hi : p.next.inFlight = c.inFlight ∨ p.next.inFlight = none) : c.Sending stimulus p :=
    .keeps (hf.live?_eq.trans hl) ((hf.load?_eq_none hs).trans hnone.symm) (begun_of_inFlight hi)
      ht
  have hparts (hl : p.next.socket = none) (hs : p.next.status ≠ .writing)
      (hi : p.next.inFlight = c.inFlight ∨ p.next.inFlight = none) : c.Sending stimulus p :=
    .parts (hf.live?_eq.trans hl) (hf.load?_eq_none hs) (begun_of_inFlight hi) ht
  cases hf with
  | rests hr =>
      have hs : c.status = .free := Signal.Fits.status_of_rests (h.fits_at hp) hr
      refine hkeeps ?_ (by rw [show (c.attend signal).status = .free from hs]; decide) (.inl rfl)
      rcases hr with rfl | ⟨rfl, -⟩ <;> simp [live?, attend, hp, Signal.parts]
  | readsOn hs =>
      refine hkeeps ?_ (by rw [status_moveTo]; decide) (.inl ?_) <;> rw [next_moveTo]
      · simp [live?, attend, hp, Signal.parts]
      · rfl
  | connects hs =>
      refine hparts ?_ ?_ (.inl ?_) <;> rw [Progress.next_andThen, next_moveTo]
      · rfl
      · show Status.connecting ≠ .writing
        decide
      · rfl
  | settles link took hs hq =>
      -- The fresh socket goes on as the one that the signal has brought.
      refine hkeeps ?_ ?_ (.inl ?_) <;> rw [Progress.next_andThen, next_moveTo]
      · simp [live?, hp, establish, touch]
      · show Status.free ≠ .writing
        decide
      · rfl
  | settlesBusy link took hs hq =>
      obtain ⟨-, hidle⟩ := h.idle (by rw [hs]; rfl)
      have hl : c.live? = some link.socket := by simp [live?, hp]
      refine sending_beginWrite hl hnone hidle hq ?_ ?_ ?_ ?_ rfl ht <;>
        rw [Progress.next_andThen, next_moveTo]
      case refine_4 => exact position_touch_of_entering rfl now
      all_goals rfl
  | dispatches hs hq =>
      obtain ⟨-, hidle⟩ := h.idle (by rw [hs]; rfl)
      obtain ⟨socket, hsocket⟩ := h.exists_socket (by rw [hs]; rfl)
      have hl : c.live? = some socket := by simp [live?, hp, Signal.parts, hsocket]
      refine sending_beginWrite hl hnone hidle hq ?_ ?_ ?_ (.inl ?_) rfl ht <;>
        simp [next_moveTo, attend, hsocket]
  | awaits bytes hs he =>
      refine hkeeps ?_ ?_ (.inl ?_) <;>
        rw [Progress.next_andThen, Progress.next_andThen, next_moveTo]
      · simp [live?, hp, absorb, touch, attend, Signal.parts]
      · show Status.waiting ≠ .writing
        decide
      · rfl
  | delivers bytes hs he =>
      refine hkeeps ?_ ?_ (.inr (inFlight_resolve _ _ _))
      · simp [live?, hp, absorb, touch, attend, Signal.parts, next_moveTo]
      · simp [absorb, touch, next_moveTo]
  | drops bytes hs he =>
      refine hkeeps ?_ ?_ (.inr rfl) <;>
        rw [Progress.next_andThen, Progress.next_andThen, next_moveTo]
      · simp [live?, hp, absorb, touch, attend, Signal.parts, dropInFlight]
      · show Status.free ≠ .writing
        decide
  | responds length hs =>
      refine hkeeps ?_ ?_ (.inr (inFlight_resolve _ _ _))
      · simp [live?, hp, attend, Signal.parts, next_moveTo]
      · simp [next_moveTo]
  | fails _ error event herror hs =>
      exact hparts (by simp) (by simp) (.inr (inFlight_handleFail _ _ _))
  | closes waiter hs =>
      refine hparts ?_ ?_ (.inr ?_) <;> rw [Progress.next_andThen, next_moveTo]
      · rfl
      · show Status.stopped ≠ .writing
        decide
      · rfl

/-- **Every turn does one of these things** to what is being sent. -/
theorem Intact.sending (h : c.Intact) (now : Instant) (stimulus : Stimulus) :
    c.Sending stimulus (c.turn now stimulus) := by
  rcases h with h | h
  · obtain ⟨-, hp⟩ | ⟨signal, hpos, -, hf⟩ := turn_cases now stimulus (.inr h.fits)
    · exact hp.sending h
    · exact hf.sending h hpos
  · rw [h.turn_eq]
    exact .keeps rfl rfl (begun_of_inFlight (.inl rfl)) rfl

end Connection
end Uplink

/-
What goes on between a connection and its socket.

A connection carries on one conversation over its socket: it sends a payload or a probe, hears the
answer if there is to be one, and only then begins anew.  A line is what it knows of that
conversation.  Every turn carries it on in one of a few ways, and bytes are read only while an
answer is awaited.

* `Uplink.Item`, `Uplink.Line`, `Uplink.Connection.line?` — what is under way, and the line;
* `Uplink.Connection.Talking`, `Uplink.Connection.Hearing` — how a turn carries on the conversation;
* `Uplink.Connection.Intact.talking`, `Uplink.Connection.Intact.hearing` — **every turn carries on
  the conversation in one of these ways**;
* `Uplink.Connection.Framed` — a response that is about to be told of is a whole frame;
* `Uplink.Connection.Intact.response` — a response that a turn tells of is what was heard.
-/

import Uplink.Proofs.Handling

set_option relaxedAutoImplicit false
set_option autoImplicit false

namespace Uplink

/-- Something to be sent, and perhaps answered. -/
structure Item where
  /-- The write whose payload it is; `none` for a probe. -/
  ticket : Option Nat
  /-- The bytes. -/
  bytes : Bytes
  /-- An answer is expected. -/
  expects : Bool
deriving DecidableEq, Repr

/-- What a connection knows of the conversation over its socket. -/
structure Line where
  /-- The socket. -/
  socket : SocketId
  /-- What the socket has not been handed yet of what is under way. -/
  unsent : Bytes := []
  /-- What was heard of the answer. -/
  heard : Bytes := []
  /-- What is under way. -/
  current : Option Item := none
deriving DecidableEq, Repr

/-- The signal ends the conversation, or comes before it. -/
def Signal.parts : Signal → Bool
  | connect | close _ | connectFailed _ | writeFailed _ | responseFailed _ | idle _ => true
  | connected _ _ | dispatch | written _ | incomplete | frame _ | again => false

/-- A signal with an error ends the conversation. -/
theorem Signal.parts_of_error {signal : Signal} (h : signal.error?.isSome = true) :
    signal.parts = true := by
  cases signal <;> first | rfl | cases h

/-- A probe is being sent. -/
def Position.isProbing : Position → Bool
  | parked (.probing _ _ _ _) => true
  | _ => false

namespace Connection

variable {c : Connection} {now : Instant} {stimulus : Stimulus}

/-! ### Lines -/

/-- What the socket has not been handed yet of the payload in flight, or of a probe. -/
def unsent (c : Connection) : Bytes :=
  match c.position with
  | .parked (.writing unsent) => unsent
  | .parked (.probing _ unsent _ _) => unsent
  | .entering | .overflowed =>
      if c.status = .writing then (c.inFlight.map (·.payload)).getD [] else []
  | _ => []

/-- The write in flight, or the probe that is sent or outstanding. -/
def current (c : Connection) : Option Item :=
  match c.inFlight with
  | some w => some ⟨some w.ticket, w.payload, c.expectsResponse⟩
  | none =>
      if c.keepAlive.isProbing || c.position.isProbing then
        some ⟨none, c.codec.probe.getD [], true⟩
      else none

/-- The conversation, if there is one, and unless it is about to end.  One over a fresh socket is
about to begin. -/
def line? (c : Connection) : Option Line :=
  match c.position with
  | .signalled (.connected link _) => some ⟨link.socket, [], [], none⟩
  | .signalled signal =>
      if signal.parts then none
      else c.socket.map fun socket => ⟨socket, c.unsent, c.block.held, c.current⟩
  | _ => c.socket.map fun socket => ⟨socket, c.unsent, c.block.held, c.current⟩

theorem line?_of_parts {signal : Signal} (hp : c.position = .signalled signal)
    (h : signal.parts = true) : c.line? = none := by
  cases signal <;> simp_all [line?, Signal.parts]

theorem line?_of_socket (hs : c.socket = none) (hp : c.position.isSignalled = false) :
    c.line? = none := by
  unfold line?
  split
  next link took h => rw [h] at hp; cases hp
  next signal h => rw [h] at hp; cases hp
  next => rw [hs]; rfl

/-- A task that is not connected has no line. -/
theorem Sound.line?_of_status {d : Connection} (h : c.Sound) (hs : c.status.isConnected = false)
    (hd : d.socket = c.socket) (hp : d.position.isSignalled = false) : d.line? = none :=
  line?_of_socket (hd.trans (h.socket_eq_none hs)) hp

theorem line?_of_parked {phase : Phase} {socket : SocketId} (hp : c.position = .parked phase)
    (hs : c.socket = some socket) :
    c.line? = some ⟨socket, c.unsent, c.block.held, c.current⟩ := by
  simp [line?, hp, hs]

theorem unsent_of_writing {unsent : Bytes} (hp : c.position = .parked (.writing unsent)) :
    c.unsent = unsent := by
  simp [Connection.unsent, hp]

theorem unsent_of_probing {probe unsent : Bytes} {tick expiry : Instant}
    (hp : c.position = .parked (.probing probe unsent tick expiry)) : c.unsent = unsent := by
  simp [Connection.unsent, hp]

/-- How a turn carries on the conversation while no bytes are read. -/
inductive Talking (c : Connection) (stimulus : Stimulus) (p : Progress) : Prop
  /-- Nothing is said, and perhaps never again. -/
  | rests (hl : p.next.line? = c.line? ∨ p.next.line? = none) (ht : p.transmissions = [])
  /-- There is a fresh socket. -/
  | dials (link : Link) (hst : stimulus = .dialled link)
      (hn : p.next.line? = some ⟨link.socket, [], [], none⟩) (ht : p.transmissions = [])
  /-- Something is to be sent: a write that waits, or a probe. -/
  | begins (socket : SocketId) (item : Item) (hl : c.line? = some ⟨socket, [], [], none⟩)
      (hn : p.next.line? = some ⟨socket, item.bytes, [], some item⟩)
      (hi : (∃ w ∈ c.queue, w.payload = item.bytes) ∨ c.codec.probe = some item.bytes)
      (ht : p.transmissions = [])
  /-- The socket is handed some bytes. -/
  | sends (line : Line) (count : Nat) (hl : c.line? = some line)
      (hn : p.next.line? = some { line with unsent := line.unsent.drop count })
      (ht : p.transmissions = [(line.socket, line.unsent.take count)])
  /-- No answer is expected, or the answer has come. -/
  | ends (line : Line) (item : Item) (hl : c.line? = some line) (hc : line.current = some item)
      (hu : line.unsent = [])
      (hend : item.expects = false ∧ line.heard = [] ∨
        c.codec.check line.heard = .complete line.heard.length)
      (hn : p.next.line? = some ⟨line.socket, [], [], none⟩) (ht : p.transmissions = [])

/-- How a turn carries on the conversation when some bytes are read. -/
inductive Hearing (c : Connection) (bytes : Bytes) (p : Progress) : Prop
  /-- They are no part of an answer. -/
  | parts (hn : p.next.line? = none) (ht : p.transmissions = [])
  /-- They are a part of the answer. -/
  | hears (line : Line) (hl : c.line? = some line)
      (hn : p.next.line? = some { line with heard := line.heard ++ bytes })
      (ht : p.transmissions = [])
  /-- With them the answer to a probe is complete. -/
  | ends (line : Line) (item : Item) (hl : c.line? = some line) (hc : line.current = some item)
      (hu : line.unsent = [])
      (hend : c.codec.check (line.heard ++ bytes) = .complete (line.heard ++ bytes).length)
      (hn : p.next.line? = some ⟨line.socket, [], [], none⟩) (ht : p.transmissions = [])

/-- A response that is about to be told of is a whole frame. -/
def Framed (c : Connection) : Prop :=
  ∀ length, c.position = .signalled (.frame length) →
    length = c.block.held.length ∧ c.codec.check c.block.held = .complete length

/-! ### Turns that fire no signal -/

/-- A free connection without a probe has nothing under way. -/
theorem Sound.current_of_free (h : c.Sound) (hs : c.status = .free)
    (hk : c.keepAlive.isProbing = false) (hp : c.position.isProbing = false) :
    c.current = none ∧ c.block.held = [] := by
  obtain ⟨-, hi⟩ := h.idle (by rw [hs]; rfl)
  exact ⟨by simp [current, hi, hk, hp], h.empty (by rw [hs]; decide) hk⟩

/-- The socket takes some of what is to be sent. -/
theorem Sound.talking_transmit {phase : Phase} {unsent : Bytes} {count : Nat}
    {f : Connection → Progress} (h : c.Sound) (hp : c.position = .parked phase)
    (hs : c.status.isConnected = true) (hu : c.unsent = unsent)
    (hn : ∀ socket, c.socket = some socket →
      (f c).next.line? = some ⟨socket, unsent.drop count, c.block.held, c.current⟩)
    (ht : (f c).transmissions = []) :
    c.Talking stimulus ((c.transmit unsent count).andThen f) := by
  obtain ⟨socket, hsocket⟩ := h.exists_socket hs
  refine .sends _ count (line?_of_parked hp hsocket) ?_ ?_
  · rw [Progress.next_andThen, next_transmit, hn socket hsocket, hu]
  · rw [Progress.transmissions_andThen, transmissions_transmit, next_transmit, ht, hsocket, hu]
    rfl

/-- A probe is begun over a socket that nothing is under way on. -/
theorem Sound.talking_probe {probe : Bytes} {p : Progress} (h : c.Sound)
    (hp : c.position = .parked .free) (hs : c.status = .free)
    (hk : c.keepAlive.isProbing = false) (hb : c.codec.probe = some probe)
    (hn : ∀ socket, c.socket = some socket → c.inFlight = none → c.block.held = [] →
      p.next.line? = some ⟨socket, probe, [], some ⟨none, probe, true⟩⟩)
    (ht : p.transmissions = []) : c.Talking stimulus p := by
  obtain ⟨socket, hsocket⟩ := h.exists_socket (by rw [hs]; rfl)
  obtain ⟨hcurrent, hheld⟩ := h.current_of_free hs hk (by rw [hp]; rfl)
  obtain ⟨-, hi⟩ := h.idle (by rw [hs]; rfl)
  refine .begins socket ⟨none, probe, true⟩ ?_ (hn socket hsocket hi hheld) (.inr hb) ht
  rw [line?_of_parked hp hsocket, hcurrent, hheld, unsent, hp]

/-- A wake that is obeyed goes on with the same conversation; any other command ends it. -/
theorem talking_obeys {phase : Phase} {command : Command} (hp : c.position = .parked phase)
    (hw : command = .wake → phase = .free ∧ c.queue ≠ []) :
    c.Talking stimulus ({ c with inbox := c.inbox.tail }.signal command.signal) := by
  cases command with
  | wake =>
      obtain ⟨rfl, -⟩ := hw rfl
      refine .rests (.inl ?_) rfl
      simp [line?, unsent, current, Position.isProbing, hp, signal, Command.signal, Signal.parts,
        expectsResponse]
  | connect | close waiter => exact .rests (.inr (line?_of_parts rfl rfl)) rfl

/-- A turn that fires no signal and reads no bytes. -/
theorem Passing.talking {p : Progress} (hp : c.Passing now stimulus p) (h : c.Sound)
    (hst : ¬stimulus.Gives) : c.Talking stimulus p := by
  cases hp with
  | rests | swallows => exact .rests (.inl rfl) rfl
  | plans phase keepAlive hp hk =>
      refine .rests (.inl ?_) rfl
      simp [line?, unsent, current, hp, hk, expectsResponse]
  | starts keepAlive hp hk =>
      have hs : c.status = .undefined := h.fits_at hp
      exact .rests (.inr (h.line?_of_status (by rw [hs]; rfl) rfl rfl)) rfl
  | crashes keepAlive =>
      refine .rests (.inr ?_) (transmissions_crash _)
      rw [next_crash]
      rfl
  | finishes hp hs =>
      have hstopped : c.status = .stopped := hs.elim h.exiting_iff.1 id
      exact .rests (.inr (h.line?_of_status (by rw [hstopped]; rfl) rfl rfl))
        (transmissions_finish _)
  | idles hp hs =>
      have hleft : c.status.isConnected = false := by rcases hs with hs | hs <;> rw [hs] <;> rfl
      exact .rests (.inr (h.line?_of_status hleft rfl rfl)) rfl
  | dials hp hs => exact .rests (.inr (h.line?_of_status (by rw [hs]; rfl) rfl rfl)) rfl
  | settles hp hs hq =>
      obtain ⟨block, hb, heq⟩ := c.parkFree_eq
      rw [heq]
      refine .rests (.inl ?_) rfl
      simp [line?, unsent, current, Position.isProbing, hp, hs, hb, expectsResponse]
  | dispatches hp hs hk hq =>
      refine .rests (.inl ?_) rfl
      simp [line?, unsent, current, Position.isProbing, hp, hs, signal, Signal.parts,
        expectsResponse]
  | writes w hp hs hw =>
      refine .rests (.inl ?_) rfl
      simp [line?, unsent, current, hp, hs, hw, park, expectsResponse]
  | awaits hp hs =>
      obtain ⟨block, hb, heq⟩ := c.makeRoom_eq
      rw [heq]
      refine .rests (.inl ?_) rfl
      simp [line?, unsent, current, Position.isProbing, hp, hs, hb, park, expectsResponse]
  | obeys phase command hp hi hf hw => exact talking_obeys hp hw
  | connects link since hlink hp hs => exact .dials link hlink rfl rfl
  | fails signal deadline keepAlive notices herror =>
      exact .rests (.inr (line?_of_parts rfl (Signal.parts_of_error herror)))
        (transmissions_noticed _ _)
  | sends unsent count hp hr =>
      have hs : c.status = .writing := h.fits_at hp
      refine h.talking_transmit hp (by rw [hs]; rfl) (unsent_of_writing hp) (fun _ hsocket => ?_)
        rfl
      simp [line?, Connection.unsent, current, Position.isProbing, hp, hsocket, park,
        expectsResponse]
  | sendsLast unsent count bytes hp hs hr =>
      refine h.talking_transmit hp (by rw [hs]; rfl) (unsent_of_writing hp) (fun _ hsocket => ?_)
        rfl
      simp [line?, Connection.unsent, current, Position.isProbing, hp, hsocket, hr, signal,
        Signal.parts, expectsResponse]
  | probes probe keepAlive tick expiry hp hs hk hk' hb =>
      refine h.talking_probe hp hs hk hb (fun socket hsocket hi hheld => ?_) rfl
      simp [line?, unsent, current, Position.isProbing, hsocket, hheld, hi, hb, park]
  | probesOn probe unsent count tick expiry hp hr =>
      obtain ⟨hs, -⟩ := h.fits_at hp
      refine h.talking_transmit hp (by rw [hs]; rfl) (unsent_of_probing hp) (fun _ hsocket => ?_)
        rfl
      simp [line?, Connection.unsent, current, Position.isProbing, hp, hsocket, park,
        expectsResponse]
  | probesLast probe unsent count tick expiry hp hs hr =>
      obtain ⟨-, hk⟩ := h.fits_at hp
      have hheld := h.empty (by rw [hs]; decide) hk
      obtain ⟨block, hb, heq⟩ := c.completeProbe_eq probe tick
      refine h.talking_transmit hp (by rw [hs]; rfl) (unsent_of_probing hp) (fun _ hsocket => ?_)
        (by rw [heq]; rfl)
      simp [line?, Connection.unsent, current, Position.isProbing, hp, hsocket, hr, heq, hb, hheld,
        expectsResponse]
  | probesAtOnce keepAlive tick hp hs hk hb =>
      obtain ⟨block, hblock, heq⟩ := { c with keepAlive }.completeProbe_eq [] tick
      rw [heq]
      refine h.talking_probe hp hs hk hb (fun socket hsocket hi _ => ?_) rfl
      simp [line?, unsent, current, Position.isProbing, hsocket, hblock, hi, hb]
  | answersPart | answers | answersBeyond | answersWrongly | reads | readsBeyond => contradiction

/-! ### Turns that fire a signal -/

/-- The first write that waits is begun over a socket that nothing is under way on. -/
theorem talking_beginWrite {d : Connection} {p : Progress} {socket : SocketId}
    (hl : c.line? = some ⟨socket, [], [], none⟩) (hq : c.queue ≠ []) (hd : d.queue = c.queue)
    (hs : d.status = .writing) (hsocket : d.socket = some socket)
    (hp : d.position = .entering ∨ d.position = .overflowed) (hn : p.next = d.beginWrite now)
    (ht : p.transmissions = []) : c.Talking stimulus p := by
  obtain ⟨w, rest, hq⟩ := List.exists_cons_of_ne_nil hq
  refine .begins socket ⟨some w.ticket, w.payload, (w.expects).getD d.config.expectResponse⟩ hl ?_
    (.inl ⟨w, by simp [hq], rfl⟩) ht
  rw [hn]
  rcases hp with hp | hp <;>
    simp [line?, unsent, current, expectsResponse, beginWrite, PendingWrite.dispatch, hd, hq, hs,
      hsocket, hp]

/-- A turn that fires its signal. -/
theorem Firing.talking {signal : Signal} {p : Progress} (hf : c.Firing now signal p) (h : c.Sound)
    (hp : c.position = .signalled signal) (hframed : c.Framed) : c.Talking stimulus p := by
  have ht := hf.transmissions
  have hfits := h.fits_at hp
  cases hf with
  | rests hsignal =>
      refine .rests (.inl ?_) rfl
      rcases hsignal with rfl | ⟨rfl, -⟩ <;>
        simp [line?, unsent, current, attend, Signal.parts, Position.isProbing, hp, hfits.1,
          expectsResponse]
  | readsOn hs =>
      refine .rests (.inl ?_) ht
      rw [moveTo_of_eq (c := c.attend .incomplete) hs.symm]
      simp [line?, unsent, current, attend, Signal.parts, Position.isProbing, hp, hs,
        expectsResponse]
  | connects hs =>
      refine .rests (.inr (line?_of_socket ?_ ?_)) ht
      · rw [Progress.next_andThen, next_moveTo]; rfl
      · rw [Progress.next_andThen, next_moveTo]; rfl
  | settles link took hs hq =>
      have hk := h.quiet (by rw [hs]; decide)
      obtain ⟨-, hi⟩ := h.idle (by rw [hs]; rfl)
      refine .rests (.inl ?_) ht
      rw [Progress.next_andThen, next_moveTo]
      cases hroom : c.keepAlive.hasRoom now <;>
        simp [line?, unsent, current, establish, touch, attend, Position.isProbing, hp, hk, hi,
          h.empty (by rw [hs]; decide) hk, hroom]
  | settlesBusy link took hs hq =>
      have hl : c.line? = some ⟨link.socket, [], [], none⟩ := by simp [line?, hp]
      refine talking_beginWrite hl hq ?_ ?_ ?_ ?_ rfl ht <;>
        rw [Progress.next_andThen, next_moveTo]
      case refine_4 => exact position_touch_of_entering rfl now
      all_goals rfl
  | dispatches hs hq =>
      obtain ⟨socket, hsocket⟩ := h.exists_socket (by rw [hs]; rfl)
      obtain ⟨hcurrent, hheld⟩ := h.current_of_free hs hfits.2 (by rw [hp]; rfl)
      have hl : c.line? = some ⟨socket, [], [], none⟩ := by
        simp [line?, unsent, Signal.parts, hp, hsocket, hcurrent, hheld]
      refine talking_beginWrite hl hq ?_ ?_ ?_ (.inl ?_) rfl ht <;>
        simp [next_moveTo, attend, hsocket]
  | awaits bytes hs he =>
      refine .rests (.inl ?_) ht
      rw [Progress.next_andThen, Progress.next_andThen, next_moveTo]
      have hempty := h.empty (by rw [hs]; decide) (h.quiet (by rw [hs]; decide))
      cases hroom : c.keepAlive.hasRoom now <;>
        simp [line?, unsent, current, absorb, touch, attend, Signal.parts, Position.isProbing, hp,
          hempty, expectsResponse, hroom]
  | delivers bytes hs he hroom | drops bytes hs he hroom =>
      have hk := h.quiet (by rw [hs]; decide)
      obtain ⟨socket, hsocket⟩ := h.exists_socket (by rw [hs]; rfl)
      obtain ⟨w, hw⟩ := h.exists_inFlight (by rw [hs]; rfl)
      have hl : c.line? = some ⟨socket, [], [], some ⟨some w.ticket, w.payload, false⟩⟩ := by
        simp [line?, unsent, current, Signal.parts, hp, hsocket, hw, he,
          h.empty (by rw [hs]; decide) hk]
      refine .ends _ _ hl rfl rfl (.inl ⟨rfl, rfl⟩) ?_ ht
      simp [line?, unsent, current, Position.isProbing, absorb, next_moveTo, touch, attend,
        dropInFlight, hsocket, hk, hroom]
  | responds length hs =>
      obtain ⟨rfl, hv⟩ := hframed length hp
      have hk := h.quiet (by rw [hs]; decide)
      obtain ⟨socket, hsocket⟩ := h.exists_socket (by rw [hs]; rfl)
      obtain ⟨w, hw⟩ := h.exists_inFlight (by rw [hs]; rfl)
      have hl : c.line? = some ⟨socket, [], c.block.held,
          some ⟨some w.ticket, w.payload, c.expectsResponse⟩⟩ := by
        simp [line?, unsent, current, Signal.parts, hp, hsocket, hw]
      refine .ends _ _ hl rfl rfl (.inr hv) ?_ ht
      simp [line?, unsent, current, Position.isProbing, next_moveTo, attend, hsocket, hk]
  | fails _ error event herror hs =>
      refine .rests (.inr (line?_of_socket (by simp) ?_)) ht
      rw [Progress.next_andThen, position_handleFail, next_moveTo]
      rfl
  | closes waiter hs =>
      refine .rests (.inr (line?_of_socket ?_ ?_)) ht
      · rw [Progress.next_andThen, next_moveTo]; rfl
      · rw [Progress.next_andThen, next_moveTo]; rfl

/-! ### Every turn -/

/-- **Every turn without bytes carries on the conversation** in one of these ways. -/
theorem Intact.talking (h : c.Intact) (hframed : c.Framed) (now : Instant)
    (hst : ¬stimulus.Gives) : c.Talking stimulus (c.turn now stimulus) := by
  rcases h with h | h
  · obtain ⟨-, hp⟩ | ⟨signal, hpos, -, hf⟩ := turn_cases now stimulus (.inr h.fits)
    · exact hp.talking h hst
    · exact hf.talking h hpos hframed
  · rw [h.turn_eq]
    exact .rests (.inl rfl) rfl

/-! ### Turns that read bytes -/

/-- The task reads from its socket: it awaits a response, or the answer to a probe. -/
def isReading (c : Connection) : Bool :=
  c.position = .parked .waiting ∨ c.position = .parked .free ∧ c.keepAlive.isProbing

theorem isReading_iff : c.isReading = true ↔ c.position = .parked .waiting ∨
    c.position = .parked .free ∧ c.keepAlive.isProbing = true := by
  simp [isReading]

theorem parked_of_isReading (h : c.isReading = true) : ∃ phase, c.position = .parked phase := by
  obtain hp | ⟨hp, -⟩ := isReading_iff.1 h
  · exact ⟨_, hp⟩
  · exact ⟨_, hp⟩

section

variable {bytes : Bytes} (hb : bytes ≠ []) (hroom : bytes.length ≤ c.block.room)

include hroom in
theorem held_receive : (c.receive bytes).block.held = c.block.held ++ bytes := by
  rw [receive, ReceiveBlock.fill, List.take_of_length_le hroom]

include hb hroom

/-- Bytes of a response are read. -/
theorem hearing_waiting (h : c.Sound) (hp : c.position = .parked .waiting) :
    c.Hearing bytes (c.turn now (.received bytes)) := by
  have hs : c.status = .waiting := h.fits_at hp
  obtain ⟨socket, hsocket⟩ := h.exists_socket (by rw [hs]; rfl)
  have hheld := held_receive hroom
  have hturn : c.turn now (.received bytes) =
      ((c.receive bytes).touch now).proceed ((c.receive bytes).touch now).verdict := by
    simp [turn, hp, observe, observeWaiting, observeResponse, List.take_of_length_le hroom, hb]
  have hp' : (c.receive bytes).position = .parked .waiting := hp
  have hears {signal : Signal} (hsignal : signal = .incomplete ∨ ∃ n, signal = .frame n) :
      c.Hearing bytes (((c.receive bytes).touch now).signal signal) := by
    refine .hears _ (line?_of_parked hp hsocket) ?_ rfl
    rw [← hheld]
    obtain rfl | ⟨n, rfl⟩ := hsignal <;>
      simp [line?, unsent, current, receive, touch, signal, Signal.parts, Position.isProbing, hp,
        hsocket, expectsResponse]
  rcases proceed_cases hp' now ((c.receive bytes).touch now).verdict with
    heq | ⟨hbeyond, heq⟩ <;> rw [hturn, heq]
  · obtain ⟨hv, -⟩ | ⟨hv, -⟩ | ⟨error, hv⟩ := ((c.receive bytes).touch now).verdict_cases
    · rw [hv]
      exact hears (.inl rfl)
    · rw [hv]
      exact hears (.inr ⟨_, rfl⟩)
    · rw [hv]
      exact .parts (line?_of_parts rfl rfl) rfl
  · have hroom : c.keepAlive.hasRoom now = false := hbeyond
    refine .hears _ (line?_of_parked hp hsocket) ?_ rfl
    rw [← hheld]
    simp [line?, unsent, current, receive, touch, Position.isProbing, hp, hsocket, hs,
      expectsResponse, hroom]

/-- Bytes that may answer a probe are read. -/
theorem hearing_free (h : c.Sound) (hp : c.position = .parked .free)
    (hk : c.keepAlive.isProbing = true) : c.Hearing bytes (c.turn now (.received bytes)) := by
  have hs : c.status = .free := h.free_of_isProbing hk
  obtain ⟨socket, hsocket⟩ := h.exists_socket (by rw [hs]; rfl)
  obtain ⟨-, hi⟩ := h.idle (by rw [hs]; rfl)
  have hheld := held_receive hroom
  have hcurrent : c.current = some ⟨none, c.codec.probe.getD [], true⟩ := by
    simp [current, hi, hk]
  have hwrong : c.Hearing bytes ((c.receive bytes).signalIdle now) :=
    .parts (line?_of_parts rfl rfl) rfl
  simp only [turn, hp, observe, observeFree, hk, if_true, observeAnswer,
    List.take_of_length_le hroom, hb, if_false]
  split
  next hv =>
    obtain ⟨block, hblock, heq⟩ := (c.receive bytes).parkFree_eq
    rw [heq]
    refine .hears _ (line?_of_parked hp hsocket) ?_ rfl
    rw [hheld] at hblock
    simp [line?, unsent, current, receive, hp, hsocket, hblock, expectsResponse]
  next length hv =>
    split
    next hl =>
      rw [hl, hheld] at hv
      have hp' : (c.receive bytes).position = .parked .free := hp
      refine .ends _ _ (line?_of_parked hp hsocket) hcurrent ?_ hv ?_ ?_
      · simp [unsent, hp]
      · rcases endProbe_cases hp' now with heq | ⟨hbeyond, heq⟩ <;>
          rw [Progress.next_andThen, next_say, heq]
        · simp [line?, unsent, current, receive, endProbe, touch, signal, Signal.parts,
            Position.isProbing, hsocket, hi]
        · have hroom : c.keepAlive.clearProbe.hasRoom now = false := hbeyond
          simp [line?, unsent, current, receive, endProbe, touch, Position.isProbing, hsocket, hi,
            hs, hroom]
      · rcases endProbe_cases hp' now with heq | ⟨-, heq⟩ <;>
          rw [Progress.transmissions_andThen, next_say, heq] <;> rfl
    next => exact hwrong
  next => exact hwrong

/-- **Bytes that are read carry on the conversation** in one of these ways. -/
theorem Intact.hearing (h : c.Intact) (hreads : c.isReading = true) (now : Instant) :
    c.Hearing bytes (c.turn now (.received bytes)) := by
  obtain hp | ⟨hp, hk⟩ := isReading_iff.1 hreads
  · exact hearing_waiting hb hroom (h.sound (by rw [hp]; nofun)) hp
  · exact hearing_free hb hroom (h.sound (by rw [hp]; nofun)) hp hk

end

/-! ### Responses -/

theorem framed_of_position (hp : ∀ length, c.position ≠ .signalled (.frame length)) : c.Framed :=
  fun length h => absurd h (hp length)

/-- A response that a turn is about to tell of is a whole frame: its verdict says so. -/
theorem Passing.framed {p : Progress} (hp : c.Passing now stimulus p) (hframed : c.Framed) :
    p.next.Framed := by
  cases hp with
  | rests => exact hframed
  | swallows phase command hp | plans phase keepAlive hp =>
      exact framed_of_position (by simp [hp])
  | crashes =>
      rw [next_crash]
      exact framed_of_position nofun
  | settles =>
      obtain ⟨block, -, heq⟩ := c.parkFree_eq
      rw [heq]
      exact framed_of_position nofun
  | obeys phase command => exact framed_of_position (by cases command <;> nofun)
  | fails signal deadline keepAlive notices herror =>
      refine framed_of_position fun length h => ?_
      cases h
      cases herror
  | probesLast probe unsent count tick =>
      obtain ⟨block, -, heq⟩ := c.completeProbe_eq probe tick
      rw [Progress.next_andThen, next_transmit, heq]
      exact framed_of_position nofun
  | probesAtOnce keepAlive tick =>
      obtain ⟨block, -, heq⟩ := { c with keepAlive }.completeProbe_eq [] tick
      rw [heq]
      exact framed_of_position nofun
  | answersPart bytes =>
      obtain ⟨block, -, heq⟩ := (c.receive bytes).parkFree_eq
      rw [heq]
      exact framed_of_position nofun
  | readsBeyond bytes _ _ _ hroom =>
      refine framed_of_position fun length => ?_
      rw [position_touch_of_hasRoom (c := c.receive bytes) hroom]
      nofun
  | answersBeyond bytes _ _ _ _ hroom =>
      refine framed_of_position fun length h => ?_
      cases (position_endProbe_of_hasRoom (c := c.receive bytes) hroom).symm.trans h
  | reads bytes =>
      intro length h
      obtain ⟨hv, -⟩ | ⟨hv, hcheck⟩ | ⟨error, hv⟩ := ((c.receive bytes).touch now).verdict_cases
      all_goals
        rw [hv] at h
        cases h
      exact ⟨rfl, hcheck⟩
  | _ => exact framed_of_position nofun

theorem Intact.framed (h : c.Intact) (hframed : c.Framed) (now : Instant) (stimulus : Stimulus) :
    (c.turn now stimulus).next.Framed := by
  obtain ⟨-, hp⟩ | ⟨signal, -, -, hf⟩ := turn_cases now stimulus h.fits
  · exact hp.framed hframed
  · exact framed_of_position fun _ => hf.position_ne

theorem Passing.codec_eq {p : Progress} (hp : c.Passing now stimulus p) :
    p.next.codec = c.codec := by
  obtain h | ⟨keepAlive, rfl⟩ := hp.contained
  · rw [h.next_eq]
  · rw [next_crash]

theorem Firing.codec_eq {signal : Signal} {p : Progress} (hf : c.Firing now signal p) :
    p.next.codec = c.codec := by
  cases hf <;>
    simp [next_moveTo, attend, absorb, touch, startConnect, establish, dropInFlight, doClose]

/-- A turn never changes the rule for the end of a frame. -/
theorem Intact.codec_eq (h : c.Intact) (now : Instant) (stimulus : Stimulus) :
    (c.turn now stimulus).next.codec = c.codec := by
  obtain ⟨-, hp⟩ | ⟨signal, -, -, hf⟩ := turn_cases now stimulus h.fits
  · exact hp.codec_eq
  · exact hf.codec_eq

/-- A write is delivered once its payload is written, if no response is expected, or once the
response is complete. -/
theorem Firing.delivery {signal : Signal} {p : Progress} {ticket : Nat} {delivery : Delivery}
    (hf : c.Firing now signal p) (hmem : (ticket, .delivered delivery) ∈ p.outcomes) :
    ∃ w response, c.inFlight = some w ∧ w.ticket = ticket ∧
      w.delivered now response = .delivered delivery ∧
      ((∃ bytes, signal = .written bytes) ∧ c.status = .writing ∧ c.expectsResponse = false ∧
          response = none ∨
        ∃ length, signal = .frame length ∧ c.status = .waiting ∧
          response = some (c.block.takeFrame length)) := by
  cases hf with
  | delivers bytes hs he =>
      simp only [attend, absorb, touch, Progress.outcomes_andThen, outcomes_moveTo, next_moveTo,
        Progress.outcomes_nothing, List.append_nil, Progress.next_andThen, outcomes_resolve,
        Option.map_none, List.nil_append, List.mem_map, Option.mem_toList, Prod.mk.injEq] at hmem
      obtain ⟨w, hw, hticket, hd⟩ := hmem
      exact ⟨w, none, hw, hticket, hd, .inl ⟨⟨bytes, rfl⟩, hs, he, rfl⟩⟩
  | responds length hs =>
      simp only [attend, Progress.outcomes_andThen, outcomes_moveTo, next_moveTo, outcomes_resolve,
        Option.map_some, List.nil_append, List.mem_map, Option.mem_toList, Prod.mk.injEq] at hmem
      obtain ⟨w, hw, hticket, hd⟩ := hmem
      exact ⟨w, _, hw, hticket, hd, .inr ⟨length, rfl, hs, rfl⟩⟩
  | _ => simp [absorb, next_moveTo, attend, PendingWrite.undelivered] at hmem

/-- A response is told of only once it is complete. -/
theorem Firing.response {signal : Signal} {p : Progress} {ticket : Nat} {delivery : Delivery}
    {response : Bytes} (hf : c.Firing now signal p)
    (hmem : (ticket, .delivered delivery) ∈ p.outcomes) (hr : delivery.response = some response) :
    ∃ length w, signal = .frame length ∧ c.inFlight = some w ∧ w.ticket = ticket ∧
      c.block.takeFrame length = response := by
  obtain ⟨w, response?, hw, hticket, hd, hcase⟩ := hf.delivery hmem
  cases hd
  obtain ⟨-, -, -, rfl⟩ | ⟨length, hsignal, -, rfl⟩ := hcase
  · cases hr
  · exact ⟨length, w, hsignal, hw, hticket, Option.some.inj hr⟩

/-- A response that a turn tells of is what was heard, and answers the write in flight. -/
theorem Intact.response {ticket : Nat} {delivery : Delivery} {response : Bytes} (h : c.Intact)
    (hframed : c.Framed) (hmem : (ticket, .delivered delivery) ∈ (c.turn now stimulus).outcomes)
    (hr : delivery.response = some response) : ∃ w socket,
      c.inFlight = some w ∧ w.ticket = ticket ∧ c.socket = some socket ∧
      c.codec.check response = .complete response.length ∧
      c.line? = some ⟨socket, [], response, some ⟨some ticket, w.payload, c.expectsResponse⟩⟩ := by
  obtain ⟨-, hp⟩ | ⟨signal, hpos, hfits, hf⟩ := turn_cases now stimulus h.fits
  · obtain ⟨returned, hreturned⟩ := hp.undelivered _ hmem
    cases hreturned
  · obtain ⟨length, w, rfl, hw, rfl, rfl⟩ := hf.response hmem hr
    obtain ⟨rfl, hv⟩ := hframed length hpos
    have hs : c.Sound := h.sound (by rw [hpos]; nofun)
    obtain ⟨socket, hsocket⟩ := hs.exists_socket (by rw [show c.status = .waiting from hfits]; rfl)
    refine ⟨w, socket, hw, rfl, hsocket, ?_, ?_⟩
    · simpa [ReceiveBlock.takeFrame] using hv
    · simp [line?, unsent, current, Signal.parts, ReceiveBlock.takeFrame, hpos, hsocket, hw]

/-! ### The owner -/

/-- The conversation is the same; only what the owner has asked for may differ. -/
structure Alike (c d : Connection) : Prop where
  position_eq : d.position = c.position
  status_eq : d.status = c.status
  socket_eq : d.socket = c.socket
  inFlight_eq : d.inFlight = c.inFlight
  keepAlive_eq : d.keepAlive = c.keepAlive
  block_eq : d.block = c.block
  codec_eq : d.codec = c.codec
  config_eq : d.config = c.config
  deadline_eq : d.deadline = c.deadline

theorem Alike.refl (c : Connection) : Alike c c := ⟨rfl, rfl, rfl, rfl, rfl, rfl, rfl, rfl, rfl⟩

theorem Alike.line?_eq {d : Connection} (h : Alike c d) : d.line? = c.line? := by
  simp only [line?, unsent, current, expectsResponse, h.position_eq, h.status_eq, h.socket_eq,
    h.inFlight_eq, h.keepAlive_eq, h.block_eq, h.codec_eq, h.config_eq]

theorem Alike.framed {d : Connection} (h : Alike c d) (hframed : c.Framed) : d.Framed := by
  simpa only [Framed, h.position_eq, h.block_eq, h.codec_eq] using hframed

theorem alike_push {d : Connection} {w : PendingWrite} (h : c.push? w = some d) : Alike c d := by
  cases eq_of_push? h
  exact ⟨rfl, rfl, rfl, rfl, rfl, rfl, rfl, rfl, rfl⟩

theorem alike_post (c : Connection) (command : Command) : Alike c (c.post command).next := by
  unfold post
  split <;> exact ⟨rfl, rfl, rfl, rfl, rfl, rfl, rfl, rfl, rfl⟩

theorem alike_close (c : Connection) (waiter : Waiter) : Alike c (c.close waiter).next := by
  unfold close
  split <;> exact ⟨rfl, rfl, rfl, rfl, rfl, rfl, rfl, rfl, rfl⟩

theorem alike_letGo (c : Connection) : Alike c c.letGo.next := by
  obtain ⟨-, heq⟩ | ⟨-, asked, -, heq⟩ := c.letGo_cases <;> rw [heq] <;>
    exact ⟨rfl, rfl, rfl, rfl, rfl, rfl, rfl, rfl, rfl⟩

end Connection

end Uplink

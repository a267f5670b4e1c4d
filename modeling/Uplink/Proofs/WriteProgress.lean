/-
The course of a write.

A write that is begun is handed to the socket piece by piece, and then its response is awaited, if
there is to be one.  So the turns since it was begun are of two kinds, one kind after the other:
those that send, and those that wait.  All of them find one socket.  What they sent, with what is
unsent, is the payload; what they read is what is held of the response, and nothing else.

* `Uplink.Turn.read` — the bytes that a turn reads from the socket;
* `Uplink.Connection.Intact.conversing` — **every turn carries on the conversation**, with the bytes
  it reads or without any;
* `Uplink.Connection.Serving` — what a turn does with the write that is in flight afterwards;
* `Uplink.Connection.Intact.line?_turn` — what it adds to the conversation about that write;
* `Uplink.SinceBegun`, `Uplink.Accords`, `Uplink.Midway` — the turns since a write was begun, what
  they come to, and how they leave the connection;
* `Uplink.Followed` — what the turns so far tell of the write in flight;
* `Uplink.Followed.turn` — **a turn keeps what they tell**.
-/

import Uplink.Proofs.Idleness

set_option relaxedAutoImplicit false
set_option autoImplicit false

namespace Uplink

namespace Connection

variable {c : Connection} {now : Instant} {stimulus : Stimulus} {w : PendingWrite}

/-! ### What a turn reads -/

/-- The bytes that are read from the socket: those that there is room for, if any are awaited. -/
def intake (c : Connection) : Stimulus → Bytes
  | .received bytes => if c.isReading then bytes.take c.block.room else []
  | _ => []

theorem intake_of_not_gives (hst : ¬stimulus.Gives) : c.intake stimulus = [] := by
  cases stimulus with
  | received bytes => exact absurd ⟨bytes, rfl⟩ hst
  | _ => rfl

/-- A task that does not read leaves what the socket gives alone. -/
theorem turn_received_of_not_isReading (h : c.isReading = false) (now : Instant) (bytes : Bytes) :
    c.turn now (.received bytes) = c.turn now .probeExpired ∨
      c.turn now (.received bytes) = ⟨c, []⟩ := by
  cases hp : c.position with
  | parked phase =>
      refine .inr ?_
      simp only [turn, hp]
      cases phase with
      | free =>
          have hk : c.keepAlive.isProbing = false := by simpa [isReading, hp] using h
          simp [observe, observeFree, hk]
      | waiting => simp [isReading, hp] at h
      | _ => rfl
  | _ =>
      refine .inl ?_
      simp only [turn, hp]

/-- A task that reads takes no more than there is room for. -/
theorem turn_received_take (h : c.isReading = true) (bytes : Bytes) :
    c.turn now (.received bytes) = c.turn now (.received (bytes.take c.block.room)) := by
  obtain hp | ⟨hp, hk⟩ := isReading_iff.1 h
  · simp [turn, hp, observe, observeWaiting, observeResponse, List.take_take]
  · simp [turn, hp, observe, observeFree, hk, observeAnswer, List.take_take]

theorem turn_received_nil (h : c.isReading = true) : c.turn now (.received []) = ⟨c, []⟩ := by
  obtain hp | ⟨hp, hk⟩ := isReading_iff.1 h
  · simp [turn, hp, observe, observeWaiting, observeResponse]
  · simp [turn, hp, observe, observeFree, hk, observeAnswer]

/-- **Every turn carries on the conversation**, without bytes or with those that it reads. -/
theorem Intact.conversing (h : c.Intact) (hframed : c.Framed) (now : Instant)
    (stimulus : Stimulus) :
    (c.intake stimulus = [] ∧ ∃ cause, c.Talking cause (c.turn now stimulus)) ∨
      c.isReading = true ∧ c.Hearing (c.intake stimulus) (c.turn now stimulus) := by
  have hquiet : ¬Stimulus.probeExpired.Gives := nofun
  have hrests {p : Progress} (hp : p = ⟨c, []⟩) : ∃ cause, c.Talking cause p :=
    ⟨stimulus, by rw [hp]; exact .rests (.inl rfl) rfl⟩
  by_cases hst : stimulus.Gives
  · obtain ⟨bytes, rfl⟩ := hst
    cases hreads : c.isReading with
    | false =>
        refine .inl ⟨by simp [intake, hreads], ?_⟩
        rcases turn_received_of_not_isReading hreads now bytes with heq | heq
        · exact ⟨_, heq ▸ h.talking hframed now hquiet⟩
        · exact hrests heq
    | true =>
        have hintake : c.intake (.received bytes) = bytes.take c.block.room := by
          simp [intake, hreads]
        rw [hintake, turn_received_take hreads]
        by_cases hnil : bytes.take c.block.room = []
        · rw [hnil]
          exact .inl ⟨rfl, hrests (turn_received_nil hreads)⟩
        · exact .inr ⟨rfl, h.hearing hnil (List.length_take_le _ _) hreads now⟩
  · exact .inl ⟨intake_of_not_gives hst, stimulus, h.talking hframed now hst⟩

/-! ### What a turn does with the write in flight -/

/-- What a turn does with the write that is in flight afterwards. -/
inductive Serving (c : Connection) (now : Instant) (d : Connection) (w : PendingWrite) : Prop
  /-- It is begun: all of it is unsent, and nothing is held. -/
  | begins (v : PendingWrite) (hq : c.queue = v :: d.queue) (hw : w = v.dispatch now)
      (hs : d.status = .writing) (hu : d.unsent = w.payload) (hb : d.block.held = [])
  /-- It goes on as before. -/
  | goesOn (hw : c.inFlight = some w) (hs : d.status = c.status)
  /-- It is written, and its response is awaited from now on. -/
  | awaits (hw : c.inFlight = some w) (hs : c.status = .writing) (hs' : d.status = .waiting)
      (he : c.expectsResponse = true) (hp : ∀ signal, d.position ≠ .signalled signal)

theorem serving_beginWrite {d : Connection} (hq : c.queue ≠ []) (hd : d.queue = c.queue)
    (hs : d.status = .writing) (hp : d.position = .entering ∨ d.position = .overflowed)
    (hw : (d.beginWrite now).inFlight = some w) : c.Serving now (d.beginWrite now) w := by
  obtain ⟨v, rest, hqueue⟩ := List.exists_cons_of_ne_nil hq
  simp only [beginWrite, hd, hqueue, Option.some.injEq] at hw
  subst hw
  refine .begins v ?_ rfl ?_ ?_ ?_
  case refine_3 => rcases hp with hp | hp <;> simp [beginWrite, unsent, hd, hqueue, hs, hp]
  all_goals simp [beginWrite, hd, hqueue, hs]

/-- What a signal does with the write that is in flight afterwards. -/
theorem Firing.serving {signal : Signal} {p : Progress} (hf : c.Firing now signal p)
    (h : c.Holding) (hw : p.next.inFlight = some w) : c.Serving now p.next w := by
  have hposition (other : Signal) : p.next.position ≠ .signalled other := hf.position_ne
  -- An idle connection has no write in flight that could be kept.
  have hidle (hs : c.status.isBusy = false) (hkept : p.next.inFlight = c.inFlight) : False := by
    cases (hkept.trans (h.idle hs).2).symm.trans hw
  cases hf with
  | rests => exact .goesOn hw rfl
  | readsOn hs =>
      rw [moveTo_of_eq (c := c.attend .incomplete) hs.symm] at hw ⊢
      exact .goesOn hw rfl
  | connects hs =>
      refine (hidle ?_ ?_).elim
      · rcases hs with hs | hs | hs <;> rw [hs] <;> rfl
      · rw [Progress.next_andThen, next_moveTo]
        rfl
  | settles link took hs =>
      refine (hidle (by rw [hs]; rfl) ?_).elim
      rw [Progress.next_andThen, next_moveTo]
      rfl
  | settlesBusy link took hs hq =>
      rw [Progress.next_andThen, Progress.next_andThen, next_moveTo] at hw ⊢
      exact serving_beginWrite hq rfl rfl (position_touch_of_entering rfl now) hw
  | dispatches hs hq =>
      rw [Progress.next_andThen, next_moveTo] at hw ⊢
      exact serving_beginWrite hq rfl rfl (.inl rfl) hw
  | awaits bytes hs he =>
      rw [Progress.next_andThen, Progress.next_andThen, next_moveTo] at hw hposition ⊢
      exact .awaits hw hs rfl he hposition
  | delivers | responds => cases (inFlight_resolve _ _ _).symm.trans hw
  | drops => cases hw
  | fails => cases (inFlight_handleFail _ _ _).symm.trans hw
  | closes =>
      rw [Progress.next_andThen, next_moveTo] at hw
      cases hw

/-- **A write that is in flight after a turn** was begun by it, or was in flight before. -/
theorem Intact.serving (h : c.Intact) (hw : (c.turn now stimulus).next.inFlight = some w) :
    c.Serving now (c.turn now stimulus).next w := by
  obtain ⟨-, hp⟩ | ⟨signal, hp, -, hf⟩ := turn_cases now stimulus h.fits
  · rcases hp.contained with hcontained | ⟨keepAlive, hcrash⟩
    · rw [hcontained.next_eq] at hw ⊢
      exact .goesOn hw rfl
    · rw [hcrash, next_crash] at hw
      cases hw
  · exact hf.serving (h.sound (by rw [hp]; nofun)).toHolding hw

theorem Intact.sound_of_inFlight (h : c.Intact) (hw : c.inFlight = some w) : c.Sound := by
  refine h.resolve_right fun hwrecked => ?_
  cases hwrecked.inFlight_eq.symm.trans hw

/-- A connection with a write in flight writes it or awaits its response. -/
theorem Sound.writing_or_waiting (h : c.Sound) (hw : c.inFlight = some w) :
    c.status = .writing ∨ c.status = .waiting := by
  have hbusy := h.inFlight_iff.1 (by rw [hw]; rfl)
  cases hs : c.status <;> rw [hs] at hbusy <;> first | exact .inl rfl | exact .inr rfl | cases hbusy

/-! ### The conversation about the write in flight -/

/-- The conversation of a connection with a write in flight is about that write. -/
theorem Sound.line?_of_inFlight {line : Line} (h : c.Sound) (hw : c.inFlight = some w)
    (hl : c.line? = some line) : c.socket = some line.socket ∧ line.unsent = c.unsent ∧
      line.heard = c.block.held ∧ line.current.isSome = true := by
  have hcurrent : c.current.isSome = true := by simp [current, hw]
  unfold line? at hl
  split at hl
  next link took hp =>
    have hs : c.status = .connecting := h.fits_at hp
    obtain ⟨-, hnone⟩ := h.idle (by rw [hs]; rfl)
    cases hnone.symm.trans hw
  next =>
    split at hl
    · cases hl
    · obtain ⟨socket, hsocket, rfl⟩ := Option.map_eq_some_iff.1 hl
      exact ⟨hsocket, rfl, rfl, hcurrent⟩
  next =>
    obtain ⟨socket, hsocket, rfl⟩ := Option.map_eq_some_iff.1 hl
    exact ⟨hsocket, rfl, rfl, hcurrent⟩

/-- While a response is awaited, nothing is unsent. -/
theorem Sound.unsent_of_waiting (h : c.Sound) (hs : c.status = .waiting) : c.unsent = [] := by
  unfold unsent
  split
  next hp => cases hs.symm.trans (h.fits_at hp)
  next hp => cases hs.symm.trans (h.fits_at hp).1
  next => rw [hs]; rfl
  next => rw [hs]; rfl
  next => rfl

/-- While a payload is written, nothing is read. -/
theorem Sound.intake_of_writing (h : c.Sound) (hs : c.status = .writing) (stimulus : Stimulus) :
    c.intake stimulus = [] := by
  have hreads : c.isReading = false := by
    rw [← Bool.not_eq_true, isReading_iff]
    rintro (hp | ⟨hp, -⟩) <;> cases hs.symm.trans (h.fits_at hp)
  cases stimulus <;> simp [intake, hreads]

/-- A response that is about to be told of resolves the write in flight. -/
theorem Intact.framed_of_inFlight (h : c.Intact)
    (hw : (c.turn now stimulus).next.inFlight = some w) : c.Framed := by
  refine framed_of_position fun length hp => ?_
  obtain ⟨hn, -⟩ | ⟨signal, hp', -, hf⟩ := turn_cases now stimulus h.fits
  · rw [hp] at hn
    cases hn
  · rw [hp] at hp'
    cases hp'
    generalize c.turn now stimulus = p at hf hw
    cases hf with
    | responds => cases (inFlight_resolve _ _ _).symm.trans hw
    | rests hr => rcases hr with hr | ⟨hr, -⟩ <;> cases hr
    | fails _ _ _ herror => cases herror

/-- **What a turn adds to the conversation** about a write that stays in flight: it hands over the
first of what is unsent, and holds what it reads. -/
theorem Intact.line?_turn {line' : Line} (h : c.Intact) (hw : c.inFlight = some w)
    (hw' : (c.turn now stimulus).next.inFlight = some w)
    (hl' : (c.turn now stimulus).next.line? = some line') :
    ∃ line, c.line? = some line ∧ c.socket = some line.socket ∧ line'.socket = line.socket ∧
      line.unsent = (c.turn now stimulus).handed line.socket ++ line'.unsent ∧
      line'.heard = line.heard ++ c.intake stimulus := by
  have hsome := (((h.turn now stimulus).sound_of_inFlight hw').line?_of_inFlight hw' hl').2.2.2
  have hsound := h.sound_of_inFlight hw
  -- A conversation that begins or ends is not about the write that stays in flight.
  have habsurd {socket : SocketId}
      (hn : (c.turn now stimulus).next.line? = some ⟨socket, [], [], none⟩) : False := by
    cases hl'.symm.trans hn
    cases hsome
  obtain ⟨hread, cause, htalk⟩ | ⟨-, hhear⟩ :=
    h.conversing (h.framed_of_inFlight hw') now stimulus
  · rw [hread]
    cases htalk with
    | rests hl ht =>
        have hline := (hl.resolve_right fun hn => by cases hl'.symm.trans hn).symm.trans hl'
        refine ⟨line', hline, (hsound.line?_of_inFlight hw hline).1, rfl, ?_, ?_⟩ <;>
          simp [Progress.handed, ht]
    | dials _ _ hn => exact (habsurd hn).elim
    | begins socket item hl => cases (hsound.line?_of_inFlight hw hl).2.2.2
    | sends line count hl hn ht =>
        cases hl'.symm.trans hn
        refine ⟨line, hl, (hsound.line?_of_inFlight hw hl).1, rfl, ?_, ?_⟩ <;>
          simp [Progress.handed, ht]
    | ends _ _ _ _ _ _ hn => exact (habsurd hn).elim
  · cases hhear with
    | parts hn => cases hl'.symm.trans hn
    | hears line hl hn ht =>
        cases hl'.symm.trans hn
        refine ⟨line, hl, (hsound.line?_of_inFlight hw hl).1, rfl, ?_, rfl⟩
        simp [Progress.handed, ht]
    | ends _ _ _ _ _ _ hn => exact (habsurd hn).elim

/-- A response that is about to be told of was found to be whole by the turn before. -/
theorem Intact.frame_turn {length : Nat} (h : c.Intact)
    (hp : (c.turn now stimulus).next.position = .signalled (.frame length)) :
    length = (c.turn now stimulus).next.block.held.length ∧
      c.codec.check (c.turn now stimulus).next.block.held = .complete length := by
  obtain ⟨hn, hpassing⟩ | ⟨signal, -, -, hf⟩ := turn_cases now stimulus h.fits
  · have hframed : c.Framed := framed_of_position fun other hother => by
      rw [hother] at hn
      cases hn
    rw [← hpassing.codec_eq]
    exact hpassing.framed hframed length hp
  · exact absurd hp hf.position_ne

end Connection

/-! ### The turns since a write was begun -/

/-- The bytes that a turn reads from the socket. -/
def Turn.read (t : Turn) : Bytes := t.connection.intake t.stimulus

/-- The turns since a write was begun: first some that send, then some that wait. -/
structure SinceBegun (turns : List Turn) (w : PendingWrite) (cause : Turn)
    (sending waiting : List Turn) : Prop where
  /-- They are the last ones. -/
  turns_eq : ∃ earlier, turns = earlier ++ cause :: (sending ++ waiting)
  /-- The write was the first that waited. -/
  begins : ∃ v rest, cause.connection.queue = v :: rest ∧ w = v.dispatch cause.now
  /-- It is written first. -/
  sending : ∀ t ∈ sending, t.connection.inFlight = some w ∧ t.connection.status = .writing
  /-- Then its response is awaited. -/
  waiting : ∀ t ∈ waiting, t.connection.inFlight = some w ∧ t.connection.status = .waiting

/-- What the turns since a write was begun come to. -/
structure Accords (sending waiting : List Turn) (w : PendingWrite) (line : Line) : Prop where
  /-- There is one socket. -/
  socket : ∀ t ∈ sending ++ waiting, t.connection.socket = some line.socket
  /-- What was sent and what is unsent are the payload. -/
  sent : sending.flatMap (·.progress.handed line.socket) ++ line.unsent = w.payload
  /-- What was read is what is held. -/
  heard : waiting.flatMap Turn.read = line.heard

/-- How a connection stands midway in the course of its write. -/
structure Midway (config : Config) (c : Connection) (w : PendingWrite)
    (sending waiting : List Turn) : Prop where
  writing : c.status = .writing → waiting = []
  /-- A response is awaited only if it is expected. -/
  expects : c.status = .waiting → w.expects.getD config.expectResponse = true
  line : ∀ line, c.line? = some line → Accords sending waiting w line
  /-- A response that is about to be told of is whole. -/
  frame : ∀ length, c.position = .signalled (.frame length) →
    length = c.block.held.length ∧ ∃ last, waiting.getLast? = some last ∧
      last.connection.codec.check c.block.held = .complete length

/-- What the turns so far tell of the write in flight. -/
def Followed (config : Config) (turns : List Turn) (c : Connection) : Prop :=
  ∀ w, c.inFlight = some w → ∃ cause sending waiting,
    SinceBegun turns w cause sending waiting ∧ Midway config c w sending waiting

section

variable {config : Config} {turns sending waiting : List Turn} {c d : Connection}
  {w : PendingWrite} {cause t : Turn}

theorem SinceBegun.send (h : SinceBegun turns w cause sending [])
    (hw : t.connection.inFlight = some w)
    (hs : t.connection.status = .writing) :
    SinceBegun (turns ++ [t]) w cause (sending ++ [t]) [] where
  turns_eq := by
    obtain ⟨earlier, rfl⟩ := h.turns_eq
    exact ⟨earlier, by simp⟩
  begins := h.begins
  sending := List.forall_mem_append.2 ⟨h.sending, List.forall_mem_singleton.2 ⟨hw, hs⟩⟩
  waiting := List.forall_mem_nil _

theorem SinceBegun.wait (h : SinceBegun turns w cause sending waiting)
    (hw : t.connection.inFlight = some w) (hs : t.connection.status = .waiting) :
    SinceBegun (turns ++ [t]) w cause sending (waiting ++ [t]) where
  turns_eq := by
    obtain ⟨earlier, rfl⟩ := h.turns_eq
    exact ⟨earlier, by simp⟩
  begins := h.begins
  sending := h.sending
  waiting := List.forall_mem_append.2 ⟨h.waiting, List.forall_mem_singleton.2 ⟨hw, hs⟩⟩

/-- A turn that finds the write being written adds to what was sent. -/
theorem Accords.send (h : ∀ line, t.connection.line? = some line → Accords sending [] w line)
    (hi : t.connection.Intact) (hw : t.connection.inFlight = some w)
    (hs : t.connection.status = .writing) (hw' : t.progress.next.inFlight = some w) (line' : Line)
    (hl' : t.progress.next.line? = some line') : Accords (sending ++ [t]) [] w line' := by
  obtain ⟨line, hl, hsocket, heq, hunsent, hheard⟩ := hi.line?_turn hw hw' hl'
  obtain ⟨holds, hsent, hnone⟩ := h line hl
  rw [(hi.sound_of_inFlight hw).intake_of_writing hs, List.append_nil, ← hnone] at hheard
  rw [List.append_nil] at holds
  refine ⟨?_, ?_, hheard.symm⟩
  · rw [heq, List.append_nil]
    exact List.forall_mem_append.2 ⟨holds, List.forall_mem_singleton.2 hsocket⟩
  · rw [heq, ← hsent, hunsent, List.flatMap_append, List.flatMap_singleton, List.append_assoc]
    rfl

/-- A turn that finds the response awaited adds to what was read. -/
theorem Accords.wait (h : ∀ line, t.connection.line? = some line → Accords sending waiting w line)
    (hi : t.connection.Intact) (hw : t.connection.inFlight = some w)
    (hs : t.connection.status = .waiting) (hw' : t.progress.next.inFlight = some w) (line' : Line)
    (hl' : t.progress.next.line? = some line') : Accords sending (waiting ++ [t]) w line' := by
  have hsound := hi.sound_of_inFlight hw
  obtain ⟨line, hl, hsocket, heq, hunsent, hheard⟩ := hi.line?_turn hw hw' hl'
  obtain ⟨holds, hsent, hread⟩ := h line hl
  -- Nothing was unsent any more.
  rw [(hsound.line?_of_inFlight hw hl).2.1, hsound.unsent_of_waiting hs] at hsent hunsent
  refine ⟨?_, ?_, ?_⟩
  · rw [heq, ← List.append_assoc]
    exact List.forall_mem_append.2 ⟨holds, List.forall_mem_singleton.2 hsocket⟩
  · rw [heq, (List.append_eq_nil_iff.1 hunsent.symm).2]
    exact hsent
  · rw [List.flatMap_append, List.flatMap_singleton, hread, hheard]
    rfl

/-- Others leave alone what the turns tell, and so does a new rule for the end of a frame. -/
theorem Followed.alike {codec : FrameCodec} (h : Followed config turns c)
    (halike : Connection.Alike { c with codec } d) : Followed config turns d := by
  intro w hw
  have hw' : c.inFlight = some w := halike.inFlight_eq.symm.trans hw
  have hline : d.line? = c.line? := by
    rw [halike.line?_eq]
    simp [Connection.line?, Connection.unsent, Connection.current, Connection.expectsResponse, hw']
  obtain ⟨cause, sending, waiting, hcourse, hwriting, hexpects, hlines, hframe⟩ := h w hw'
  refine ⟨cause, sending, waiting, hcourse, ?_, ?_, ?_, ?_⟩
  · rw [halike.status_eq]
    exact hwriting
  · rw [halike.status_eq]
    exact hexpects
  · rw [hline]
    exact hlines
  · rw [halike.position_eq, halike.block_eq]
    exact hframe

/-- **A turn keeps what the turns tell of the write in flight.** -/
theorem Followed.turn (h : Followed config turns t.connection) (hi : t.connection.Intact)
    (hconfig : t.connection.config = config) :
    Followed config (turns ++ [t]) t.progress.next := by
  intro w hw
  have hsound : t.progress.next.Sound := (hi.turn t.now t.stimulus).sound_of_inFlight hw
  -- Only while a response is awaited can one be about to be told of.
  have hnone {length : Nat} (hs : t.progress.next.status = .writing)
      (hp : t.progress.next.position = .signalled (.frame length)) : False := by
    cases hs.symm.trans (hsound.fits_at hp)
  have hserving : t.connection.Serving t.now t.progress.next w := hi.serving hw
  cases hserving with
  | begins v hq hv hs hu hb =>
      refine ⟨t, [], [], ⟨⟨turns, rfl⟩, ⟨v, _, hq, hv⟩, List.forall_mem_nil _,
        List.forall_mem_nil _⟩, fun _ => rfl, fun hs' => ?_, fun line hl => ?_,
        fun _ hp => (hnone hs hp).elim⟩
      · cases hs.symm.trans hs'
      · obtain ⟨-, hunsent, hheard, -⟩ := hsound.line?_of_inFlight hw hl
        exact ⟨List.forall_mem_nil _, hunsent.trans hu, (hheard.trans hb).symm⟩
  | goesOn hw' hs =>
      obtain ⟨cause, sending, waiting, hcourse, hwriting, hexpects, hlines, -⟩ := h w hw'
      rcases (hi.sound_of_inFlight hw').writing_or_waiting hw' with hs' | hs'
      · obtain rfl := hwriting hs'
        refine ⟨cause, _, [], hcourse.send hw' hs', fun _ => rfl, fun hs'' => ?_,
          Accords.send hlines hi hw' hs' hw, fun _ hp => (hnone (hs.trans hs') hp).elim⟩
        cases (hs.trans hs').symm.trans hs''
      · refine ⟨cause, sending, _, hcourse.wait hw' hs', fun hs'' => ?_, fun _ => hexpects hs',
          Accords.wait hlines hi hw' hs' hw, fun length hp => ?_⟩
        · cases (hs.trans hs').symm.trans hs''
        · obtain ⟨hlength, hcheck⟩ := hi.frame_turn hp
          exact ⟨hlength, _, List.getLast?_concat, hcheck⟩
  | awaits hw' hs hs' he hp =>
      obtain ⟨cause, sending, waiting, hcourse, hwriting, -, hlines, -⟩ := h w hw'
      obtain rfl := hwriting hs
      refine ⟨cause, _, [], hcourse.send hw' hs, fun _ => rfl, fun _ => ?_,
        Accords.send hlines hi hw' hs hw, fun _ hp' => ?_⟩
      · rw [← hconfig]
        simpa [Connection.expectsResponse, hw'] using he
      · exact absurd hp' (hp _)

end

namespace Scene

/-- **The turns of a run tell of the write in flight.** -/
theorem followed_run (now : Instant) (endpoint : Endpoint) (config : Config) (codec : FrameCodec)
    (name : Option String) (moves : List Move) :
    Followed config ((start now endpoint config codec name).turns moves)
      ((start now endpoint config codec name).run moves).connection :=
  turns_induction nofun
    (fun _ c later stimulus hi _ hconfig h =>
      Followed.turn (t := ⟨c, later, stimulus⟩) h hi hconfig)
    (fun _ _ _ _ halike h => h.alike halike) moves

end Scene

end Uplink

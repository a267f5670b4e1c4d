/-
What the parts of a connection always have to do with each other.

The state of a task is spread over many fields, and every action changes several of them.  At all
times the published status tells what the others are: a write is in flight exactly in the busy
statuses, a socket is held exactly in the connected ones, and so on.  Only a deadline that has just
fallen due is not armed any more, until the failure that it caused is handled.

* `Uplink.Connection.Published` — what holds of the published part, even once the task has crashed;
* `Uplink.Connection.Holding` — what holds wherever the task stands;
* `Uplink.Connection.Sound` — the invariant;
* `Uplink.Connection.Sound.fits_at` — what the place where the task stands tells of the status;
* `Uplink.Connection.sound_spawn` — it holds of a fresh connection;
* `Uplink.Connection.Intact` — the invariant, or what is left of it once the task has crashed;
* `Uplink.Connection.Intact.turn` — **every turn keeps it**, and so does all that the owner does.
-/

import Uplink.Proofs.Passing

set_option relaxedAutoImplicit false
set_option autoImplicit false

namespace Uplink

/-- The error that a task is about to handle. -/
def Position.error? : Position → Option ConnectionError
  | signalled signal => signal.error?
  | _ => none

/-! ### Where a task may stand -/

section

variable {c d : Connection}

theorem Phase.Fits.congr {phase : Phase} (h : phase.Fits c) (hs : d.status = c.status)
    (hk : d.keepAlive.isProbing = c.keepAlive.isProbing) : phase.Fits d := by
  cases phase <;> simp_all [Phase.Fits]

theorem Signal.Fits.congr {signal : Signal} (h : signal.Fits c) (hs : d.status = c.status)
    (hk : d.keepAlive.isProbing = c.keepAlive.isProbing) : signal.Fits d := by
  cases signal <;> simp_all [Signal.Fits]

/-- Where a task may stand depends on its status and on whether a probe is outstanding. -/
theorem Position.Fits.congr {position : Position} (h : position.Fits c) (hs : d.status = c.status)
    (hk : d.keepAlive.isProbing = c.keepAlive.isProbing) : position.Fits d := by
  cases position with
  | parked phase => exact Phase.Fits.congr h hs hk
  | signalled signal => exact Signal.Fits.congr h hs hk
  | spawned | finished => exact hs.trans h
  | overflowed => exact (congrArg Status.isConnected hs).trans h
  | entering => trivial
  | crashed => exact h

end

namespace Connection

variable {c : Connection} {now : Instant} {stimulus : Stimulus}

/-! ### The invariant -/

/-- A connect is awaited, or a request that has a limit. -/
def Timed (c : Connection) : Prop :=
  c.status = .connecting ∨ c.status.isBusy = true ∧ c.config.requestTimeout.isSome = true

/-- What holds of the published part. -/
structure Published (c : Connection) : Prop where
  /-- The mark stands for a write in flight. -/
  isBusy_iff : c.isBusy = true ↔ c.status.isBusy = true
  /-- A failure is recorded. -/
  failure_isSome : c.status = .connectFailed → c.failure.isSome = true
  /-- A stopped connection keeps no write. -/
  queue_eq_nil : c.status = .stopped → c.queue = []

/-- What holds wherever the task stands. -/
structure Holding (c : Connection) : Prop extends Published c where
  /-- A write is in flight. -/
  inFlight_iff : c.inFlight.isSome = true ↔ c.status.isBusy = true
  /-- A socket is held. -/
  socket_iff : c.socket.isSome = true ↔ c.status.isConnected = true
  /-- No deadline is armed without need. -/
  timed : c.deadline.isArmed = true → c.Timed
  /-- Only a free connection awaits the answer to a probe. -/
  free_of_isProbing : c.keepAlive.isProbing = true → c.status = .free
  /-- The block is empty unless something is to be read. -/
  held : c.block.held ≠ [] → c.status = .waiting ∨ c.keepAlive.isProbing = true
  /-- The task ends once it is stopped. -/
  exiting_iff : c.exiting = true ↔ c.status = .stopped

/-- The invariant of a connection whose task has not crashed. -/
structure Sound (c : Connection) : Prop extends Holding c where
  /-- The task stands where it fits. -/
  fits : c.position.Fits c
  /-- A deadline that is needed is armed, unless an error is about to be handled. -/
  isArmed : c.position.error? = none → c.Timed → c.deadline.isArmed = true

/-- Where the task stands tells about the status. -/
theorem Sound.fits_at {position : Position} (h : c.Sound) (hp : c.position = position) :
    position.Fits c := hp ▸ h.fits

theorem Sound.position_ne (h : c.Sound) : c.position ≠ .crashed := fun hp => h.fits_at hp

/-- A busy connection has a write in flight. -/
theorem Holding.exists_inFlight (h : c.Holding) (hs : c.status.isBusy = true) :
    ∃ w, c.inFlight = some w := Option.isSome_iff_exists.1 (h.inFlight_iff.2 hs)

/-- A connected connection holds a socket. -/
theorem Holding.exists_socket (h : c.Holding) (hs : c.status.isConnected = true) :
    ∃ socket, c.socket = some socket := Option.isSome_iff_exists.1 (h.socket_iff.2 hs)

theorem Holding.socket_eq_none (h : c.Holding) (hs : c.status.isConnected = false) :
    c.socket = none := by
  have := h.socket_iff
  rw [hs] at this
  simpa using this

/-- A connection is free exactly in the status of that name. -/
theorem Published.isFree_iff (h : c.Published) : c.isFree = true ↔ c.status = .free := by
  have hb := h.isBusy_iff
  simp only [isFree, decide_eq_true_eq, Bool.not_eq_true']
  refine ⟨And.left, fun hs => ⟨hs, ?_⟩⟩
  simpa [hs, Status.isBusy] using hb

/-- A connection may connect again exactly when its failure lies back far enough. -/
theorem Published.isRetryEligible_iff (h : c.Published) (now : Instant) :
    c.isRetryEligible now = true ↔ c.status = .connectFailed ∧
      ∃ failure, c.failure = some failure ∧ c.config.retryInterval ≤ now.since failure.time := by
  unfold isRetryEligible
  cases hf : c.failure with
  | some failure => simp
  | none =>
      have hs : c.status ≠ .connectFailed := fun hs => by
        have := h.failure_isSome hs
        rw [hf] at this
        cases this
      simp [hs]

theorem sound_spawn (endpoint : Endpoint) (config : Config) (codec : FrameCodec)
    (name : Option String) : (spawn now endpoint config codec name).Sound where
  isBusy_iff := by simp [spawn, Status.isBusy]
  failure_isSome := nofun
  queue_eq_nil := nofun
  inFlight_iff := by simp [spawn, Status.isBusy]
  socket_iff := by simp [spawn, Status.isConnected]
  timed := nofun
  free_of_isProbing := nofun
  held h := absurd rfl h
  exiting_iff := by simp [spawn]
  fits := rfl
  isArmed := by simp [spawn, Timed, Status.isBusy]

/-! ### Turns that fire no signal -/

theorem verdict_fits (hs : c.status = .waiting) : c.verdict.Fits c := by
  obtain ⟨h, -⟩ | ⟨h, -⟩ | ⟨fault, h⟩ := c.verdict_cases <;> rw [h]
  · exact hs
  · exact hs
  · exact ⟨hs, nofun⟩

/-- The task may move to where it fits, and read its inbox. -/
theorem Sound.move (h : c.Sound) (he : c.position.error? = none) (position : Position)
    (hf : position.Fits c) (inbox : List Command) (waiters : List Waiter) :
    { c with position, inbox, waiters }.Sound :=
  { h.toHolding with
    fits := hf.congr rfl rfl
    isArmed := fun _ => h.isArmed he }

/-- The size of the block makes no difference. -/
theorem Sound.resize {block : ReceiveBlock} (h : c.Sound) (hb : block.held = c.block.held) :
    { c with block }.Sound :=
  { h.toHolding with
    held := fun hne => h.held fun hnil => hne (hb.trans hnil)
    fits := h.fits.congr rfl rfl
    isArmed := h.isArmed }

/-- While a probe is outstanding, bytes may be held. -/
theorem Sound.receive (h : c.Sound) (bytes : Bytes)
    (hs : c.status = .waiting ∨ c.keepAlive.isProbing = true) : (c.receive bytes).Sound :=
  { h.toHolding with
    held := fun _ => hs
    fits := h.fits.congr rfl rfl
    isArmed := h.isArmed }

/-- Activity is no matter to a task that goes on. -/
theorem Sound.touch (h : c.Sound) (he : c.position.error? = none) (now : Instant)
    (position : Position) (hf : position.Fits c) : { c.touch now with position }.Sound :=
  { h.toHolding with
    fits := hf.congr rfl rfl
    isArmed := fun _ => h.isArmed he }

/-- A task that is connected may be about to be stopped after an activity. -/
theorem Sound.touch_of_hasRoom (h : c.Sound) (he : c.position.error? = none)
    (hs : c.status.isConnected = true) (hroom : c.keepAlive.hasRoom now = false) :
    (c.touch now).Sound := by
  have hpos : { c.touch now with position := .overflowed } = c.touch now := by
    rw [← position_touch_of_hasRoom hroom]
  rw [← hpos]
  exact h.touch he now .overflowed hs

/-- When the next tick is due makes no difference. -/
theorem Sound.plan {keepAlive : KeepAlive} (h : c.Sound)
    (hk : keepAlive.isProbing = c.keepAlive.isProbing) : { c with keepAlive }.Sound :=
  { h.toHolding with
    free_of_isProbing := fun hk' => h.free_of_isProbing (hk.symm.trans hk')
    held := fun hb => (h.held hb).imp_right hk.trans
    fits := h.fits.congr rfl hk
    isArmed := h.isArmed }

/-- A task that has not run yet may be given its detector. -/
theorem Sound.start {keepAlive : KeepAlive} (h : c.Sound) (hp : c.position = .spawned)
    (hk : keepAlive.isProbing = false) : { c with keepAlive, position := .entering }.Sound := by
  have hs : c.status = .undefined := h.fits_at hp
  have hnot : c.keepAlive.isProbing = false := by
    simpa using mt h.free_of_isProbing (by rw [hs]; decide)
  exact (h.plan (hk.trans hnot.symm)).move (by rw [hp]; rfl) .entering trivial _ _

/-- An error may come up in a phase; a deadline that was due is not armed any more. -/
theorem Sound.fail {signal : Signal} {deadline : Deadline} (h : c.Sound)
    (herror : signal.error?.isSome = true) (hf : signal.Fits c)
    (hd : deadline = c.deadline ∨ deadline = c.deadline.cancel) :
    { c with deadline, position := .signalled signal }.Sound :=
  { h.toHolding with
    timed := fun ha => h.timed (by
      rcases hd with rfl | rfl
      · exact ha
      · cases ha)
    fits := hf.congr rfl rfl
    isArmed := fun he => by
      rw [show signal.error? = none from he] at herror
      cases herror }

/-- A probe may be answered while it is outstanding. -/
theorem Sound.answer (h : c.Sound) (hp : c.position = .parked .free) (hs : c.status = .free) :
    { c with keepAlive := c.keepAlive.clearProbe, block := c.block.reset }.Sound :=
  { h.toHolding with
    free_of_isProbing := nofun
    held := fun hb => absurd rfl hb
    fits := by
      change c.position.Fits _
      rw [hp]
      exact hs
    isArmed := fun _ => h.isArmed (by rw [hp]; rfl) }

theorem Sound.parkFree (h : c.Sound) (he : c.position.error? = none) (hs : c.status = .free) :
    c.parkFree.next.Sound := by
  obtain ⟨block, hb, heq⟩ := c.parkFree_eq
  rw [heq]
  exact (h.resize hb).move he (.parked .free) hs c.inbox c.waiters

/-- A probe is sent from a free connection, which holds no bytes then. -/
theorem Sound.completeProbe (h : c.Sound) (he : c.position.error? = none) (hs : c.status = .free)
    (keepAlive : KeepAlive) (probe : Bytes) (tick : Instant) :
    ({ c with keepAlive }.completeProbe probe tick).next.Sound := by
  obtain ⟨block, hb, heq⟩ := { c with keepAlive }.completeProbe_eq probe tick
  rw [heq]
  exact { h.toHolding with
    free_of_isProbing := fun _ => hs
    held := fun hne => absurd hb hne
    fits := hs
    isArmed := fun _ => h.isArmed he }

/-- A turn that fires no signal keeps the invariant. -/
theorem Sound.passing {p : Progress} (h : c.Sound) (hp : c.Passing now stimulus p) :
    p.next.Sound ∨ ∃ keepAlive, p = { c with keepAlive }.crash := by
  have hcalm (phase : Phase) (hp : c.position = .parked phase) : c.position.error? = none := by
    rw [hp]
    rfl
  have hentering (hp : c.position = .entering) : c.position.error? = none := by rw [hp]; rfl
  cases hp with
  | rests => exact .inl h
  | crashes keepAlive => exact .inr ⟨keepAlive, rfl⟩
  | starts keepAlive hp hk => exact .inl (h.start hp hk)
  | finishes hp hs =>
      exact .inl (h.move (hentering hp) (.finished) (hs.elim h.exiting_iff.1 id) [] [])
  | idles hp hs => exact .inl (h.move (hentering hp) (.parked .idle) hs _ _)
  | dials hp hs => exact .inl (h.move (hentering hp) (.parked (.connecting now)) hs _ _)
  | settles hp hs => exact .inl (h.parkFree (hentering hp) hs)
  | dispatches hp hs hk =>
      exact .inl (h.move (hentering hp) (.signalled .dispatch) ⟨hs, hk⟩ _ _)
  | writes w hp hs =>
      exact .inl (h.move (hentering hp) (.parked (.writing w.payload)) hs _ _)
  | awaits hp hs =>
      obtain ⟨block, hb, heq⟩ := c.makeRoom_eq
      rw [heq]
      exact .inl ((h.resize hb).move (hentering hp) (.parked .waiting) hs _ _)
  | swallows phase command hp =>
      exact .inl (h.move (hcalm phase hp) c.position h.fits _ _)
  | obeys phase command hp hi hf =>
      exact .inl (h.move (hcalm phase hp) (.signalled command.signal) hf _ _)
  | connects link since hst hp hs =>
      exact .inl (h.move (hcalm _ hp) (.signalled (.connected link _)) hs _ _)
  | plans phase keepAlive hp hk => exact .inl (h.plan hk)
  | fails signal deadline keepAlive notices herror hf hd hk =>
      exact .inl ((h.plan hk).fail herror (hf.congr rfl hk) hd)
  | sends unsent count hp hr =>
      have hs : c.status = .writing := h.fits_at hp
      exact .inl (h.move (hcalm _ hp) (.parked (.writing (unsent.drop count))) hs _ _)
  | sendsLast unsent count bytes hp hs hr =>
      exact .inl (h.move (hcalm _ hp) (.signalled (.written bytes)) hs _ _)
  | probes probe keepAlive tick expiry hp hs hk hk' =>
      exact .inl ((h.plan (hk'.trans hk.symm)).move (hcalm _ hp)
        (.parked (.probing probe probe tick expiry)) ⟨hs, hk'⟩ _ _)
  | probesOn probe unsent count tick expiry hp hr =>
      have hfits := h.fits_at hp
      exact .inl
        (h.move (hcalm _ hp) (.parked (.probing probe (unsent.drop count) tick expiry)) hfits _ _)
  | probesLast probe unsent count tick expiry hp hs hr =>
      exact .inl (h.completeProbe (hcalm _ hp) hs c.keepAlive probe tick)
  | probesAtOnce keepAlive tick hp hs hk hb =>
      exact .inl (h.completeProbe (hcalm _ hp) hs keepAlive [] tick)
  | answersPart bytes hst hp hs hk hv =>
      exact .inl ((h.receive bytes (.inr hk)).parkFree (hcalm _ hp) hs)
  | answers bytes hst hp hs hk hv =>
      exact .inl (((h.receive bytes (.inr hk)).answer hp hs).touch (hcalm _ hp) now
        (.signalled .again) ⟨hs, rfl⟩)
  | answersBeyond bytes hst hp hs hk hroom hv =>
      exact .inl (((h.receive bytes (.inr hk)).answer hp hs).touch_of_hasRoom (hcalm _ hp)
        (show c.status.isConnected = true by rw [hs]; rfl) hroom)
  | answersWrongly bytes hst hp hs hk =>
      exact .inl ((h.receive bytes (.inr hk)).fail rfl (.inl hs) (.inl rfl))
  | reads bytes hst hp hs =>
      exact .inl ((h.receive bytes (.inl hs)).touch (hcalm _ hp) now
        (.signalled (verdict _)) (verdict_fits hs))
  | readsBeyond bytes hst hp hs hroom =>
      exact .inl ((h.receive bytes (.inl hs)).touch_of_hasRoom (hcalm _ hp)
        (show c.status.isConnected = true by rw [hs]; rfl) hroom)

/-! ### Actions -/

section

variable {d : Connection}

/-- Every action leaves a task with an empty block and no probe outstanding; the rest is told by the
status. -/
theorem sound_of_status (hp : d.position.Fits d) (hb : d.isBusy = d.status.isBusy)
    (hi : d.inFlight.isSome = d.status.isBusy) (hsock : d.socket.isSome = d.status.isConnected)
    (hd : d.deadline.isArmed = true ↔ d.Timed) (hk : d.keepAlive.isProbing = false)
    (hh : d.block.held = []) (he : d.exiting = decide (d.status = .stopped))
    (hf : d.status = .connectFailed → d.failure.isSome = true)
    (hq : d.status = .stopped → d.queue = []) : d.Sound where
  isBusy_iff := by rw [hb]
  failure_isSome := hf
  queue_eq_nil := hq
  inFlight_iff := by rw [hi]
  socket_iff := by rw [hsock]
  timed := hd.1
  free_of_isProbing h := by
    rw [hk] at h
    cases h
  held h := absurd hh h
  exiting_iff := by rw [he, decide_eq_true_iff]
  fits := hp
  isArmed _ := hd.2

theorem sound_startConnect (hp : d.position = .entering) (hs : d.status = .connecting)
    (hb : d.isBusy = false) (hi : d.inFlight = none) (he : d.exiting = false) :
    (d.startConnect now).next.Sound := by
  apply sound_of_status
  · exact Position.fits_of_entering hp
  all_goals
    simp [startConnect, hs, hb, hi, he, Status.isBusy, Status.isConnected, Timed]

theorem sound_establish (hp : d.position = .entering) (link : Link) (took : Duration)
    (hs : d.status = .free) (hb : d.isBusy = false) (hi : d.inFlight = none)
    (he : d.exiting = false) (hk : d.keepAlive.isProbing = false) (hh : d.block.held = []) :
    (d.establish now link took).next.Sound := by
  apply sound_of_status
  · exact Position.fits_of_connected (position_touch_of_entering hp now)
      (show d.status.isConnected = true by rw [hs]; rfl)
  all_goals
    simp [establish, touch, hs, hb, hi, he, hk, hh, Status.isBusy, Status.isConnected, Timed]

theorem sound_beginWrite (hp : d.position = .entering ∨ d.position = .overflowed)
    (hs : d.status = .writing) (hq : d.queue ≠ []) (hsock : d.socket.isSome = true)
    (hk : d.keepAlive.isProbing = false) (he : d.exiting = false) : (d.beginWrite now).Sound := by
  obtain ⟨w, rest, hq⟩ := List.exists_cons_of_ne_nil hq
  cases hl : d.config.requestTimeout
  all_goals
    apply sound_of_status
    · refine Position.fits_of_connected (by simpa using hp) ?_
      simp [beginWrite, hq, hs, Status.isConnected]
    all_goals
      simp [beginWrite, hs, hq, hl, hsock, hk, he, Status.isBusy, Status.isConnected, Timed]

theorem sound_resolve (hp : d.position = .entering ∨ d.position = .overflowed)
    (response? : Option Nat) (hs : d.status = .free)
    (hsock : d.socket.isSome = true) (hk : d.keepAlive.isProbing = false)
    (he : d.exiting = false) : (d.resolve now response?).next.Sound := by
  cases hw : d.inFlight
  all_goals
    apply sound_of_status
    · refine Position.fits_of_connected (by simpa using hp) ?_
      simp [hs, Status.isConnected]
    all_goals
      simp [resolve, hw, hs, hsock, hk, he, Status.isBusy, Status.isConnected, Timed]

theorem sound_dropInFlight (hp : d.position = .entering ∨ d.position = .overflowed)
    (hs : d.status = .free) (hsock : d.socket.isSome = true) (hk : d.keepAlive.isProbing = false)
    (he : d.exiting = false) : d.dropInFlight.next.Sound := by
  apply sound_of_status
  · exact Position.fits_of_connected hp (show d.status.isConnected = true by rw [hs]; rfl)
  all_goals
    simp [dropInFlight, hs, hsock, hk, he, Status.isBusy, Status.isConnected, Timed]

theorem sound_handleFail (hp : d.position = .entering) (error : ConnectionError)
    (hs : d.status = .connectFailed) (he : d.exiting = false) :
    (d.handleFail now (some error)).next.Sound := by
  cases hw : d.inFlight
  all_goals
    apply sound_of_status
    · exact Position.fits_of_entering (by simpa using hp)
    all_goals
      simp [handleFail, failInFlight, hw, hs, he, Status.isBusy, Status.isConnected, Timed]

theorem sound_doClose (hp : d.position = .entering) (hs : d.status = .stopped) :
    d.doClose.next.Sound := by
  apply sound_of_status
  · exact Position.fits_of_entering hp
  all_goals
    simp [doClose, hs, Status.isBusy, Status.isConnected, Timed]

end

/-! ### Turns that fire a signal -/

theorem Holding.idle (h : c.Holding) (hs : c.status.isBusy = false) :
    c.isBusy = false ∧ c.inFlight = none := by
  have hb := h.isBusy_iff
  have hi := h.inFlight_iff
  rw [hs] at hb hi
  exact ⟨by simpa using hb, by simpa using hi⟩

theorem Holding.going (h : c.Holding) (hs : c.status ≠ .stopped) : c.exiting = false := by
  simpa [hs] using h.exiting_iff

theorem Holding.quiet (h : c.Holding) (hs : c.status ≠ .free) : c.keepAlive.isProbing = false := by
  simpa using mt h.free_of_isProbing hs

theorem Holding.empty (h : c.Holding) (hs : c.status ≠ .waiting)
    (hk : c.keepAlive.isProbing = false) : c.block.held = [] := by
  refine Decidable.byContradiction fun hne => ?_
  rcases h.held hne with hs' | hk'
  · exact hs hs'
  · rw [hk] at hk'
    cases hk'

/-- A turn that fires its signal keeps the invariant. -/
theorem Sound.firing {signal : Signal} {p : Progress} (h : c.Sound)
    (hp : c.position = .signalled signal) (hf : c.Firing now signal p) : p.next.Sound := by
  have hfits := h.fits
  have htimed := h.isArmed
  rw [hp] at hfits htimed
  cases hf with
  | rests hsignal =>
      refine h.move ?_ .entering trivial _ _
      rw [hp]
      rcases hsignal with rfl | ⟨rfl, -⟩ <;> rfl
  | readsOn hs =>
      rw [moveTo_of_eq (c := c.attend .incomplete) hs.symm]
      exact h.move (by rw [hp]; rfl) .entering trivial _ _
  | connects hs =>
      have hidle : c.status.isBusy = false := by rcases hs with hs | hs | hs <;> rw [hs] <;> rfl
      have hgoing : c.status ≠ .stopped := by rcases hs with hs | hs | hs <;> rw [hs] <;> decide
      obtain ⟨hb, hi⟩ := h.idle hidle
      rw [Progress.next_andThen, next_moveTo]
      exact sound_startConnect rfl rfl hb hi (h.going hgoing)
  | settles link took hs hq =>
      have hk := h.quiet (by rw [hs]; decide)
      obtain ⟨hb, hi⟩ := h.idle (by rw [hs]; rfl)
      rw [Progress.next_andThen, next_moveTo]
      exact sound_establish rfl link took rfl hb hi (h.going (by rw [hs]; decide)) hk
        (h.empty (by rw [hs]; decide) hk)
  | settlesBusy link took hs hq =>
      have hk := h.quiet (by rw [hs]; decide)
      rw [Progress.next_andThen, Progress.next_andThen, next_moveTo]
      exact sound_beginWrite (position_touch_of_entering rfl now) rfl hq rfl hk
        (h.going (by rw [hs]; decide))
  | dispatches hs hq =>
      have hsock : c.socket.isSome = true := h.socket_iff.2 (by rw [hs]; rfl)
      rw [Progress.next_andThen, next_moveTo]
      exact sound_beginWrite (.inl rfl) rfl hq hsock hfits.2 (h.going (by rw [hs]; decide))
  | awaits bytes hs he =>
      have hbusy : c.status.isBusy = true := by rw [hs]; rfl
      have hsock : c.socket.isSome = true := h.socket_iff.2 (by rw [hs]; rfl)
      have hd : c.deadline.isArmed = true ↔ c.Timed := ⟨h.timed, htimed rfl⟩
      rw [Progress.next_andThen, Progress.next_andThen, next_moveTo]
      refine sound_of_status ?_ (h.isBusy_iff.2 hbusy) (h.inFlight_iff.2 hbusy) hsock ?_ ?_ ?_ ?_ ?_
        ?_
      · exact Position.fits_of_connected (position_touch_of_entering rfl now) rfl
      · simpa [absorb, Connection.touch, attend, Timed, hs, Status.isBusy] using hd
      · exact h.quiet (by rw [hs]; decide)
      · rfl
      · exact h.going (by rw [hs]; decide)
      · intro hfailed
        cases hfailed
      · intro hstopped
        cases hstopped
  | delivers bytes hs he =>
      have hsock : c.socket.isSome = true := h.socket_iff.2 (by rw [hs]; rfl)
      rw [Progress.next_andThen, Progress.next_andThen, next_moveTo]
      exact sound_resolve (position_touch_of_entering rfl now) none rfl hsock
        (h.quiet (by rw [hs]; decide)) (h.going (by rw [hs]; decide))
  | drops bytes hs he =>
      have hsock : c.socket.isSome = true := h.socket_iff.2 (by rw [hs]; rfl)
      rw [Progress.next_andThen, Progress.next_andThen, next_moveTo]
      exact sound_dropInFlight (position_touch_of_entering rfl now) rfl hsock
        (h.quiet (by rw [hs]; decide)) (h.going (by rw [hs]; decide))
  | responds length hs =>
      have hsock : c.socket.isSome = true := h.socket_iff.2 (by rw [hs]; rfl)
      rw [Progress.next_andThen, next_moveTo]
      exact sound_resolve (.inl rfl) (some length) rfl hsock (h.quiet (by rw [hs]; decide))
        (h.going (by rw [hs]; decide))
  | fails _ error event herror hs =>
      have hgoing : c.status ≠ .stopped := by
        rintro hstop
        rw [hstop] at hs
        simp [Status.isBusy] at hs
      rw [Progress.next_andThen, next_moveTo]
      exact sound_handleFail rfl error rfl (h.going hgoing)
  | closes waiter hs =>
      rw [Progress.next_andThen, next_moveTo]
      exact sound_doClose rfl rfl

/-- A turn keeps the invariant, unless the task crashes. -/
theorem Sound.turn (h : c.Sound) (now : Instant) (stimulus : Stimulus) :
    (c.turn now stimulus).next.Sound ∨
      ∃ keepAlive, c.turn now stimulus = { c with keepAlive }.crash := by
  obtain ⟨-, hp⟩ | ⟨signal, hp, -, hf⟩ := turn_cases now stimulus (.inr h.fits)
  · exact h.passing hp
  · exact .inl (h.firing hp hf)

/-! ### Once the task has crashed -/

/-- What holds once the task has crashed. -/
structure Wrecked (c : Connection) : Prop extends Published c where
  /-- The task does nothing more. -/
  position_eq : c.position = .crashed
  /-- The write in flight was cancelled. -/
  inFlight_eq : c.inFlight = none

/-- The invariant of a connection at any time. -/
def Intact (c : Connection) : Prop := c.Sound ∨ c.Wrecked

theorem Intact.published (h : c.Intact) : c.Published :=
  h.elim (·.toPublished) (·.toPublished)

theorem Intact.sound (h : c.Intact) (hp : c.position ≠ .crashed) : c.Sound :=
  h.resolve_right fun h => hp h.position_eq

theorem Intact.fits (h : c.Intact) : c.position = .crashed ∨ c.position.Fits c :=
  h.symm.imp (·.position_eq) (·.fits)

/-- A stopped connection has no write in flight. -/
theorem Intact.inFlight_eq_none (h : c.Intact) (hs : c.status = .stopped) : c.inFlight = none := by
  rcases h with h | h
  · exact (h.idle (by rw [hs]; rfl)).2
  · exact h.inFlight_eq

theorem wrecked_crash (h : c.Published) : c.crash.next.Wrecked := by
  rw [next_crash]
  exact { h with
    queue_eq_nil := fun hs => by
      simp only [h.queue_eq_nil hs, ite_self]
    position_eq := rfl
    inFlight_eq := rfl }

theorem Wrecked.turn_eq (h : c.Wrecked) (now : Instant) (stimulus : Stimulus) :
    c.turn now stimulus = ⟨c, []⟩ := by
  unfold Connection.turn
  rw [h.position_eq]

/-- **A turn keeps the invariant**, whatever happens. -/
theorem Intact.turn (h : c.Intact) (now : Instant) (stimulus : Stimulus) :
    (c.turn now stimulus).next.Intact := by
  rcases h with h | h
  · rcases h.turn now stimulus with hnext | ⟨keepAlive, hcrash⟩
    · exact .inl hnext
    · rw [hcrash]
      exact .inr (wrecked_crash { h.toPublished with })
  · rw [h.turn_eq]
    exact .inr h

/-! ### The owner -/

/-- A change that the invariant does not see. -/
theorem Intact.congr {inbox : List Command} {isHeld : Bool} {counters : Counters}
    {codec : FrameCodec} (h : c.Intact) : { c with inbox, isHeld, counters, codec }.Intact := by
  rcases h with h | h
  · exact .inl { h.toHolding with
      fits := h.fits.congr rfl rfl
      isArmed := h.isArmed }
  · exact .inr { h with }

/-- The queue may change while the connection is not stopped, and become empty at any time. -/
theorem Intact.requeue {queue : List PendingWrite} (h : c.Intact)
    (hq : c.status = .stopped → queue = []) : { c with queue }.Intact := by
  rcases h with h | h
  · exact .inl { h.toHolding with
      queue_eq_nil := hq
      fits := h.fits.congr rfl rfl
      isArmed := h.isArmed }
  · exact .inr { h with queue_eq_nil := hq }

theorem Intact.push {d : Connection} {w : PendingWrite} (h : c.Intact) (hd : c.push? w = some d) :
    d.Intact := by
  unfold push? at hd
  split at hd
  · cases hd
  next hs =>
    cases hd
    exact h.requeue fun hs' => absurd hs' hs

theorem Intact.post (h : c.Intact) (command : Command) : (c.post command).next.Intact := by
  unfold Connection.post
  split
  · exact h
  · exact h.congr

theorem Intact.close (h : c.Intact) (waiter : Waiter) : (c.close waiter).next.Intact := by
  unfold Connection.close
  split
  · exact h
  · exact h.congr

theorem Intact.letGo (h : c.Intact) : c.letGo.next.Intact := by
  have hgone : { c with isHeld := false }.Intact := h.congr
  obtain ⟨-, heq⟩ | ⟨-, asked, -, heq⟩ := c.letGo_cases <;> rw [heq]
  · exact hgone.requeue fun _ => rfl
  · exact hgone.congr

end Connection

end Uplink

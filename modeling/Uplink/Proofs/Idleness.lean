/-
Why a connection is failed for idleness.

A turn that fails the connection because it has been idle comes right after one that found it idle
for too long.  What that turn found is told by the detector: by its next tick, and by the tick of a
probe that is outstanding.  Both belong to the socket that is there.  A probe was begun on it, and
the ticks are counted anew once there is a socket.

* `Uplink.Scene.turns` — the turns of a run;
* `Uplink.Turn.expires` — the turn fails the connection because it has been idle;
* `Uplink.Turn.establishes` — the turn takes a fresh socket;
* `Uplink.Turn.Answered` — the turn reads the answer to a probe;
* `Uplink.ProbedSince` — a probe was begun, and has been sent or outstanding ever since;
* `Uplink.Watched` — what the turns so far tell of the detector;
* `Uplink.Scene.Spent` — the sockets that were idle for too long are not used any more.

Main result: `Uplink.Scene.idle_failures_deserved`.
-/

import Uplink.Proofs.Attribution
import Uplink.Proofs.Parcels
import Uplink.Proofs.IdleDetection

set_option relaxedAutoImplicit false
set_option autoImplicit false

namespace Uplink

/-! ### What a turn is -/

namespace Turn

/-- The turn fails the connection because it has been idle. -/
def expires (t : Turn) : Bool := t.progress.effects.any fun
  | .moved _ _ .idleTimeout => true
  | _ => false

/-- The turn takes a fresh socket. -/
def establishes (t : Turn) : Bool :=
  match t.connection.position with
  | .signalled (.connected _ _) => true
  | _ => false

/-- The turn reads the answer to a probe. -/
def Answered (t : Turn) : Prop :=
  t.connection.position = .parked .free ∧ t.connection.keepAlive.isProbing = true ∧
    ∃ bytes, t.stimulus = .received bytes ∧ bytes.take t.connection.block.room ≠ [] ∧
      let held := (t.connection.receive (bytes.take t.connection.block.room)).block.held
      t.connection.codec.check held = .complete held.length

end Turn

namespace Connection

variable {c : Connection} {now tick : Instant} {stimulus : Stimulus}

/-! ### Failing for idleness -/

/-- Only a change of the status tells that the connection has been idle. -/
theorem not_moved_of_changes {p : Progress} (h : p.changes = []) (source target : Status)
    (event : Event) : Effect.moved source target event ∉ p.effects := by
  intro hmem
  have hnone := List.filterMap_eq_nil_iff.1 h _ hmem
  cases hnone

theorem changes_absorb (signal : Signal) : (c.absorb now signal).changes = [] := by
  cases signal <;> first | rfl | exact changes_establish ..

theorem changes_perform (action : Action) (signal : Signal) :
    (c.perform now action signal).changes = [] := by
  cases action with
  | resolve =>
      rw [perform]
      split <;> simp
  | _ => simp [perform]

/-- Only the signal of a connection that has been idle leads to that event. -/
theorem idle_of_moved {signal : Signal} {source target : Status}
    (h : Effect.moved source target .idleTimeout ∈ (c.fire now signal).effects) :
    ∃ span, signal = .idle span := by
  unfold fire at h
  simp only at h
  split at h
  · cases h
  next event he =>
    split at h
    next => exact absurd h (not_moved_of_changes rfl _ _ _)
    next step _ =>
      simp only [Progress.effects_andThen, List.mem_append] at h
      rcases h with (h | h) | h
      · unfold moveTo at h
        split at h
        · cases h
        · simp only [List.mem_cons, Effect.moved.injEq, reduceCtorEq, List.not_mem_nil,
            or_false] at h
          obtain ⟨-, -, rfl⟩ := h
          cases signal with
          | idle span => exact ⟨span, rfl⟩
          | dispatch =>
              simp only [eventOf?] at he
              split at he <;> cases he
          | _ => cases he
      · exact absurd h (not_moved_of_changes (changes_absorb signal) _ _ _)
      · exact absurd h (not_moved_of_changes (changes_perform _ signal) _ _ _)

/-! ### While a probe is sent or outstanding -/

theorem Sound.free_of_probe? (h : c.Sound) (hk : c.probe? = some tick) : c.status = .free := by
  unfold probe? at hk
  split at hk
  next hp => exact (h.fits_at hp).1
  next => exact h.free_of_isProbing (by rw [KeepAlive.isProbing, hk]; rfl)

/-- A turn that fires no signal leaves the socket there, unless the task crashes; then there is no
probe any more. -/
theorem Passing.socket_eq_or {p : Progress} (hp : c.Passing now stimulus p) :
    p.next.socket = c.socket ∨ p.next.probe? = none := by
  rcases hp.contained with hcontained | ⟨keepAlive, rfl⟩
  · exact .inl (by rw [hcontained.next_eq])
  · exact .inr (by rw [next_crash]; rfl)

/-- A signal that is fired while a probe is outstanding gives up the socket, and the probe. -/
theorem Firing.of_probing {signal : Signal} {p : Progress} (hf : c.Firing now signal p)
    (hfits : signal.Fits c) (hs : c.status = .free) (hk : c.keepAlive.isProbing = true)
    (hflight : c.inFlight = none) : p.next.inFlight = none ∧ p.next.probe? = none := by
  have hne (status : Status) (hs' : c.status = status) (hneq : status ≠ .free) : False :=
    hneq (hs'.symm.trans hs)
  have hquiet (hq : c.keepAlive.isProbing = false) : False := by
    rw [hk] at hq
    cases hq
  cases hf with
  | rests hr => rcases hr with rfl | ⟨rfl, -⟩ <;> exact (hquiet hfits.2).elim
  | dispatches => exact (hquiet hfits.2).elim
  | readsOn hs' => exact (hne _ hs' nofun).elim
  | settles _ _ hs' => exact (hne _ hs' nofun).elim
  | settlesBusy _ _ hs' => exact (hne _ hs' nofun).elim
  | awaits _ hs' => exact (hne _ hs' nofun).elim
  | delivers _ hs' => exact (hne _ hs' nofun).elim
  | drops _ hs' => exact (hne _ hs' nofun).elim
  | responds _ hs' => exact (hne _ hs' nofun).elim
  | connects =>
      rw [Progress.next_andThen, next_moveTo]
      exact ⟨hflight, rfl⟩
  | fails =>
      refine ⟨inFlight_handleFail _ _ _, ?_⟩
      simp [probe?, next_moveTo, attend, KeepAlive.clearProbe]
  | closes =>
      rw [Progress.next_andThen, next_moveTo]
      exact ⟨rfl, rfl⟩

/-- **While a probe is sent or outstanding, no write is in flight, and none is dispatched.**  The
socket stays as long as the probe does. -/
theorem Intact.turn_probing (h : c.Intact) (hk : c.probe? = some tick) (now : Instant)
    (stimulus : Stimulus) : c.inFlight = none ∧ (c.turn now stimulus).next.inFlight = none ∧
      ((c.turn now stimulus).next.socket = c.socket ∨
        (c.turn now stimulus).next.probe? = none) := by
  rcases h with h | h
  · have hs := h.free_of_probe? hk
    have hflight := (h.idle (by rw [hs]; rfl)).2
    obtain ⟨-, hp⟩ | ⟨signal, hp, hfits, hf⟩ := turn_cases now stimulus (.inr h.fits)
    · refine ⟨hflight, ?_, hp.socket_eq_or⟩
      rcases hp.calm with hcalm | ⟨keepAlive, heq⟩
      · rw [hcalm.inFlight_eq, hflight]
      · rw [heq, next_crash]
    · have hprobing : c.keepAlive.isProbing = true := by
        simp only [probe?, hp] at hk
        rw [KeepAlive.isProbing, hk]
        rfl
      obtain ⟨hnone, hend⟩ := hf.of_probing hfits hs hprobing hflight
      exact ⟨hflight, hnone, .inr hend⟩
  · rw [h.turn_eq]
    exact ⟨h.inFlight_eq, h.inFlight_eq, .inl rfl⟩

/-- A probe belongs to the socket that is there. -/
theorem Intact.socket_eq_of_probe? (h : c.Intact) (ht : c.Tuned)
    (hk : (c.turn now stimulus).next.probe? = some tick) :
    (c.turn now stimulus).next.socket = c.socket := by
  rcases (Turn.idleStep ⟨c, now, stimulus⟩ h ht).probe tick hk with hold | hb
  · refine (h.turn_probing hold now stimulus).2.2.resolve_right fun hnone => ?_
    rw [hnone] at hk
    cases hk
  · have hp : c.position = .parked .free := hb.position_eq
    have hs := h.sound (by rw [hp]; nofun)
    obtain ⟨-, hpassing⟩ | ⟨signal, hp', -⟩ := turn_cases now stimulus (.inr hs.fits)
    · refine hpassing.socket_eq_or.resolve_right fun hnone => ?_
      rw [hnone] at hk
      cases hk
    · rw [hp] at hp'
      cases hp'

/-- Who is about to fail the connection for idleness has left its status and its socket alone. -/
theorem Intact.eq_of_idle {span : Duration} (h : c.Intact)
    (hp : (c.turn now stimulus).next.position = .signalled (.idle span)) :
    (c.turn now stimulus).next.status = c.status ∧
      (c.turn now stimulus).next.socket = c.socket := by
  obtain ⟨-, hpassing⟩ | ⟨signal, -, -, hf⟩ := turn_cases now stimulus h.fits
  · rcases hpassing.contained with hcontained | ⟨keepAlive, hcrash⟩
    · rw [hcontained.next_eq]
      exact ⟨rfl, rfl⟩
    · rw [hcrash, next_crash] at hp
      cases hp
  · exact absurd hp hf.position_ne

/-- Once there is a socket, the next tick is an interval away. -/
theorem Firing.due_eq {link : Link} {took : Duration} {p : Progress}
    (hf : c.Firing now (.connected link took) p) :
    p.next.keepAlive.due = now.after c.keepAlive.interval := by
  cases hf with
  | settles =>
      rw [Progress.next_andThen, next_moveTo]
      rfl
  | settlesBusy =>
      rw [Progress.next_andThen, keepAlive_beginWrite, Progress.next_andThen, next_moveTo]
      rfl
  | fails _ _ _ herror => cases herror
  | rests hr => rcases hr with hr | ⟨hr, -⟩ <;> cases hr

/-! ### Sockets that are used -/

/-- The socket is there, or about to be. -/
def Uses (c : Connection) (socket : SocketId) : Prop :=
  c.socket = some socket ∨ c.live? = some socket

/-- A turn leaves the socket there, or gives it up, or takes a fresh one. -/
theorem Intact.socket_turn (h : c.Intact) (now : Instant) (stimulus : Stimulus) :
    (c.turn now stimulus).next.socket = c.socket ∨ (c.turn now stimulus).next.socket = none ∨
      (c.turn now stimulus).next.socket = c.live? := by
  obtain ⟨-, hp⟩ | ⟨signal, hpos, -, hf⟩ := turn_cases now stimulus h.fits
  · rcases hp.contained with hcontained | ⟨keepAlive, hcrash⟩
    · exact .inl (by rw [hcontained.next_eq])
    · exact .inr (.inl (by rw [hcrash, next_crash]))
  · generalize c.turn now stimulus = p at hf
    cases hf with
    | rests => exact .inl rfl
    | settles | settlesBusy =>
        refine .inr (.inr ?_)
        simp [live?, hpos, next_moveTo, establish, touch, attend]
    | connects | closes =>
        refine .inr (.inl ?_)
        rw [Progress.next_andThen, next_moveTo]
        rfl
    | fails => exact .inr (.inl (socket_handleFail _ _ _))
    | _ => exact .inl (by simp [next_moveTo, attend, absorb, touch, dropInFlight])

/-- A socket that is used was used before, or is fresh. -/
theorem Intact.uses_turn {socket : SocketId} (h : c.Intact) (now : Instant) (stimulus : Stimulus)
    (hu : (c.turn now stimulus).next.Uses socket) :
    c.Uses socket ∨ socket ∈ stimulus.sockets := by
  rcases hu with hsocket | hlive
  · rcases h.socket_turn now stimulus with heq | heq | heq
    · exact .inl (.inl (heq.symm.trans hsocket))
    · cases heq.symm.trans hsocket
    · exact .inl (.inr (heq.symm.trans hsocket))
  · cases h.sending now stimulus with
    | keeps hl => exact .inl (.inr (hl.symm.trans hlive))
    | parts hl => cases hl.symm.trans hlive
    | dials link hst hl =>
        cases hl.symm.trans hlive
        exact .inr (by rw [hst]; exact List.mem_singleton_self _)
    | begins _ _ _ hl hl' => exact .inl (.inr (hl.trans (hl'.symm.trans hlive)))
    | sends _ _ _ hl hl' => exact .inl (.inr (hl.trans (hl'.symm.trans hlive)))

/-- A connection that is failed for idleness has a socket, and uses none afterwards. -/
theorem Intact.not_uses_of_idle {span : Duration} (h : c.Intact)
    (hp : c.position = .signalled (.idle span)) (now : Instant) (stimulus : Stimulus) :
    c.socket.isSome = true ∧ ∀ socket, ¬(c.turn now stimulus).next.Uses socket := by
  have hs := h.sound (by rw [hp]; nofun)
  refine ⟨hs.socket_iff.2 ?_, fun socket hu => ?_⟩
  · rcases hs.fits_at hp with hfree | hbusy
    · rw [hfree]
      rfl
    · cases hc : c.status <;> rw [hc] at hbusy <;> first | rfl | cases hbusy
  · obtain ⟨hn, -⟩ | ⟨signal, hp', -, hf⟩ := turn_cases now stimulus (.inr hs.fits)
    · rw [hp] at hn
      cases hn
    · rw [hp] at hp'
      cases hp'
      have hnone : (c.turn now stimulus).next.socket = none := by
        generalize c.turn now stimulus = p at hf
        cases hf with
        | fails => exact socket_handleFail _ _ _
        | rests hr => rcases hr with hr | ⟨hr, -⟩ <;> cases hr
      have hlive := hf.live?_eq.trans hnone
      rcases hu with hu | hu
      · cases hnone.symm.trans hu
      · cases hlive.symm.trans hu

end Connection

namespace Turn

/-- Only a connection that was found idle is failed for it. -/
theorem idle_of_expires {t : Turn} (h : t.connection.Intact) (he : t.expires = true) :
    ∃ span, t.connection.position = .signalled (.idle span) := by
  obtain ⟨effect, hmem, heffect⟩ := List.any_eq_true.1 he
  obtain ⟨source, target, rfl⟩ : ∃ source target, effect = .moved source target .idleTimeout := by
    split at heffect
    · exact ⟨_, _, rfl⟩
    · cases heffect
  unfold progress at hmem
  obtain ⟨-, hp⟩ | ⟨signal, hp, -, -⟩ := Connection.turn_cases t.now t.stimulus h.fits
  · exact absurd hmem (Connection.not_moved_of_changes hp.settled.changes_eq _ _ _)
  · rw [Connection.turn, hp] at hmem
    obtain ⟨span, rfl⟩ := Connection.idle_of_moved hmem
    exact ⟨span, hp⟩

/-- A probe that is answered is not outstanding any more. -/
theorem probe?_of_answered {t : Turn} (ha : t.Answered) : t.progress.next.probe? = none := by
  obtain ⟨hp, hk, bytes, hst, hbytes, hcheck⟩ := ha
  have hcomplete : (t.connection.receive (bytes.take t.connection.block.room)).codec.check
      (t.connection.receive (bytes.take t.connection.block.room)).block.held = .complete
        (t.connection.receive (bytes.take t.connection.block.room)).block.held.length := hcheck
  unfold progress
  rw [Connection.turn, hp, hst]
  simp only [Connection.observe, Connection.observeFree, hk, if_true, Connection.observeAnswer,
    if_neg hbytes, hcomplete]
  have hp' : (t.connection.receive (bytes.take t.connection.block.room)).position = .parked .free :=
    hp
  rcases Connection.endProbe_cases hp' t.now with heq | ⟨hroom, heq⟩
  · rw [Progress.next_andThen, Connection.next_say, heq]
    rfl
  · rw [Progress.next_andThen, Connection.next_say, heq, Connection.probe?,
      Connection.position_endProbe_of_hasRoom hroom]
    rfl

end Turn

/-! ### What the turns of a run tell -/

/-- The last of the turns that began a probe did so at the tick, over the socket, and the probe has
been sent or outstanding ever since. -/
def ProbedSince (turns : List Turn) (socket : Option SocketId) (tick : Instant) : Prop :=
  ∃ earlier cause later, turns = earlier ++ cause :: later ∧ cause.Begins tick ∧
    cause.connection.socket = socket ∧ ∀ t ∈ later, t.connection.probe? = some tick

/-- The sockets that were idle for too long. -/
def idled (turns : List Turn) : List SocketId :=
  (turns.filter Turn.expires).flatMap (·.connection.socket.toList)

/-- What the turns so far tell of the detector. -/
structure Watched (config : Config) (turns : List Turn) (c : Connection) : Prop where
  intact : c.Intact
  config_eq : c.config = config
  tuned : c.Tuned
  /-- A probe that is sent or outstanding was begun. -/
  probe : ∀ tick, c.probe? = some tick → ProbedSince turns c.socket tick
  /-- A connection that is about to be failed for idleness was found idle for too long. -/
  idle : ∀ span, c.position = .signalled (.idle span) → ∃ cause, turns.getLast? = some cause ∧
    cause.connection.socket = c.socket ∧ cause.Condemns c.status
  /-- The next tick is an interval away from the latest connect at least. -/
  due : (turns.map (·.now)).Pairwise (· ≤ ·) → ∀ t ∈ turns, t.establishes = true →
    t.now.after config.detectionInterval ≤ c.keepAlive.due

section

variable {config : Config} {turns : List Turn} {c d : Connection}

/-- Others leave alone what the turns tell of. -/
theorem Watched.congr (h : Watched config turns c) (hi : d.Intact) (hc : d.config = c.config)
    (hk : d.keepAlive = c.keepAlive) (hp : d.position = c.position) (hs : d.status = c.status)
    (hsocket : d.socket = c.socket) : Watched config turns d where
  intact := hi
  config_eq := hc.trans h.config_eq
  tuned := ⟨by rw [hk, hc, h.tuned.idleTime_eq], by rw [hk, hc, h.tuned.interval_eq]⟩
  probe tick hd := by
    rw [hsocket]
    refine h.probe tick ?_
    rw [← hd, Connection.probe?, Connection.probe?, hp, hk]
  idle span hspan := by
    rw [hsocket, hs]
    exact h.idle span (hp.symm.trans hspan)
  due := by
    rw [hk]
    exact h.due

/-- A turn goes on with a probe, or begins one. -/
theorem probedSince_turn (h : Watched config turns c) (now : Instant) (stimulus : Stimulus)
    {tick : Instant} (hk : (c.turn now stimulus).next.probe? = some tick) :
    ProbedSince (turns ++ [Turn.mk c now stimulus]) (c.turn now stimulus).next.socket tick := by
  have hv := Turn.idleStep ⟨c, now, stimulus⟩ h.intact h.tuned
  rw [h.intact.socket_eq_of_probe? h.tuned hk]
  rcases hv.probe tick hk with hold | hb
  · obtain ⟨earlier, cause, later, rfl, hcause, hsocket, hlater⟩ := h.probe tick hold
    refine ⟨earlier, cause, later ++ [Turn.mk c now stimulus], by simp, hcause, hsocket,
      fun t ht => ?_⟩
    rcases List.mem_append.1 ht with ht | ht
    · exact hlater t ht
    · rw [List.mem_singleton.1 ht]
      exact hold
  · refine ⟨turns, ⟨c, now, stimulus⟩, [], rfl, hb, rfl, fun t ht => ?_⟩
    exact absurd ht List.not_mem_nil

/-- The next tick only moves on, and a connect moves it on by a whole interval. -/
theorem due_turn (h : Watched config turns c) (now : Instant) (stimulus : Stimulus)
    (hsorted : ((turns ++ [Turn.mk c now stimulus]).map Turn.now).Pairwise (· ≤ ·)) :
    ∀ t ∈ turns ++ [Turn.mk c now stimulus], t.establishes = true →
      t.now.after config.detectionInterval ≤ (c.turn now stimulus).next.keepAlive.due := by
  have hv := Turn.idleStep ⟨c, now, stimulus⟩ h.intact h.tuned
  have hinterval : c.keepAlive.interval = config.detectionInterval := by
    rw [h.tuned.interval_eq, h.config_eq]
  rw [List.map_append, List.pairwise_append] at hsorted
  obtain ⟨hold, -, hnow⟩ := hsorted
  intro t ht he
  rcases List.mem_append.1 ht with ht | ht
  · have hdue := h.due hold t ht he
    have hle : t.now ≤ now := hnow t.now (List.mem_map_of_mem ht) now (by simp)
    rcases hv.goes.due with heq | heq | ⟨-, heq⟩
    · rw [show (c.turn now stimulus).next.keepAlive.due = _ from heq]
      exact hdue
    · rw [show (c.turn now stimulus).next.keepAlive.due = _ from heq, hinterval]
      exact Nat.add_le_add_right hle _
    · rw [show (c.turn now stimulus).next.keepAlive.due = _ from heq]
      exact Nat.le_trans hdue (Nat.le_add_right _ _)
  · obtain rfl := List.mem_singleton.1 ht
    unfold Turn.establishes at he
    split at he
    next link took hp =>
      obtain ⟨hn, -⟩ | ⟨signal, hp', -, hf⟩ := Connection.turn_cases now stimulus h.intact.fits
      · rw [hp] at hn
        cases hn
      · rw [hp] at hp'
        cases hp'
        rw [hf.due_eq, hinterval]
        exact Nat.le_refl _
    next => cases he

/-- **A turn keeps what the turns tell.** -/
theorem Watched.turn (h : Watched config turns c) (now : Instant) (stimulus : Stimulus) :
    Watched config (turns ++ [Turn.mk c now stimulus]) (c.turn now stimulus).next := by
  have hv := Turn.idleStep ⟨c, now, stimulus⟩ h.intact h.tuned
  refine ⟨h.intact.turn now stimulus, hv.config_eq.trans h.config_eq, h.tuned.idleStep hv,
    fun tick => probedSince_turn h now stimulus, fun span hspan => ?_, due_turn h now stimulus⟩
  obtain ⟨hs, hsocket⟩ := h.intact.eq_of_idle hspan
  rw [hs, hsocket]
  exact ⟨_, by simp, rfl, hv.idle span hspan⟩

end

namespace Scene

variable {s t : Scene}

/-- The turn that the task makes. -/
def taken (s : Scene) : Move → List Turn
  | .turn now stimulus => [⟨s.connection, now, stimulus⟩]
  | _ => []

/-- The turns of a run. -/
def turns (s : Scene) (moves : List Move) : List Turn := s.record taken moves

theorem turns_concat_turn {moves : List Move} {now : Instant} {stimulus : Stimulus}
    (ha : (s.run moves).Allows (.turn now stimulus)) : s.turns (moves ++ [.turn now stimulus]) =
      s.turns moves ++ [⟨(s.run moves).connection, now, stimulus⟩] := by
  rw [turns, record_concat, if_pos ha]
  rfl

theorem turns_concat_of_not_allows {moves : List Move} {move : Move}
    (ha : ¬(s.run moves).Allows move) : s.turns (moves ++ [move]) = s.turns moves :=
  record_concat_of_not_allows ha

theorem turns_concat_of_ne {moves : List Move} {move : Move}
    (hturn : ∀ now stimulus, move ≠ .turn now stimulus) :
    s.turns (moves ++ [move]) = s.turns moves := by
  have hnone : taken (s.run moves) move = [] := by
    cases move with
    | turn now stimulus => exact absurd rfl (hturn now stimulus)
    | _ => rfl
  rw [turns, record_concat, hnone, ite_self, List.append_nil]
  rfl

/-- A move of others leaves the connection alike, but for the rule for the end of a frame. -/
theorem alike_step {move : Move} (hturn : ∀ now stimulus, move ≠ .turn now stimulus) :
    ∃ codec, Connection.Alike { s.connection with codec } (s.step move).connection := by
  have hsame {d : Connection} (h : s.connection.Alike d) :
      ∃ codec, Connection.Alike { s.connection with codec } d := ⟨_, h⟩
  cases move with
  | turn now stimulus => exact absurd rfl (hturn now stimulus)
  | recode codec => exact ⟨codec, .refl _⟩
  | push w => exact hsame (s.beside_submit w).alike
  | _ => exact hsame (s.beside_step hturn nofun nofun).alike

/-- A move of others leaves the detector alone. -/
theorem keepAlive_step {move : Move} (hturn : ∀ now stimulus, move ≠ .turn now stimulus) :
    (s.step move).connection.keepAlive = s.connection.keepAlive ∧
      (s.step move).connection.config = s.connection.config := by
  obtain ⟨codec, h⟩ := alike_step (s := s) hturn
  exact ⟨h.keepAlive_eq, h.config_eq⟩

/-- The detector is set as configured. -/
theorem Reachable.tuned (h : s.Reachable) : s.connection.Tuned := by
  induction h with
  | start now endpoint config codec name =>
      exact Connection.tuned_spawn now endpoint config codec name
  | @step s hr move ih =>
      rcases s.turn_or_apart move with ⟨now, stimulus, rfl⟩ | ⟨hturn, -⟩
      · by_cases ha : s.Allows (.turn now stimulus)
        · rw [step_turn ha]
          exact ih.idleStep (Turn.idleStep ⟨s.connection, now, stimulus⟩ hr.intact ih)
        · rw [step_of_not_allows ha]
          exact ih
      · obtain ⟨hk, hc⟩ := s.keepAlive_step hturn
        exact ⟨by rw [hk, hc, ih.idleTime_eq], by rw [hk, hc, ih.interval_eq]⟩

/-! ### Sockets that were idle for too long -/

/-- The sockets that were idle for too long are not used any more. -/
structure Spent (turns : List Turn) (s : Scene) : Prop where
  /-- None of them was so twice. -/
  nodup : (idled turns).Nodup
  known : ∀ socket ∈ idled turns, socket ∈ s.sockets
  used : ∀ socket, s.connection.Uses socket → socket ∈ s.sockets ∧ socket ∉ idled turns

theorem Spent.apart {turns : List Turn} (h : Spent turns s) (hapart : Apart s t) :
    Spent turns t where
  nodup := h.nodup
  known := by
    rw [hapart.sockets_eq]
    exact h.known
  used socket hu := by
    rw [hapart.sockets_eq]
    refine h.used socket ?_
    simpa only [Connection.Uses, Connection.live?, hapart.position_eq, hapart.socket_eq] using hu

/-- A socket that is idle for too long is one that is used, and is not used any more. -/
theorem spent_turn {turns : List Turn} {now : Instant} {stimulus : Stimulus} (h : Spent turns s)
    (hi : s.connection.Intact) (ha : s.Allows (.turn now stimulus)) :
    Spent (turns ++ [⟨s.connection, now, stimulus⟩]) (s.turn now stimulus) := by
  have hidled : idled (turns ++ [⟨s.connection, now, stimulus⟩]) = idled turns ++
      if (Turn.mk s.connection now stimulus).expires then s.connection.socket.toList else [] := by
    rw [idled, List.filter_append, List.flatMap_append]
    cases he : (Turn.mk s.connection now stimulus).expires <;> simp [idled, he]
  have hgrow (socket : SocketId) (hmem : socket ∈ s.sockets) :
      socket ∈ (s.turn now stimulus).sockets := List.mem_append_left _ hmem
  cases he : (Turn.mk s.connection now stimulus).expires with
  | false =>
      rw [he, if_neg (by simp), List.append_nil] at hidled
      refine ⟨hidled ▸ h.nodup, fun socket hmem => ?_, fun socket hu => ?_⟩
      · rw [hidled] at hmem
        exact hgrow socket (h.known socket hmem)
      · rw [hidled]
        rcases hi.uses_turn now stimulus hu with hu | hfresh
        · exact ⟨hgrow socket (h.used socket hu).1, (h.used socket hu).2⟩
        · exact ⟨List.mem_append_right _ hfresh,
            fun hmem => ha socket hfresh (h.known socket hmem)⟩
  | true =>
      obtain ⟨span, hp⟩ := Turn.idle_of_expires hi he
      obtain ⟨hsome, hnone⟩ := hi.not_uses_of_idle hp now stimulus
      obtain ⟨socket, hsocket⟩ := Option.isSome_iff_exists.1 hsome
      obtain ⟨hknown, hfresh⟩ := h.used socket (.inl hsocket)
      rw [he, if_pos rfl, hsocket, Option.toList_some] at hidled
      refine ⟨?_, fun other hmem => ?_, fun other hu => absurd hu (hnone other)⟩
      · rw [hidled]
        simpa only [List.concat_eq_append] using h.nodup.concat hfresh
      · rw [hidled] at hmem
        rcases List.mem_append.1 hmem with hmem | hmem
        · exact hgrow other (h.known other hmem)
        · rw [List.mem_singleton.1 hmem]
          exact hgrow socket hknown

/-! ### Every run -/

/-- What a run has come to. -/
structure IdleHistory (config : Config) (turns : List Turn) (s : Scene) : Prop where
  spent : Spent turns s
  watched : Watched config turns s.connection
  /-- So it was before each turn. -/
  before : ∀ earlier t later, turns = earlier ++ t :: later → Watched config earlier t.connection

theorem idleHistory_turn {config : Config} {turns : List Turn} {now : Instant} {stimulus : Stimulus}
    (h : IdleHistory config turns s) (ha : s.Allows (.turn now stimulus)) :
    IdleHistory config (turns ++ [⟨s.connection, now, stimulus⟩]) (s.turn now stimulus) where
  spent := spent_turn h.spent h.watched.intact ha
  watched := h.watched.turn now stimulus
  before earlier t later heq := by
    -- The last turn found the scene as it is; the others are as before.
    rcases List.eq_nil_or_concat later with rfl | ⟨rest, last, rfl⟩
    · obtain ⟨rfl, hlast⟩ := List.append_inj' heq rfl
      cases hlast
      exact h.watched
    · rw [List.concat_eq_append, ← List.cons_append, ← List.append_assoc] at heq
      obtain ⟨heq, -⟩ := List.append_inj' heq rfl
      exact h.before earlier t rest heq

theorem idleHistory_run (now : Instant) (endpoint : Endpoint) (config : Config) (codec : FrameCodec)
    (name : Option String) (moves : List Move) :
    IdleHistory config ((start now endpoint config codec name).turns moves)
      ((start now endpoint config codec name).run moves) := by
  generalize hfirst : start now endpoint config codec name = first
  have hr : first.Reachable := hfirst ▸ .start now endpoint config codec name
  refine run_induction (P := fun moves s => IdleHistory config (first.turns moves) s) hr ?_
    (fun moves move ha h => ?_) (fun moves move hr ha h => ?_) moves
  · subst hfirst
    refine ⟨⟨.nil, nofun, fun socket hu => ?_⟩, ⟨hr.intact, rfl, Connection.tuned_spawn .., nofun,
      nofun, ?_⟩, ?_⟩
    · rcases hu with hu | hu <;> cases hu
    · exact fun _ t ht => absurd ht List.not_mem_nil
    · intro earlier t later heq
      simp [turns, record] at heq
  · rwa [turns_concat_of_not_allows ha]
  · rcases (first.run moves).turn_or_apart move with ⟨later, stimulus, rfl⟩ | ⟨hturn, hapart⟩
    · rw [turns_concat_turn ha, step_turn ha]
      exact idleHistory_turn h ha
    · obtain ⟨hk, hc⟩ := (first.run moves).keepAlive_step hturn
      rw [turns_concat_of_ne hturn]
      exact ⟨h.spent.apart hapart, h.watched.congr (hr.step move).intact hc hk hapart.position_eq
        hapart.status_eq hapart.socket_eq, h.before⟩

/-- What a fresh connection has, each turn keeps and the moves of others leave alone is so after the
turns of every run. -/
theorem turns_induction {now : Instant} {endpoint : Endpoint} {config : Config}
    {codec : FrameCodec} {name : Option String} {P : List Turn → Connection → Prop}
    (hstart : P [] (start now endpoint config codec name).connection)
    (hturn : ∀ turns c now stimulus, c.Intact → c.Tuned → c.config = config → P turns c →
      P (turns ++ [⟨c, now, stimulus⟩]) (c.turn now stimulus).next)
    (haside : ∀ turns c d codec, Connection.Alike { c with codec } d → P turns c → P turns d)
    (moves : List Move) : P ((start now endpoint config codec name).turns moves)
      ((start now endpoint config codec name).run moves).connection := by
  have hr := Reachable.start now endpoint config codec name
  have hconfig (moves : List Move) :=
    (idleHistory_run now endpoint config codec name moves).watched.config_eq
  generalize start now endpoint config codec name = first at *
  refine run_induction (P := fun moves s => P (first.turns moves) s.connection) hr hstart
    (fun moves move ha h => ?_) (fun moves move hr ha h => ?_) moves
  · rwa [turns_concat_of_not_allows ha]
  · rcases (first.run moves).turn_or_apart move with ⟨later, stimulus, rfl⟩ | ⟨hother, -⟩
    · rw [turns_concat_turn ha, step_turn ha]
      exact hturn _ _ later stimulus hr.intact hr.tuned (hconfig moves) h
    · obtain ⟨codec, halike⟩ := alike_step (s := first.run moves) hother
      rw [turns_concat_of_ne hother]
      exact haside _ _ _ codec halike h

/-- **A connection is failed for idleness only when it deserves it**, in every run.  No socket is so
failed twice.  The turn that fails it comes right after one that found it, over the same socket and
in the same status, idle for too long.  A probe that is sent or outstanding was begun over the
socket that is there, at a tick that found it idle for long enough and no other probe, and was not
answered since; as long as it is there, no write is in flight, and none is dispatched.  If time does
not run backwards, every tick that is still to come is due an interval after each connect at least,
so that none that became due before a connect does anything afterwards. -/
theorem idle_failures_deserved (now : Instant) (endpoint : Endpoint) (config : Config)
    (codec : FrameCodec) (name : Option String) (moves : List Move) :
    let turns := (start now endpoint config codec name).turns moves
    (idled turns).Nodup ∧
    ∀ earlier t later, turns = earlier ++ t :: later →
      t.connection.config = config ∧
      (t.expires = true → t.connection.socket.isSome = true ∧ ∃ cause,
        earlier.getLast? = some cause ∧ cause.connection.socket = t.connection.socket ∧
        cause.Condemns t.connection.status) ∧
      (∀ tick, t.connection.probe? = some tick →
        ProbedSince earlier t.connection.socket tick ∧
        t.connection.inFlight = none ∧ t.progress.next.inFlight = none) ∧
      (∀ tick, t.progress.next.probe? = some tick →
        t.connection.probe? = some tick ∨ t.Begins tick) ∧
      (t.Answered → t.progress.next.probe? = none) ∧
      ((turns.map (·.now)).Pairwise (· ≤ ·) → ∀ first ∈ earlier, first.establishes = true →
        first.now.after config.detectionInterval ≤ t.connection.keepAlive.due) := by
  intro turns
  have hrun : IdleHistory config turns _ := idleHistory_run now endpoint config codec name moves
  refine ⟨hrun.spent.nodup, fun earlier t later heq => ?_⟩
  have h := hrun.before earlier t later heq
  refine ⟨h.config_eq, fun he => ?_, fun tick hk => ?_, ?_, Turn.probe?_of_answered,
    fun hsorted => ?_⟩
  · obtain ⟨span, hp⟩ := Turn.idle_of_expires h.intact he
    exact ⟨(h.intact.not_uses_of_idle hp t.now t.stimulus).1, h.idle span hp⟩
  · obtain ⟨hflight, hnext, -⟩ := h.intact.turn_probing hk t.now t.stimulus
    exact ⟨h.probe tick hk, hflight, hnext⟩
  · exact (t.idleStep h.intact h.tuned).probe
  · rw [heq, List.map_append, List.pairwise_append] at hsorted
    exact h.due hsorted.1

/-- A run in which a probe is sent over an idle connection, and is not answered for an interval. -/
def idleRun : List Move :=
  [.turn ⟨0⟩ .tick, .turn ⟨0⟩ .tick, .connect, .turn ⟨1⟩ .command, .turn ⟨1⟩ .tick,
    .turn ⟨1⟩ .tick, .turn ⟨2⟩ (.dialled ⟨0, none, []⟩), .turn ⟨2⟩ .tick, .turn ⟨2⟩ .tick,
    .turn ⟨60000000002⟩ .tick, .turn ⟨70000000002⟩ .tick, .turn ⟨70000000003⟩ (.accepted 1),
    .turn ⟨80000000002⟩ .tick]

/-- The connection is failed then, because the probe is overdue. -/
theorem idle_failures_deserved_idleRun :
    let first := start ⟨0⟩ ⟨"node", 9001⟩ {} { FrameCodec.line with probe := some [63] } none
    let t : Turn := ⟨(first.run idleRun).connection, ⟨80000000003⟩, .tick⟩
    t.expires = true ∧ t.connection.status = .free ∧
      t.connection.probe? = some ⟨70000000002⟩ ∧
      ProbedSince (first.turns idleRun) (some 0) ⟨70000000002⟩ ∧
      ∃ cause, (first.turns idleRun).getLast? = some cause ∧ cause.Condemns .free := by
  intro first t
  have hturns : first.turns (idleRun ++ [.turn ⟨80000000003⟩ .tick]) =
      first.turns idleRun ++ t :: [] := turns_concat_turn (by decide)
  have he : t.expires = true := by decide
  have hs : t.connection.status = .free := by decide
  have hk : t.connection.probe? = some ⟨70000000002⟩ := by decide
  have hsocket : t.connection.socket = some 0 := by decide
  obtain ⟨-, hfails, hprobe, -⟩ := (idle_failures_deserved ⟨0⟩ ⟨"node", 9001⟩ {}
    { FrameCodec.line with probe := some [63] } none
    (idleRun ++ [.turn ⟨80000000003⟩ .tick])).2 _ _ _ hturns
  obtain ⟨-, cause, hlast, -, hcause⟩ := hfails he
  exact ⟨he, hs, hk, hsocket ▸ (hprobe _ hk).1, cause, hlast, hs ▸ hcause⟩

end Scene

end Uplink

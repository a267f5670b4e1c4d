/-
Rounds of the members that have no socket.

Somebody who makes a round of a pool looks at its members, and asks those for a connect that were
never connected or have failed.  Their tasks read what they are asked later.  So a member may be
found again, in the same round of somebody else or in the next one, before its task has carried out
the first connect; and when it reads the second one, it may be connected already.  Then it gives up
its socket for a new one.

* `Uplink.Round` — the rounds that can be made;
* `Uplink.Rounds`, `Uplink.Rounds.step` — a pool in which rounds are made, step by step;
* `Uplink.Rounds.exists_events` — a round at one go is one of these;
* `Uplink.Rounds.Goes`, `Uplink.Rounds.goes_step` — what a step does to a member;
* `Uplink.Rounds.repeated` — how often a member was found that had still to carry out a connect;
* `Uplink.Rounds.teardowns_repeated` — **healthy sockets are given up no more often than that**, and
  apart from these there is one connect for each failure;
* `Uplink.Rounds.healthy_given_up` — **a healthy socket may be given up for a round that is
  repeated.**
-/

import Uplink.Proofs.Intents

set_option relaxedAutoImplicit false
set_option autoImplicit false

namespace Uplink

/-! ### Rounds -/

/-- A round that somebody makes of a pool. -/
inductive Round
  /-- Those members are asked that were never connected or have failed. -/
  | connectAll
  /-- Those are asked that have failed long enough ago. -/
  | reconnectFailed (now : Instant)
deriving DecidableEq, Repr

namespace Round

/-- The round, made at one go. -/
def operation : Round → Operation
  | connectAll => .connectAll
  | reconnectFailed now => .reconnectFailed now

/-- A member is to be asked. -/
def wants : Round → Connection → Bool
  | connectAll, c => c.status = .undefined ∨ c.status = .connectFailed
  | reconnectFailed now, c => c.isRetryEligible now

/-- What it is asked. -/
def act : Round → Connection → Progress
  | connectAll => Connection.connect
  | reconnectFailed _ => Pool.reconnect

/-- Only members without a socket are asked. -/
theorem status_of_wants {round : Round} {c : Connection} (h : round.wants c = true) :
    c.status = .undefined ∨ c.status = .connectFailed := by
  cases round with
  | connectAll => simpa [wants] using h
  | reconnectFailed now =>
      simp only [wants, Connection.isRetryEligible] at h
      split at h
      · exact .inr (of_decide_eq_true h).1
      · exact .inr (of_decide_eq_true h)

theorem sparing_act (round : Round) : Fleet.Sparing round.act := by
  cases round with
  | connectAll => exact Fleet.sparing_post .connect
  | reconnectFailed now => exact Fleet.sparing_reconnect

/-- A member that is asked has one more connect to carry out, if its task is there. -/
theorem stance_act (round : Round) (c : Connection) : (round.act c).next.status = c.status ∧
    (round.act c).next.intents ≤ c.intents + 1 ∧ (round.act c).changes = [] := by
  have hpost : (c.post .connect).next.status = c.status ∧
      (c.post .connect).next.intents ≤ c.intents + 1 ∧ (c.post .connect).changes = [] := by
    have haloof := c.aloof_post .connect
    refine ⟨haloof.status_eq, ?_, haloof.changes_eq⟩
    unfold Connection.post
    split
    · exact Nat.le_succ _
    · simp only [Connection.intents, List.count_append, List.count_singleton_self]
      omega
  cases round with
  | connectAll => exact hpost
  | reconnectFailed now => exact hpost

end Round

/-- Somebody asks for a connect. -/
def Operation.connects : Operation → Bool
  | connectAll | reconnectFailed _ | ask _ .connect => true
  | _ => false

theorem Operation.connects_cases (operation : Operation) (h : operation.connects = true) :
    (∃ round : Round, operation = round.operation) ∨
      ∃ handle, operation = .ask handle .connect := by
  cases operation with
  | connectAll => exact .inl ⟨.connectAll, rfl⟩
  | reconnectFailed now => exact .inl ⟨.reconnectFailed now, rfl⟩
  | ask handle request =>
      cases request with
      | connect => exact .inr ⟨handle, rfl⟩
      | shutdown | close => cases h
  | _ => cases h

namespace PoolState

variable {s : PoolState}

/-- How the status of a member has changed so far. -/
def changesAt (s : PoolState) (n : Nat) : List (Status × Status) :=
  s.happenings.filterMap (·.changeAt? n)

/-- What a member does is seen at that member, and not at the others. -/
theorem work_cases (s : PoolState) (number n : Nat) (act : Connection → Progress) :
    (∃ c, n = number ∧ s.fleet[n]? = some c ∧
      (s.work number act).fleet.stance n = (act c).next.stance ∧
      (s.work number act).changesAt n = s.changesAt n ++ (act c).changes) ∨
    (s.work number act).fleet.stance n = s.fleet.stance n ∧
      (s.work number act).changesAt n = s.changesAt n := by
  cases hc : s.fleet[number]? with
  | none => exact .inr (by simp [work, Fleet.step, hc, changesAt])
  | some c =>
      have hstance := Fleet.stance_step hc act n
      have hchanges : (s.work number act).changesAt n =
          s.changesAt n ++ if n = number then (act c).changes else [] := by
        rw [changesAt, changesAt, ← Fleet.changes_step hc act n, ← List.filterMap_append]
        rfl
      by_cases hn : n = number
      · subst hn
        rw [if_pos rfl] at hstance hchanges
        exact .inl ⟨c, rfl, hc, hstance, hchanges⟩
      · rw [if_neg hn] at hstance hchanges
        exact .inr ⟨hstance, hchanges.trans (List.append_nil _)⟩

/-- Something happens that leaves every member as it is. -/
def Spares (s t : PoolState) : Prop :=
  ∃ more, t.happenings = s.happenings ++ more ∧ s.fleet.Unmoved t.fleet more

theorem Spares.refl (s : PoolState) : Spares s s := ⟨[], (List.append_nil _).symm, .refl _⟩

theorem Spares.changesAt_eq {t : PoolState} (h : Spares s t) (n : Nat) :
    t.changesAt n = s.changesAt n := by
  obtain ⟨more, hmore, hunmoved⟩ := h
  rw [changesAt, hmore, List.filterMap_append, hunmoved.changes_eq, List.append_nil, changesAt]

theorem spares_work {act : Connection → Progress} (h : Fleet.Discreet act) (s : PoolState)
    (number : Nat) : Spares s (s.work number act) :=
  ⟨_, rfl, Fleet.unmoved_step h s.fleet number⟩

theorem spares_workAt {act : Connection → Progress} (h : Fleet.Discreet act) (s : PoolState)
    (handle : PoolHandle) : Spares s (s.workAt handle act) := by
  unfold workAt
  split
  · exact spares_work h s _
  · exact .refl s

theorem spares_offer (w : PendingWrite) {f : PoolState → PoolState}
    (hf : ∀ t : PoolState, Spares t (f t)) :
    Spares s (((s.offer w).map f).getD s) := by
  cases ho : s.offer w with
  | none => exact .refl s
  | some t =>
      obtain ⟨handed, submitted, rfl⟩ := offer_eq_some ho
      exact hf _

theorem spares_add (s : PoolState) (now : Instant) (blueprint : Blueprint) :
    Spares s (s.add now blueprint) := by
  refine ⟨[], (List.append_nil _).symm, ?_⟩
  unfold add Pool.add
  cases hbuild : blueprint.build now with
  | error fault => exact .refl _
  | ok c =>
      obtain ⟨config, rfl⟩ := Blueprint.eq_spawn_of_build hbuild
      exact Fleet.unmoved_append s.fleet rfl

theorem spares_take (s : PoolState) (h : PoolHandle) : Spares s (s.take h) := by
  unfold take
  split
  · split
    next c hc => exact ⟨[], (List.append_nil _).symm, Fleet.unmoved_take hc⟩
    next => exact .refl s
  · exact .refl s

theorem spares_giveUp (s : PoolState) : Spares s s.giveUp := by
  unfold giveUp
  split
  next member rest _ => exact spares_work Fleet.discreet_letGo s member
  next => exact ⟨[], (List.append_nil _).symm, .refl _⟩
  next => exact .refl s

/-- **Only turns and connects change how a member stands.** -/
theorem spares_step (hm : s.pool.Manned s.fleet.length) {operation : Operation}
    (hc : operation.connects = false)
    (ht : ∀ number now stimulus, operation ≠ .turn number now stimulus) :
    Spares s (s.step operation) := by
  have hite {p : Prop} [Decidable p] {t : PoolState} (h : Spares s t) :
      Spares s (if p then t else s) := by
    split
    · exact h
    · exact .refl s
  cases operation with
  | turn number now stimulus => exact absurd rfl (ht number now stimulus)
  | connectAll | reconnectFailed now => cases hc
  | add now blueprint => exact hite (s.spares_add now blueprint)
  | remove h => exact hite ⟨_, rfl, Pool.unmoved_discharge hm.member_lt h⟩
  | submit w excluded =>
      exact hite (spares_offer w fun t => ⟨_, rfl, t.pool.unmoved_place t.fleet w excluded⟩)
  | reroute h => exact hite ⟨_, rfl, s.pool.unmoved_reroute s.fleet h⟩
  | select | closeAll => exact hite ⟨[], (List.append_nil _).symm, .refl _⟩
  | ask h request =>
      cases request with
      | connect => cases hc
      | shutdown => exact hite (spares_workAt Fleet.discreet_shutdown s h)
      | close waiter => exact hite (spares_workAt (Fleet.discreet_close waiter) s h)
  | write h w => exact hite (spares_offer w fun t => spares_workAt (Fleet.discreet_write w) t h)
  | take h => exact hite (s.spares_take h)
  | discard w => exact hite ⟨_, rfl, fun _ => rfl, fun _ => rfl⟩
  | await waiter =>
      simp only [step]
      split
      · exact spares_work (Fleet.discreet_close waiter) s _
      · exact .refl s
  | giveUp => exact s.spares_giveUp

end PoolState

/-! ### Rounds, step by step -/

/-- A pool in which rounds are made. -/
structure Rounds where
  /-- The pool. -/
  state : PoolState := {}
  /-- The members that were found, and are still to be asked. -/
  found : List (Round × Nat) := []

namespace Rounds

variable {s t : Rounds} {n : Nat}

/-- What can happen while rounds are made. -/
inductive Event
  /-- Something else happens. -/
  | does (operation : Operation)
  /-- Somebody looks at a member. -/
  | look (round : Round) (member : Nat)
  /-- A member that was found is asked. -/
  | ask (round : Round) (member : Nat)

/-- A look finds that a member is to be asked. -/
def Finds (s : Rounds) (round : Round) (member : Nat) : Prop :=
  s.state.isOpen = true ∧ member ∈ s.state.pool.entries.map (·.2) ∧
    (s.state.fleet[member]?).any round.wants = true

instance (s : Rounds) (round : Round) (member : Nat) : Decidable (s.Finds round member) :=
  inferInstanceAs (Decidable (_ ∧ _ ∧ _))

/-- What happens; an event that is not possible changes nothing. -/
def step (s : Rounds) : Event → Rounds
  | .does operation => { s with state := s.state.step operation }
  | .look round member =>
      if s.Finds round member then { s with found := s.found ++ [(round, member)] } else s
  | .ask round member =>
      if (round, member) ∈ s.found then
        { state := s.state.work member round.act, found := s.found.erase (round, member) }
      else s

/-- A sequence of events. -/
def run (s : Rounds) (events : List Event) : Rounds := events.foldl step s

theorem run_append (s : Rounds) (first second : List Event) :
    s.run (first ++ second) = (s.run first).run second := List.foldl_append

/-- Nobody asks for a connect but who makes a round. -/
def Event.isOrderly : Event → Bool
  | .does operation => !operation.connects
  | _ => true

/-- Nobody ever does. -/
def Orderly (events : List Event) : Prop := ∀ event ∈ events, event.isOrderly = true

instance (events : List Event) : Decidable (Orderly events) :=
  inferInstanceAs (Decidable (∀ event ∈ events, event.isOrderly = true))

/-! ### Rounds at one go -/

/-- The members that a round finds. -/
def due (h : PoolState) (round : Round) : List Nat :=
  (h.pool.entries.map (·.2)).filter fun member => (h.fleet[member]?).any round.wants

theorem step_operation {h : PoolState} (ho : h.isOpen = true) (round : Round) :
    h.step round.operation =
      let result := h.fleet.steps ((due h round).map fun member => (member, round.act))
      { h with fleet := result.1, happenings := h.happenings ++ result.2 } := by
  cases round with
  | connectAll | reconnectFailed now =>
      simp only [Round.operation, PoolState.step, ho, if_true, Pool.connectAll,
        Pool.reconnectFailed, due, List.filter_map, List.map_map]
      rfl

/-- Looks find the members that are due. -/
theorem run_looks {h : PoolState} (ho : h.isOpen = true) (round : Round) {members : List Nat}
    (hm : ∀ member ∈ members, member ∈ h.pool.entries.map (·.2)) (found : List (Round × Nat)) :
    run ⟨h, found⟩ (members.map (.look round)) = ⟨h, found ++ (members.filter fun member =>
      (h.fleet[member]?).any round.wants).map (round, ·)⟩ := by
  induction members generalizing found with
  | nil => simp [run]
  | cons member rest ih =>
      have hmember := hm member List.mem_cons_self
      have hrest := ih fun m hmem => hm m (List.mem_cons_of_mem member hmem)
      rw [List.map_cons, run, List.foldl_cons, ← run, step]
      by_cases hw : (h.fleet[member]?).any round.wants = true
      · have hfinds : Finds ⟨h, found⟩ round member := ⟨ho, hmember, hw⟩
        rw [if_pos hfinds, hrest]
        simp [hw]
      · have hfinds : ¬Finds ⟨h, found⟩ round member := fun h => hw h.2.2
        rw [if_neg hfinds, hrest]
        simp [hw]

/-- The members that were found are asked one after the other. -/
theorem run_asks (h : PoolState) (round : Round) (members : List Nat) :
    run ⟨h, members.map (round, ·)⟩ (members.map (.ask round)) =
      let result := h.fleet.steps (members.map fun member => (member, round.act))
      ⟨{ h with fleet := result.1, happenings := h.happenings ++ result.2 }, []⟩ := by
  induction members generalizing h with
  | nil => simp [run, Fleet.steps]
  | cons member rest ih =>
      have hfirst : step ⟨h, (member :: rest).map (round, ·)⟩ (.ask round member) =
          ⟨h.work member round.act, rest.map (round, ·)⟩ := by simp [step]
      rw [List.map_cons (f := Event.ask round), run, List.foldl_cons, ← run, hfirst, ih]
      simp [PoolState.work, Fleet.steps]

/-- A round at one go is a sequence of looks, and then of asking the members that they found. -/
theorem exists_last (h : PoolState) (round : Round) : ∃ events, Orderly events ∧
    run ⟨h, []⟩ events = ⟨h.step round.operation, []⟩ := by
  by_cases ho : h.isOpen = true
  · have hdue := run_looks ho round (fun _ => id) []
    refine ⟨(h.pool.entries.map (·.2)).map (.look round) ++ (due h round).map (.ask round),
      fun event hmem => ?_, ?_⟩
    · rcases List.mem_append.1 hmem with hmem | hmem
      all_goals
        obtain ⟨member, -, rfl⟩ := List.mem_map.1 hmem
        rfl
    · rw [run_append, hdue, step_operation ho]
      exact run_asks h round (due h round)
  · refine ⟨[], nofun, ?_⟩
    cases round <;> simp [run, Round.operation, PoolState.step, ho]

/-- **A pool in which nobody asks a member for a connect is one in which rounds are made**, each at
one go. -/
theorem exists_events (operations : List Operation)
    (ho : ∀ handle, .ask handle .connect ∉ operations) :
    ∃ events, Orderly events ∧ run {} events = ⟨PoolState.run {} operations, []⟩ := by
  induction operations using List.reverseRecOn with
  | nil => exact ⟨[], nofun, rfl⟩
  | append_singleton operations operation ih =>
      obtain ⟨events, horderly, hrun⟩ :=
        ih fun handle hmem => ho handle (List.mem_append_left _ hmem)
      suffices hlast : ∃ last, Orderly last ∧
          run ⟨PoolState.run {} operations, []⟩ last =
            ⟨(PoolState.run {} operations).step operation, []⟩ by
        obtain ⟨last, horderly', hlast⟩ := hlast
        refine ⟨events ++ last, fun event hmem => ?_, ?_⟩
        · exact (List.mem_append.1 hmem).elim (horderly event) (horderly' event)
        · rw [run_append, hrun, hlast, PoolState.run, PoolState.run, List.foldl_append]
          rfl
      cases hc : operation.connects with
      | false =>
          refine ⟨[.does operation], fun event hmem => ?_, rfl⟩
          cases List.mem_singleton.1 hmem
          simp [Event.isOrderly, hc]
      | true =>
          obtain ⟨round, rfl⟩ | ⟨handle, rfl⟩ := operation.connects_cases hc
          · exact exists_last _ round
          · exact absurd (List.mem_append_right _ (List.mem_singleton_self _)) (ho handle)

/-! ### What a step does to a member -/

/-- Everything is in order. -/
structure Safe (s : Rounds) : Prop where
  manned : s.state.pool.Manned s.state.fleet.length
  intact : ∀ c ∈ s.state.fleet, c.Intact

theorem safe_empty : Safe {} :=
  ⟨Pool.manned_empty, fun _ hc => absurd hc List.not_mem_nil⟩

theorem Safe.step (h : s.Safe) (event : Event) : (s.step event).Safe := by
  cases event with
  | does operation =>
      obtain ⟨events, ha⟩ := PoolState.altered_step h.manned operation
      obtain ⟨fresh, told, hp⟩ := PoolState.passed_step h.intact h.manned operation
      exact ⟨h.manned.alters ha.alters, hp.conserves.intact⟩
  | look round member =>
      simp only [Rounds.step]
      split
      · exact ⟨h.manned, h.intact⟩
      · exact h
  | ask round member =>
      simp only [Rounds.step]
      split
      · obtain ⟨told, hp⟩ := PoolState.passed_work h.intact round.sparing_act member
        exact ⟨h.manned.alters (PoolState.altered_work s.state member round.act).alters,
          hp.conserves.intact⟩
      · exact h

/-- The status of a member. -/
def status (s : Rounds) (n : Nat) : Status := (s.state.fleet.stance n).1

/-- The connects that a member is still to carry out, or to be asked for. -/
def intents (s : Rounds) (n : Nat) : Nat :=
  s.found.countP (·.2 = n) + (s.state.fleet.stance n).2

/-- How the status of a member has changed so far. -/
def changes (s : Rounds) (n : Nat) : List (Status × Status) := s.state.changesAt n

/-- What a step does to a member, and how often it is found once more. -/
inductive Goes (n : Nat) (s t : Rounds) : Nat → Prop
  /-- Its status stays, and it has no more connects to carry out. -/
  | rests (hs : t.status n = s.status n) (hi : t.intents n ≤ s.intents n)
      (hc : t.changes n = s.changes n) : Goes n s t 0
  /-- It is found without a socket. -/
  | found (hneed : s.status n = .undefined ∨ s.status n = .connectFailed)
      (hs : t.status n = s.status n) (hi : t.intents n = s.intents n + 1)
      (hc : t.changes n = s.changes n) : Goes n s t (if s.intents n = 0 then 0 else 1)
  /-- It carries out a connect. -/
  | connects (hs : s.status n = .undefined ∨ s.status n = .connectFailed ∨ s.status n = .free)
      (hn : t.status n = .connecting) (hi : t.intents n + 1 = s.intents n)
      (hc : t.changes n = s.changes n ++ [(s.status n, .connecting)]) : Goes n s t 0
  /-- Its status changes for another reason. -/
  | moves (target : Status) (hne : target ≠ .undefined) (hne' : target ≠ .connecting)
      (hle : (s.status n).uses ≤ target.uses) (hn : t.status n = target)
      (hi : t.intents n ≤ s.intents n)
      (hc : t.changes n = s.changes n ++ [(s.status n, target)]) : Goes n s t 0

/-- How often a step finds a member that has still to carry out a connect. -/
def repeats (s : Rounds) (n : Nat) : Event → Nat
  | .look round member => if member = n ∧ s.Finds round n ∧ s.intents n ≠ 0 then 1 else 0
  | _ => 0

/-- A member that is left alone rests. -/
theorem goes_of_eq (hs : t.state.fleet.stance n = s.state.fleet.stance n)
    (hf : t.found.countP (·.2 = n) ≤ s.found.countP (·.2 = n))
    (hc : t.state.changesAt n = s.state.changesAt n) : Goes n s t 0 := by
  refine .rests ?_ ?_ hc
  · rw [status, status, hs]
  · rw [intents, intents, hs]
    omega

theorem goes_turn (h : s.Safe) (number : Nat) (now : Instant) (stimulus : Stimulus) (n : Nat) :
    Goes n s (s.step (.does (.turn number now stimulus))) 0 := by
  obtain ⟨c, rfl, hc, hstance, hchanges⟩ | ⟨hstance, hchanges⟩ :=
    s.state.work_cases number n (·.turn now stimulus)
  · have hbefore := Fleet.stance_of_getElem? hc
    -- The member stands as its connection does, before the turn and after it.
    have hs : s.status n = c.status := by rw [status, hbefore]; rfl
    have hs' : (s.step (.does (.turn n now stimulus))).status n =
        (c.turn now stimulus).next.status := congrArg Prod.fst hstance
    have hi : s.intents n = s.found.countP (·.2 = n) + c.intents := by
      rw [intents, hbefore]
      rfl
    have hi' : (s.step (.does (.turn n now stimulus))).intents n =
        s.found.countP (·.2 = n) + (c.turn now stimulus).next.intents :=
      congrArg (s.found.countP (·.2 = n) + ·.2) hstance
    cases (h.intact c (List.mem_of_getElem? hc)).heeds now stimulus with
    | rests hst hin hch =>
        rw [hch, List.append_nil] at hchanges
        exact .rests (by rw [hs', hst, hs]) (by omega) hchanges
    | connects hst hnext hin hch =>
        rw [hch, ← hs] at hchanges
        exact .connects (hs ▸ hst) (hs'.trans hnext) (by omega) hchanges
    | moves target hne hne' hle hnext hin hch =>
        rw [hch, ← hs] at hchanges
        exact .moves target hne hne' (hs ▸ hle) (hs'.trans hnext) (by omega) hchanges
  · exact goes_of_eq hstance (Nat.le_refl _) hchanges

/-- A member that is found has no socket. -/
theorem status_of_finds {round : Round} (h : s.Finds round n) :
    s.status n = .undefined ∨ s.status n = .connectFailed := by
  obtain ⟨c, hc, hwants⟩ := (Option.any_eq_true _ _).1 h.2.2
  rw [status, Fleet.stance_of_getElem? hc]
  exact Round.status_of_wants hwants

theorem goes_look (s : Rounds) (round : Round) (member n : Nat) :
    Goes n s (s.step (.look round member)) (s.repeats n (.look round member)) := by
  rw [step, repeats]
  by_cases hfinds : s.Finds round member
  · rw [if_pos hfinds]
    by_cases hn : member = n
    · subst hn
      have hcount : (s.found ++ [(round, member)]).countP (·.2 = member) =
          s.found.countP (·.2 = member) + 1 := by simp [List.countP_append]
      have hrepeats : (if member = member ∧ s.Finds round member ∧ s.intents member ≠ 0 then 1
          else 0) = if s.intents member = 0 then 0 else 1 := by simp [hfinds]
      rw [hrepeats]
      refine .found (status_of_finds hfinds) rfl ?_ rfl
      simp only [intents, hcount]
      omega
    · rw [if_neg fun h => hn h.1]
      exact goes_of_eq rfl (by simp [List.countP_append, hn]) rfl
  · have hnone : ¬(member = n ∧ s.Finds round n ∧ s.intents n ≠ 0) := by
      rintro ⟨rfl, h, -⟩
      exact hfinds h
    rw [if_neg hfinds, if_neg hnone]
    exact goes_of_eq rfl (Nat.le_refl _) rfl

theorem goes_ask (s : Rounds) (round : Round) (member n : Nat) :
    Goes n s (s.step (.ask round member)) 0 := by
  rw [step]
  by_cases hfound : (round, member) ∈ s.found
  · rw [if_pos hfound]
    obtain ⟨c, rfl, hc, hstance, hchanges⟩ | ⟨hstance, hchanges⟩ :=
      s.state.work_cases member n round.act
    · have hbefore := Fleet.stance_of_getElem? hc
      obtain ⟨hstatus, hintents, hnone⟩ := round.stance_act c
      rw [hnone, List.append_nil] at hchanges
      refine .rests ?_ ?_ hchanges
      · rw [status, status, hstance, hbefore]
        exact hstatus
      · -- It is asked, and so not to be asked any more.
        have hcount := (List.perm_cons_erase hfound).countP_eq (·.2 = n)
        simp only [List.countP_cons, decide_true, if_true] at hcount
        simp only [intents, hstance, hbefore, Connection.stance]
        omega
    · exact goes_of_eq hstance (List.erase_sublist.countP_le) hchanges
  · rw [if_neg hfound]
    exact goes_of_eq rfl (Nat.le_refl _) rfl

/-- **What a step does to a member**, as long as nobody asks it for a connect but who makes a
round. -/
theorem goes_step (h : s.Safe) {event : Event} (ho : event.isOrderly = true) (n : Nat) :
    Goes n s (s.step event) (s.repeats n event) := by
  cases event with
  | look round member => exact s.goes_look round member n
  | ask round member => exact s.goes_ask round member n
  | does operation =>
      by_cases ht : ∃ number now stimulus, operation = .turn number now stimulus
      · obtain ⟨number, now, stimulus, rfl⟩ := ht
        exact goes_turn h number now stimulus n
      · have hspares := PoolState.spares_step h.manned ((Bool.not_eq_true' _).mp ho)
          fun number now stimulus heq => ht ⟨number, now, stimulus, heq⟩
        have hchanges := hspares.changesAt_eq n
        obtain ⟨_, -, hunmoved⟩ := hspares
        exact goes_of_eq (hunmoved.stance_eq n) (Nat.le_refl _) hchanges

/-! ### How often a member connects -/

/-- How often a member that was free, and so had a healthy socket, gave it up to connect again. -/
def teardowns (s : Rounds) (n : Nat) : Nat := (s.changes n).count (.free, .connecting)

/-- How often a member began to connect. -/
def attempts (s : Rounds) (n : Nat) : Nat := (s.changes n).countP (·.2 = .connecting)

/-- How often a member failed. -/
def failures (s : Rounds) (n : Nat) : Nat := (s.changes n).countP (·.2 = .connectFailed)

/-- How often a member was found, in the course of the events, that had still to carry out a
connect. -/
def repeated (n : Nat) : Rounds → List Event → Nat
  | _, [] => 0
  | s, event :: rest => s.repeats n event + repeated n (s.step event) rest

/-- The connects that a member has no use for are found, and used up by giving up a socket. -/
theorem Goes.teardowns_le {k : Nat} (h : Goes n s t k) :
    t.teardowns n + (t.intents n - (t.status n).uses) ≤
      s.teardowns n + (s.intents n - (s.status n).uses) + k := by
  cases h with
  | rests hs hi hc =>
      rw [teardowns, teardowns, hc, hs]
      omega
  | found hneed hs hi hc =>
      have huses : (s.status n).uses = 1 := by rcases hneed with h | h <;> rw [h] <;> rfl
      rw [teardowns, teardowns, hc, hs, huses]
      split <;> omega
  | connects hs hn hi hc =>
      rw [teardowns, teardowns, hc, hn, List.count_append]
      rcases hs with hs | hs | hs
      all_goals
        rw [hs]
        simp [Status.uses]
        omega
  | moves target hne hne' hle hn hi hc =>
      rw [teardowns, teardowns, hc, hn, List.count_append]
      simp [hne']
      omega

/-- A member needs a connect. -/
def needs (s : Rounds) (n : Nat) : Nat :=
  if s.status n = .undefined ∨ s.status n = .connectFailed then 1 else 0

/-- A connect that is not for a failure gives up a socket, but for the first one. -/
theorem Goes.attempts_le {k : Nat} (h : Goes n s t k) :
    t.attempts n + t.needs n + (s.failures n + s.teardowns n) ≤
      s.attempts n + s.needs n + (t.failures n + t.teardowns n) := by
  cases h with
  | rests hs hi hc | found hneed hs hi hc =>
      simp only [attempts, failures, teardowns, needs, hc, hs]
      omega
  | connects hs hn hi hc =>
      simp only [attempts, failures, teardowns, needs, hc, hn, List.countP_append,
        List.count_append]
      rcases hs with hs | hs | hs
      · simp [hs]
      · simp [hs]
      · simp [hs]
        omega
  | moves target hne hne' hle hn hi hc =>
      simp only [attempts, failures, teardowns, needs, hc, hn, List.countP_append,
        List.count_append]
      by_cases ht : target = .connectFailed
      · simp [ht]
        omega
      · simp [hne, hne', ht]

/-- The same of all steps together. -/
theorem run_le (h : s.Safe) {events : List Event} (ho : Orderly events) (n : Nat) :
    (s.run events).teardowns n + ((s.run events).intents n - ((s.run events).status n).uses) ≤
        s.teardowns n + (s.intents n - (s.status n).uses) + repeated n s events ∧
      (s.run events).attempts n + (s.run events).needs n + (s.failures n + s.teardowns n) ≤
        s.attempts n + s.needs n + ((s.run events).failures n + (s.run events).teardowns n) := by
  induction events generalizing s with
  | nil => simp [run, repeated]
  | cons event rest ih =>
      have hgoes := goes_step h (ho event List.mem_cons_self) n
      obtain ⟨hteardowns, hattempts⟩ :=
        ih (h.step event) fun e hmem => ho e (List.mem_cons_of_mem event hmem)
      have hteardowns' := hgoes.teardowns_le
      have hattempts' := hgoes.attempts_le
      simp only [run, List.foldl_cons, repeated] at hteardowns hattempts ⊢
      omega

/-- A pool begins with no connect. -/
theorem run_empty_le {events : List Event} (ho : Orderly events) (n : Nat) :
    (run {} events).teardowns n ≤ repeated n {} events ∧
      (run {} events).attempts n ≤
        1 + (run {} events).failures n + (run {} events).teardowns n := by
  have hempty : teardowns {} n = 0 ∧ intents {} n = 0 ∧ attempts {} n = 0 ∧ failures {} n = 0 ∧
      needs {} n = 1 := ⟨rfl, rfl, rfl, rfl, rfl⟩
  have hle := run_le safe_empty ho n
  omega

theorem Safe.run (h : s.Safe) (events : List Event) : (s.run events).Safe := by
  induction events generalizing s with
  | nil => exact h
  | cons event rest ih => exact ih (h.step event)

/-- **Rounds cost no healthy socket, as long as none is repeated before the task of a member has
reacted.**  Rounds that are made at one go are a case of these.  Whatever else happens, if nobody
asks a member for a connect but who makes a round, then a round asks only members without a socket;
a connect that is read while another one is awaited, or while the member is busy, means nothing; a
member gives up a healthy socket no more often than it was found that had still to carry out a
connect, and so never if no round was repeated too early; and apart from these, and from the first
one, there is no more than one connect for each failure. -/
theorem teardowns_repeated (events : List Event) (ho : Orderly events) (n : Nat) :
    (∀ operations : List Operation, (∀ handle, .ask handle .connect ∉ operations) →
      ∃ events, Orderly events ∧ run {} events = ⟨PoolState.run {} operations, []⟩) ∧
    let s := run {} events
    (∀ round, s.Finds round n → s.status n = .undefined ∨ s.status n = .connectFailed) ∧
    (∀ c phase rest now, s.state.fleet[n]? = some c → c.position = .parked phase →
      c.inbox = .connect :: rest → c.status = .connecting ∨ c.status.isBusy = true →
        c.turn now .command = ⟨{ c with inbox := rest }, []⟩) ∧
    s.teardowns n ≤ repeated n {} events ∧
    s.attempts n ≤ 1 + s.failures n + s.teardowns n ∧
    (repeated n {} events = 0 → s.teardowns n = 0 ∧ s.attempts n ≤ 1 + s.failures n) := by
  obtain ⟨hteardowns, hattempts⟩ := run_empty_le ho n
  refine ⟨exists_events, fun round => status_of_finds, fun c phase rest now hc hp hinbox hs => ?_,
    hteardowns, hattempts, fun hnone => ?_⟩
  · have hsafe := safe_empty.run events
    exact (hsafe.intact c (List.mem_of_getElem? hc)).swallows hp hinbox hs now
  · have hhealthy : (run {} events).teardowns n = 0 := by omega
    exact ⟨hhealthy, by omega⟩

end Rounds

/-- A run in which two rounds are made before the task of the only member turns to the first. -/
def PoolState.repeatedRun : List Operation :=
  [.add ⟨0⟩ { endpoint := ⟨"node", 9001⟩ }, .connectAll, .connectAll] ++
    [.tick, .tick, .command, .tick, .tick, .dialled ⟨0, none, []⟩, .tick, .tick, .command,
      .tick].map (.turn 0 ⟨0⟩)

namespace Rounds

/-- A run in which a member is found twice.  The second connect is still to be read while the first
one is awaited. -/
def hastyRun : List Event :=
  [.does (.add ⟨0⟩ { endpoint := ⟨"node", 9001⟩ }), .look .connectAll 0, .look .connectAll 0,
    .ask .connectAll 0, .ask .connectAll 0] ++
    [.tick, .tick, .command, .tick, .tick].map fun stimulus => .does (.turn 0 ⟨0⟩ stimulus)

/-- A run in which a member is found once, and is refused its connect. -/
def patientRun : List Event :=
  let refusal : Stimulus := .dialFailed (.described "refused")
  [.does (.add ⟨0⟩ { endpoint := ⟨"node", 9001⟩ }), .look .connectAll 0, .ask .connectAll 0] ++
    [.tick, .tick, .command, .tick, .tick, refusal, .tick, .tick].map fun stimulus =>
      .does (.turn 0 ⟨0⟩ stimulus)

theorem teardowns_repeated_hastyRun :
    (∃ events, Orderly events ∧ run {} events = ⟨PoolState.run {} PoolState.repeatedRun, []⟩) ∧
    (∃ c, (run {} hastyRun).state.fleet[0]? = some c ∧
      c.turn ⟨0⟩ .command = ⟨{ c with inbox := [] }, []⟩) ∧
    (repeated 0 {} hastyRun = 1 ∧ (run {} hastyRun).teardowns 0 ≤ 1) ∧
    let s := run {} patientRun
    (s.Finds .connectAll 0 ∧ (s.status 0 = .undefined ∨ s.status 0 = .connectFailed)) ∧
      repeated 0 {} patientRun = 0 ∧ s.failures 0 = 1 ∧ s.teardowns 0 = 0 ∧ s.attempts 0 ≤ 2 := by
  obtain ⟨hoperations, -, hswallows, hteardowns, -⟩ := teardowns_repeated hastyRun (by decide) 0
  have hrepeated : repeated 0 {} hastyRun = 1 := by decide
  refine ⟨hoperations PoolState.repeatedRun (by simp [PoolState.repeatedRun]), ?_,
    ⟨hrepeated, hrepeated ▸ hteardowns⟩, ?_⟩
  · have hview : ((run {} hastyRun).state.fleet[0]?).map (fun c =>
        (c.inbox, c.position, c.status)) =
          some ([.connect], .parked (.connecting ⟨0⟩), .connecting) := by decide
    obtain ⟨c, hc, hview⟩ := Option.map_eq_some_iff.1 hview
    simp only [Prod.mk.injEq] at hview
    obtain ⟨hi, hp, hs⟩ := hview
    exact ⟨c, hc, hswallows c _ [] ⟨0⟩ hc hp hi (.inl hs)⟩
  · intro s
    have hfinds : s.Finds .connectAll 0 := by decide
    have hnone : repeated 0 {} patientRun = 0 := by decide
    have hfailures : s.failures 0 = 1 := by decide
    obtain ⟨-, hneed, -, -, -, hpatient⟩ := teardowns_repeated patientRun (by decide) 0
    obtain ⟨hhealthy, hattempts⟩ := hpatient hnone
    have hle : s.attempts 0 ≤ 1 + s.failures 0 := hattempts
    rw [hfailures] at hle
    exact ⟨⟨hfinds, hneed _ hfinds⟩, hnone, hfailures, hhealthy, hle⟩

/-- **A healthy socket may be given up for a round that is repeated.** -/
theorem healthy_given_up :
    (∀ handle, .ask handle .connect ∉ PoolState.repeatedRun) ∧
    (PoolState.run {} PoolState.repeatedRun).changesAt 0 =
      [(.undefined, .connecting), (.connecting, .free), (.free, .connecting)] :=
  ⟨by simp [PoolState.repeatedRun], by decide⟩

end Rounds

end Uplink

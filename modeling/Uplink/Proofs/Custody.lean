/-
Where the writes of a pool are.

A write that was submitted waits at one connection, is in flight on one, is in the hands of the
owner, or is resolved.  Whatever a connection does, and whatever the pool does with its connections,
passes writes from one of these places to another: none is lost, none is doubled, and none is
changed but for the instant at which it leaves the queue.

* `Uplink.Fleet.waiting`, `Uplink.Fleet.flying` — the writes that wait, and those in flight;
* `Uplink.Fleet.Conserves` — **writes pass between a fleet and a hand**;
* `Uplink.Fleet.Sparing`, `Uplink.Fleet.Conserves.step` — what one connection does;
* `Uplink.Fleet.conserves_place`, `Uplink.Fleet.conserves_reroute`,
  `Uplink.Fleet.conserves_discharge` — what the pool does with all of them;
* `Uplink.PoolState.Custody`, `Uplink.PoolState.Reachable.custody` — **every write is in one
  place**, in every state;
* `Uplink.PoolState.writes_conserved` — what it means for the owner of a pool.
-/

import Mathlib.Data.List.Nodup
import Uplink.Proofs.Handling
import Uplink.Proofs.PoolState

set_option relaxedAutoImplicit false
set_option autoImplicit false

namespace Uplink

namespace Fleet

variable {f g k : Fleet} {hand hand' hand'' : List PendingWrite} {told told' : List (Nat × Outcome)}
variable {number : Nat} {c d : Connection} {act : Connection → Progress}

/-! ### Writes in a fleet and in a hand -/

/-- The writes that wait somewhere. -/
def waiting (f : Fleet) : List PendingWrite := f.flatMap (·.queue)

/-- The writes in flight somewhere. -/
def flying (f : Fleet) : List PendingWrite := f.flatMap (·.inFlight.toList)

/-- The tickets of the writes in a fleet and in a hand. -/
def tickets (f : Fleet) (hand : List PendingWrite) : List Nat :=
  (f.waiting ++ f.flying ++ hand).map (·.ticket)

@[simp] theorem waiting_singleton (c : Connection) : waiting [c] = c.queue := by simp [waiting]

@[simp] theorem flying_singleton (c : Connection) : flying [c] = c.inFlight.toList := by
  simp [flying]

/-- Writes pass between a fleet and a hand, and some are resolved. -/
structure Conserves (f : Fleet) (hand : List PendingWrite) (g : Fleet) (hand' : List PendingWrite)
    (told : List (Nat × Outcome)) : Prop where
  /-- The connections stay intact. -/
  intact : ∀ c ∈ g, c.Intact
  /-- No write is lost or doubled. -/
  balance : ∀ ticket, (g.tickets hand').count ticket + (told.map (·.1)).count ticket =
    (f.tickets hand).count ticket
  /-- A write that waits or is in hand was so before. -/
  waits : ∀ w ∈ g.waiting ++ hand', w ∈ f.waiting ++ hand
  /-- A write in flight was so before, or was dispatched. -/
  flies : ∀ w ∈ g.flying, w ∈ f.flying ∨ ∃ v ∈ f.waiting ++ hand, ∃ now, w = v.dispatch now

theorem Conserves.refl (hi : ∀ c ∈ f, c.Intact) : Conserves f hand f hand [] :=
  ⟨hi, fun _ => rfl, fun _ hw => hw, fun _ hw => .inl hw⟩

theorem Conserves.trans (h : Conserves f hand g hand' told)
    (h' : Conserves g hand' k hand'' told') : Conserves f hand k hand'' (told ++ told') where
  intact := h'.intact
  balance ticket := by
    have hfirst := h.balance ticket
    have hsecond := h'.balance ticket
    rw [List.map_append, List.count_append]
    omega
  waits w hw := h.waits w (h'.waits w hw)
  flies w hw := by
    rcases h'.flies w hw with hw | ⟨v, hv, now, heq⟩
    · exact h.flies w hw
    · exact .inr ⟨v, h.waits v hv, now, heq⟩

/-- The order of the writes in hand makes no difference. -/
theorem Conserves.perm {before after : List PendingWrite} (h : Conserves f hand g hand' told)
    (hb : before.Perm hand) (ha : hand'.Perm after) : Conserves f before g after told where
  intact := h.intact
  balance ticket := by
    have hbalance := h.balance ticket
    have hbefore := (hb.map (·.ticket)).count_eq ticket
    have hafter := (ha.map (·.ticket)).count_eq ticket
    simp only [tickets, List.map_append, List.count_append] at hbalance ⊢
    omega
  waits w hw := by
    have hmem : w ∈ f.waiting ++ hand := h.waits w (by simpa [ha.mem_iff] using hw)
    simpa [hb.mem_iff] using hmem
  flies w hw := by
    rcases h.flies w hw with hw | ⟨v, hv, hnow⟩
    · exact .inl hw
    · exact .inr ⟨v, by simpa [hb.mem_iff] using hv, hnow⟩

/-! ### What one connection does -/

/-- A fleet with one connection replaced. -/
theorem exists_split (hc : f[number]? = some c) :
    ∃ before after, f = before ++ c :: after ∧ ∀ d, f.set number d = before ++ d :: after := by
  obtain ⟨hlt, rfl⟩ := List.getElem?_eq_some_iff.1 hc
  have hset (d : Connection) : f.set number d = f.take number ++ d :: f.drop (number + 1) := by
    rw [List.set_eq_take_append_cons_drop, if_pos hlt]
  refine ⟨f.take number, f.drop (number + 1), ?_, hset⟩
  rw [← hset, List.set_getElem_self]

/-- What passes at one connection passes in the fleet. -/
theorem Conserves.within (hc : f[number]? = some c) (hi : ∀ c ∈ f, c.Intact)
    (h : Conserves [c] hand [d] hand' told) : Conserves f hand (f.set number d) hand' told := by
  obtain ⟨before, after, hf, hset⟩ := exists_split hc
  rw [hset]
  have hwaits := h.waits
  have hflies := h.flies
  simp only [waiting_singleton, flying_singleton] at hwaits hflies
  constructor
  case intact =>
    intro e he
    simp only [List.mem_append, List.mem_cons] at he
    rcases he with he | rfl | he
    · exact hi e (by simp [hf, he])
    · exact h.intact e (by simp)
    · exact hi e (by simp [hf, he])
  case balance =>
    intro ticket
    have hbalance := h.balance ticket
    simp only [hf, tickets, waiting, flying, List.flatMap_append, List.flatMap_cons,
      List.flatMap_nil, List.map_append, List.count_append, List.append_nil] at hbalance ⊢
    omega
  case waits =>
    intro w hw
    have hold := hwaits w
    simp only [hf, waiting, List.flatMap_append, List.flatMap_cons, List.mem_append] at hw hold ⊢
    grind
  case flies =>
    intro w hw
    simp only [hf, flying, List.flatMap_append, List.flatMap_cons, List.mem_append] at hw ⊢
    rcases hw with hw | hw | hw
    · exact .inl (.inl hw)
    · rcases hflies w hw with hw | ⟨v, hv, now, heq⟩
      · exact .inl (.inr (.inl hw))
      · refine .inr ⟨v, ?_, now, heq⟩
        simp only [waiting, List.flatMap_append, List.flatMap_cons, List.mem_append] at hv ⊢
        rcases hv with hv | hv
        · exact .inl (.inr (.inl hv))
        · exact .inr hv
    · exact .inl (.inr (.inr hw))

/-- What a connection may do without a write in hand: it keeps the writes it finds, or resolves
them. -/
def Sparing (act : Connection → Progress) : Prop :=
  ∀ c hand, c.Intact → Conserves [c] hand [(act c).next] hand (act c).outcomes

theorem Sparing.andThen {act' : Connection → Progress} (h : Sparing act) (h' : Sparing act') :
    Sparing fun c => (act c).andThen act' := by
  intro c hand hi
  have hfirst := h c hand hi
  have hsecond := h' (act c).next hand (hfirst.intact _ (by simp))
  rw [Progress.outcomes_andThen]
  exact hfirst.trans hsecond

/-- Writes that are left alone are kept. -/
theorem conserves_calm {p : Progress} (h : c.Calm p) (hi : p.next.Intact) :
    Conserves [c] hand [p.next] hand p.outcomes := by
  constructor
  case intact => exact List.forall_mem_singleton.2 hi
  case balance =>
    intro ticket
    simp [tickets, h.queue_eq, h.inFlight_eq, h.outcomes_eq]
  case waits =>
    intro w hw
    simpa [h.queue_eq] using hw
  case flies =>
    intro w hw
    left
    simpa [h.inFlight_eq] using hw

theorem calm_post (c : Connection) (command : Command) : c.Calm (c.post command) := by
  unfold Connection.post
  split <;> exact ⟨rfl, rfl, rfl⟩

theorem calm_close (c : Connection) (waiter : Waiter) : c.Calm (c.close waiter) := by
  unfold Connection.close
  split <;> exact ⟨rfl, rfl, rfl⟩

theorem sparing_post (command : Command) : Sparing (·.post command) :=
  fun c _ hi => conserves_calm (calm_post c command) (hi.post command)

theorem sparing_close (waiter : Waiter) : Sparing (·.close waiter) :=
  fun c _ hi => conserves_calm (calm_close c waiter) (hi.close waiter)

theorem sparing_run (request : Request) : Sparing request.run := by
  cases request with
  | connect => exact sparing_post .connect
  | shutdown => exact sparing_post (.close none)
  | close waiter => exact sparing_close waiter

/-- A failed connection is told to connect again. -/
theorem sparing_reconnect : Sparing Pool.reconnect := by
  have hsays : Sparing fun c => ⟨c, [.noticed (.reconnecting c.info)]⟩ :=
    fun c _ hi => conserves_calm ⟨rfl, rfl, rfl⟩ hi
  exact hsays.andThen (sparing_post .connect)

/-- The owner of a crashed connection that gives up the handle cancels what waits. -/
theorem sparing_letGo : Sparing (·.letGo) := by
  intro c hand hi
  have hintact := hi.letGo
  obtain ⟨-, heq⟩ | ⟨-, asked, -, heq⟩ := c.letGo_cases
  · simp only [heq] at hintact ⊢
    constructor
    case intact => exact List.forall_mem_singleton.2 hintact
    case balance =>
      intro ticket
      simp [tickets, Connection.abandonQueue, Progress.outcomes, List.filterMap_map,
        Function.comp_def, Effect.outcome?]
      omega
    case waits =>
      intro w hw
      simp only [waiting_singleton, Connection.abandonQueue, List.nil_append] at hw
      exact List.mem_append_right _ hw
    case flies => exact fun w hw => .inl hw
  · refine conserves_calm ?_ hintact
    simp only [heq]
    exact ⟨rfl, rfl, rfl⟩

/-- A turn of the task dispatches a write, or keeps and resolves those it finds. -/
theorem sparing_turn (now : Instant) (stimulus : Stimulus) : Sparing (·.turn now stimulus) := by
  intro c hand hi
  have hhandling := hi.handling now stimulus
  have htickets := hhandling.tickets
  constructor
  case intact => exact List.forall_mem_singleton.2 (hi.turn now stimulus)
  case balance =>
    intro ticket
    have hcount := congrArg (List.count ticket) htickets
    simp only [Connection.held, List.map_append, List.count_append] at hcount
    simp only [tickets, waiting_singleton, flying_singleton, List.map_append, List.count_append]
    omega
  case waits =>
    intro w hw
    simp only [waiting_singleton, List.mem_append] at hw ⊢
    refine hw.imp_left fun hw => ?_
    cases hhandling with
    | begins v hf hq => exact hq ▸ List.mem_cons_of_mem v hw
    | ends ended hheld hf hq =>
        rcases hq with hq | hq
        · exact hq ▸ hw
        · rw [hq] at hw
          cases hw
  case flies =>
    intro w hw
    simp only [waiting_singleton, flying_singleton] at hw ⊢
    cases hhandling with
    | begins v hf hq hn =>
        simp only [hn, Option.toList_some, List.mem_singleton] at hw
        exact .inr ⟨v, by simp [hq], now, hw⟩
    | ends ended hheld hf =>
        rcases hf with hf | hf
        · exact .inl (hf ▸ hw)
        · simp [hf] at hw

/-- A connection of the fleet does something. -/
theorem Conserves.step (hi : ∀ c ∈ f, c.Intact) (h : Sparing act) (number : Nat) :
    Conserves f hand (f.step number act).1 hand
      ((f.step number act).2.filterMap Happening.outcome?) := by
  cases hc : f[number]? with
  | none =>
      simp only [Fleet.step, hc]
      exact .refl hi
  | some c =>
      rw [outcomes_step hc, step_eq hc]
      exact (h c hand (hi c (List.mem_of_getElem? hc))).within hc hi

/-- Several connections do something, one after the other. -/
theorem Conserves.steps (hi : ∀ c ∈ f, c.Intact) (acts : List (Nat × (Connection → Progress)))
    (h : ∀ act ∈ acts, Sparing act.2) : Conserves f hand (f.steps acts).1 hand
      ((f.steps acts).2.filterMap Happening.outcome?) := by
  induction acts generalizing f with
  | nil => exact .refl hi
  | cons first rest ih =>
      have hfirst : Conserves f hand (f.step first.1 first.2).1 hand _ :=
        .step hi (h first List.mem_cons_self) first.1
      have hrest := ih hfirst.intact fun act hact => h act (List.mem_cons_of_mem _ hact)
      simp only [Fleet.steps, List.filterMap_append]
      exact hfirst.trans hrest

/-! ### Writes that are submitted -/

variable {w : PendingWrite}

/-- A write in hand waits at the connection, or is cancelled at once. -/
theorem conserves_write (hi : c.Intact) (w : PendingWrite) :
    Conserves [c] (w :: hand) [(c.write w).next] hand (c.write w).outcomes := by
  by_cases hs : c.status = .stopped
  · have heq : c.write w = c.reject w := by simp [Connection.write, Connection.push?, hs]
    rw [heq]
    constructor
    case intact => exact List.forall_mem_singleton.2 hi.congr
    case balance =>
      intro ticket
      simp only [tickets, waiting_singleton, flying_singleton, Connection.reject, List.map_append,
        List.count_append, List.map_cons, List.count_cons, Progress.outcomes,
        List.filterMap_cons, Effect.outcome?, List.filterMap_nil, List.map_nil, List.count_nil]
      omega
    case waits =>
      intro v hv
      simp only [waiting_singleton, Connection.reject, List.mem_append, List.mem_cons] at hv ⊢
      exact hv.imp_right .inr
    case flies => exact fun v hv => .inl hv
  · have hpushed : { c with queue := c.queue ++ [w] }.Intact :=
      hi.requeue fun hs' => absurd hs' hs
    have hqueued : Conserves [c] (w :: hand) [{ c with queue := c.queue ++ [w] }] hand [] := by
      constructor
      case intact => exact List.forall_mem_singleton.2 hpushed
      case balance =>
        intro ticket
        simp only [tickets, waiting_singleton, flying_singleton, List.map_append,
          List.count_append, List.map_cons, List.count_cons, List.map_nil, List.count_nil]
        omega
      case waits =>
        intro v hv
        simp only [waiting_singleton, List.mem_append, List.mem_cons, List.not_mem_nil,
          or_false] at hv ⊢
        rcases hv with (hv | hv) | hv
        · exact .inl hv
        · exact .inr (.inl hv)
        · exact .inr (.inr hv)
      case flies => exact fun v hv => .inl hv
    rw [Connection.write_of_ne_stopped hs]
    exact hqueued.trans (sparing_post .wake _ hand hpushed)

theorem conserves_step_write (hi : ∀ c ∈ f, c.Intact) (hc : f[number]? = some c)
    (w : PendingWrite) : Conserves f (w :: hand) (f.step number (·.write w)).1 hand
      ((f.step number (·.write w)).2.filterMap Happening.outcome?) := by
  rw [outcomes_step hc, step_eq hc]
  exact (conserves_write (hi c (List.mem_of_getElem? hc)) w).within hc hi

/-- A write in hand is cancelled. -/
theorem conserves_cancel (hi : ∀ c ∈ f, c.Intact) (w : PendingWrite) :
    Conserves f (w :: hand) f hand [w.cancellation] := by
  refine ⟨hi, fun ticket => ?_, fun v hv => ?_, fun v hv => .inl hv⟩
  · simp only [tickets, PendingWrite.cancellation, List.map_append, List.count_append,
      List.map_cons, List.count_cons, List.map_nil, List.count_nil]
    omega
  · simp only [List.mem_append, List.mem_cons] at hv ⊢
    exact hv.imp_right .inr

/-- The writes that wait at a connection are taken into the hand. -/
theorem conserves_take (hi : ∀ c ∈ f, c.Intact) (hc : f[number]? = some c) :
    Conserves f hand (f.set number c.takePending.2) (c.queue ++ hand) [] := by
  refine Conserves.within hc hi ⟨fun d hd => ?_, fun ticket => ?_, fun w hw => ?_, ?_⟩
  · cases List.mem_singleton.1 hd
    exact (hi c (List.mem_of_getElem? hc)).requeue fun _ => rfl
  · simp only [tickets, waiting_singleton, flying_singleton, Connection.takePending,
      List.map_append, List.count_append, List.map_nil, List.count_nil]
    omega
  · simpa using hw
  · exact fun w hw => .inl hw

variable {p : Pool}

/-- A write is placed, whether it is taken there or not. -/
theorem conserves_place (hi : ∀ c ∈ f, c.Intact)
    (hm : ∀ h member, p.get? h = some member → member < f.length) (w : PendingWrite)
    (excluded : Option PoolHandle) :
    Conserves f (w :: hand) (p.place f w excluded).2.2.1 hand
      ((p.place f w excluded).2.2.2.filterMap Happening.outcome?) := by
  have hplaced := p.placed f w excluded
  generalize p.place f w excluded = result at hplaced
  cases hplaced with
  | waits h member q hp hne hget =>
      exact conserves_step_write hi (List.getElem?_eq_getElem (hm h member hget)) w
  | cancels => exact conserves_cancel hi w

theorem conserves_placeAll (hi : ∀ c ∈ f, c.Intact)
    (hm : ∀ h member, p.get? h = some member → member < f.length) (excluded : Option PoolHandle)
    (writes : List PendingWrite) :
    Conserves f (writes ++ hand) (p.placeAll f excluded writes).2.2.1 hand
      ((p.placeAll f excluded writes).2.2.2.filterMap Happening.outcome?) := by
  induction writes generalizing p f with
  | nil => exact .refl hi
  | cons w rest ih =>
      have hfirst : Conserves f (w :: (rest ++ hand)) (p.place f w excluded).2.2.1 (rest ++ hand)
          _ := conserves_place hi hm w excluded
      have hrest := ih (p := (p.place f w excluded).2.1) hfirst.intact
        (by rwa [(p.placed f w excluded).alike.get?_eq, PoolState.length_place])
      simp only [Pool.placeAll, List.filterMap_append]
      exact hfirst.trans hrest

/-- The writes that wait at a member are moved to others. -/
theorem conserves_reroute (hi : ∀ c ∈ f, c.Intact) (h : PoolHandle)
    (hm : ∀ h member, p.get? h = some member → member < f.length) :
    Conserves f hand (p.reroute f h).2.2.1 hand
      ((p.reroute f h).2.2.2.filterMap Happening.outcome?) := by
  rcases p.reroute_cases f h with heq | ⟨member, c, hget, hc⟩
  · rw [heq]
    exact .refl hi
  · have htake : Conserves f hand _ (c.queue ++ hand) [] := conserves_take hi hc
    rw [Pool.reroute_eq hget hc]
    exact htake.trans
      (conserves_placeAll htake.intact (by rwa [List.length_set]) (some h) c.queue)

/-- The pool asks a member that leaves to close, and gives up its handle. -/
theorem sparing_dismiss : Sparing fun c => c.shutdown.andThen (·.letGo) :=
  Sparing.andThen (sparing_post (.close none)) sparing_letGo

/-- A member that leaves hands its writes back. -/
theorem conserves_discharge (hi : ∀ c ∈ f, c.Intact) (h : PoolHandle)
    (hm : ∀ h member, p.get? h = some member → member < f.length) :
    Conserves f hand (p.discharge f h).2.2.1 (hand ++ (p.discharge f h).1)
      ((p.discharge f h).2.2.2.filterMap Happening.outcome?) := by
  cases hget : p.get? h with
  | none =>
      rw [Pool.discharge_of_none hget, List.append_nil]
      exact .refl hi
  | some member =>
      have hlt := hm h member hget
      obtain ⟨q, -, heq⟩ := Pool.discharge_eq hget (List.getElem?_eq_getElem hlt)
      rw [heq]
      have htake : Conserves f hand _ (f[member].queue ++ hand) [] :=
        conserves_take hi (List.getElem?_eq_getElem hlt)
      have hdismissed := htake.trans (.step htake.intact sparing_dismiss member)
      exact hdismissed.perm (.refl _) List.perm_append_comm

/-- A connection that is made has no writes. -/
theorem conserves_append (hi : ∀ c ∈ f, c.Intact) (hc : c.Intact) (hq : c.queue = [])
    (hf : c.inFlight = none) : Conserves f hand (f ++ [c]) hand [] := by
  refine ⟨fun d hd => ?_, fun ticket => ?_, fun w hw => ?_, fun w hw => ?_⟩
  · rcases List.mem_append.1 hd with hd | hd
    · exact hi d hd
    · cases List.mem_singleton.1 hd
      exact hc
  · simp [tickets, waiting, flying, hq, hf]
  · simpa [waiting, hq] using hw
  · left
    simpa [flying, hf] using hw

end Fleet

namespace PoolState

variable {s t : PoolState}

/-! ### What operations do -/

/-- The outcomes told so far. -/
def outcomes (s : PoolState) : List (Nat × Outcome) := s.happenings.filterMap Happening.outcome?

/-- What an operation does with the writes: some may be fresh, and some are resolved. -/
structure Passed (s t : PoolState) (fresh : List PendingWrite) (told : List (Nat × Outcome)) :
    Prop where
  submitted_eq : t.submitted = s.submitted ++ fresh
  outcomes_eq : t.outcomes = s.outcomes ++ told
  /-- A fresh write has a ticket of its own. -/
  nodup : (s.submitted.map (·.ticket)).Nodup → (t.submitted.map (·.ticket)).Nodup
  conserves : s.fleet.Conserves (s.handed ++ fresh) t.fleet t.handed told

/-- An operation may submit no fresh write. -/
theorem Passed.of_conserves {told : List (Nat × Outcome)} (hs : t.submitted = s.submitted)
    (ho : t.outcomes = s.outcomes ++ told)
    (hc : s.fleet.Conserves s.handed t.fleet t.handed told) : Passed s t [] told where
  submitted_eq := by rw [hs, List.append_nil]
  outcomes_eq := ho
  nodup hn := hs ▸ hn
  conserves := by
    rw [List.append_nil]
    exact hc

theorem Passed.refl (hi : ∀ c ∈ s.fleet, c.Intact) : Passed s s [] [] :=
  .of_conserves rfl (List.append_nil _).symm (.refl hi)

theorem outcomes_append (s : PoolState) (happenings : List Happening) :
    (s.happenings ++ happenings).filterMap Happening.outcome? =
      s.outcomes ++ happenings.filterMap Happening.outcome? := List.filterMap_append

theorem passed_work (hi : ∀ c ∈ s.fleet, c.Intact) {act : Connection → Progress}
    (h : Fleet.Sparing act) (number : Nat) : ∃ told, Passed s (s.work number act) [] told :=
  ⟨_, .of_conserves rfl (s.outcomes_append _) (.step hi h number)⟩

theorem passed_workAt (hi : ∀ c ∈ s.fleet, c.Intact) {act : Connection → Progress}
    (h : Fleet.Sparing act) (handle : PoolHandle) :
    ∃ told, Passed s (s.workAt handle act) [] told := by
  unfold workAt
  split
  · exact passed_work hi h _
  · exact ⟨[], .refl hi⟩

/-- An offer brings one write into the hand. -/
theorem offered {w : PendingWrite} (ho : s.offer w = some t) : ∃ fresh,
    t = { s with handed := t.handed, submitted := s.submitted ++ fresh } ∧
      (s.handed ++ fresh).Perm (w :: t.handed) ∧
      ((s.submitted.map (·.ticket)).Nodup → (t.submitted.map (·.ticket)).Nodup) := by
  unfold offer at ho
  split at ho
  next hmem =>
    cases ho
    refine ⟨[], by simp, ?_, id⟩
    rw [List.append_nil]
    exact List.perm_cons_erase hmem
  next =>
    split at ho
    next hfresh =>
      cases ho
      refine ⟨[w], rfl, List.perm_append_singleton w s.handed, fun hn => ?_⟩
      rw [List.map_append, List.nodup_append_comm]
      exact List.nodup_cons.2 ⟨hfresh.1, hn⟩
    next => cases ho

/-- What is done with a write that is offered. -/
theorem passed_offer (hi : ∀ c ∈ s.fleet, c.Intact) (w : PendingWrite) {f : PoolState → PoolState}
    (hf : ∀ handed submitted, ∃ told,
      (f { s with handed, submitted }).handed = handed ∧
      (f { s with handed, submitted }).submitted = submitted ∧
      (f { s with handed, submitted }).outcomes = s.outcomes ++ told ∧
      s.fleet.Conserves (w :: handed) (f { s with handed, submitted }).fleet handed told) :
    ∃ fresh told, Passed s (((s.offer w).map f).getD s) fresh told := by
  cases ho : s.offer w with
  | none => exact ⟨[], [], .refl hi⟩
  | some t =>
      obtain ⟨fresh, ht, hperm, hnodup⟩ := offered ho
      obtain ⟨told, hhanded, hsubmitted, houtcomes, hconserves⟩ :=
        hf t.handed (s.submitted ++ fresh)
      rw [← ht] at hhanded hsubmitted houtcomes hconserves
      refine ⟨fresh, told, hsubmitted, houtcomes, fun hn => ?_, ?_⟩
      · have hn' := hnodup hn
        rw [ht] at hn'
        rw [Option.map_some, Option.getD_some, hsubmitted]
        exact hn'
      · rw [Option.map_some, Option.getD_some, hhanded]
        exact hconserves.perm hperm (.refl _)

theorem passed_add (hi : ∀ c ∈ s.fleet, c.Intact) (now : Instant) (blueprint : Blueprint) :
    Passed s (s.add now blueprint) [] [] := by
  refine .of_conserves rfl (List.append_nil _).symm ?_
  unfold add Pool.add
  cases hbuild : blueprint.build now with
  | error fault => exact .refl hi
  | ok c =>
      obtain ⟨config, rfl⟩ := Blueprint.eq_spawn_of_build hbuild
      exact Fleet.conserves_append hi (.inl (Connection.sound_spawn _ _ _ _)) rfl rfl

theorem passed_take (hi : ∀ c ∈ s.fleet, c.Intact) (h : PoolHandle) :
    Passed s (s.take h) [] [] := by
  unfold take
  split
  next member _ =>
    split
    next c hc =>
      refine .of_conserves rfl (List.append_nil _).symm ?_
      exact (Fleet.conserves_take hi hc).perm (.refl _) List.perm_append_comm
    next => exact .refl hi
  next => exact .refl hi

theorem passed_giveUp (hi : ∀ c ∈ s.fleet, c.Intact) : ∃ told, Passed s s.giveUp [] told := by
  unfold giveUp
  split
  next member rest _ =>
    obtain ⟨told, hpassed⟩ := passed_work hi Fleet.sparing_letGo member
    exact ⟨told, { hpassed with }⟩
  next => exact ⟨[], .of_conserves rfl (List.append_nil _).symm (.refl hi)⟩
  next => exact ⟨[], .refl hi⟩

/-- **Every operation passes writes on**, and loses none. -/
theorem passed_step (hi : ∀ c ∈ s.fleet, c.Intact) (hm : s.pool.Manned s.fleet.length)
    (operation : Operation) : ∃ fresh told, Passed s (s.step operation) fresh told := by
  have hite {p : Prop} [Decidable p] {t : PoolState} (ht : ∃ fresh told, Passed s t fresh told) :
      ∃ fresh told, Passed s (if p then t else s) fresh told := by
    split
    · exact ht
    · exact ⟨[], [], .refl hi⟩
  cases operation with
  | turn number now stimulus => exact ⟨[], passed_work hi (Fleet.sparing_turn now stimulus) number⟩
  | add now blueprint => exact hite ⟨[], [], passed_add hi now blueprint⟩
  | remove h =>
      exact hite ⟨[], _, .of_conserves rfl (s.outcomes_append _)
        (Fleet.conserves_discharge hi h hm.member_lt)⟩
  | submit w excluded =>
      exact hite (passed_offer hi w fun handed submitted =>
        ⟨_, rfl, rfl, s.outcomes_append _, Fleet.conserves_place hi hm.member_lt w excluded⟩)
  | reroute h =>
      exact hite ⟨[], _, .of_conserves rfl (s.outcomes_append _)
        (Fleet.conserves_reroute hi h hm.member_lt)⟩
  | select => exact hite ⟨[], [], .of_conserves rfl (List.append_nil _).symm (.refl hi)⟩
  | connectAll =>
      refine hite ⟨[], _, .of_conserves rfl (s.outcomes_append _) (.steps hi _ ?_)⟩
      intro act hact
      obtain ⟨e, -, rfl⟩ := List.mem_map.1 hact
      exact Fleet.sparing_post .connect
  | reconnectFailed now =>
      refine hite ⟨[], _, .of_conserves rfl (s.outcomes_append _) (.steps hi _ ?_)⟩
      intro act hact
      obtain ⟨e, -, rfl⟩ := List.mem_map.1 hact
      exact Fleet.sparing_reconnect
  | ask h request => exact hite ⟨[], passed_workAt hi (Fleet.sparing_run request) h⟩
  | write h w =>
      simp only [step]
      split
      next hguard =>
        obtain ⟨member, hget⟩ := Option.isSome_iff_exists.1 hguard.2
        have hc := List.getElem?_eq_getElem (hm.member_lt h member hget)
        refine passed_offer hi w fun handed submitted => ?_
        simp only [workAt, hget]
        exact ⟨_, rfl, rfl, s.outcomes_append _, Fleet.conserves_step_write hi hc w⟩
      next => exact ⟨[], [], .refl hi⟩
  | take h => exact hite ⟨[], [], passed_take hi h⟩
  | discard w =>
      simp only [step]
      split
      next hmem =>
        refine ⟨[], [w.cancellation], .of_conserves rfl (s.outcomes_append _) ?_⟩
        exact (Fleet.conserves_cancel hi w).perm (List.perm_cons_erase hmem) (.refl _)
      next => exact ⟨[], [], .refl hi⟩
  | closeAll => exact hite ⟨[], [], .of_conserves rfl (List.append_nil _).symm (.refl hi)⟩
  | await waiter =>
      simp only [step]
      split
      · exact ⟨[], passed_work hi (Fleet.sparing_close waiter) _⟩
      · exact ⟨[], [], .refl hi⟩
  | giveUp => exact ⟨[], passed_giveUp hi⟩

/-! ### The places of the writes -/

/-- With any number of slots, the write is given to the member that the answer leads to: it waits
there, or that member is stopped and the write is cancelled. -/
theorem Reachable.given {w : PendingWrite} {handle : PoolHandle} (h : s.Reachable)
    (hfound : (s.pool.submit s.fleet w).1 = some handle) :
    ∃ member, s.pool.get? handle = some member ∧
      let result := s.pool.submit s.fleet w
      (result.2.2.1.queue member = s.fleet.queue member ++ [w] ∧
        result.2.2.2.filterMap Happening.outcome? = [] ∨
      result.2.2.1.queue member = s.fleet.queue member ∧
        result.2.2.2.filterMap Happening.outcome? = [w.cancellation]) := by
  have hplaced : s.pool.Placed s.fleet w none (s.pool.submit s.fleet w) := s.pool.placed _ w none
  generalize s.pool.submit s.fleet w = result at hfound hplaced
  cases hplaced with
  | cancels => cases hfound
  | waits k member q hp hne hget =>
      cases hfound
      obtain ⟨c, hc⟩ : ∃ c, s.fleet[member]? = some c :=
        ⟨_, List.getElem?_eq_getElem (h.manned.member_lt handle member hget)⟩
      refine ⟨member, hget, ?_⟩
      simp only [Fleet.queue_step hc, Fleet.outcomes_step hc, if_true, Fleet.queue_of_getElem? hc]
      by_cases hs : c.status = .stopped
      · right
        simp only [Connection.write, Connection.push?, hs, if_true]
        exact ⟨rfl, rfl⟩
      · left
        rw [Connection.write_of_ne_stopped hs]
        exact ⟨Connection.queue_post _ _, Connection.outcomes_post _ _⟩

/-- A run in which two members are about to be connected, and three writes wait at them. -/
def strandedRun : List Operation :=
  let join : Operation := .add ⟨0⟩ { endpoint := ⟨"node", 9001⟩ }
  let submit (ticket : Nat) : Operation :=
    .submit { ticket, payload := [65], enqueuedAt := ⟨1⟩ } none
  [join, join, .turn 0 ⟨0⟩ .tick, .turn 0 ⟨0⟩ .tick, .turn 1 ⟨0⟩ .tick, .turn 1 ⟨0⟩ .tick,
    .connectAll, .turn 0 ⟨1⟩ .command, .turn 0 ⟨1⟩ .tick, .turn 1 ⟨1⟩ .command,
    .turn 1 ⟨1⟩ .tick, submit 1, submit 2, submit 3]

end PoolState

end Uplink

/-
Every write is resolved exactly once.

A write that is submitted waits in the queue, is in flight, is handed back to the owner, or is
resolved, and it is in exactly one of these places.  It leaves the queue for the socket at most
once, and what the socket is handed for it is the beginning of its payload.

* `Uplink.Scene.Accounted` — the places of the writes;
* `Uplink.Scene.Dispatching` — the writes that left the queue for the socket;
* `Uplink.Scene.Carrying` — what the sockets were handed for them;
* `Uplink.Scene.Reachable.accounted`, `Uplink.Scene.Reachable.dispatching`,
  `Uplink.Scene.Reachable.carrying` — **all this is so in every scene**;
* `Uplink.Scene.resolved_exactly_once` — what it means for those who submit writes.
-/

import Mathlib.Data.List.Nodup
import Uplink.Proofs.Handling

set_option relaxedAutoImplicit false
set_option autoImplicit false

namespace Uplink.Scene

variable {s t : Scene}

/-! ### The places of the writes -/

/-- Every write is in one place, and nobody has changed its payload or the time of its creation. -/
structure Accounted (s : Scene) : Prop where
  /-- The places together hold what was submitted. -/
  balance : ∀ ticket, (s.connection.held.map (·.ticket)).count ticket +
    s.takenBack.count ticket + s.resolved.count ticket =
      (s.submitted.map (·.ticket)).count ticket
  /-- No two writes have one ticket. -/
  nodup : (s.submitted.map (·.ticket)).Nodup
  /-- A write that is kept is one that was submitted. -/
  source : ∀ w ∈ s.connection.held ++ s.handed, ∃ v ∈ s.submitted,
    v.ticket = w.ticket ∧ v.payload = w.payload ∧ v.enqueuedAt = w.enqueuedAt
  /-- An outcome tells of the payload that was submitted. -/
  told : ∀ e ∈ s.outcomes, ∃ v ∈ s.submitted, v.ticket = e.1 ∧ e.2.Keeps v.payload

/-- A write that is kept has the payload that was submitted. -/
theorem Accounted.kept (h : s.Accounted) :
    ∀ w ∈ s.connection.held ++ s.handed,
      ∃ v ∈ s.submitted, v.ticket = w.ticket ∧ v.payload = w.payload := by
  intro w hw
  obtain ⟨v, hv, hticket, hpayload, -⟩ := h.source w hw
  exact ⟨v, hv, hticket, hpayload⟩

/-- A move may leave the writes alone. -/
structure Undisturbed (s t : Scene) : Prop where
  inFlight_eq : t.connection.inFlight = s.connection.inFlight
  queue_eq : t.connection.queue = s.connection.queue
  remaining_eq : t.connection.remaining = s.connection.remaining
  handed_eq : t.handed = s.handed
  submitted_eq : t.submitted = s.submitted
  dispatched_eq : t.dispatched = s.dispatched
  outcomes_eq : t.outcomes = s.outcomes
  shipped_eq : t.shipped = s.shipped

theorem Accounted.congr (h : s.Accounted) (hu : Undisturbed s t) : t.Accounted := by
  obtain ⟨h₁, h₂, -, h₃, h₄, -, h₅, -⟩ := hu
  constructor
  case balance =>
    simpa only [Connection.held, takenBack, resolved, h₁, h₂, h₃, h₄, h₅] using h.balance
  case nodup => simpa only [h₄] using h.nodup
  case source => simpa only [Connection.held, h₁, h₂, h₃, h₄] using h.source
  case told => simpa only [h₄, h₅] using h.told

@[simp] theorem outcomes_after (s : Scene) (p : Progress) :
    (s.after p).outcomes = s.outcomes ++ p.outcomes := by
  simp [outcomes, after, Progress.outcomes]

/-- Giving a command leaves the writes alone. -/
theorem undisturbed_post (s : Scene) (command : Command) (pushing : Nat) :
    Undisturbed s { s.after (s.connection.post command) with pushing } := by
  unfold Connection.post
  split
  · exact ⟨rfl, rfl, rfl, rfl, rfl, rfl, by simp [outcomes, after, Effect.outcome?], rfl⟩
  · exact ⟨rfl, rfl, rfl, rfl, rfl, rfl, by simp [outcomes, after], rfl⟩

theorem undisturbed_letGo (hp : s.connection.position ≠ .crashed) :
    Undisturbed s (s.after s.connection.letGo) := by
  obtain ⟨hcrashed, -⟩ | ⟨-, asked, -, heq⟩ := s.connection.letGo_cases
  · exact absurd hcrashed hp
  · rw [heq]
    exact ⟨rfl, rfl, rfl, rfl, rfl, rfl, by simp [outcomes, after], rfl⟩

theorem undisturbed_close (s : Scene) (waiter : Waiter) :
    Undisturbed s (s.after (s.connection.close waiter)) := by
  unfold Connection.close
  split
  · exact ⟨rfl, rfl, rfl, rfl, rfl, rfl, by simp [outcomes, after, Effect.outcome?], rfl⟩
  · exact ⟨rfl, rfl, rfl, rfl, rfl, rfl, by simp [outcomes, after], rfl⟩

/-- A move keeps the account if the writes that it adds and those that it finds are as many as those
that it keeps and those that it resolves, and if none of them is changed. -/
theorem Accounted.move (h : s.Accounted) (fresh : List PendingWrite) (told : List (Nat × Outcome))
    (hs : t.submitted = s.submitted ++ fresh) (ho : t.outcomes = s.outcomes ++ told)
    (hnodup : (s.submitted.map (·.ticket) ++ fresh.map (·.ticket)).Nodup)
    (hbalance : ∀ ticket, (t.connection.held.map (·.ticket)).count ticket +
      t.takenBack.count ticket + (told.map (·.1)).count ticket =
        (s.connection.held.map (·.ticket)).count ticket + s.takenBack.count ticket +
          (fresh.map (·.ticket)).count ticket)
    (hkept : ∀ w ∈ t.connection.held ++ t.handed, ∃ v ∈ s.connection.held ++ s.handed ++ fresh,
      v.ticket = w.ticket ∧ v.payload = w.payload ∧ v.enqueuedAt = w.enqueuedAt)
    (htold : ∀ e ∈ told, ∃ v ∈ s.connection.held ++ s.handed ++ fresh,
      v.ticket = e.1 ∧ e.2.Keeps v.payload) : t.Accounted := by
  -- What was there before or is fresh is a write that was submitted.
  have hsource {v : PendingWrite} (hv : v ∈ s.connection.held ++ s.handed ++ fresh) :
      ∃ u ∈ t.submitted,
        u.ticket = v.ticket ∧ u.payload = v.payload ∧ u.enqueuedAt = v.enqueuedAt := by
    rw [hs]
    rcases List.mem_append.1 hv with hv | hv
    · obtain ⟨u, hu, heq⟩ := h.source v hv
      exact ⟨u, List.mem_append_left _ hu, heq⟩
    · exact ⟨v, List.mem_append_right _ hv, rfl, rfl, rfl⟩
  constructor
  case balance =>
    intro ticket
    have h₁ := h.balance ticket
    have h₂ := hbalance ticket
    rw [resolved] at h₁
    rw [resolved, ho, hs, List.map_append, List.map_append, List.count_append,
      List.count_append]
    omega
  case nodup =>
    rw [hs, List.map_append]
    exact hnodup
  case source =>
    intro w hw
    obtain ⟨v, hv, hticket, hpayload, htime⟩ := hkept w hw
    obtain ⟨u, hu, hticket', hpayload', htime'⟩ := hsource hv
    exact ⟨u, hu, hticket'.trans hticket, hpayload'.trans hpayload, htime'.trans htime⟩
  case told =>
    intro e he
    rw [ho] at he
    rcases List.mem_append.1 he with he | he
    · obtain ⟨v, hv, heq⟩ := h.told e he
      rw [hs]
      exact ⟨v, List.mem_append_left _ hv, heq⟩
    · obtain ⟨v, hv, hticket, hkeeps⟩ := htold e he
      obtain ⟨u, hu, hticket', hpayload, -⟩ := hsource hv
      refine ⟨u, hu, hticket'.trans hticket, ?_⟩
      rw [hpayload]
      exact hkeeps

theorem accounted_turn (h : s.Accounted) (hi : s.connection.Intact) (now : Instant)
    (stimulus : Stimulus) : (s.turn now stimulus).Accounted := by
  have hhandling := hi.handling now stimulus
  refine h.move [] (s.connection.turn now stimulus).outcomes (by simp [turn, after])
    (outcomes_after s _) (by simpa using h.nodup) (fun ticket => ?_) (fun w hw => ?_) fun e he => ?_
  · have htickets := congrArg (List.count ticket) hhandling.tickets
    rw [List.count_append] at htickets
    change List.count ticket ((s.connection.turn now stimulus).next.held.map (·.ticket)) +
      s.takenBack.count ticket + _ = _
    rw [List.map_nil, List.count_nil]
    omega
  · rcases List.mem_append.1 hw with hw | hw
    · obtain ⟨v, hv, heq⟩ := hhandling.kept hw
      exact ⟨v, by simp [hv], heq⟩
    · exact ⟨w, by rw [List.append_nil]; exact List.mem_append_right _ hw, rfl, rfl, rfl⟩
  · obtain ⟨v, hv, heq⟩ := hhandling.told he
    exact ⟨v, by simp [hv], heq⟩

theorem count_takenBack {w : PendingWrite} (hw : w ∈ s.handed) (ticket : Nat) :
    s.takenBack.count ticket =
      [w.ticket].count ticket + ((s.handed.erase w).map (·.ticket)).count ticket := by
  rw [takenBack, ((List.perm_cons_erase hw).map _).count_eq, List.map_cons,
    ← List.singleton_append, List.count_append]

theorem nodup_fresh {w : PendingWrite} (h : s.Accounted)
    (hw : w.ticket ∉ s.submitted.map (·.ticket)) :
    (s.submitted.map (·.ticket) ++ [w].map (·.ticket)).Nodup := by
  refine List.nodup_append.2 ⟨h.nodup, by simp, fun a ha b hb heq => hw ?_⟩
  rw [List.map_singleton, List.mem_singleton] at hb
  rw [← hb, ← heq]
  exact ha

/-- A write that was handed back is dropped, or turned away. -/
theorem accounted_drop {w : PendingWrite} (h : s.Accounted) (hw : w ∈ s.handed)
    (hheld : t.connection.held = s.connection.held) (hhanded : t.handed = s.handed.erase w)
    (hs : t.submitted = s.submitted)
    (ho : t.outcomes = s.outcomes ++ [(w.ticket, w.undelivered .cancelled)]) : t.Accounted := by
  refine h.move [] [(w.ticket, w.undelivered .cancelled)] (by simp [hs]) ho
    (by simpa using h.nodup) (fun ticket => ?_) (fun v hv => ?_) fun e he => ?_
  · have hcount := count_takenBack hw ticket
    rw [hheld, takenBack, hhanded]
    simp only [List.map_singleton, List.map_nil, List.count_nil]
    omega
  · rw [hheld, hhanded] at hv
    refine ⟨v, ?_, rfl, rfl, rfl⟩
    rcases List.mem_append.1 hv with hv | hv
    · simp [hv]
    · simp [List.mem_of_mem_erase hv]
  · cases List.mem_singleton.1 he
    exact ⟨w, by simp [hw], rfl, rfl⟩

/-- Giving up the handle cancels what waits, if the task has crashed. -/
theorem accounted_letGo (h : s.Accounted) : (s.after s.connection.letGo).Accounted := by
  obtain ⟨-, heq⟩ | ⟨hp, -⟩ := s.connection.letGo_cases
  · rw [heq]
    refine h.move [] _ (by simp [after]) (outcomes_after s _) (by simpa using h.nodup)
      (fun ticket => ?_) (fun v hv => ?_) fun e he => ?_
    · simp [Connection.held, takenBack, after, Connection.abandonQueue, Progress.outcomes,
        List.filterMap_map, Function.comp_def, Effect.outcome?]
      omega
    · refine ⟨v, ?_, rfl, rfl, rfl⟩
      simp only [Connection.held, after, Connection.abandonQueue, List.mem_append] at hv ⊢
      grind
    · rw [Connection.outcomes_abandonQueue] at he
      obtain ⟨w, hw, rfl⟩ := List.mem_map.1 he
      exact ⟨w, by simp [Connection.held, hw], rfl, rfl⟩
  · exact h.congr (undisturbed_letGo hp)

/-- Every move keeps the account. -/
theorem Moved.accounted (hm : s.Moved t) (h : s.Accounted) (hi : s.connection.Intact) :
    t.Accounted := by
  have hnodup : (s.submitted.map (·.ticket) ++ List.map PendingWrite.ticket []).Nodup := by
    simpa using h.nodup
  cases hm with
  | stays => exact h
  | turns now stimulus => exact accounted_turn h hi now stimulus
  | pushes w connection hc hfresh =>
      cases Connection.eq_of_push? hc
      refine h.move [w] [] rfl (by simp [outcomes]) (nodup_fresh h hfresh) (fun ticket => ?_)
        (fun v hv => ?_) nofun
      · simp [Connection.held, takenBack]
        omega
      · refine ⟨v, ?_, rfl, rfl, rfl⟩
        simp only [Connection.held, List.mem_append] at hv ⊢
        grind
  | rejects w hc hfresh =>
      refine h.move [w] [(w.ticket, w.undelivered .cancelled)] rfl (outcomes_after s _)
        (nodup_fresh h hfresh) (fun ticket => rfl) (fun v hv => ?_) fun e he => ?_
      · exact ⟨v, List.mem_append_left _ hv, rfl, rfl, rfl⟩
      · cases List.mem_singleton.1 he
        exact ⟨w, by simp, rfl, rfl⟩
  | pushesAgain w expects connection hw hc =>
      cases Connection.eq_of_push? hc
      refine h.move [] [] (by simp) (by simp [outcomes]) hnodup (fun ticket => ?_)
        (fun v hv => ?_) nofun
      · have hcount := count_takenBack hw ticket
        simp only [takenBack] at hcount ⊢
        simp [Connection.held]
        omega
      · simp only [Connection.held, List.mem_append, List.mem_singleton, List.append_nil] at hv ⊢
        rcases hv with (hv | hv | rfl) | hv
        · exact ⟨v, .inl (.inl hv), rfl, rfl, rfl⟩
        · exact ⟨v, .inl (.inr hv), rfl, rfl, rfl⟩
        · exact ⟨w, .inr hw, rfl, rfl, rfl⟩
        · exact ⟨v, .inr (List.mem_of_mem_erase hv), rfl, rfl, rfl⟩
  | rejectsAgain w expects hw => exact accounted_drop h hw rfl rfl rfl (outcomes_after s _)
  | wakes => exact h.congr (undisturbed_post s .wake _)
  | takes =>
      refine h.move [] [] (by simp) (by simp [outcomes]) hnodup (fun ticket => ?_)
        (fun v hv => ?_) nofun
      · simp [Connection.held, takenBack, Connection.takePending]
        omega
      · refine ⟨v, ?_, rfl, rfl, rfl⟩
        simp only [Connection.held, Connection.takePending, List.mem_append] at hv ⊢
        grind
  | discards w hw =>
      exact accounted_drop h hw rfl rfl rfl (by simp [outcomes, Effect.outcome?])
  | posts command => exact h.congr (undisturbed_post s command s.pushing)
  | closes waiter => exact h.congr (undisturbed_close s waiter)
  | letsGo => exact accounted_letGo h
  | recodes codec => exact h.congr ⟨rfl, rfl, rfl, rfl, rfl, rfl, rfl, rfl⟩

/-- **Every write is in one place**, in every scene. -/
theorem Reachable.accounted (h : s.Reachable) : s.Accounted := by
  induction h with
  | start => exact ⟨fun _ => rfl, List.nodup_nil, nofun, nofun⟩
  | step hr move ih => exact (moved _ move).accounted ih hr.intact

/-- A ticket is found at most once. -/
theorem Accounted.count_le (h : s.Accounted) (ticket : Nat) :
    (s.connection.held.map (·.ticket)).count ticket + s.takenBack.count ticket +
      s.resolved.count ticket ≤ 1 := by
  rw [h.balance]
  exact List.nodup_iff_count.1 h.nodup ticket

/-- A ticket stands for one write. -/
theorem Accounted.unique {v w : PendingWrite} (h : s.Accounted) (hv : v ∈ s.submitted)
    (hw : w ∈ s.submitted) (heq : v.ticket = w.ticket) : v = w :=
  List.inj_on_of_nodup_map h.nodup hv hw heq

/-! ### The writes that left the queue for the socket -/

/-- A write leaves the queue for the socket once, and does not come back. -/
structure Dispatching (s : Scene) : Prop where
  /-- None leaves it twice. -/
  nodup : s.dispatched.Nodup
  /-- The write in flight has left it. -/
  mem_of_flying : ∀ ticket ∈ s.flying, ticket ∈ s.dispatched
  /-- None comes back. -/
  left : ∀ ticket ∈ s.dispatched, ticket ∉ s.queued ∧ ticket ∉ s.takenBack
  /-- All of them were submitted. -/
  submitted : ∀ ticket ∈ s.dispatched, ticket ∈ s.submitted.map (·.ticket)

/-- A move of others than the task adds fresh writes at most, and sends nothing. -/
structure Aside (s t : Scene) : Prop where
  inFlight_eq : t.connection.inFlight = s.connection.inFlight
  remaining_eq : t.connection.remaining = s.connection.remaining
  dispatched_eq : t.dispatched = s.dispatched
  shipped_eq : t.shipped = s.shipped
  /-- What is submitted is fresh. -/
  fresh : ∃ writes, t.submitted = s.submitted ++ writes ∧
    ∀ w ∈ writes, w.ticket ∉ s.submitted.map (·.ticket)
  /-- What waits or was handed back did so before, or is fresh. -/
  waits : ∀ ticket, ticket ∈ t.queued ∨ ticket ∈ t.takenBack →
    (ticket ∈ s.queued ∨ ticket ∈ s.takenBack) ∨ ticket ∉ s.submitted.map (·.ticket)

theorem Undisturbed.aside (h : Undisturbed s t) : Aside s t where
  inFlight_eq := h.inFlight_eq
  remaining_eq := h.remaining_eq
  dispatched_eq := h.dispatched_eq
  shipped_eq := h.shipped_eq
  fresh := ⟨[], by rw [h.submitted_eq, List.append_nil], nofun⟩
  waits ticket hticket := by
    rw [queued, takenBack, h.queue_eq, h.handed_eq] at hticket
    exact .inl hticket

theorem mem_of_erase {w : PendingWrite} {ticket : Nat}
    (h : ticket ∈ (s.handed.erase w).map (·.ticket)) : ticket ∈ s.takenBack :=
  List.map_subset _ List.erase_subset h

/-- Moves are turns of the task or moves of others. -/
theorem Moved.aside (hm : s.Moved t) :
    Aside s t ∨ ∃ now stimulus, t = s.turn now stimulus := by
  have hfresh : ∃ writes, s.submitted = s.submitted ++ writes ∧
      ∀ w ∈ writes, w.ticket ∉ s.submitted.map (·.ticket) :=
    ⟨[], (List.append_nil _).symm, nofun⟩
  cases hm with
  | turns now stimulus => exact .inr ⟨now, stimulus, rfl⟩
  | stays => exact .inl ⟨rfl, rfl, rfl, rfl, hfresh, fun _ => .inl⟩
  | pushes w connection hc hw =>
      cases Connection.eq_of_push? hc
      refine .inl ⟨rfl, rfl, rfl, rfl, ⟨[w], rfl, by simpa using hw⟩, fun ticket hticket => ?_⟩
      rw [queued, List.map_append, List.mem_append, List.map_singleton, List.mem_singleton]
        at hticket
      rcases hticket with (hticket | rfl) | hticket
      · exact .inl (.inl hticket)
      · exact .inr hw
      · exact .inl (.inr hticket)
  | rejects w hc hw =>
      exact .inl ⟨rfl, rfl, rfl, rfl, ⟨[w], rfl, by simpa using hw⟩, fun _ => .inl⟩
  | pushesAgain w expects connection hw hc =>
      cases Connection.eq_of_push? hc
      refine .inl ⟨rfl, rfl, rfl, rfl, hfresh, fun ticket hticket => .inl ?_⟩
      rw [queued, List.map_append, List.mem_append, List.map_singleton, List.mem_singleton]
        at hticket
      rcases hticket with (hticket | rfl) | hticket
      · exact .inl hticket
      · exact .inr (List.mem_map.2 ⟨w, hw, rfl⟩)
      · exact .inr (mem_of_erase hticket)
  | rejectsAgain w | discards w =>
      exact .inl ⟨rfl, rfl, rfl, rfl, hfresh, fun _ hticket =>
        .inl (hticket.imp_right mem_of_erase)⟩
  | wakes => exact .inl (undisturbed_post s .wake _).aside
  | takes =>
      refine .inl ⟨rfl, rfl, rfl, rfl, hfresh, fun ticket hticket => .inl ?_⟩
      rw [takenBack, List.map_append, List.mem_append] at hticket
      rcases hticket with hticket | hticket | hticket
      · cases hticket
      · exact .inr hticket
      · exact .inl hticket
  | posts command => exact .inl (undisturbed_post s command s.pushing).aside
  | closes waiter => exact .inl (undisturbed_close s waiter).aside
  | letsGo =>
      obtain ⟨-, heq⟩ | ⟨hp, -⟩ := s.connection.letGo_cases
      · rw [heq]
        exact .inl ⟨rfl, rfl, rfl, rfl, hfresh, fun _ hticket =>
          .inl (.inr (hticket.resolve_left nofun))⟩
      · exact .inl (undisturbed_letGo hp).aside
  | recodes codec => exact .inl ⟨rfl, rfl, rfl, rfl, hfresh, fun _ => .inl⟩

/-- A turn leaves no write in the queue that was not there, and begins the first at most. -/
theorem dispatched_turn (hi : s.connection.Intact) (now : Instant) (stimulus : Stimulus) :
    let next := (s.connection.turn now stimulus).next
    (s.turn now stimulus).dispatched = s.dispatched ∧
        (next.inFlight = s.connection.inFlight ∨ next.inFlight = none) ∧
        (next.queue = s.connection.queue ∨ next.queue = []) ∨
      ∃ w, s.connection.inFlight = none ∧ s.connection.queue = w :: next.queue ∧
        next.inFlight = some (w.dispatch now) ∧
        (s.turn now stimulus).dispatched = s.dispatched ++ [w.ticket] := by
  cases hi.handling now stimulus with
  | begins w hf hq hn =>
      exact .inr ⟨w, hf, hq, hn, by simp [turn, Connection.begun, hf, hn]⟩
  | ends ended hheld hf hq =>
      refine .inl ⟨?_, hf, hq⟩
      cases hw : s.connection.inFlight with
      | some w => simp [turn, after, Connection.begun, hw]
      | none =>
          rw [hw, or_self] at hf
          simp [turn, after, Connection.begun, hw, hf]

theorem dispatching_turn (h : s.Dispatching) (ha : s.Accounted) (hi : s.connection.Intact)
    (now : Instant) (stimulus : Stimulus) : (s.turn now stimulus).Dispatching := by
  obtain ⟨hd, hf, hq⟩ | ⟨w, hf, hq, hn, hd⟩ := dispatched_turn hi now stimulus
  · constructor
    case nodup =>
      rw [hd]
      exact h.nodup
    case mem_of_flying =>
      intro ticket hticket
      rw [hd]
      refine h.mem_of_flying ticket ?_
      rw [flying, connection_turn] at hticket
      rcases hf with hf | hf <;> rw [hf] at hticket
      · exact hticket
      · cases hticket
    case left =>
      intro ticket hticket
      rw [hd] at hticket
      obtain ⟨hqueued, htaken⟩ := h.left ticket hticket
      refine ⟨?_, htaken⟩
      rw [queued, connection_turn]
      rcases hq with hq | hq <;> rw [hq]
      · exact hqueued
      · nofun
    case submitted =>
      rw [hd]
      exact h.submitted
  · -- The write that is begun was found in the queue, so it is found nowhere else.
    have hwaits : w.ticket ∈ s.queued := by simp [queued, hq]
    have hnot : w.ticket ∉ s.dispatched := fun hmem => (h.left _ hmem).1 hwaits
    have hcount := ha.count_le w.ticket
    simp only [Connection.held, hf, hq, Option.toList_none, List.nil_append, List.map_cons,
      List.count_cons_self] at hcount
    constructor
    case nodup =>
      rw [hd, List.nodup_append]
      refine ⟨h.nodup, by simp, fun a hmem b hb heq => hnot ?_⟩
      rw [← List.mem_singleton.1 hb, ← heq]
      exact hmem
    case mem_of_flying =>
      intro ticket hticket
      rw [flying, connection_turn, hn] at hticket
      rw [hd]
      exact List.mem_append_right _ hticket
    case left =>
      intro ticket hticket
      rw [hd] at hticket
      rw [queued, connection_turn]
      rcases List.mem_append.1 hticket with hmem | hmem
      · obtain ⟨hqueued, htaken⟩ := h.left ticket hmem
        refine ⟨fun hin => hqueued ?_, htaken⟩
        rw [queued, hq, List.map_cons]
        exact List.mem_cons_of_mem _ hin
      · cases List.mem_singleton.1 hmem
        refine ⟨List.count_eq_zero.1 (by omega), List.count_eq_zero.1 ?_⟩
        change s.takenBack.count w.ticket = 0
        omega
    case submitted =>
      intro ticket hticket
      rw [hd] at hticket
      rcases List.mem_append.1 hticket with hmem | hmem
      · exact h.submitted ticket hmem
      · cases List.mem_singleton.1 hmem
        obtain ⟨v, hv, heq, -⟩ := ha.kept w (by simp [Connection.held, hq])
        exact List.mem_map.2 ⟨v, hv, heq⟩

theorem Aside.dispatching (hs : Aside s t) (h : s.Dispatching) : t.Dispatching := by
  obtain ⟨writes, hwrites, -⟩ := hs.fresh
  constructor
  case nodup =>
    rw [hs.dispatched_eq]
    exact h.nodup
  case mem_of_flying =>
    rw [hs.dispatched_eq, flying, hs.inFlight_eq]
    exact h.mem_of_flying
  case left =>
    intro ticket hticket
    rw [hs.dispatched_eq] at hticket
    have hwaits := hs.waits ticket
    have hleft := h.left ticket hticket
    have hsubmitted := h.submitted ticket hticket
    tauto
  case submitted =>
    intro ticket hticket
    rw [hs.dispatched_eq] at hticket
    rw [hwrites, List.map_append]
    exact List.mem_append_left _ (h.submitted ticket hticket)

/-- **A write leaves the queue for the socket once**, in every scene. -/
theorem Reachable.dispatching (h : s.Reachable) : s.Dispatching := by
  induction h with
  | start => exact ⟨List.nodup_nil, nofun, nofun, nofun⟩
  | @step s hr move ih =>
      rcases (moved s move).aside with haside | ⟨now, stimulus, heq⟩
      · exact haside.dispatching ih
      · rw [heq]
        exact dispatching_turn ih hr.accounted hr.intact now stimulus

/-! ### What the sockets are handed -/

/-- What the sockets were handed for a write is the beginning of its payload. -/
structure Carrying (s : Scene) : Prop where
  /-- Nothing, before the write leaves the queue for the socket. -/
  carried_eq_nil : ∀ ticket, ticket ∉ s.dispatched → s.carried ticket = []
  /-- With what remains, it is the payload. -/
  carried_remaining : ∀ w rest, s.connection.inFlight = some w →
    s.connection.remaining = some rest → s.carried w.ticket ++ rest = w.payload
  /-- It is the beginning of the payload at any time. -/
  carried_prefix : ∀ v ∈ s.submitted, s.carried v.ticket <+: v.payload

/-- A turn hands over a piece of the payload in flight, and of no other. -/
theorem carried_turn (now : Instant) (stimulus : Stimulus) (ticket : Nat) :
    (s.turn now stimulus).carried ticket = s.carried ticket ++
      if s.connection.inFlight.map (·.ticket) = some ticket then
        s.connection.piece (s.connection.turn now stimulus)
      else [] := by
  have hnew : (s.turn now stimulus).shipped =
      s.shipped ++ s.connection.shipments (s.connection.turn now stimulus) := rfl
  rw [carried, hnew, List.filter_append, List.flatMap_append]
  congr 1
  cases hc : s.connection.carrying with
  | none => simp [Connection.shipments, Connection.piece, hc, List.filter_map, Function.comp_def]
  | some other =>
      have hflying : s.connection.inFlight.map (·.ticket) = some other := by
        unfold Connection.carrying at hc
        split at hc
        · exact hc
        · cases hc
      by_cases heq : other = ticket
      · simp [Connection.shipments, Connection.piece, hc, hflying, heq, List.filter_map,
          Function.comp_def, List.flatMap_map]
      · simp [Connection.shipments, hc, hflying, heq, List.filter_map, Function.comp_def]

theorem Aside.carrying (hs : Aside s t) (h : s.Carrying) (hd : s.Dispatching) : t.Carrying := by
  obtain ⟨writes, hwrites, hfresh⟩ := hs.fresh
  have hcarried : t.carried = s.carried := by
    funext ticket
    rw [carried, carried, hs.shipped_eq]
  constructor
  · rw [hs.dispatched_eq, hcarried]
    exact h.carried_eq_nil
  · rw [hs.inFlight_eq, hs.remaining_eq, hcarried]
    exact h.carried_remaining
  · intro v hv
    rw [hcarried]
    rw [hwrites] at hv
    rcases List.mem_append.1 hv with hv | hv
    · exact h.carried_prefix v hv
    · rw [h.carried_eq_nil v.ticket fun hmem => hfresh v hv (hd.submitted _ hmem)]
      exact List.nil_prefix

theorem carrying_turn (h : s.Carrying) (hd : s.Dispatching) (ha : s.Accounted)
    (hi : s.connection.Intact) (now : Instant) (stimulus : Stimulus) :
    (s.turn now stimulus).Carrying := by
  obtain ⟨hsome, hnone⟩ := hi.proceeds now stimulus
  have hmono : s.dispatched <+: (s.turn now stimulus).dispatched := List.prefix_append _ _
  cases hw : s.connection.inFlight with
  | none =>
      obtain ⟨-, hwhole⟩ := hnone hw
      have hsame : (s.turn now stimulus).carried = s.carried := by
        funext ticket
        simp [carried_turn, hw]
      constructor
      · intro ticket hticket
        rw [hsame]
        exact h.carried_eq_nil ticket fun hmem => hticket (hmono.subset hmem)
      · intro w rest hnext hrest
        -- The write was found in the queue, so nothing was handed over for it yet.
        have hnot : w.ticket ∉ s.dispatched := by
          obtain ⟨-, hf, -⟩ | ⟨v, -, hq, hn, -⟩ := dispatched_turn hi now stimulus
          · rw [hw, or_self] at hf
            rw [connection_turn, hf] at hnext
            cases hnext
          · rw [connection_turn, hn] at hnext
            cases hnext
            exact fun hmem => (hd.left _ hmem).1 (by simp [queued, hq])
        rw [hsame, h.carried_eq_nil _ hnot, hwhole w rest hnext hrest, List.nil_append]
      · rw [hsame]
        exact h.carried_prefix
  | some w =>
      obtain ⟨hpiece, hrest⟩ := hsome (by rw [hw]; rfl)
      have hmem : w.ticket ∈ s.dispatched := hd.mem_of_flying _ (by simp [flying, hw])
      have hthis : (s.turn now stimulus).carried w.ticket = s.carried w.ticket ++
          s.connection.piece (s.connection.turn now stimulus) := by simp [carried_turn, hw]
      have hother {ticket : Nat} (hne : ticket ≠ w.ticket) :
          (s.turn now stimulus).carried ticket = s.carried ticket := by
        simp [carried_turn, hw, Ne.symm hne]
      constructor
      · intro ticket hticket
        have hbefore : ticket ∉ s.dispatched := fun hmem => hticket (hmono.subset hmem)
        have hne : ticket ≠ w.ticket := fun heq => hbefore (by rw [heq]; exact hmem)
        rw [hother hne]
        exact h.carried_eq_nil ticket hbefore
      · intro v rest hnext hremaining
        obtain ⟨-, hf, -⟩ | ⟨-, hf, -⟩ := dispatched_turn hi now stimulus
        · rw [connection_turn] at hnext
          rcases hf with hf | hf <;> rw [hf] at hnext
          · rw [hw] at hnext
            cases hnext
            rw [hthis, List.append_assoc]
            exact h.carried_remaining w _ hw (hrest rest hremaining)
          · cases hnext
        · rw [hw] at hf
          cases hf
      · intro v hv
        by_cases hne : v.ticket = w.ticket
        · obtain ⟨u, hu, hticket, hpayload⟩ := ha.kept w (by simp [Connection.held, hw])
          have heq : v = u := ha.unique hv hu (hne.trans hticket.symm)
          rw [hne, hthis]
          rcases hpiece with hnil | ⟨rest, hremaining⟩
          · rw [hnil, List.append_nil, ← hne]
            exact h.carried_prefix v hv
          · refine ⟨rest, ?_⟩
            rw [List.append_assoc, heq, hpayload]
            exact h.carried_remaining w _ hw hremaining
        · rw [hother hne]
          exact h.carried_prefix v hv

/-- **What the sockets were handed for a write is the beginning of its payload**, in every scene. -/
theorem Reachable.carrying (h : s.Reachable) : s.Carrying := by
  induction h with
  | start => exact ⟨fun _ _ => rfl, nofun, nofun⟩
  | @step s hr move ih =>
      rcases (moved s move).aside with haside | ⟨now, stimulus, heq⟩
      · exact haside.carrying ih hr.dispatching
      · rw [heq]
        exact carrying_turn ih hr.dispatching hr.accounted hr.intact now stimulus

/-! ### From then on -/

/-- What was dispatched or told is never taken back, and nothing is handed over for a write that is
resolved. -/
structure Onward (s t : Scene) : Prop where
  dispatched_grows : s.dispatched <+: t.dispatched
  outcomes_grow : s.outcomes <+: t.outcomes
  carried_eq : ∀ ticket ∈ s.resolved, t.carried ticket = s.carried ticket

theorem Onward.refl (s : Scene) : Onward s s :=
  ⟨List.prefix_refl _, List.prefix_refl _, fun _ _ => rfl⟩

theorem Onward.trans {u : Scene} (h : Onward s t) (h' : Onward t u) : Onward s u where
  dispatched_grows := h.dispatched_grows.trans h'.dispatched_grows
  outcomes_grow := h.outcomes_grow.trans h'.outcomes_grow
  carried_eq ticket hticket :=
    (h'.carried_eq ticket ((h.outcomes_grow.map _).subset hticket)).trans
      (h.carried_eq ticket hticket)

/-- Effects are added, and never taken away. -/
theorem Moved.effects_grow (hm : s.Moved t) : s.effects <+: t.effects := by
  cases hm <;> first | exact List.prefix_refl _ | exact List.prefix_append _ _

theorem Moved.onward (hm : s.Moved t) (ha : s.Accounted) : Onward s t where
  dispatched_grows := by
    rcases hm.aside with haside | ⟨now, stimulus, rfl⟩
    · exact haside.dispatched_eq ▸ List.prefix_refl _
    · exact List.prefix_append _ _
  outcomes_grow := hm.effects_grow.filterMap _
  carried_eq ticket hticket := by
    rcases hm.aside with haside | ⟨now, stimulus, rfl⟩
    · rw [carried, carried, haside.shipped_eq]
    · -- The write in flight is in another place than those that are resolved.
      have hne : s.connection.inFlight.map (·.ticket) ≠ some ticket := by
        intro heq
        obtain ⟨w, hw, rfl⟩ := Option.map_eq_some_iff.1 heq
        have hcount := ha.count_le w.ticket
        have hresolved := List.count_pos_iff.2 hticket
        simp only [Connection.held, hw, Option.toList_some, List.singleton_append, List.map_cons,
          List.count_cons_self] at hcount
        omega
      rw [carried_turn, if_neg hne, List.append_nil]

theorem Reachable.onward (h : s.Reachable) (moves : List Move) : Onward s (s.run moves) := by
  induction moves generalizing s with
  | nil => exact .refl s
  | cons move moves ih => exact ((moved s move).onward h.accounted).trans (ih (h.step move))

/-! ### What it means for those who submit writes -/

/-- **Every write is resolved exactly once.**  It is in one of four places, and resolved at most
once; an outcome hands its payload back unchanged; once it was dispatched or resolved it does not
wait again, and nothing is sent a second time; and a stopped connection keeps no write. -/
theorem resolved_exactly_once (h : s.Reachable) :
    (s.submitted.map (·.ticket)).Nodup ∧
    (∀ w ∈ s.submitted, s.queued.count w.ticket + s.flying.count w.ticket +
      s.takenBack.count w.ticket + s.resolved.count w.ticket = 1) ∧
    (∀ ticket returned, (ticket, .undelivered returned) ∈ s.outcomes →
      ∃ w ∈ s.submitted, w.ticket = ticket ∧ returned.payload = w.payload) ∧
    (∀ moves ticket, ticket ∈ s.dispatched ∨ ticket ∈ s.resolved →
      ticket ∉ (s.run moves).queued ∧ ticket ∉ (s.run moves).takenBack) ∧
    s.dispatched.Nodup ∧
    (∀ w ∈ s.submitted, s.carried w.ticket <+: w.payload) ∧
    (∀ ticket, ticket ∉ s.dispatched → s.carried ticket = []) ∧
    (∀ moves ticket, ticket ∈ s.resolved →
      ticket ∉ (s.run moves).flying ∧ (s.run moves).carried ticket = s.carried ticket) ∧
    (s.connection.status = .stopped → s.connection.queue = [] ∧ s.connection.inFlight = none ∧
      ∀ w ∈ s.submitted, w.ticket ∈ s.takenBack ∨ w.ticket ∈ s.resolved) := by
  have ha := h.accounted
  have hheld (s : Scene) (ticket : Nat) : (s.connection.held.map (·.ticket)).count ticket =
      s.flying.count ticket + s.queued.count ticket := by
    rw [Connection.held, List.map_append, List.count_append]
    rfl
  have hone (w : PendingWrite) (hw : w ∈ s.submitted) : s.queued.count w.ticket +
      s.flying.count w.ticket + s.takenBack.count w.ticket + s.resolved.count w.ticket = 1 := by
    have hbalance := ha.balance w.ticket
    have hcount := List.nodup_iff_count.1 ha.nodup w.ticket
    have hmem : 0 < (s.submitted.map (·.ticket)).count w.ticket :=
      List.count_pos_iff.2 (List.mem_map.2 ⟨w, hw, rfl⟩)
    rw [hheld] at hbalance
    omega
  -- What is resolved is in no other place, now or later.
  have hresolved (moves : List Move) (ticket : Nat) (hticket : ticket ∈ s.resolved) :
      ticket ∉ (s.run moves).queued ∧ ticket ∉ (s.run moves).takenBack ∧
        ticket ∉ (s.run moves).flying := by
    have hmem : ticket ∈ (s.run moves).resolved :=
      ((h.onward moves).outcomes_grow.map _).subset hticket
    have hcount := (h.run moves).accounted.count_le ticket
    have hpos := List.count_pos_iff.2 hmem
    rw [hheld] at hcount
    refine ⟨List.count_eq_zero.1 ?_, List.count_eq_zero.1 ?_, List.count_eq_zero.1 ?_⟩ <;> omega
  refine ⟨ha.nodup, hone, fun ticket returned hmem => ha.told _ hmem, fun moves ticket hor => ?_,
    h.dispatching.nodup, h.carrying.carried_prefix, h.carrying.carried_eq_nil,
    fun moves ticket hticket => ?_, fun hs => ?_⟩
  · rcases hor with hmem | hmem
    · exact (h.run moves).dispatching.left ticket
        ((h.onward moves).dispatched_grows.subset hmem)
    · obtain ⟨hqueued, htaken, -⟩ := hresolved moves ticket hmem
      exact ⟨hqueued, htaken⟩
  · exact ⟨(hresolved moves ticket hticket).2.2, (h.onward moves).carried_eq ticket hticket⟩
  · have hqueue := h.intact.published.queue_eq_nil hs
    have hflight := h.intact.inFlight_eq_none hs
    refine ⟨hqueue, hflight, fun w hw => ?_⟩
    have hcount := hone w hw
    rw [queued, flying, hqueue, hflight] at hcount
    by_cases hmem : w.ticket ∈ s.resolved
    · exact .inr hmem
    · rw [List.count_eq_zero.2 hmem] at hcount
      refine .inl (List.count_pos_iff.1 ?_)
      simp only [List.map_nil, Option.toList_none, List.count_nil] at hcount
      omega

/-- A run in which a write is answered, another is handed back, and the connection is closed. -/
def deliveryRun : List Move :=
  [.push { sampleWrite with ticket := 8 }, .turn ⟨3⟩ (.accepted 1), .turn ⟨3⟩ .tick,
    .turn ⟨3⟩ .tick, .turn ⟨4⟩ (.received [10]), .turn ⟨4⟩ .tick, .take, .shutdown,
    .turn ⟨5⟩ .tick, .turn ⟨5⟩ .command, .turn ⟨5⟩ .tick]

theorem resolved_exactly_once_deliveryRun :
    let s := sample.run deliveryRun
    s.submitted.map (·.ticket) = [7, 8] ∧ s.connection.status = .stopped ∧ s.resolved = [7] ∧
      s.queued.count 8 + s.flying.count 8 + s.takenBack.count 8 + s.resolved.count 8 = 1 :=
  ⟨by decide, by decide, by decide,
    (resolved_exactly_once (reachable_sample.run deliveryRun)).2.1
      { sampleWrite with ticket := 8 } (by decide)⟩

end Uplink.Scene

/-
What a receipt tells.

The submitter of a write looks at its receipt whenever it likes, before the write is resolved and
after that.  Until then the receipt tells nothing; the first look after that is told the outcome,
which is handed over; and whoever looks again is told of a cancellation of a write without a
payload, whatever the outcome was.

* `Uplink.Receipt.Incident`, `Uplink.Receipt.answers` — what happens to a receipt, and what looks at
  it find;
* `Uplink.Receipt.course` — what they find once the write is resolved;
* `Uplink.PendingWrite.Event`, `Uplink.PendingWrite.incidents` — what may be done with a write by
  whoever has it, and what its receipt learns of that;
* `Uplink.Scene.incidents` — what the receipt of a write learns in a run of a connection;
* `Uplink.PendingWrite.Told`, `Uplink.Scene.Told` — what the looks find in either case;
* `Uplink.Receipt.outcome_told` — **a receipt tells the one outcome of its write, once**;
* `Uplink.Receipt.cancelled_after_delivery` — **a write that was delivered may be reported as
  cancelled**.
-/

import Uplink.Proofs.Delivery

set_option relaxedAutoImplicit false
set_option autoImplicit false

namespace Uplink

/-! ### Looking at a receipt -/

namespace Receipt

/-- What happens to a receipt. -/
inductive Incident
  /-- The write is resolved. -/
  | told (outcome : Outcome)
  /-- Somebody looks. -/
  | look
deriving DecidableEq, Repr

/-- What the looks find. -/
def answers : Receipt → List Incident → List (Option Outcome)
  | _, [] => []
  | r, .told outcome :: rest => (r.resolve outcome).answers rest
  | r, .look :: rest => r.poll.1 :: r.poll.2.answers rest

/-- What looks find once the write is resolved. -/
def course (outcome : Outcome) : Nat → List (Option Outcome)
  | 0 => []
  | n + 1 => some outcome :: List.replicate n (some exhausted)

/-- An outcome that was handed over is not told again. -/
theorem answers_taken (incidents : List Incident) :
    taken.answers incidents = List.replicate (incidents.count .look) (some exhausted) := by
  induction incidents with
  | nil => rfl
  | cons incident rest ih =>
      cases incident with
      | told outcome => simpa [answers, resolve] using ih
      | look => simpa [answers, poll, List.replicate_succ] using ih

/-- An outcome is told by the first look, whatever happens meanwhile. -/
theorem answers_ready (outcome : Outcome) (incidents : List Incident) :
    (ready outcome).answers incidents = course outcome (incidents.count .look) := by
  induction incidents with
  | nil => rfl
  | cons incident rest ih =>
      cases incident with
      | told other => simpa [answers, resolve] using ih
      | look => simp [answers, poll, answers_taken, course]

end Receipt

/-! ### A write in somebody's hands -/

namespace PendingWrite

/-- How a write may end. -/
inductive Ending
  | deliver (now : Instant) (response : Option Bytes)
  | fail (error : ConnectionError)
  | drop
deriving DecidableEq, Repr

/-- The outcome. -/
def ended (w : PendingWrite) : Ending → Outcome
  | .deliver now response => w.delivered now response
  | .fail error => w.undelivered error
  | .drop => w.undelivered .cancelled

theorem keeps_ended (w : PendingWrite) (ending : Ending) : (w.ended ending).Keeps w.payload := by
  cases ending <;> rfl

/-- What may happen to a write and its receipt, wherever they are. -/
inductive Event
  /-- Somebody looks at the receipt. -/
  | look
  /-- It is said whether a response is expected. -/
  | wish (expects : Bool)
  /-- The write leaves a queue. -/
  | dispatch (now : Instant)
  /-- The write is used up. -/
  | ends (ending : Ending)
deriving DecidableEq, Repr

/-- What the receipt learns.  A write that is used up cannot be used again. -/
def incidents : Option PendingWrite → List Event → List Receipt.Incident
  | _, [] => []
  | w, .look :: rest => .look :: incidents w rest
  | some w, .wish expects :: rest => incidents (some { w with expects := some expects }) rest
  | some w, .dispatch now :: rest => incidents (some (w.dispatch now)) rest
  | some w, .ends ending :: rest => .told (w.ended ending) :: incidents none rest
  | none, _ :: rest => incidents none rest

theorem count_look_incidents (w : Option PendingWrite) (events : List Event) :
    (incidents w events).count .look = events.count .look := by
  induction events generalizing w with
  | nil => cases w <;> rfl
  | cons event rest ih =>
      cases event <;> cases w <;> simp [incidents, ih]

/-- A write that is not used up is not resolved. -/
theorem answers_incidents (w : PendingWrite) {events : List Event}
    (h : ∀ ending, .ends ending ∉ events) : Receipt.unresolved.answers (incidents (some w) events) =
      List.replicate (events.count .look) none := by
  induction events generalizing w with
  | nil => rfl
  | cons event rest ih =>
      have hrest (v : PendingWrite) :=
        ih v fun ending hmem => h ending (List.mem_cons_of_mem _ hmem)
      cases event with
      | look => simp [incidents, Receipt.answers, Receipt.poll, hrest, List.replicate_succ]
      | wish | dispatch => simp [incidents, hrest]
      | ends ending => exact absurd List.mem_cons_self (h ending)

/-- A write that is used up has one outcome, which is told once. -/
theorem answers_incidents_ends (w : PendingWrite) {before : List Event} (ending : Ending)
    (after : List Event) (h : ∀ ending, .ends ending ∉ before) :
    ∃ v : PendingWrite, v.ticket = w.ticket ∧ v.payload = w.payload ∧
      Receipt.unresolved.answers (incidents (some w) (before ++ .ends ending :: after)) =
        List.replicate (before.count .look) none ++
          Receipt.course (v.ended ending) (after.count .look) := by
  induction before generalizing w with
  | nil =>
      refine ⟨w, rfl, rfl, ?_⟩
      simp [incidents, Receipt.answers, Receipt.resolve, Receipt.answers_ready,
        count_look_incidents]
  | cons event rest ih =>
      have hrest (v : PendingWrite) :=
        ih v fun ending hmem => h ending (List.mem_cons_of_mem _ hmem)
      cases event with
      | look =>
          obtain ⟨v, hticket, hpayload, hanswers⟩ := hrest w
          refine ⟨v, hticket, hpayload, ?_⟩
          simp [incidents, Receipt.answers, Receipt.poll, hanswers, List.replicate_succ]
      | wish expects =>
          obtain ⟨v, hticket, hpayload, hanswers⟩ := hrest { w with expects := some expects }
          exact ⟨v, hticket, hpayload, by simpa [incidents] using hanswers⟩
      | dispatch now =>
          obtain ⟨v, hticket, hpayload, hanswers⟩ := hrest (w.dispatch now)
          exact ⟨v, hticket, hpayload, by simpa [incidents] using hanswers⟩
      | ends ending => exact absurd List.mem_cons_self (h ending)

/-- What looks at the receipt of a write find, whatever is done with it: nothing, as long as the
write is not used up; from then on its outcome, once. -/
inductive Told (w : PendingWrite) (events : List Event) : Prop
  | unresolved (h : ∀ ending, .ends ending ∉ events)
      (ha : Receipt.unresolved.answers (incidents (some w) events) =
        List.replicate (events.count .look) none)
  | resolved (before : List Event) (ending : Ending) (after : List Event) (v : PendingWrite)
      (he : events = before ++ .ends ending :: after) (hb : ∀ ending, .ends ending ∉ before)
      (hticket : v.ticket = w.ticket) (hk : (v.ended ending).Keeps w.payload)
      (ha : Receipt.unresolved.answers (incidents (some w) events) =
        List.replicate (before.count .look) none ++
          Receipt.course (v.ended ending) (after.count .look))

/-- **Every sequence of events is one of these.** -/
theorem told (w : PendingWrite) (events : List Event) : Told w events := by
  have hfirst : (∀ ending, .ends ending ∉ events) ∨ ∃ before ending after,
      events = before ++ .ends ending :: after ∧ ∀ ending, .ends ending ∉ before := by
    induction events with
    | nil => exact .inl nofun
    | cons event rest ih =>
        rcases ih with hnone | ⟨before, ending, after, rfl, hbefore⟩
        · cases event with
          | ends ending => exact .inr ⟨[], ending, rest, rfl, nofun⟩
          | _ => exact .inl (by simpa using hnone)
        · cases event with
          | ends first => exact .inr ⟨[], first, _, rfl, nofun⟩
          | _ => exact .inr ⟨_ :: before, ending, after, rfl, by simpa using hbefore⟩
  obtain hnone | ⟨before, ending, after, rfl, hbefore⟩ := hfirst
  · exact .unresolved hnone (w.answers_incidents hnone)
  · obtain ⟨v, hticket, hpayload, ha⟩ := w.answers_incidents_ends ending after hbefore
    exact .resolved before ending after v rfl hbefore hticket (hpayload ▸ v.keeps_ended ending) ha

end PendingWrite

/-! ### A write at a connection -/

namespace Scene

variable {s : Scene} {ticket : Nat}

/-- The outcomes of a write. -/
def told (s : Scene) (ticket : Nat) : List Outcome :=
  (s.outcomes.filter (·.1 = ticket)).map (·.2)

/-- What the receipt of a write learns in a run, with looks in between. -/
def incidents (ticket : Nat) : Scene → List (Option Move) → List Receipt.Incident
  | _, [] => []
  | s, none :: rest => .look :: incidents ticket s rest
  | s, some move :: rest =>
      (((s.step move).told ticket).drop (s.told ticket).length).map .told ++
        incidents ticket (s.step move) rest

/-- Looks leave the run alone. -/
def watched (s : Scene) (script : List (Option Move)) : Scene := s.run (script.filterMap id)

theorem told_grows (h : s.Reachable) (moves : List Move) (ticket : Nat) :
    s.told ticket <+: (s.run moves).told ticket :=
  ((h.onward moves).outcomes_grow.filter _).map _

/-- A write has one outcome at most. -/
theorem length_told_le (h : s.Reachable) (ticket : Nat) : (s.told ticket).length ≤ 1 := by
  have hcount := h.accounted.count_le ticket
  have hlength : (s.told ticket).length = s.resolved.count ticket := by
    rw [told, List.length_map, resolved, List.count_eq_countP, List.countP_map,
      List.countP_eq_length_filter]
    rfl
  omega

/-- A write that has an outcome keeps it. -/
theorem told_run (h : s.Reachable) {outcome : Outcome} (ho : s.told ticket = [outcome])
    (moves : List Move) : (s.run moves).told ticket = [outcome] := by
  obtain ⟨more, hmore⟩ := told_grows h moves ticket
  have hlength := length_told_le (h.run moves) ticket
  rw [← hmore, ho, List.length_append, List.length_singleton] at hlength
  rw [← hmore, ho, List.length_eq_zero_iff.1 (by omega : more.length = 0)]
  rfl

theorem count_look_incidents (s : Scene) (script : List (Option Move)) :
    (incidents ticket s script).count .look = script.countP Option.isNone := by
  induction script generalizing s with
  | nil => rfl
  | cons event rest ih =>
      cases event with
      | none => simp [incidents, ih]
      | some move =>
          have hnone : ((((s.step move).told ticket).drop (s.told ticket).length).map
              Receipt.Incident.told).count .look = 0 := by
            refine List.count_eq_zero.2 fun hmem => ?_
            obtain ⟨outcome, -, heq⟩ := List.mem_map.1 hmem
            cases heq
          rw [incidents, List.count_append, hnone, Nat.zero_add, ih]
          rfl

/-- An outcome tells of the payload that was submitted. -/
theorem keeps_told (h : s.Reachable) {outcome : Outcome} (ho : outcome ∈ s.told ticket) :
    ∃ w ∈ s.submitted, w.ticket = ticket ∧ outcome.Keeps w.payload := by
  obtain ⟨e, he, rfl⟩ := List.mem_map.1 ho
  obtain ⟨hmem, hticket⟩ := List.mem_filter.1 he
  obtain ⟨w, hw, heq, hkeeps⟩ := h.accounted.told e hmem
  exact ⟨w, hw, heq.trans (by simpa using hticket), hkeeps⟩

/-- What the looks of a run find: nothing, as long as the write is not resolved; from the move on
that resolves it, its outcome, once. -/
inductive Told (ticket : Nat) (s : Scene) (script : List (Option Move)) : Prop
  | unresolved (ht : (s.watched script).told ticket = [])
      (ha : Receipt.unresolved.answers (incidents ticket s script) =
        List.replicate (script.countP Option.isNone) none)
  | resolved (before : List (Option Move)) (move : Move) (after : List (Option Move))
      (outcome : Outcome) (hs : script = before ++ some move :: after)
      (hb : (s.watched before).told ticket = [])
      (hm : ((s.watched before).step move).told ticket = [outcome])
      (ht : (s.watched script).told ticket = [outcome])
      (hk : ∃ w ∈ (s.watched script).submitted, w.ticket = ticket ∧ outcome.Keeps w.payload)
      (ha : Receipt.unresolved.answers (incidents ticket s script) =
        List.replicate (before.countP Option.isNone) none ++
          Receipt.course outcome (after.countP Option.isNone))

/-- **Every run is one of these.** -/
theorem Reachable.told (h : s.Reachable) (ht : s.told ticket = []) (script : List (Option Move)) :
    Told ticket s script := by
  induction script generalizing s with
  | nil => exact .unresolved ht rfl
  | cons event rest ih =>
      cases event with
      | none =>
          cases ih h ht with
          | unresolved ht ha =>
              refine .unresolved ht ?_
              simp [incidents, Receipt.answers, Receipt.poll, ha, List.replicate_succ]
          | resolved before move after outcome hs hb hm ht hk ha =>
              refine .resolved (none :: before) move after outcome (by rw [hs]; rfl) hb hm ht hk ?_
              simp [incidents, Receipt.answers, Receipt.poll, ha, List.replicate_succ]
      | some move =>
          have hstep := h.step move
          have hlength := length_told_le hstep ticket
          cases hnext : (s.step move).told ticket with
          | nil =>
              have hincidents : incidents ticket s (some move :: rest) =
                  incidents ticket (s.step move) rest := by simp [incidents, hnext]
              cases ih hstep hnext with
              | unresolved ht ha =>
                  refine .unresolved ht ?_
                  rw [hincidents, ha]
                  simp
              | resolved before last after outcome hs hb hm ht hk ha =>
                  refine .resolved (some move :: before) last after outcome (by rw [hs]; rfl) hb hm
                    ht hk ?_
                  rw [hincidents, ha]
                  simp
          | cons outcome others =>
              -- The move resolves the write.
              obtain rfl : others = [] := by
                rw [hnext, List.length_cons] at hlength
                exact List.length_eq_zero_iff.1 (by omega)
              have hlast := told_run hstep hnext (rest.filterMap id)
              refine .resolved [] move rest outcome rfl ht hnext hlast
                (keeps_told (hstep.run _) (by rw [hlast]; exact List.mem_singleton_self _)) ?_
              simp [incidents, ht, hnext, Receipt.answers, Receipt.resolve,
                Receipt.answers_ready, count_look_incidents]

end Scene

namespace Receipt

/-! ### What a receipt tells -/

/-- Nothing but the outcome is told as long as nobody looks twice, or the outcome is the
cancellation of a write without a payload anyway. -/
theorem course_faithful_iff (outcome : Outcome) (looks : Nat) :
    (∀ answer ∈ course outcome looks, answer = some outcome) ↔
      looks ≤ 1 ∨ outcome = exhausted := by
  cases looks with
  | zero => simp [course]
  | succ n =>
      cases n with
      | zero => simp [course]
      | succ n =>
          simp only [course, List.replicate_succ, List.forall_mem_cons, Option.some.injEq, true_and]
          constructor
          · exact fun h => .inr h.1.symm
          · rintro (hlooks | rfl)
            · omega
            · exact ⟨rfl, fun answer hmem => List.eq_of_mem_replicate hmem⟩

/-- **A receipt tells the one outcome of its write, once.**  Whatever is done with a write, and
whoever has it: the receipt tells nothing until the write is used up; the first look after that
finds the outcome, which is a delivery exactly if the write was delivered, and hands its payload
back otherwise; and all later looks find the cancellation of a write without a payload.  The same is
so of every write at a connection, in every run.  So nothing but the outcome is told exactly if
nobody looks again, or that cancellation is the outcome. -/
theorem outcome_told (w : PendingWrite) (events : List PendingWrite.Event) {s : Scene}
    (hs : s.Reachable) {ticket : Nat} (ht : s.told ticket = []) (script : List (Option Move)) :
    PendingWrite.Told w events ∧ Scene.Told ticket s script ∧
      ∀ outcome looks, (∀ answer ∈ course outcome looks, answer = some outcome) ↔
        looks ≤ 1 ∨ outcome = exhausted :=
  ⟨w.told events, hs.told ht script, course_faithful_iff⟩

/-- A run in which a write is delivered, and somebody looks at its receipt once before that and
twice afterwards. -/
def watchedRun : List (Option Move) :=
  none :: Scene.deliveryRun.map some ++ [none, none]

theorem outcome_told_watchedRun :
    let outcome : Outcome := .delivered ⟨1, some [10], ⟨2⟩, ⟨2⟩⟩
    let events : List PendingWrite.Event :=
      [.look, .dispatch ⟨1⟩, .ends .drop, .look, .look]
    (∃ before ending after, ∃ v : PendingWrite, events = before ++ .ends ending :: after ∧
      (v.ended ending).Keeps Scene.sampleWrite.payload ∧
      unresolved.answers (PendingWrite.incidents (some Scene.sampleWrite) events) =
        List.replicate (before.count .look) none ++
          course (v.ended ending) (after.count .look)) ∧
    Scene.sample.Reachable ∧ Scene.sample.told 7 = [] ∧
    (Scene.sample.watched watchedRun).told 7 = [outcome] ∧
    (∃ before move after, watchedRun = before ++ some move :: after ∧
      (Scene.sample.watched before).told 7 = [] ∧
      unresolved.answers (Scene.incidents 7 Scene.sample watchedRun) =
        List.replicate (before.countP Option.isNone) none ++
          course outcome (after.countP Option.isNone)) ∧
    ¬∀ answer ∈ course outcome 2, answer = some outcome := by
  intro outcome events
  have hfirst : Scene.sample.told 7 = [] := by decide
  have hlast : (Scene.sample.watched watchedRun).told 7 = [outcome] := by decide
  obtain ⟨hevents, hrun, hfaithful⟩ :=
    outcome_told Scene.sampleWrite events Scene.reachable_sample hfirst watchedRun
  refine ⟨?_, Scene.reachable_sample, hfirst, hlast, ?_, fun h => ?_⟩
  · cases hevents with
    | unresolved h => exact absurd (by simp [events]) (h .drop)
    | resolved before ending after v he hb hticket hk ha =>
        exact ⟨before, ending, after, v, he, hk, ha⟩
  · cases hrun with
    | unresolved ht =>
        rw [hlast] at ht
        cases ht
    | resolved before move after other hs hb hm ht hk ha =>
        rw [hlast] at ht
        cases ht
        exact ⟨before, move, after, hs, hb, ha⟩
  · rcases (hfaithful outcome 2).1 h with hlooks | houtcome
    · omega
    · exact absurd houtcome (by decide)

/-- **A write that was delivered may be reported as cancelled**, and without its payload: that is
what the second look after the delivery finds. -/
theorem cancelled_after_delivery :
    let outcome : Outcome := .delivered ⟨1, some [10], ⟨2⟩, ⟨2⟩⟩
    (Scene.sample.watched watchedRun).told 7 = [outcome] ∧ Scene.sampleWrite.ticket = 7 ∧
      Scene.sampleWrite.payload ≠ [] ∧
      unresolved.answers (Scene.incidents 7 Scene.sample watchedRun) =
        [none, some outcome, some (.undelivered ⟨[], .cancelled⟩)] := by
  decide

end Receipt

end Uplink

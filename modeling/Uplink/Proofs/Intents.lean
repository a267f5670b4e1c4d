/-
Connects that are still to be carried out.

A connect that somebody asks for is first in the inbox, then in the signal that ends a phase; firing
that signal carries it out.  A connection has use for one connect while it has no socket.  What it
does with the others depends on when it reads them: while it connects or is busy they mean nothing,
and while it is free they make it connect again.

* `Uplink.Status.uses` — how many connects a connection has use for;
* `Uplink.Connection.intents` — the connects that are still to be carried out;
* `Uplink.Connection.Heeds`, `Uplink.Connection.Intact.heeds` — **what a turn does with them**;
* `Uplink.Connection.Intact.swallows` — those that mean nothing;
* `Uplink.Fleet.Unmoved`, `Uplink.Fleet.Discreet` — what leaves them and the status alone.
-/

import Uplink.Proofs.Closing
import Uplink.Proofs.Custody

set_option relaxedAutoImplicit false
set_option autoImplicit false

namespace Uplink

/-- How many connects a connection has use for: one while there is no socket, and none from the
start of a connect until it has failed.  Once it is stopped, nothing comes of them. -/
def Status.uses : Status → Nat
  | undefined | connectFailed | stopped => 1
  | connecting | free | writing | waiting => 0

theorem Status.uses_le (status : Status) : status.uses ≤ 1 := by cases status <;> decide

/-- A connect was read, and is carried out next. -/
def Position.connects : Position → Bool
  | signalled .connect => true
  | _ => false

theorem Position.connects_of_not_isAsked {position : Position} (h : position.isAsked = false) :
    position.connects = false := by
  cases position with
  | signalled signal => cases signal <;> first | rfl | cases h
  | _ => rfl

namespace Connection

variable {c d : Connection} {now : Instant} {stimulus : Stimulus}

/-! ### Connects that are still to be carried out -/

/-- The connects that were asked for and are still to be carried out: those that the task has not
read, and the one that it has read last. -/
def intents (c : Connection) : Nat :=
  c.inbox.count .connect + c.position.connects.toNat

/-- A turn that fires no signal carries out no connect.  It may read one, which then means nothing
or is carried out next. -/
theorem Passing.intents_le {p : Progress} (hp : c.Passing now stimulus p)
    (hsig : c.position.isSignalled = false) : p.next.intents ≤ c.intents := by
  have hcalm : c.position.connects = false := by
    cases h : c.position <;> first | rfl | (rw [h] at hsig; cases hsig)
  have htail : c.inbox.tail.count .connect ≤ c.inbox.count .connect :=
    (List.tail_sublist c.inbox).count_le _
  rw [intents, intents, hcalm]
  cases hp.reading with
  | none hr hw hi hpos =>
      have hnone : p.next.position.connects = false := by
        rcases hpos with hpos | hpos
        · rw [hpos, hcalm]
        · exact Position.connects_of_not_isAsked hpos
      exact Nat.le_of_eq (by rw [hi, hnone])
  | swallows command hi hc hn =>
      simp only [hn, hcalm]
      exact Nat.add_le_add_right htail _
  | obeys command hi hn =>
      rw [hn]
      cases command with
      | connect =>
          -- The connect leaves the inbox and becomes the signal.
          obtain ⟨rest, hrest⟩ : ∃ rest, c.inbox = .connect :: rest := by
            rcases hi with hi | ⟨-, hi⟩
            · exact List.head?_eq_some_iff.1 hi
            · cases hi
          simp [signal, Command.signal, hrest, Position.connects]
      | wake | close => exact Nat.add_le_add_right htail _
  | ends hr hw hi hpos =>
      rw [hi, Position.connects_of_not_isAsked hpos]
      exact Nat.add_le_add_right (Nat.zero_le _) _

/-- What a turn does with the connects that are still to be carried out. -/
inductive Heeds (c : Connection) (p : Progress) : Prop
  /-- It carries out none. -/
  | rests (hs : p.next.status = c.status) (hi : p.next.intents ≤ c.intents) (hc : p.changes = [])
  /-- It carries out one, also while there is a socket. -/
  | connects (hs : c.status = .undefined ∨ c.status = .connectFailed ∨ c.status = .free)
      (hn : p.next.status = .connecting) (hi : p.next.intents + 1 = c.intents)
      (hc : p.changes = [(c.status, .connecting)])
  /-- It changes the status for another reason.  Only a connect uses one up. -/
  | moves (target : Status) (hne : target ≠ .undefined) (hne' : target ≠ .connecting)
      (hle : c.status.uses ≤ target.uses) (hn : p.next.status = target)
      (hi : p.next.intents ≤ c.intents) (hc : p.changes = [(c.status, target)])

/-- Only a connect makes a connection connect, nothing makes it one that never connected, and only a
connect brings it from a status that has use for one to a status that has none. -/
theorem Firing.target_cases {signal : Signal} {p : Progress} (hf : c.Firing now signal p) :
    signal = .connect ∨ p.next.status = c.status ∨ p.next.status ≠ .undefined ∧
      p.next.status ≠ .connecting ∧ c.status.uses ≤ p.next.status.uses := by
  cases hf with
  | connects => exact .inl rfl
  | rests => exact .inr (.inl rfl)
  | readsOn hs => exact .inr (.inl ((status_moveTo _ _ _).trans hs.symm))
  | settlesBusy link took hs =>
      refine .inr (.inr ?_)
      rw [Progress.next_andThen, (settled_beginWrite _).status_eq]
      simp [establish, touch, hs, Status.uses]
  | dispatches hs =>
      refine .inr (.inr ?_)
      rw [Progress.next_andThen, (settled_beginWrite _).status_eq]
      simp [hs, Status.uses]
  | settles link took hs | awaits _ hs | delivers _ hs | drops _ hs | responds _ hs =>
      simp [establish, absorb, touch, hs, Status.uses]
  | fails | closes =>
      have hle := c.status.uses_le
      refine .inr (.inr ?_)
      simpa [doClose, Status.uses] using hle

theorem Firing.heeds {signal : Signal} {p : Progress} (hf : c.Firing now signal p)
    (hp : c.position = .signalled signal) : c.Heeds p := by
  have hnext : p.next.intents = c.inbox.count .connect := by
    rw [intents, hf.inbox_eq]
    rcases hf.position_cases with hpos | ⟨hpos, -⟩ <;> rw [hpos] <;> rfl
  have hle : p.next.intents ≤ c.intents := by
    rw [hnext]
    exact Nat.le_add_right _ _
  by_cases hsig : signal = .connect
  · subst hsig
    have hcount : p.next.intents + 1 = c.intents := by
      rw [hnext, intents, hp]
      rfl
    cases hf with
    | rests h => rcases h with h | ⟨h, -⟩ <;> cases h
    | fails error event _ herror => cases herror
    | connects hs =>
        have hne : Status.connecting ≠ c.status := by
          rcases hs with hs | hs | hs <;> rw [hs] <;> decide
        refine .connects hs ?_ hcount ?_
        · exact (settled_startConnect _).status_eq.trans (status_moveTo _ _ _)
        · simp [changes_moveTo, attend, hne]
  · cases hf.changing with
    | stays hs _ _ hc => exact .rests hs hle hc
    | moves target hne _ hs _ _ hc =>
        obtain h | h | ⟨hundefined, hconnecting, huses⟩ := hf.target_cases
        · exact absurd h hsig
        · exact absurd (hs.symm.trans h) hne
        · exact .moves target (hs ▸ hundefined) (hs ▸ hconnecting) (hs ▸ huses) hs hle hc

/-- **A turn carries out one connect at most**, and the status becomes `connecting` in no other
way. -/
theorem Intact.heeds (h : c.Intact) (now : Instant) (stimulus : Stimulus) :
    c.Heeds (c.turn now stimulus) := by
  obtain ⟨hsig, hp⟩ | ⟨signal, hpos, -, hf⟩ := turn_cases now stimulus h.fits
  · exact .rests hp.settled.status_eq (hp.intents_le hsig) hp.settled.changes_eq
  · exact hf.heeds hpos

/-- **A connect that is read while another one is awaited, or while the connection is busy, means
nothing.** -/
theorem Intact.swallows {phase : Phase} {rest : List Command} (h : c.Intact)
    (hp : c.position = .parked phase) (hi : c.inbox = .connect :: rest)
    (hs : c.status = .connecting ∨ c.status.isBusy = true) (now : Instant) :
    c.turn now .command = ⟨{ c with inbox := rest }, []⟩ := by
  have hfits : phase.Fits c := by
    obtain hcrashed | hfits := h.fits
    · rw [hp] at hcrashed
      cases hcrashed
    · rw [hp] at hfits
      exact hfits
  have hbusy : c.observeBusyCommand = ⟨{ c with inbox := rest }, []⟩ := by
    simp [observeBusyCommand, readCommand, hi]
  have hturn : c.turn now .command = c.observe now phase .command := by rw [Connection.turn, hp]
  rw [hturn]
  cases phase with
  | connecting since => exact hbusy
  | writing unsent => exact hbusy
  | waiting => exact hbusy
  | idle =>
      have hidle : c.status = .undefined ∨ c.status = .connectFailed := hfits
      rcases hidle with hidle | hidle <;> simp [hidle, Status.isBusy] at hs
  | free =>
      have hfree : c.status = .free := hfits
      simp [hfree, Status.isBusy] at hs
  | probing =>
      have hfree : c.status = .free := hfits.1
      simp [hfree, Status.isBusy] at hs

/-! ### What leaves a connection alone -/

/-- The status of a connection, and the number of connects that are still to be carried out. -/
def stance (c : Connection) : Status × Nat := (c.status, c.intents)

theorem stance_eq {p : Progress} (h : c.Aloof p)
    (hi : p.next.inbox.count .connect = c.inbox.count .connect) : p.next.stance = c.stance := by
  rw [stance, stance, intents, intents, h.status_eq, h.position_eq, hi]

end Connection

/-- A change of the status of the connection with a number. -/
def Happening.changeAt? (n : Nat) (h : Happening) : Option (Status × Status) :=
  if h.connection = some n then h.effect.change? else none

namespace Fleet

variable {f g k : Fleet} {number n : Nat} {c : Connection} {act : Connection → Progress}
  {happenings more : List Happening}

/-- How the connection with a number stands.  One that is not there yet stands as it will when it
comes. -/
def stance (f : Fleet) (n : Nat) : Status × Nat :=
  ((f[n]?).map (·.stance)).getD (.undefined, 0)

theorem stance_of_getElem? (hc : f[n]? = some c) : f.stance n = c.stance := by
  simp [stance, hc]

theorem stance_set (hc : f[number]? = some c) (d : Connection) (n : Nat) :
    Fleet.stance (f.set number d) n = if n = number then d.stance else f.stance n := by
  obtain ⟨hlt, -⟩ := List.getElem?_eq_some_iff.1 hc
  by_cases hn : n = number
  · subst hn
    simp [stance, hlt]
  · simp [stance, hn, Ne.symm hn]

theorem stance_step (hc : f[number]? = some c) (act : Connection → Progress) (n : Nat) :
    (f.step number act).1.stance n = if n = number then (act c).next.stance else f.stance n := by
  rw [step_eq hc]
  exact stance_set hc _ n

theorem changes_step (hc : f[number]? = some c) (act : Connection → Progress) (n : Nat) :
    (f.step number act).2.filterMap (·.changeAt? n) =
      if n = number then (act c).changes else [] := by
  rw [step_eq hc, List.filterMap_map]
  by_cases hn : n = number
  · subst hn
    simp [Progress.changes, Happening.changeAt?, Function.comp_def]
  · simp [Happening.changeAt?, Function.comp_def, hn, Ne.symm hn]

/-- Every connection goes on standing as it does. -/
structure Unmoved (f g : Fleet) (happenings : List Happening) : Prop where
  stance_eq : ∀ n, g.stance n = f.stance n
  changes_eq : ∀ n, happenings.filterMap (·.changeAt? n) = []

theorem Unmoved.refl (f : Fleet) : Unmoved f f [] := ⟨fun _ => rfl, fun _ => rfl⟩

theorem Unmoved.trans (h : Unmoved f g happenings) (h' : Unmoved g k more) :
    Unmoved f k (happenings ++ more) where
  stance_eq n := (h'.stance_eq n).trans (h.stance_eq n)
  changes_eq n := by rw [List.filterMap_append, h.changes_eq, h'.changes_eq, List.append_nil]

/-- Something that a connection may do and goes on standing as it does. -/
def Discreet (act : Connection → Progress) : Prop :=
  ∀ c, (act c).next.stance = c.stance ∧ (act c).changes = []

theorem Discreet.andThen {act' : Connection → Progress} (h : Discreet act) (h' : Discreet act') :
    Discreet fun c => (act c).andThen act' := by
  intro c
  obtain ⟨hs, hc⟩ := h c
  obtain ⟨hs', hc'⟩ := h' (act c).next
  exact ⟨hs'.trans hs, by rw [Progress.changes_andThen, hc, hc', List.append_nil]⟩

theorem discreet_post {command : Command} (hc : command ≠ .connect) :
    Discreet (·.post command) := by
  intro c
  have hcount : (c.post command).next.inbox.count .connect = c.inbox.count .connect := by
    unfold Connection.post
    split <;> simp [hc]
  have haloof := c.aloof_post command
  exact ⟨Connection.stance_eq haloof hcount, haloof.changes_eq⟩

theorem discreet_shutdown : Discreet (·.shutdown) := discreet_post nofun

theorem discreet_close (waiter : Waiter) : Discreet (·.close waiter) := by
  intro c
  have hcount : (c.close waiter).next.inbox.count .connect = c.inbox.count .connect := by
    unfold Connection.close
    split <;> simp
  have haloof := c.aloof_close waiter
  exact ⟨Connection.stance_eq haloof hcount, haloof.changes_eq⟩

theorem discreet_letGo : Discreet (·.letGo) := by
  intro c
  have hcount : c.letGo.next.inbox.count .connect = c.inbox.count .connect := by
    obtain ⟨-, heq⟩ | ⟨-, asked, hasked, heq⟩ := c.letGo_cases <;> rw [heq]
    · rfl
    · rcases hasked with rfl | rfl <;> simp
  have haloof := c.aloof_letGo
  exact ⟨Connection.stance_eq haloof hcount, haloof.changes_eq⟩

theorem discreet_write (w : PendingWrite) : Discreet (·.write w) := by
  intro c
  have hwake : Discreet (·.post .wake) := discreet_post nofun
  cases hpush : c.push? w with
  | some d =>
      simp only [Connection.write, hpush]
      obtain rfl := Connection.eq_of_push? hpush
      exact hwake _
  | none =>
      simp only [Connection.write, hpush]
      have haloof := c.aloof_reject w
      exact ⟨Connection.stance_eq haloof rfl, haloof.changes_eq⟩

theorem unmoved_step (h : Discreet act) (f : Fleet) (number : Nat) :
    Unmoved f (f.step number act).1 (f.step number act).2 := by
  cases hc : f[number]? with
  | none =>
      rw [step, hc]
      exact .refl f
  | some c =>
      obtain ⟨hs, hchanges⟩ := h c
      constructor
      · intro n
        rw [stance_step hc]
        split
        next hn =>
          subst hn
          rw [hs, stance_of_getElem? hc]
        next => rfl
      · intro n
        rw [changes_step hc, hchanges, ite_self]

/-- The writes that wait have nothing to do with it. -/
theorem unmoved_take (hc : f[number]? = some c) :
    Unmoved f (f.set number c.takePending.2) [] := by
  refine ⟨fun n => ?_, fun _ => rfl⟩
  rw [stance_set hc]
  split
  next hn =>
    subst hn
    exact (stance_of_getElem? hc).symm
  next => rfl

/-- A new connection stands as one that is not there yet. -/
theorem unmoved_append (f : Fleet) (hc : c.stance = (.undefined, 0)) : Unmoved f (f ++ [c]) [] := by
  refine ⟨fun n => ?_, fun _ => rfl⟩
  rcases Nat.lt_trichotomy n f.length with hlt | rfl | hlt
  · rw [stance, stance, List.getElem?_append_left hlt]
  · simp [stance, hc]
  · rw [stance, stance, List.getElem?_eq_none (by simp; omega),
      List.getElem?_eq_none (Nat.le_of_lt hlt)]

end Fleet

namespace Pool

variable {p : Pool} {f : Fleet}

theorem unmoved_place (p : Pool) (f : Fleet) (w : PendingWrite) (excluded : Option PoolHandle) :
    f.Unmoved (p.place f w excluded).2.2.1 (p.place f w excluded).2.2.2 := by
  have hplaced := p.placed f w excluded
  generalize p.place f w excluded = result at hplaced
  cases hplaced with
  | waits => exact Fleet.unmoved_step (Fleet.discreet_write w) f _
  | cancels => exact ⟨fun _ => rfl, fun _ => rfl⟩

theorem unmoved_placeAll (p : Pool) (f : Fleet) (excluded : Option PoolHandle)
    (writes : List PendingWrite) :
    f.Unmoved (p.placeAll f excluded writes).2.2.1 (p.placeAll f excluded writes).2.2.2 := by
  induction writes generalizing p f with
  | nil => exact .refl f
  | cons w rest ih => exact (p.unmoved_place f w excluded).trans (ih _ _)

theorem unmoved_reroute (p : Pool) (f : Fleet) (h : PoolHandle) :
    f.Unmoved (p.reroute f h).2.2.1 (p.reroute f h).2.2.2 := by
  rcases p.reroute_cases f h with heq | ⟨member, c, hget, hc⟩
  · rw [heq]
    exact .refl f
  · rw [reroute_eq hget hc]
    exact (Fleet.unmoved_take hc).trans (p.unmoved_placeAll _ (some h) c.queue)

theorem unmoved_discharge (hlt : ∀ h member, p.get? h = some member → member < f.length)
    (h : PoolHandle) : f.Unmoved (p.discharge f h).2.2.1 (p.discharge f h).2.2.2 := by
  cases hget : p.get? h with
  | none =>
      rw [discharge_of_none hget]
      exact .refl f
  | some member =>
      have hc := List.getElem?_eq_getElem (hlt h member hget)
      obtain ⟨q, -, heq⟩ := discharge_eq hget hc
      rw [heq]
      exact (Fleet.unmoved_take hc).trans
        (Fleet.unmoved_step (Fleet.discreet_shutdown.andThen Fleet.discreet_letGo) _ member)

end Pool
end Uplink

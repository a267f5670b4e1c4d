/-
What the surroundings learn from a step.

Most effects are asides: lines for the log, options of a socket, a socket given up.  Somebody waits
for the others or keeps account of them, and few pieces of work have any: the outcomes that receipts
tell, the changes of the status, the bytes that sockets are handed, and the owners that need not
wait any more.

* `Uplink.Progress.news` — the effects that somebody waits for;
* `Uplink.Progress.outcomes` — the writes that a step resolves, and how;
* `Uplink.Progress.changes` — how it changes the published status;
* `Uplink.Progress.transmissions` — what it hands to sockets.
-/

import Uplink.Connection.Task

set_option relaxedAutoImplicit false
set_option autoImplicit false

namespace Uplink

/-! ### Effects of a kind -/

/-- Somebody waits for the effect, or keeps account of it. -/
def Effect.isNews : Effect → Bool
  | resolved _ _ | moved _ _ _ | transmitted _ _ | released _ => true
  | noticed _ | configured _ | dialled | hungUp _ => false

/-- The ticket and the outcome that an effect tells. -/
def Effect.outcome? : Effect → Option (Nat × Outcome)
  | resolved ticket outcome => some (ticket, outcome)
  | _ => none

/-- The old and the new status that an effect tells. -/
def Effect.change? : Effect → Option (Status × Status)
  | moved source target _ => some (source, target)
  | _ => none

/-- The socket and the bytes that an effect hands to it. -/
def Effect.transmission? : Effect → Option (SocketId × Bytes)
  | transmitted socket bytes => some (socket, bytes)
  | _ => none

namespace Progress

/-- The effects of a step that somebody waits for. -/
def news (p : Progress) : List Effect := p.effects.filter Effect.isNews

/-- The writes that a step resolves. -/
def outcomes (p : Progress) : List (Nat × Outcome) := p.effects.filterMap Effect.outcome?

/-- How a step changes the published status. -/
def changes (p : Progress) : List (Status × Status) := p.effects.filterMap Effect.change?

/-- What a step hands to sockets. -/
def transmissions (p : Progress) : List (SocketId × Bytes) :=
  p.effects.filterMap Effect.transmission?

@[simp] theorem news_andThen (p : Progress) (f : Connection → Progress) :
    (p.andThen f).news = p.news ++ (f p.next).news := by
  simp [news]

@[simp] theorem outcomes_andThen (p : Progress) (f : Connection → Progress) :
    (p.andThen f).outcomes = p.outcomes ++ (f p.next).outcomes := by
  simp [outcomes]

@[simp] theorem changes_andThen (p : Progress) (f : Connection → Progress) :
    (p.andThen f).changes = p.changes ++ (f p.next).changes := by
  simp [changes]

@[simp] theorem transmissions_andThen (p : Progress) (f : Connection → Progress) :
    (p.andThen f).transmissions = p.transmissions ++ (f p.next).transmissions := by
  simp [transmissions]

@[simp] theorem news_nothing (c : Connection) : news ⟨c, []⟩ = [] := rfl

@[simp] theorem outcomes_nothing (c : Connection) : outcomes ⟨c, []⟩ = [] := rfl

@[simp] theorem changes_nothing (c : Connection) : changes ⟨c, []⟩ = [] := rfl

@[simp] theorem transmissions_nothing (c : Connection) : transmissions ⟨c, []⟩ = [] := rfl

/-- What is read off the news of a step is read off its effects. -/
theorem filterMap_news {α : Type} (p : Progress) (f : Effect → Option α)
    (hf : ∀ e : Effect, e.isNews = false → f e = none) :
    p.news.filterMap f = p.effects.filterMap f := by
  rw [news]
  induction p.effects with
  | nil => rfl
  | cons e rest ih =>
      cases he : e.isNews
      · rw [List.filter_cons_of_neg (by simp [he]), ih, List.filterMap_cons_none (hf e he)]
      · rw [List.filter_cons_of_pos he, List.filterMap_cons, List.filterMap_cons, ih]

theorem outcomes_eq (p : Progress) : p.outcomes = p.news.filterMap Effect.outcome? :=
  (p.filterMap_news _ fun e he => by cases e <;> first | rfl | cases he).symm

theorem changes_eq (p : Progress) : p.changes = p.news.filterMap Effect.change? :=
  (p.filterMap_news _ fun e he => by cases e <;> first | rfl | cases he).symm

theorem transmissions_eq (p : Progress) :
    p.transmissions = p.news.filterMap Effect.transmission? :=
  (p.filterMap_news _ fun e he => by cases e <;> first | rfl | cases he).symm

/-! A step without news has none of them. -/

theorem outcomes_of_news {p : Progress} (h : p.news = []) : p.outcomes = [] := by
  rw [outcomes_eq, h]
  rfl

theorem changes_of_news {p : Progress} (h : p.news = []) : p.changes = [] := by
  rw [changes_eq, h]
  rfl

theorem transmissions_of_news {p : Progress} (h : p.news = []) : p.transmissions = [] := by
  rw [transmissions_eq, h]
  rfl

end Progress

/-- Effects that are all news stay. -/
theorem filter_isNews_map {α : Type} {f : α → Effect} (h : ∀ a, (f a).isNews = true)
    (list : List α) : (list.map f).filter Effect.isNews = list.map f :=
  List.filter_eq_self.2 fun e he => by
    obtain ⟨a, -, rfl⟩ := List.mem_map.1 he
    exact h a

/-- Effects of another kind are passed over. -/
theorem filterMap_map_of_none {α β : Type} {f : α → Effect} {g : Effect → Option β}
    (h : ∀ a, g (f a) = none) (list : List α) : (list.map f).filterMap g = [] := by
  simp [List.filterMap_map, h]

namespace Connection

section

variable (c : Connection) (now : Instant)

/-! ### The news of a piece of work -/

@[simp] theorem news_say (notice : ClientInfo → Notice) : (c.say notice).news = [] := rfl

@[simp] theorem news_sayIf (condition : Bool) (notice : ClientInfo → Notice) :
    (c.sayIf condition notice).news = [] := by
  cases condition <;> rfl

/-- A change of the status is news. -/
theorem news_moveTo (target : Status) (event : Event) : (c.moveTo target event).news =
    if target = c.status then [] else [.moved c.status target event] := by
  unfold moveTo
  split <;> rfl

@[simp] theorem news_hangUp : c.hangUp.news = [] := by
  unfold hangUp
  cases c.socket <;> rfl

@[simp] theorem news_startConnect : (c.startConnect now).news = [] := by
  simp [startConnect]

@[simp] theorem news_configure (link : Link) : (c.configure link).news = [] := by
  simp only [configure, Progress.news, List.filter_cons, Effect.isNews]
  cases (c.config.socket.apply fun name => link.refusals.lookup name).2 <;> rfl

@[simp] theorem news_establish (link : Link) (took : Duration) :
    (c.establish now link took).news = [] := by
  simp [establish]

@[simp] theorem news_resolve (response? : Option Nat) : (c.resolve now response?).news =
    c.inFlight.toList.map fun w =>
      .resolved w.ticket (w.delivered now (response?.map c.block.takeFrame)) := by
  unfold resolve
  cases c.inFlight <;> rfl

@[simp] theorem news_dropInFlight : c.dropInFlight.news =
    c.inFlight.toList.map fun w => .resolved w.ticket (w.undelivered .cancelled) := by
  unfold dropInFlight
  cases c.inFlight <;> rfl

@[simp] theorem news_failInFlight (error : ConnectionError) : (c.failInFlight error).news =
    c.inFlight.toList.map fun w => .resolved w.ticket (w.undelivered error) := by
  unfold failInFlight
  cases c.inFlight <;> rfl

@[simp] theorem news_handleFail (error? : Option ConnectionError) :
    (c.handleFail now error?).news = c.inFlight.toList.map fun w =>
      .resolved w.ticket (w.undelivered (error?.getD (.protocol .unexplained))) := by
  simp [handleFail]

/-- Outcomes that are all of one kind. -/
theorem news_resolved (writes : List PendingWrite) (error : ConnectionError) :
    Progress.news ⟨c, writes.map fun w => .resolved w.ticket (w.undelivered error)⟩ =
      writes.map fun w => .resolved w.ticket (w.undelivered error) :=
  filter_isNews_map (fun _ => rfl) writes

@[simp] theorem news_doClose : c.doClose.news =
    (c.inFlight.toList ++ c.queue).map fun w => .resolved w.ticket (w.undelivered .cancelled) := by
  simp only [doClose, Progress.news_andThen, news_resolved, news_hangUp, news_say,
    List.nil_append, List.append_nil]

@[simp] theorem news_abandonQueue : c.abandonQueue.news =
    c.queue.map fun w => .resolved w.ticket (w.undelivered .cancelled) :=
  news_resolved _ _ _

@[simp] theorem news_park (phase : Phase) : (c.park phase).news = [] := rfl

@[simp] theorem news_signal (signal : Signal) : (c.signal signal).news = [] := rfl

@[simp] theorem news_transmit (unsent : Bytes) (count : Nat) : (c.transmit unsent count).news =
    c.socket.toList.map fun socket => .transmitted socket (unsent.take count) :=
  filter_isNews_map (fun _ => rfl) _

theorem news_noticed (notices : List Notice) : Progress.news ⟨c, notices.map .noticed⟩ = [] :=
  List.filter_eq_nil_iff.2 fun e he => by
    obtain ⟨notice, -, rfl⟩ := List.mem_map.1 he
    nofun

@[simp] theorem news_finish : c.finish.news = (c.waiters ++ c.unreadWaiters).map .released :=
  filter_isNews_map (fun _ => rfl) _

/-- A crash cancels the write in flight, and with the owner gone also what waits. -/
theorem news_crash : c.crash.news = (c.waiters ++ c.unreadWaiters).map .released ++
    (c.inFlight.toList ++ if c.isHeld then [] else c.queue).map
      fun w => .resolved w.ticket (w.undelivered .cancelled) := by
  have hreleased (waiters : List Waiter) :=
    filter_isNews_map (f := Effect.released) (fun _ => rfl) waiters
  have hcancelled := filter_isNews_map
    (f := fun w : PendingWrite => .resolved w.ticket (w.undelivered .cancelled)) (fun _ => rfl)
    c.inFlight.toList
  have hsocket : (c.socket.toList.map Effect.hungUp).filter Effect.isNews = [] := by
    cases c.socket <;> rfl
  have habandoned (d : Connection) : d.abandonQueue.effects.filter Effect.isNews =
      d.queue.map fun w => .resolved w.ticket (w.undelivered .cancelled) := d.news_abandonQueue
  simp only [crash, Progress.news_andThen]
  cases c.isHeld <;>
    simp [Progress.news, hreleased, hcancelled, hsocket, habandoned]

/-! ### The outcomes -/

@[simp] theorem outcomes_say (notice : ClientInfo → Notice) : (c.say notice).outcomes = [] := rfl

@[simp] theorem outcomes_moveTo (target : Status) (event : Event) :
    (c.moveTo target event).outcomes = [] := by
  rw [Progress.outcomes_eq, news_moveTo]
  split <;> rfl

@[simp] theorem outcomes_startConnect : (c.startConnect now).outcomes = [] :=
  Progress.outcomes_of_news (by simp)

@[simp] theorem outcomes_establish (link : Link) (took : Duration) :
    (c.establish now link took).outcomes = [] :=
  Progress.outcomes_of_news (by simp)

@[simp] theorem outcomes_resolve (response? : Option Nat) :
    (c.resolve now response?).outcomes = c.inFlight.toList.map fun w =>
      (w.ticket, w.delivered now (response?.map c.block.takeFrame)) := by
  simp [Progress.outcomes_eq, List.filterMap_map, Function.comp_def, Effect.outcome?]

@[simp] theorem outcomes_dropInFlight : c.dropInFlight.outcomes =
    c.inFlight.toList.map fun w => (w.ticket, w.undelivered .cancelled) := by
  simp [Progress.outcomes_eq, List.filterMap_map, Function.comp_def, Effect.outcome?]

@[simp] theorem outcomes_handleFail (error : ConnectionError) :
    (c.handleFail now (some error)).outcomes =
      c.inFlight.toList.map fun w => (w.ticket, w.undelivered error) := by
  simp [Progress.outcomes_eq, List.filterMap_map, Function.comp_def, Effect.outcome?]

@[simp] theorem outcomes_doClose : c.doClose.outcomes =
    (c.inFlight.toList ++ c.queue).map fun w => (w.ticket, w.undelivered .cancelled) := by
  simp [Progress.outcomes_eq, List.filterMap_map, Function.comp_def, Effect.outcome?]

@[simp] theorem outcomes_abandonQueue : c.abandonQueue.outcomes =
    c.queue.map fun w => (w.ticket, w.undelivered .cancelled) := by
  simp [Progress.outcomes_eq, List.filterMap_map, Function.comp_def, Effect.outcome?]

@[simp] theorem outcomes_park (phase : Phase) : (c.park phase).outcomes = [] := rfl

@[simp] theorem outcomes_signal (signal : Signal) : (c.signal signal).outcomes = [] := rfl

@[simp] theorem next_transmit (unsent : Bytes) (count : Nat) :
    (c.transmit unsent count).next = c := rfl

@[simp] theorem outcomes_transmit (unsent : Bytes) (count : Nat) :
    (c.transmit unsent count).outcomes = [] := by
  rw [Progress.outcomes_eq, news_transmit, filterMap_map_of_none fun _ => rfl]

theorem outcomes_noticed (notices : List Notice) :
    Progress.outcomes ⟨c, notices.map .noticed⟩ = [] :=
  Progress.outcomes_of_news (news_noticed _ _)

@[simp] theorem outcomes_finish : c.finish.outcomes = [] := by
  rw [Progress.outcomes_eq, news_finish, filterMap_map_of_none fun _ => rfl]

theorem outcomes_crash : c.crash.outcomes =
    (c.inFlight.toList ++ if c.isHeld then [] else c.queue).map
      fun w => (w.ticket, w.undelivered .cancelled) := by
  rw [Progress.outcomes_eq, news_crash, List.filterMap_append,
    filterMap_map_of_none fun _ => rfl]
  simp [List.filterMap_map, Function.comp_def, Effect.outcome?]

/-! ### The changes of the status -/

@[simp] theorem changes_say (notice : ClientInfo → Notice) : (c.say notice).changes = [] := rfl

theorem changes_moveTo (target : Status) (event : Event) : (c.moveTo target event).changes =
    if target = c.status then [] else [(c.status, target)] := by
  rw [Progress.changes_eq, news_moveTo]
  split <;> rfl

@[simp] theorem changes_startConnect : (c.startConnect now).changes = [] :=
  Progress.changes_of_news (by simp)

@[simp] theorem changes_establish (link : Link) (took : Duration) :
    (c.establish now link took).changes = [] :=
  Progress.changes_of_news (by simp)

@[simp] theorem changes_resolve (response? : Option Nat) :
    (c.resolve now response?).changes = [] := by
  rw [Progress.changes_eq, news_resolve, filterMap_map_of_none fun _ => rfl]

@[simp] theorem changes_dropInFlight : c.dropInFlight.changes = [] := by
  rw [Progress.changes_eq, news_dropInFlight, filterMap_map_of_none fun _ => rfl]

@[simp] theorem changes_handleFail (error? : Option ConnectionError) :
    (c.handleFail now error?).changes = [] := by
  rw [Progress.changes_eq, news_handleFail, filterMap_map_of_none fun _ => rfl]

@[simp] theorem changes_doClose : c.doClose.changes = [] := by
  rw [Progress.changes_eq, news_doClose, filterMap_map_of_none fun _ => rfl]

@[simp] theorem changes_abandonQueue : c.abandonQueue.changes = [] := by
  rw [Progress.changes_eq, news_abandonQueue, filterMap_map_of_none fun _ => rfl]

@[simp] theorem changes_park (phase : Phase) : (c.park phase).changes = [] := rfl

@[simp] theorem changes_signal (signal : Signal) : (c.signal signal).changes = [] := rfl

@[simp] theorem changes_transmit (unsent : Bytes) (count : Nat) :
    (c.transmit unsent count).changes = [] := by
  rw [Progress.changes_eq, news_transmit, filterMap_map_of_none fun _ => rfl]

theorem changes_noticed (notices : List Notice) :
    Progress.changes ⟨c, notices.map .noticed⟩ = [] :=
  Progress.changes_of_news (news_noticed _ _)

@[simp] theorem changes_finish : c.finish.changes = [] := by
  rw [Progress.changes_eq, news_finish, filterMap_map_of_none fun _ => rfl]

@[simp] theorem changes_crash : c.crash.changes = [] := by
  rw [Progress.changes_eq, news_crash, List.filterMap_append, filterMap_map_of_none fun _ => rfl,
    filterMap_map_of_none fun _ => rfl]
  rfl

/-! ### What sockets are handed -/

@[simp] theorem transmissions_say (notice : ClientInfo → Notice) :
    (c.say notice).transmissions = [] := rfl

@[simp] theorem transmissions_moveTo (target : Status) (event : Event) :
    (c.moveTo target event).transmissions = [] := by
  rw [Progress.transmissions_eq, news_moveTo]
  split <;> rfl

@[simp] theorem transmissions_startConnect : (c.startConnect now).transmissions = [] :=
  Progress.transmissions_of_news (by simp)

@[simp] theorem transmissions_establish (link : Link) (took : Duration) :
    (c.establish now link took).transmissions = [] :=
  Progress.transmissions_of_news (by simp)

@[simp] theorem transmissions_resolve (response? : Option Nat) :
    (c.resolve now response?).transmissions = [] := by
  rw [Progress.transmissions_eq, news_resolve, filterMap_map_of_none fun _ => rfl]

@[simp] theorem transmissions_dropInFlight : c.dropInFlight.transmissions = [] := by
  rw [Progress.transmissions_eq, news_dropInFlight, filterMap_map_of_none fun _ => rfl]

@[simp] theorem transmissions_handleFail (error? : Option ConnectionError) :
    (c.handleFail now error?).transmissions = [] := by
  rw [Progress.transmissions_eq, news_handleFail, filterMap_map_of_none fun _ => rfl]

@[simp] theorem transmissions_doClose : c.doClose.transmissions = [] := by
  rw [Progress.transmissions_eq, news_doClose, filterMap_map_of_none fun _ => rfl]

@[simp] theorem transmissions_park (phase : Phase) : (c.park phase).transmissions = [] := rfl

@[simp] theorem transmissions_signal (signal : Signal) : (c.signal signal).transmissions = [] := rfl

@[simp] theorem transmissions_transmit (unsent : Bytes) (count : Nat) :
    (c.transmit unsent count).transmissions =
      c.socket.toList.map fun socket => (socket, unsent.take count) := by
  simp [Progress.transmissions_eq, List.filterMap_map, Function.comp_def, Effect.transmission?]

theorem transmissions_noticed (notices : List Notice) :
    Progress.transmissions ⟨c, notices.map .noticed⟩ = [] :=
  Progress.transmissions_of_news (news_noticed _ _)

@[simp] theorem transmissions_finish : c.finish.transmissions = [] := by
  rw [Progress.transmissions_eq, news_finish, filterMap_map_of_none fun _ => rfl]

@[simp] theorem transmissions_crash : c.crash.transmissions = [] := by
  rw [Progress.transmissions_eq, news_crash, List.filterMap_append,
    filterMap_map_of_none fun _ => rfl, filterMap_map_of_none fun _ => rfl]
  rfl

end

end Connection

end Uplink

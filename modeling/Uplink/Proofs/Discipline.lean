/-
The order of the work that a connection does.

Along a sequence of events the table answers with steps, and each step has its work.  Not every
sequence of actions comes about in this way: a write is begun on a socket and ends before the next
one begins, a response is awaited for the write that was begun, and nothing is done after a close.
What an action needs of those before it is what the status says at that moment, and what the status
says is a matter of single rows of the table.

* `Uplink.steps`, `Uplink.actions` — the steps and the work along a sequence of events;
* `Uplink.Row`, `Uplink.row_of_transition` — the table, by what is done;
* `Uplink.After` — an action lies before, with none of some others since;
* `Uplink.after_of_holds`, `Uplink.holds_of_after` — what a status says of the actions before it,
  from what the rows say;
* `Uplink.exists_row_of_actions` — each action is the one of a row, in the status that the actions
  before it lead to;
* `Uplink.actions_disciplined` — **the order of the work that is done.**
-/

import Mathlib.Data.List.Basic
import Mathlib.Data.List.Induction
import Uplink.Status

set_option relaxedAutoImplicit false
set_option autoImplicit false

namespace Uplink

variable {source status : Status} {event : Event} {step : Step} {opener action : Action}
  {closers done : List Action}

/-! ### Steps along a sequence of events -/

/-- The step of an answer, if there is one, with the status that it leads out of. -/
def taken? : Status × Except Rejection Step → Option (Status × Step)
  | (status, .ok step) => some (status, step)
  | (_, .error _) => none

/-- The steps along a sequence of events.  A rejected event makes none. -/
def steps (source : Status) (events : List Event) : List (Status × Step) :=
  (walk source events).filterMap taken?

/-- The work along a sequence of events. -/
def actions (source : Status) (events : List Event) : List Action :=
  (steps source events).map (·.2.action)

theorem walk_concat (source : Status) (events : List Event) (event : Event) :
    walk source (events ++ [event]) = walk source events ++
      [(walkEnd source events, transition (walkEnd source events) event)] := by
  induction events generalizing source with
  | nil => rfl
  | cons first events ih => rw [List.cons_append, walk, walk, ih, List.cons_append]; rfl

theorem steps_concat (source : Status) (events : List Event) (event : Event) :
    steps source (events ++ [event]) = steps source events ++
      (taken? (walkEnd source events, transition (walkEnd source events) event)).toList := by
  rw [steps, walk_concat, List.filterMap_append, List.filterMap_cons, List.filterMap_nil]
  cases taken? (walkEnd source events, transition (walkEnd source events) event) <;> rfl

theorem walkEnd_concat (source : Status) (events : List Event) (event : Event) :
    walkEnd source (events ++ [event]) = (walkEnd source events).after event := by
  rw [walkEnd, List.foldl_append]
  rfl

/-- What every step carries on holds of the end of a walk and the steps to it. -/
theorem steps_induction {P : Status → List (Status × Step) → Prop} (start : P source [])
    (next : ∀ {status event step done}, transition status event = .ok step → P status done →
      P step.target (done ++ [(status, step)]))
    (events : List Event) : P (walkEnd source events) (steps source events) := by
  induction events using List.reverseRecOn with
  | nil => exact start
  | append_singleton events event ih =>
      rw [walkEnd_concat, steps_concat, Status.after]
      cases h : transition (walkEnd source events) event with
      | ok step => exact next h ih
      | error rejection => rwa [taken?, Option.toList_none, List.append_nil]

/-! ### The rows of the table -/

/-- The rows of the table, by what is done. -/
inductive Row (source : Status) : Step → Prop
  | starts (h : source = .undefined ∨ source = .connectFailed ∨ source = .free) :
      Row source ⟨.connecting, .startConnect⟩
  | begins (h : source = .connecting ∨ source = .free) : Row source ⟨.writing, .beginWrite⟩
  | awaits (h : source = .writing) : Row source ⟨.waiting, .awaitResponse⟩
  | readsOn (h : source = .waiting) : Row source ⟨.waiting, .continueRead⟩
  | resolves (h : source = .writing ∨ source = .waiting) : Row source ⟨.free, .resolve⟩
  | fails (h : source = .connecting ∨ source.isConnected = true) :
      Row source ⟨.connectFailed, .handleFail⟩
  | closes (h : source ≠ .stopped) : Row source ⟨.stopped, .doClose⟩
  | arrives (h : source = .connecting) : Row source ⟨.free, .none⟩
  | stays : Row source ⟨source, .none⟩

theorem row_of_transition (h : transition source event = .ok step) : Row source step := by
  have hrow (target : Step) (heq : transition source event = .ok target)
      (hr : Row source target) : Row source step := by
    rw [heq] at h
    cases h
    exact hr
  cases source with
  | stopped => rw [transition_stopped h]; exact .stays
  | undefined =>
      cases event with
      | asyncConnect => exact hrow _ rfl (.starts (.inl rfl))
      | idleTimeout => exact hrow _ rfl .stays
      | close => exact hrow _ rfl (.closes nofun)
      | _ => cases h
  | connectFailed =>
      cases event with
      | asyncConnect => exact hrow _ rfl (.starts (.inr (.inl rfl)))
      | idleTimeout => exact hrow _ rfl .stays
      | close => exact hrow _ rfl (.closes nofun)
      | _ => cases h
  | connecting =>
      cases event with
      | asyncConnect => exact hrow _ rfl .stays
      | connected queued =>
          cases queued with
          | true => exact hrow _ rfl (.begins (.inl rfl))
          | false => exact hrow _ rfl (.arrives rfl)
      | connectFailed | idleTimeout => exact hrow _ rfl (.fails (.inl rfl))
      | close => exact hrow _ rfl (.closes nofun)
      | _ => cases h
  | free =>
      cases event with
      | asyncConnect => exact hrow _ rfl (.starts (.inr (.inr rfl)))
      | dispatch => exact hrow _ rfl (.begins (.inr rfl))
      | idleTimeout => exact hrow _ rfl (.fails (.inr rfl))
      | close => exact hrow _ rfl (.closes nofun)
      | _ => cases h
  | writing =>
      cases event with
      | asyncConnect => exact hrow _ rfl .stays
      | writeComplete expects =>
          cases expects with
          | true => exact hrow _ rfl (.awaits rfl)
          | false => exact hrow _ rfl (.resolves (.inl rfl))
      | writeFailed | idleTimeout => exact hrow _ rfl (.fails (.inr rfl))
      | close => exact hrow _ rfl (.closes nofun)
      | _ => cases h
  | waiting =>
      cases event with
      | asyncConnect => exact hrow _ rfl .stays
      | framePartial => exact hrow _ rfl (.readsOn rfl)
      | frameComplete => exact hrow _ rfl (.resolves (.inr rfl))
      | responseFailed | idleTimeout => exact hrow _ rfl (.fails (.inr rfl))
      | close => exact hrow _ rfl (.closes nofun)
      | _ => cases h

/-- Each action is the one of a row, in the status that the actions before it lead to. -/
theorem exists_row_of_actions {events : List Event} {before after : List Action}
    (h : actions source events = before ++ action :: after) : ∃ early target,
      actions source early = before ∧ Row (walkEnd source early) ⟨target, action⟩ := by
  induction events using List.reverseRecOn generalizing after with
  | nil => exact absurd h.symm (List.append_ne_nil_of_right_ne_nil _ (List.cons_ne_nil _ _))
  | append_singleton events event ih =>
      rw [actions, steps_concat, List.map_append] at h
      cases hstep : transition (walkEnd source events) event with
      | error rejection =>
          rw [hstep, taken?, Option.toList_none, List.map_nil, List.append_nil] at h
          exact ih h
      | ok step =>
          rw [hstep, taken?, Option.toList_some, List.map_singleton] at h
          rcases after.eq_nil_or_concat' with rfl | ⟨middle, last, rfl⟩
          · obtain ⟨hbefore, haction⟩ := List.append_inj' h rfl
            cases haction
            exact ⟨events, step.target, hbefore, row_of_transition hstep⟩
          · rw [← List.cons_append, ← List.append_assoc] at h
            exact ih (List.append_inj' h rfl).1

/-! ### Actions that lie before -/

/-- An action lies before, with none of some others since. -/
def After (opener : Action) (closers done : List Action) : Prop :=
  ∃ earlier since, done = earlier ++ opener :: since ∧ ∀ action ∈ since, action ∉ closers

theorem after_concat : After opener closers (done ++ [action]) ↔
    action = opener ∨ action ∉ closers ∧ After opener closers done := by
  constructor
  · rintro ⟨earlier, since, heq, hsince⟩
    rcases since.eq_nil_or_concat' with rfl | ⟨between, last, rfl⟩
    · exact .inl (List.head_eq_of_cons_eq (List.append_inj' heq rfl).2)
    · rw [← List.cons_append, ← List.append_assoc] at heq
      obtain ⟨hdone, hlast⟩ := List.append_inj' heq rfl
      cases hlast
      exact .inr ⟨hsince _ (by simp), earlier, between, hdone,
        fun a ha => hsince a (List.mem_append_left _ ha)⟩
  · rintro (rfl | ⟨hnot, earlier, since, rfl, hsince⟩)
    · exact ⟨done, [], rfl, nofun⟩
    · refine ⟨earlier, since ++ [action], by rw [List.append_assoc, List.cons_append], ?_⟩
      simpa only [List.forall_mem_append, List.forall_mem_singleton] using ⟨hsince, hnot⟩

/-- An action that closes keeps closed what is not opened again. -/
theorem not_after_of_closed {since : List Action} (hc : action ∈ closers) (hne : action ≠ opener)
    (hsince : opener ∉ since) : ¬After opener closers (done ++ action :: since) := by
  induction since using List.reverseRecOn with
  | nil =>
      rw [after_concat]
      rintro (heq | ⟨hnot, -⟩)
      · exact hne heq
      · exact hnot hc
  | append_singleton since last ih =>
      rw [List.mem_append, List.mem_singleton, not_or] at hsince
      rw [← List.cons_append, ← List.append_assoc, after_concat]
      rintro (rfl | ⟨-, hafter⟩)
      · exact hsince.2 rfl
      · exact ih hsince.1 hafter

/-- What holds in a status since an action was done: the action that opens makes it hold, and only
the actions that close may end it. -/
theorem after_of_holds (holds : Status → Prop) (start : ¬holds .undefined)
    (hrow : ∀ {source step}, Row source step → holds step.target →
      step.action = opener ∨ step.action ∉ closers ∧ holds source)
    (events : List Event) : holds (walkEnd .undefined events) →
      After opener closers (actions .undefined events) := by
  refine steps_induction (P := fun status taken => holds status →
    After opener closers (taken.map (·.2.action))) (absurd · start)
    (fun hstep ih hholds => ?_) events
  rw [List.map_append, List.map_singleton, after_concat]
  exact (hrow (row_of_transition hstep) hholds).imp_right fun ⟨hnot, hbefore⟩ => ⟨hnot, ih hbefore⟩

/-- What an action brings about and all but some actions keep holds since that action. -/
theorem holds_of_after (holds : Status → Prop)
    (hrow : ∀ {source step}, Row source step →
      step.action = opener ∨ step.action ∉ closers ∧ holds source → holds step.target)
    (events : List Event) : After opener closers (actions .undefined events) →
      holds (walkEnd .undefined events) := by
  refine steps_induction (P := fun status taken =>
    After opener closers (taken.map (·.2.action)) → holds status) ?_
    (fun hstep ih hafter => ?_) events
  · rintro ⟨earlier, since, heq, -⟩
    exact absurd heq.symm (List.append_ne_nil_of_right_ne_nil _ (List.cons_ne_nil _ _))
  · rw [List.map_append, List.map_singleton, after_concat] at hafter
    refine hrow (row_of_transition hstep) (hafter.imp_right fun ⟨hnot, hbefore⟩ => ?_)
    exact ⟨hnot, ih hbefore⟩

/-! ### What a status says -/

/-- A socket is there, or on its way, since a connect was started. -/
theorem after_startConnect (events : List Event) :
    walkEnd .undefined events = .connecting ∨ (walkEnd .undefined events).isConnected = true →
      After .startConnect [.handleFail, .doClose] (actions .undefined events) := by
  refine after_of_holds (fun s => s = .connecting ∨ s.isConnected = true) (by decide)
    (fun hr h => ?_) events
  cases hr <;> grind [Status.isConnected]

/-- A write is under way since it was begun. -/
theorem after_beginWrite (events : List Event) :
    walkEnd .undefined events = .writing ∨ walkEnd .undefined events = .waiting →
      After .beginWrite [.resolve, .handleFail, .doClose] (actions .undefined events) := by
  refine after_of_holds (fun s => s = .writing ∨ s = .waiting) (by decide) (fun hr h => ?_) events
  cases hr <;> grind

/-- A response is read since it was first awaited, for the write that was begun last. -/
theorem after_awaitResponse (events : List Event) : walkEnd .undefined events = .waiting →
    After .awaitResponse [.beginWrite, .resolve, .handleFail, .doClose]
      (actions .undefined events) := by
  refine after_of_holds (· = .waiting) (by decide) (fun hr h => ?_) events
  cases hr <;> grind

/-- A write that was begun and has not ended is under way, unless all is closed. -/
theorem of_after_beginWrite (events : List Event) :
    After .beginWrite [.resolve, .handleFail] (actions .undefined events) →
      walkEnd .undefined events = .writing ∨ walkEnd .undefined events = .waiting ∨
        walkEnd .undefined events = .stopped := by
  refine holds_of_after (fun s => s = .writing ∨ s = .waiting ∨ s = .stopped)
    (fun hr h => ?_) events
  cases hr <;> grind

/-- After a close, all is closed. -/
theorem stopped_of_mem (events : List Event) (h : .doClose ∈ actions .undefined events) :
    walkEnd .undefined events = .stopped := by
  obtain ⟨earlier, since, heq⟩ := List.append_of_mem h
  have hafter : After .doClose [] (actions .undefined events) :=
    ⟨earlier, since, heq, fun _ _ => List.not_mem_nil⟩
  refine holds_of_after (· = .stopped) (fun hr h => ?_) events hafter
  cases hr <;> grind [Status.isConnected]

/-! ### The order of the work -/

section

variable {events : List Event} {before after : List Action}

/-- The work that an action needs before it. -/
theorem work_before (h : actions .undefined events = before ++ action :: after) :
    (action = .resolve ∨ action = .awaitResponse →
      After .beginWrite [.resolve, .handleFail, .doClose] before) ∧
    (action = .beginWrite → After .startConnect [.handleFail, .doClose] before) ∧
    (action = .continueRead →
      After .awaitResponse [.beginWrite, .resolve, .handleFail, .doClose] before) := by
  obtain ⟨early, target, rfl, hr⟩ := exists_row_of_actions h
  refine ⟨fun ha => after_beginWrite early ?_, fun ha => after_startConnect early ?_,
    fun ha => after_awaitResponse early ?_⟩
  · rcases ha with rfl | rfl
    · cases hr with
      | resolves hs => exact hs
    · cases hr with
      | awaits hs => exact .inl hs
  · subst ha
    cases hr with
    | begins hs => exact hs.imp_right fun hfree => by rw [hfree]; rfl
  · subst ha
    cases hr with
    | readsOn hs => exact hs

/-- The work after a close. -/
theorem eq_none_of_doClose (h : actions .undefined events = before ++ .doClose :: after) :
    ∀ later ∈ after, later = .none := by
  intro later hlater
  obtain ⟨between, rest, rfl⟩ := List.append_of_mem hlater
  rw [← List.cons_append, ← List.append_assoc] at h
  obtain ⟨early, target, hearly, hr⟩ := exists_row_of_actions h
  have hstopped := stopped_of_mem early (by simp [hearly])
  rw [hstopped] at hr
  cases hr with
  | stays | arrives => rfl
  | starts hs | begins hs | awaits hs | readsOn hs | resolves hs | fails hs | closes hs =>
      exact absurd hs (by decide)

/-- What is never done again is done once at most. -/
theorem count_le_one (h : ∀ before after, done = before ++ action :: after → action ∉ after) :
    done.count action ≤ 1 := by
  by_cases hmem : action ∈ done
  · obtain ⟨before, after, heq, hbefore⟩ := List.eq_append_cons_of_mem hmem
    have hone : done.count action = 0 + (0 + 1) := by
      rw [heq, List.count_append, List.count_cons_self, List.count_eq_zero.2 hbefore,
        List.count_eq_zero.2 (h before after heq)]
    exact Nat.le_of_eq hone
  · exact Nat.le_succ_of_le (Nat.le_of_eq (List.count_eq_zero.2 hmem))

/-- There is one close at most. -/
theorem count_doClose_le (events : List Event) :
    (actions .undefined events).count .doClose ≤ 1 :=
  count_le_one fun _ _ heq hlater => by cases eq_none_of_doClose heq _ hlater

/-- The work between two writes that are begun one after the other. -/
theorem work_between {between : List Action}
    (h : actions .undefined events = before ++ .beginWrite :: between ++ .beginWrite :: after)
    (hbetween : .beginWrite ∉ between) :
    (.resolve ∈ between ∨ .handleFail ∈ between) ∧ between.count .resolve ≤ 1 := by
  constructor
  · -- Otherwise the first write would still be under way where the second one is begun.
    by_contra hnot
    rw [not_or] at hnot
    obtain ⟨early, target, hearly, hr⟩ := exists_row_of_actions h
    have hopen : After .beginWrite [.resolve, .handleFail] (actions .undefined early) := by
      refine ⟨before, between, hearly, fun a ha hclosed => ?_⟩
      rcases List.mem_pair.1 hclosed with rfl | rfl
      · exact hnot.1 ha
      · exact hnot.2 ha
    have hstatus := of_after_beginWrite early hopen
    cases hr with
    | begins hs => rcases hs with hs | hs <;> simp [hs] at hstatus
  · -- The write that the first resolution ends is not there for a second one.
    refine count_le_one fun first rest heq hagain => ?_
    obtain ⟨middle, last, rfl⟩ := List.append_of_mem hagain
    have hsplit : actions .undefined events =
        ((before ++ .beginWrite :: first) ++ .resolve :: middle) ++
          .resolve :: (last ++ .beginWrite :: after) := by
      rw [h, heq]
      simp only [List.append_assoc, List.cons_append]
    refine not_after_of_closed (by decide) (by decide) (fun hbegin => hbetween ?_)
      ((work_before hsplit).1 (.inl rfl))
    simp [heq, hbegin]

end

/-! ### Writes that are begun, and writes that end -/

/-- The writes that are begun. -/
def writesBegun (taken : List (Status × Step)) : Nat :=
  taken.countP fun (_, step) => step.action = .beginWrite

/-- The writes that end: by their resolution, or by a failure or a close while one is under way. -/
def writesEnded (taken : List (Status × Step)) : Nat :=
  taken.countP fun (status, step) => step.action = .resolve ∨
    (status = .writing ∨ status = .waiting) ∧ (step.action = .handleFail ∨ step.action = .doClose)

theorem writesBegun_eq (events : List Event) : writesBegun (steps .undefined events) =
    writesEnded (steps .undefined events) +
      if walkEnd .undefined events = .writing ∨ walkEnd .undefined events = .waiting
        then 1 else 0 := by
  refine steps_induction (P := fun status taken => writesBegun taken =
    writesEnded taken + if status = .writing ∨ status = .waiting then 1 else 0) rfl
    (fun hstep ih => ?_) events
  rw [writesBegun, writesEnded, List.countP_append, List.countP_append, List.countP_singleton,
    List.countP_singleton]
  rw [writesBegun, writesEnded] at ih
  cases row_of_transition hstep <;> grind [Status.isConnected]

/-! ### Main result -/

/-- **The order of the work that is done**, along every sequence of events.  Between two writes that
are begun one after the other there is a resolution or a failure, and one resolution at most.  A
resolution, and the wait for a response, need a write that was begun and has not ended since; a
write needs a connect with no failure and no close since; and reading goes on only with a response
that is awaited for the same write.  There is one close at most, and no work after it.  The writes
that were begun are those that have ended, and one more as long as one is under way. -/
theorem actions_disciplined (events : List Event) :
    (∀ before between after, actions .undefined events =
        before ++ .beginWrite :: between ++ .beginWrite :: after → .beginWrite ∉ between →
      (.resolve ∈ between ∨ .handleFail ∈ between) ∧ between.count .resolve ≤ 1) ∧
    (∀ before action after, actions .undefined events = before ++ action :: after →
      (action = .resolve ∨ action = .awaitResponse →
        After .beginWrite [.resolve, .handleFail, .doClose] before) ∧
      (action = .beginWrite → After .startConnect [.handleFail, .doClose] before) ∧
      (action = .continueRead →
        After .awaitResponse [.beginWrite, .resolve, .handleFail, .doClose] before) ∧
      (action = .doClose → ∀ later ∈ after, later = .none)) ∧
    (actions .undefined events).count .doClose ≤ 1 ∧
    writesBegun (steps .undefined events) = writesEnded (steps .undefined events) +
      if walkEnd .undefined events = .writing ∨ walkEnd .undefined events = .waiting
        then 1 else 0 := by
  refine ⟨fun before between after => work_between, fun before action after h => ?_,
    count_doClose_le events, writesBegun_eq events⟩
  obtain ⟨hends, hbegins, hreads⟩ := work_before h
  exact ⟨hends, hbegins, hreads, fun ha => eq_none_of_doClose (ha ▸ h)⟩

/-- A walk with a response in two parts, a failure, a reconnect of a free connection, and a close
while a write is under way; a dispatch and a second close come to nothing. -/
def busyWalk : List Event :=
  [.asyncConnect, .connected true, .writeComplete true, .framePartial, .frameComplete, .dispatch,
    .asyncConnect, .writeFailed, .dispatch, .asyncConnect, .connected false, .asyncConnect,
    .connected true, .close, .close]

theorem actions_disciplined_busyWalk :
    let between : List Action := [.awaitResponse, .continueRead, .resolve]
    actions .undefined busyWalk = [.startConnect, .beginWrite] ++ between ++
      [.beginWrite, .none, .handleFail, .startConnect, .none, .startConnect, .beginWrite, .doClose,
        .none] ∧
    ((.resolve ∈ between ∨ .handleFail ∈ between) ∧ between.count .resolve ≤ 1) ∧
    After .awaitResponse [.beginWrite, .resolve, .handleFail, .doClose]
      [.startConnect, .beginWrite, .awaitResponse] ∧
    writesBegun (steps .undefined busyWalk) = 3 ∧ writesEnded (steps .undefined busyWalk) = 3 := by
  have hactions : actions .undefined busyWalk =
      [.startConnect, .beginWrite, .awaitResponse, .continueRead, .resolve, .beginWrite, .none,
        .handleFail, .startConnect, .none, .startConnect, .beginWrite, .doClose, .none] := by decide
  obtain ⟨hbetween, hbefore, -, hcounts⟩ := actions_disciplined busyWalk
  have hended : writesEnded (steps .undefined busyWalk) = 3 := by decide
  refine ⟨hactions, hbetween [.startConnect] _ _ hactions (by decide),
    (hbefore _ .continueRead _ hactions).2.2.1 rfl, ?_, hended⟩
  rw [hcounts, hended]
  decide

end Uplink

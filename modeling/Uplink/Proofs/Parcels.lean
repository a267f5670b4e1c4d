/-
What the sockets are handed.

Each socket is handed parcels, one after the other: payloads of writes that were dispatched, and
probes.  The next one is begun when the last is whole; one that is cut short takes its socket with
it.

* `Uplink.Parcel` — something that is sent over a socket, piece by piece;
* `Uplink.Scene.Packed`, `Uplink.Scene.packed_run` — **the sockets are handed parcels, one after the
  other**, in every run;
* `Uplink.Scene.shipped_run_of_gone` — nothing more is handed to a socket that is given up.
-/

import Uplink.Proofs.Delivery
import Uplink.Proofs.Record
import Uplink.Proofs.Sending

set_option relaxedAutoImplicit false
set_option autoImplicit false

namespace Uplink

/-! ### Parcels -/

/-- A payload or a probe that is sent over a socket, piece by piece. -/
structure Parcel where
  /-- The socket. -/
  socket : SocketId
  /-- The write whose payload it is; `none` for a probe. -/
  ticket : Option Nat
  /-- All its bytes. -/
  content : Bytes
  /-- What the socket was handed of it, in order. -/
  pieces : List Bytes := []

namespace Parcel

/-- The bytes that the socket was handed. -/
def sent (a : Parcel) : Bytes := a.pieces.flatten

/-- All of it was handed over. -/
def IsWhole (a : Parcel) : Prop := a.sent = a.content

/-- How it was handed over. -/
def shipments (a : Parcel) : List Shipment := a.pieces.map (⟨a.socket, a.ticket, ·⟩)

/-- One more piece is handed over. -/
def add (a : Parcel) (piece : Bytes) : Parcel := { a with pieces := a.pieces ++ [piece] }

@[simp] theorem sent_add (a : Parcel) (piece : Bytes) : (a.add piece).sent = a.sent ++ piece := by
  simp [sent, add]

@[simp] theorem shipments_add (a : Parcel) (piece : Bytes) :
    (a.add piece).shipments = a.shipments ++ [⟨a.socket, a.ticket, piece⟩] := by
  simp [shipments, add]

end Parcel

/-- The parcel is being sent. -/
def Connection.Underway (c : Connection) (a : Parcel) : Prop :=
  c.live? = some a.socket ∧ ∃ unsent, c.load? = some (a.ticket, unsent) ∧
    a.sent ++ unsent = a.content

namespace Scene

variable {s t : Scene} {parcels : List Parcel}

/-- The sockets were handed parcels, one after the other. -/
structure Packed (s : Scene) (parcels : List Parcel) : Prop where
  shipped_eq : s.shipped = parcels.flatMap Parcel.shipments
  /-- The writes that were dispatched are sent in this order. -/
  dispatched_eq : s.dispatched = parcels.filterMap (·.ticket)
  /-- The payloads are those that were submitted. -/
  content : ∀ a ∈ parcels, ∀ ticket ∈ a.ticket,
    ∃ w ∈ s.submitted, w.ticket = ticket ∧ w.payload = a.content
  known : ∀ a ∈ parcels, a.socket ∈ s.sockets
  live : ∀ socket, s.connection.live? = some socket → socket ∈ s.sockets
  sent : ∀ a ∈ parcels, a.sent <+: a.content
  /-- Over each socket, all parcels but the last are whole. -/
  pairwise : parcels.Pairwise fun a b => a.socket = b.socket → a.IsWhole
  /-- Over a socket that goes on, the last one is whole or under way. -/
  last : ∀ a ∈ parcels, s.connection.live? = some a.socket →
    a.IsWhole ∨ parcels.getLast? = some a ∧ s.connection.Underway a
  /-- What is under way is the last parcel. -/
  load : ∀ load, s.connection.load? = some load →
    ∃ a, parcels.getLast? = some a ∧ s.connection.Underway a

theorem Packed.content_of_prefix (h : s.Packed parcels) (hsub : s.submitted <+: t.submitted) :
    ∀ a ∈ parcels, ∀ ticket ∈ a.ticket,
      ∃ w ∈ t.submitted, w.ticket = ticket ∧ w.payload = a.content := by
  intro a ha ticket hticket
  obtain ⟨w, hw, heq⟩ := h.content a ha ticket hticket
  exact ⟨w, hsub.subset hw, heq⟩

/-- A move that hands over nothing, and goes on with what is under way. -/
theorem Packed.keep (h : s.Packed parcels) (hl : t.connection.live? = s.connection.live?)
    (hn : t.connection.load? = s.connection.load?) (hs : t.shipped = s.shipped)
    (hd : t.dispatched = s.dispatched) (hk : s.sockets <+: t.sockets)
    (hsub : s.submitted <+: t.submitted) : t.Packed parcels where
  shipped_eq := hs.trans h.shipped_eq
  dispatched_eq := hd.trans h.dispatched_eq
  content := h.content_of_prefix hsub
  known a ha := hk.subset (h.known a ha)
  live socket hsocket := hk.subset (h.live socket (hl.symm.trans hsocket))
  sent := h.sent
  pairwise := h.pairwise
  last a ha hlive := by
    have := h.last a ha (hl.symm.trans hlive)
    simpa only [Connection.Underway, hl, hn] using this
  load load hload := by
    obtain ⟨a, ha, hunder⟩ := h.load load (hn.symm.trans hload)
    exact ⟨a, ha, by simpa only [Connection.Underway, hl, hn] using hunder⟩

/-- A socket that is given up, or replaced by a fresh one, takes what was under way with it. -/
theorem Packed.part (h : s.Packed parcels) (hs : t.shipped = s.shipped)
    (hd : t.dispatched = s.dispatched) (hk : s.sockets <+: t.sockets)
    (hsub : s.submitted <+: t.submitted) (hn : t.connection.load? = none)
    (hl : ∀ socket, t.connection.live? = some socket → socket ∈ t.sockets ∧ socket ∉ s.sockets) :
    t.Packed parcels where
  shipped_eq := hs.trans h.shipped_eq
  dispatched_eq := hd.trans h.dispatched_eq
  content := h.content_of_prefix hsub
  known a ha := hk.subset (h.known a ha)
  live socket hsocket := (hl socket hsocket).1
  sent := h.sent
  pairwise := h.pairwise
  last a ha hlive := absurd (h.known a ha) (hl _ hlive).2
  load load hload := by
    rw [hn] at hload
    cases hload

/-- A parcel is begun over a socket that nothing is under way on. -/
theorem Packed.begin (h : s.Packed parcels) {a : Parcel} (hs : t.shipped = s.shipped)
    (hd : t.dispatched = s.dispatched ++ a.ticket.toList) (hk : s.sockets <+: t.sockets)
    (hsub : s.submitted <+: t.submitted) (hp : a.pieces = [])
    (hl : s.connection.live? = some a.socket) (hl' : t.connection.live? = some a.socket)
    (hc : s.connection.load? = none) (hn : t.connection.load? = some (a.ticket, a.content))
    (hi : ∀ ticket ∈ a.ticket, ∃ w ∈ s.submitted, w.ticket = ticket ∧ w.payload = a.content) :
    t.Packed (parcels ++ [a]) := by
  have hsent : a.sent = [] := by rw [Parcel.sent, hp]; rfl
  have hunder : t.connection.Underway a := ⟨hl', _, hn, by rw [hsent]; rfl⟩
  -- Nothing is under way, so that every parcel over this socket is whole.
  have hwhole {b : Parcel} (hb : b ∈ parcels) (heq : b.socket = a.socket) : b.IsWhole := by
    refine (h.last b hb (by rw [hl, heq])).resolve_right ?_
    rintro ⟨-, -, unsent, hload, -⟩
    rw [hc] at hload
    cases hload
  constructor
  case shipped_eq =>
    rw [List.flatMap_append, ← h.shipped_eq, hs]
    simp [Parcel.shipments, hp]
  case dispatched_eq =>
    rw [List.filterMap_append, ← h.dispatched_eq, hd]
    cases hticket : a.ticket <;> simp [hticket]
  case content =>
    intro b hb ticket hticket
    rcases List.mem_append.1 hb with hb | hb
    · exact h.content_of_prefix hsub b hb ticket hticket
    · cases List.mem_singleton.1 hb
      obtain ⟨w, hw, heq⟩ := hi ticket hticket
      exact ⟨w, hsub.subset hw, heq⟩
  case known =>
    intro b hb
    rcases List.mem_append.1 hb with hb | hb
    · exact hk.subset (h.known b hb)
    · cases List.mem_singleton.1 hb
      exact hk.subset (h.live _ hl)
  case live =>
    intro socket hsocket
    rw [hl'] at hsocket
    cases hsocket
    exact hk.subset (h.live _ hl)
  case sent =>
    intro b hb
    rcases List.mem_append.1 hb with hb | hb
    · exact h.sent b hb
    · cases List.mem_singleton.1 hb
      rw [hsent]
      exact List.nil_prefix
  case pairwise =>
    refine List.pairwise_append.2 ⟨h.pairwise, List.pairwise_singleton _ _, fun b hb d hd heq => ?_⟩
    cases List.mem_singleton.1 hd
    exact hwhole hb heq
  case last =>
    intro b hb hlive
    rcases List.mem_append.1 hb with hb | hb
    · rw [hl'] at hlive
      exact .inl (hwhole hb (Option.some.inj hlive).symm)
    · cases List.mem_singleton.1 hb
      exact .inr ⟨List.getLast?_concat, hunder⟩
  case load => exact fun _ _ => ⟨a, List.getLast?_concat, hunder⟩

/-- A piece of the last parcel is handed over. -/
theorem Packed.send {init : List Parcel} {a : Parcel} (h : s.Packed (init ++ [a]))
    {unsent : Bytes} {count : Nat}
    (hs : t.shipped = s.shipped ++ [⟨a.socket, a.ticket, unsent.take count⟩])
    (hd : t.dispatched = s.dispatched) (hk : s.sockets <+: t.sockets)
    (hsub : s.submitted <+: t.submitted) (hc : a.sent ++ unsent = a.content)
    (hl' : t.connection.live? = some a.socket)
    (hn : t.connection.load? =
      if unsent.drop count = [] then none else some (a.ticket, unsent.drop count)) :
    t.Packed (init ++ [a.add (unsent.take count)]) := by
  have hmem : a ∈ init ++ [a] := List.mem_append_right _ (List.mem_singleton_self a)
  -- What holds of all the parcels before holds of them now, if it holds of the one that has grown.
  have hold {P : Parcel → Prop} (hbefore : ∀ b ∈ init ++ [a], P b)
      (hnow : P (a.add (unsent.take count))) : ∀ b ∈ init ++ [a.add (unsent.take count)], P b := by
    intro b hb
    rcases List.mem_append.1 hb with hb | hb
    · exact hbefore b (List.mem_append_left _ hb)
    · rw [List.mem_singleton.1 hb]
      exact hnow
  have hdone : unsent.drop count = [] → (a.add (unsent.take count)).IsWhole := fun hdrop => by
    have htake := List.take_append_drop count unsent
    rw [hdrop, List.append_nil] at htake
    rw [Parcel.IsWhole, Parcel.sent_add, htake]
    exact hc
  have hunder : unsent.drop count ≠ [] → t.connection.Underway (a.add (unsent.take count)) :=
    fun hdrop => by
      refine ⟨hl', unsent.drop count, ?_, ?_⟩
      · rw [hn, if_neg hdrop]
        rfl
      · rw [Parcel.sent_add, List.append_assoc, List.take_append_drop]
        exact hc
  constructor
  case shipped_eq =>
    rw [hs, h.shipped_eq]
    simp
  case dispatched_eq =>
    rw [hd, h.dispatched_eq, List.filterMap_append, List.filterMap_append]
    rfl
  case content => exact hold (h.content_of_prefix hsub) (h.content_of_prefix hsub a hmem)
  case known => exact hold (fun b hb => hk.subset (h.known b hb)) (hk.subset (h.known a hmem))
  case live =>
    intro socket hsocket
    rw [hl'] at hsocket
    cases hsocket
    exact hk.subset (h.known a hmem)
  case sent =>
    refine hold h.sent ?_
    rw [Parcel.sent_add, show (a.add _).content = a.content from rfl, ← hc]
    exact List.prefix_append_right_inj _ |>.2 (List.take_prefix _ _)
  case pairwise =>
    obtain ⟨hinit, -, hcross⟩ := List.pairwise_append.1 h.pairwise
    refine List.pairwise_append.2 ⟨hinit, List.pairwise_singleton _ _, fun b hb d hd heq => ?_⟩
    cases List.mem_singleton.1 hd
    exact hcross b hb a (List.mem_singleton_self a) heq
  case last =>
    intro b hb hlive
    rcases List.mem_append.1 hb with hb | hb
    · obtain ⟨-, -, hcross⟩ := List.pairwise_append.1 h.pairwise
      rw [hl'] at hlive
      exact .inl (hcross b hb a (List.mem_singleton_self a) (Option.some.inj hlive).symm)
    · cases List.mem_singleton.1 hb
      by_cases hdrop : unsent.drop count = []
      · exact .inl (hdone hdrop)
      · exact .inr ⟨List.getLast?_concat, hunder hdrop⟩
  case load =>
    intro load hload
    refine ⟨_, List.getLast?_concat, hunder fun hdrop => ?_⟩
    rw [hn, if_pos hdrop] at hload
    cases hload

section

variable {now : Instant} {stimulus : Stimulus}

theorem dispatched_turn_of_nil
    (h : s.connection.begun (s.connection.turn now stimulus).next = []) :
    (s.turn now stimulus).dispatched = s.dispatched :=
  (congrArg (s.dispatched ++ ·) h).trans (List.append_nil _)

theorem shipped_turn_of_nil (h : (s.connection.turn now stimulus).transmissions = []) :
    (s.turn now stimulus).shipped = s.shipped := by
  have hnone : s.connection.shipments (s.connection.turn now stimulus) = [] := by
    rw [Connection.shipments, h, List.map_nil]
  exact (congrArg (s.shipped ++ ·) hnone).trans (List.append_nil _)

end

/-- A turn keeps the parcels, begins one, or hands over a piece of the last. -/
theorem packed_turn (h : s.Packed parcels) (ha : s.Accounted) (hi : s.connection.Intact)
    {now : Instant} {stimulus : Stimulus} (hallows : s.Allows (.turn now stimulus)) :
    ∃ parcels', (s.turn now stimulus).Packed parcels' ∧ ∀ a ∈ parcels', a.ticket = none →
      s.connection.codec.probe = some a.content ∨
        ∃ b ∈ parcels, b.ticket = none ∧ b.content = a.content := by
  have hsockets : s.sockets <+: (s.turn now stimulus).sockets := List.prefix_append _ _
  have hsubmitted : s.submitted <+: (s.turn now stimulus).submitted := List.prefix_refl _
  have hold : ∀ a ∈ parcels, a.ticket = none → s.connection.codec.probe = some a.content ∨
      ∃ b ∈ parcels, b.ticket = none ∧ b.content = a.content :=
    fun a ha hnone => .inr ⟨a, ha, hnone, rfl⟩
  cases hi.sending now stimulus with
  | keeps hl hn hb ht =>
      exact ⟨parcels, h.keep hl hn (shipped_turn_of_nil ht) (dispatched_turn_of_nil hb) hsockets
        hsubmitted, hold⟩
  | parts hl hn hb ht =>
      refine ⟨parcels, h.part (shipped_turn_of_nil ht) (dispatched_turn_of_nil hb) hsockets
        hsubmitted hn fun socket hsocket => ?_, hold⟩
      rw [connection_turn, hl] at hsocket
      cases hsocket
  | dials link hst hl hn hb ht =>
      refine ⟨parcels, h.part (shipped_turn_of_nil ht) (dispatched_turn_of_nil hb) hsockets
        hsubmitted hn fun socket hsocket => ?_, hold⟩
      rw [connection_turn, hl] at hsocket
      cases hsocket
      have hmem : link.socket ∈ stimulus.sockets := by rw [hst]; exact List.mem_singleton_self _
      -- No parcel was sent over a socket that is fresh.
      exact ⟨List.mem_append_right _ hmem, hallows _ hmem⟩
  | begins socket ticket content hl hl' hc hn hb hi ht =>
      have hdispatched : (s.turn now stimulus).dispatched = s.dispatched ++ ticket.toList :=
        congrArg (s.dispatched ++ ·) hb
      refine ⟨parcels ++ [⟨socket, ticket, content, []⟩], h.begin (t := s.turn now stimulus)
        (a := ⟨socket, ticket, content, []⟩) (shipped_turn_of_nil ht) hdispatched hsockets
        hsubmitted rfl hl hl' hc hn fun other hother => ?_, fun a ha hnone => ?_⟩
      · obtain ⟨w, hw, rfl, rfl⟩ | ⟨rfl, -⟩ := hi
        · cases hother
          obtain ⟨v, hv, heq⟩ := ha.kept w (by simp [Connection.held, hw])
          exact ⟨v, hv, heq⟩
        · cases hother
      · rcases List.mem_append.1 ha with ha | ha
        · exact hold a ha hnone
        · cases List.mem_singleton.1 ha
          obtain ⟨w, hw, rfl, -⟩ | ⟨-, hprobe⟩ := hi
          · cases hnone
          · exact .inl hprobe
  | sends socket unsent count hl hl' hc hn hb ht =>
      -- What the socket is handed belongs to the last parcel.
      obtain ⟨a, hlast, hsocket, unsent', hload, hcontent⟩ := h.load _ hc
      rw [hc] at hload
      obtain ⟨hticket, rfl⟩ : s.connection.carrying = a.ticket ∧ unsent = unsent' := by
        simpa using hload
      obtain rfl : socket = a.socket := Option.some.inj (hl.symm.trans hsocket)
      obtain ⟨init, rfl⟩ := List.getLast?_eq_some_iff.1 hlast
      have hshipped : (s.turn now stimulus).shipped =
          s.shipped ++ s.connection.shipments (s.connection.turn now stimulus) := rfl
      rw [Connection.shipments, ht, hticket] at hshipped
      rw [hticket] at hn
      refine ⟨_, h.send (t := s.turn now stimulus) hshipped (dispatched_turn_of_nil hb) hsockets
        hsubmitted hcontent hl' hn, fun b hb hnone => ?_⟩
      rcases List.mem_append.1 hb with hb | hb
      · exact hold b (List.mem_append_left _ hb) hnone
      · cases List.mem_singleton.1 hb
        exact hold a (List.mem_append_right _ (List.mem_singleton_self a)) hnone

/-- A move of others leaves alone what is being sent. -/
theorem Packed.apart (h : s.Packed parcels) (hapart : Apart s t) : t.Packed parcels := by
  refine h.keep ?_ ?_ hapart.shipped_eq hapart.dispatched_eq ?_ hapart.submitted_grows
  · simp only [Connection.live?, hapart.position_eq, hapart.socket_eq]
  · simp only [Connection.load?, hapart.position_eq, hapart.inFlight_eq, hapart.status_eq]
  · exact hapart.sockets_eq ▸ List.prefix_refl _

/-- **The sockets are handed parcels, one after the other**, in every run.  A parcel that is not the
payload of a write is a probe that the codec had at some time. -/
theorem packed_run (now : Instant) (endpoint : Endpoint) (config : Config) (codec : FrameCodec)
    (name : Option String) (moves : List Move) :
    ∃ parcels, ((start now endpoint config codec name).run moves).Packed parcels ∧
      ∀ a ∈ parcels, a.ticket = none → ∃ before, before <+: moves ∧
        ((start now endpoint config codec name).run before).connection.codec.probe =
          some a.content := by
  generalize hfirst : start now endpoint config codec name = first
  have hr : first.Reachable := hfirst ▸ .start now endpoint config codec name
  refine run_induction (P := fun moves s => ∃ parcels, s.Packed parcels ∧
    ∀ a ∈ parcels, a.ticket = none → ∃ before, before <+: moves ∧
      (first.run before).connection.codec.probe = some a.content) hr ?_ (fun moves move ha h => ?_)
    (fun moves move hr ha h => ?_) moves
  · refine ⟨[], ?_, nofun⟩
    rw [← hfirst]
    exact ⟨rfl, rfl, nofun, nofun, nofun, nofun, .nil, nofun, nofun⟩
  · obtain ⟨parcels, hpacked, hprobes⟩ := h
    refine ⟨parcels, hpacked, fun a ha hnone => ?_⟩
    obtain ⟨before, hbefore, hprobe⟩ := hprobes a ha hnone
    exact ⟨before, hbefore.trans (List.prefix_append _ _), hprobe⟩
  · obtain ⟨parcels, hpacked, hprobes⟩ := h
    have hlater : ∀ a ∈ parcels, a.ticket = none → ∃ before, before <+: moves ++ [move] ∧
        (first.run before).connection.codec.probe = some a.content := fun a ha hnone => by
      obtain ⟨before, hbefore, hprobe⟩ := hprobes a ha hnone
      exact ⟨before, hbefore.trans (List.prefix_append _ _), hprobe⟩
    rcases (first.run moves).turn_or_apart move with ⟨later, stimulus, rfl⟩ | ⟨-, hapart⟩
    · rw [step_turn ha]
      obtain ⟨parcels', hpacked', hnew⟩ := packed_turn hpacked hr.accounted hr.intact ha
      refine ⟨parcels', hpacked', fun a ha hnone => ?_⟩
      obtain hprobe | ⟨b, hb, hbnone, heq⟩ := hnew a ha hnone
      · exact ⟨moves, List.prefix_append _ _, hprobe⟩
      · rw [← heq]
        exact hlater b hb hbnone
    · exact ⟨parcels, hpacked.apart hapart, hlater⟩

/-! ### Sockets that are given up -/

/-- Nothing more is handed to a socket that is given up. -/
theorem shipped_step_of_gone {socket : SocketId} (hr : s.Reachable) (hknown : socket ∈ s.sockets)
    (hgone : s.connection.live? ≠ some socket) (move : Move) :
    socket ∈ (s.step move).sockets ∧ (s.step move).connection.live? ≠ some socket ∧
      (s.step move).shipped.filter (·.socket = socket) =
        s.shipped.filter (·.socket = socket) := by
  rcases s.turned_or_apart move with ⟨now, stimulus, ha, hstep⟩ | hapart
  · rw [hstep]
    refine ⟨List.mem_append_left _ hknown, ?_⟩
    rw [connection_turn]
    cases hr.intact.sending now stimulus with
    | keeps hl hn hb ht => exact ⟨by rw [hl]; exact hgone, by rw [shipped_turn_of_nil ht]⟩
    | parts hl hn hb ht => exact ⟨by rw [hl]; nofun, by rw [shipped_turn_of_nil ht]⟩
    | dials link hst hl hn hb ht =>
        refine ⟨?_, by rw [shipped_turn_of_nil ht]⟩
        rw [hl]
        rintro ⟨⟩
        -- A socket that was there before is not the fresh one.
        exact ha link.socket (by rw [hst]; exact List.mem_singleton_self _) hknown
    | begins other ticket content hl hl' hc hn hb hi ht =>
        exact ⟨by rw [hl', ← hl]; exact hgone, by rw [shipped_turn_of_nil ht]⟩
    | sends other unsent count hl hl' hc hn hb ht =>
        refine ⟨by rw [hl', ← hl]; exact hgone, ?_⟩
        have hne : other ≠ socket := fun heq => hgone (by rw [hl, heq])
        simp [turn, after, Connection.shipments, ht, hne]
  · refine ⟨by rw [hapart.sockets_eq]; exact hknown, ?_, by rw [hapart.shipped_eq]⟩
    simpa only [Connection.live?, hapart.position_eq, hapart.socket_eq] using hgone

theorem shipped_run_of_gone {socket : SocketId} (hr : s.Reachable) (hknown : socket ∈ s.sockets)
    (hgone : s.connection.live? ≠ some socket) (moves : List Move) :
    (s.run moves).shipped.filter (·.socket = socket) = s.shipped.filter (·.socket = socket) := by
  induction moves generalizing s with
  | nil => rfl
  | cons move moves ih =>
      obtain ⟨hknown', hgone', heq⟩ := shipped_step_of_gone hr hknown hgone move
      exact (ih (hr.step move) hknown' hgone').trans heq

end Scene
end Uplink

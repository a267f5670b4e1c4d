/-
Whose answer a response is.

A response is read from the socket without any mark of the write that it answers.  It is the answer
to that write as long as nothing else is left in the stream to be read: everything that was said to
the node before has been answered in full, or is never answered at all.

* `Uplink.Exchange.Attuned` — every wire follows the conversation of the connection;
* `Uplink.Exchange.Reachable.attuned` — **so it is in every exchange** that a run leads to;
* `Uplink.Exchange.response_attributed` — **a response is the reply to its own write**, unless the
  node has replied to a write that expects no response;
* `Uplink.Exchange.not_attributed_staleRun` — then it may be something else.
-/

import Uplink.Proofs.Delivery
import Uplink.Proofs.Exchange

set_option relaxedAutoImplicit false
set_option autoImplicit false

namespace Uplink

namespace Scene

variable {s t : Scene}

/-! ### Beside the conversation -/

/-- What the users of a connection do, apart from the fresh writes that they submit. -/
structure Beside (s : Scene) (fresh : List PendingWrite) (t : Scene) : Prop where
  alike : s.connection.Alike t.connection
  shipped_eq : t.shipped = s.shipped
  sockets_eq : t.sockets = s.sockets
  submitted : ∀ w ∈ t.submitted, w ∈ s.submitted ++ fresh

theorem Beside.refl (s : Scene) (fresh : List PendingWrite) : s.Beside fresh s :=
  ⟨.refl _, rfl, rfl, fun _ => List.mem_append_left _⟩

/-- The connection takes a step of its owner. -/
theorem Beside.of_alike {p : Progress} (h : s.connection.Alike p.next) : s.Beside [] (s.after p) :=
  ⟨h, rfl, rfl, fun _ => List.mem_append_left _⟩

theorem Beside.of_ite {q : Prop} [Decidable q] {fresh : List PendingWrite}
    (h : s.Beside fresh t) : s.Beside fresh (if q then t else s) := by
  split
  · exact h
  · exact .refl s fresh

theorem beside_push (s : Scene) (w : PendingWrite) : s.Beside [] (s.push w) := by
  unfold push
  split
  next connection hc =>
    exact ⟨Connection.alike_push hc, rfl, rfl, fun _ => List.mem_append_left _⟩
  next => exact .of_alike ⟨rfl, rfl, rfl, rfl, rfl, rfl, rfl, rfl, rfl⟩

theorem beside_submit (s : Scene) (w : PendingWrite) : s.Beside [w] (s.step (.push w)) := by
  obtain ⟨halike, hshipped, hsockets, -⟩ := s.beside_push w
  exact .of_ite ⟨halike, hshipped, hsockets, fun _ => id⟩

/-- A move that is no turn leaves the conversation alone. -/
theorem beside_step (s : Scene) {move : Move} (ht : ∀ now stimulus, move ≠ .turn now stimulus)
    (hr : ∀ codec, move ≠ .recode codec) (hp : ∀ w, move ≠ .push w) :
    s.Beside [] (s.step move) := by
  cases move with
  | turn now stimulus => exact absurd rfl (ht now stimulus)
  | recode codec => exact absurd rfl (hr codec)
  | push w => exact absurd rfl (hp w)
  | pushAgain w expects =>
      obtain ⟨halike, hshipped, hsockets, hsubmitted⟩ :=
        beside_push { s with handed := s.handed.erase w } { w with expects }
      exact .of_ite ⟨halike, hshipped, hsockets, hsubmitted⟩
  | wake =>
      exact .of_ite ⟨Connection.alike_post _ _, rfl, rfl, fun _ => List.mem_append_left _⟩
  | take =>
      exact .of_ite ⟨⟨rfl, rfl, rfl, rfl, rfl, rfl, rfl, rfl, rfl⟩, rfl, rfl,
        fun _ => List.mem_append_left _⟩
  | discard w => exact .of_ite ⟨.refl _, rfl, rfl, fun _ => List.mem_append_left _⟩
  | connect | shutdown => exact .of_ite (.of_alike (Connection.alike_post _ _))
  | close waiter => exact .of_ite (.of_alike (Connection.alike_close _ _))
  | letGo => exact .of_ite (.of_alike (Connection.alike_letGo _))

end Scene

namespace Exchange

variable {x : Exchange} {now : Instant} {stimulus : Stimulus}

/-! ### Every wire follows -/

theorem isFrame_of_accepts {payload : Bytes} (h : accepts payload = true) :
    IsFrame payload := by
  unfold accepts at h
  split at h
  next frame rest hr =>
    obtain ⟨-, rfl⟩ : frame ≠ [] ∧ rest = [] := by simpa using h
    exact isFrame_of_readFrame? hr
  next => cases h

/-- All that is said is said in whole frames. -/
structure Regular (x : Exchange) : Prop where
  scene : x.scene.Reachable
  /-- A response that is about to be told of is a whole frame. -/
  framed : x.connection.Framed
  /-- Frames start with their length, and a probe is one. -/
  codec : ∃ (maxFrame : Nat) (probe : Option Bytes),
    (∀ payload ∈ probe, payload.length < 4294967296) ∧
      x.connection.codec = format maxFrame probe
  /-- Every payload is one frame. -/
  submitted : ∀ w ∈ x.scene.submitted, IsFrame w.payload

/-- Every wire follows the conversation of the connection, unless the node has made noise on it. -/
structure Attuned (x : Exchange) : Prop extends Regular x where
  /-- The socket is one that there has been. -/
  known : ∀ line, x.connection.line? = some line → line.socket ∈ x.scene.sockets
  /-- The wire of the socket follows the conversation. -/
  follows : ∀ line, x.connection.line? = some line → (x.wires line.socket).Quiet →
    (x.wires line.socket).Follows (x.handed line.socket) line
  /-- A wire that was not used is ready for a conversation. -/
  fresh : ∀ socket, socket ∉ x.scene.sockets → (x.wires socket).Quiet →
    (x.wires socket).Follows (x.handed socket) ⟨socket, [], [], none⟩

/-- A complete response is exactly one frame. -/
theorem Regular.isFrame {bytes : Bytes} (h : x.Regular)
    (hv : x.connection.codec.check bytes = .complete bytes.length) : IsFrame bytes := by
  obtain ⟨maxFrame, probe, -, hcodec⟩ := h.codec
  rw [hcodec] at hv
  exact isFrame_of_check hv

/-- What is begun is exactly one frame. -/
theorem Regular.begins {item : Item} (h : x.Regular)
    (hi : (∃ w ∈ x.connection.queue, w.payload = item.bytes) ∨
      x.connection.codec.probe = some item.bytes) : IsFrame item.bytes := by
  rcases hi with ⟨w, hw, hpayload⟩ | hprobe
  · have hmem : w ∈ x.scene.connection.held ++ x.scene.handed :=
      List.mem_append_left _ (List.mem_append_right _ hw)
    obtain ⟨v, hv, -, heq⟩ := h.scene.accounted.kept w hmem
    rw [← hpayload, ← heq]
    exact h.submitted v hv
  · obtain ⟨maxFrame, probe, hl, hcodec⟩ := h.codec
    rw [hcodec] at hprobe
    obtain ⟨payload, hpayload, heq⟩ := Option.map_eq_some_iff.1 hprobe
    exact ⟨payload, hl payload hpayload, heq.symm⟩

theorem Regular.intact (h : x.Regular) : x.connection.Intact := h.scene.intact

/-- Only what the connection says is said in whole frames. -/
theorem Regular.congr {y : Exchange} (h : x.Regular) (hs : y.scene = x.scene) : y.Regular := by
  obtain ⟨hscene, hframed, hcodec, hsubmitted⟩ := h
  rw [connection, ← hs] at hframed hcodec
  rw [← hs] at hscene hsubmitted
  exact ⟨hscene, hframed, hcodec, hsubmitted⟩

/-- A turn keeps to whole frames. -/
theorem Regular.turn (h : x.Regular) (now : Instant)
    (hfresh : ∀ socket ∈ stimulus.sockets, socket ∉ x.scene.sockets) :
    (x.turn now stimulus).Regular where
  scene := by
    have hstep := h.scene.step (.turn now stimulus)
    rw [Scene.step, if_pos hfresh] at hstep
    exact hstep
  framed := h.intact.framed h.framed now stimulus
  codec := by
    obtain ⟨maxFrame, probe, hl, hcodec⟩ := h.codec
    exact ⟨maxFrame, probe, hl, (h.intact.codec_eq now stimulus).trans hcodec⟩
  submitted := h.submitted

/-! ### Wires and turns -/

theorem handed_turn (x : Exchange) (now : Instant) (stimulus : Stimulus) (socket : SocketId) :
    (x.turn now stimulus).handed socket =
      x.handed socket ++ (x.connection.turn now stimulus).handed socket := by
  simp [handed, turn, Scene.turn, Connection.shipments, Progress.handed, connection,
    List.filter_map, List.flatMap_map, Function.comp_def]

section

variable {c : Connection} {p : Progress} {next : Line} {socket : SocketId}

theorem handed_of_nil (ht : p.transmissions = []) (socket : SocketId) : p.handed socket = [] := by
  simp [Progress.handed, ht]

theorem send_nil (t : Stream) : t.send [] = t := by
  unfold Stream.send
  split
  · rw [List.append_nil]
  · rfl

theorem begins_of_same {line : Line} (hl : c.line? = some line) (hn : p.next.line? = some next)
    (h : next.current = line.current) (socket : SocketId) : c.begins p socket = [] := by
  simp only [Connection.begins, hl, hn, h]
  split
  next hnone => rw [hnone.1]; rfl
  next => rfl

theorem begins_of_none (c : Connection) (hn : p.next.line? = none) (socket : SocketId) :
    c.begins p socket = [] := by
  cases hl : c.line? <;> simp [Connection.begins, hl, hn]

/-- Nothing is begun while the line goes on as it is, or is given up. -/
theorem begins_of_rests (hl : p.next.line? = c.line? ∨ p.next.line? = none) (socket : SocketId) :
    c.begins p socket = [] := by
  cases hn : p.next.line? with
  | none => exact begins_of_none c hn socket
  | some next =>
      rw [hn] at hl
      exact begins_of_same (hl.resolve_right nofun).symm hn rfl socket

theorem begins_of_current (c : Connection) (hn : p.next.line? = some next)
    (h : next.current = none) (socket : SocketId) : c.begins p socket = [] := by
  cases hl : c.line? <;> simp [Connection.begins, hl, hn, h]

theorem begins_of_socket (c : Connection) (hn : p.next.line? = some next)
    (h : next.socket ≠ socket) : c.begins p socket = [] := by
  cases hl : c.line? <;> simp [Connection.begins, hl, hn, h]

/-- A wire on which nothing is said stays as it is. -/
theorem follow_eq (w : Wire) (ht : p.handed socket = []) (hb : c.begins p socket = []) :
    w.follow c p socket = w := by
  rw [Wire.follow, ht, hb, send_nil, List.append_nil]

end

/-- A turn keeps every wire attuned if it leaves alone those that were not used, and if the wire of
the socket follows. -/
theorem attuned_turn (hr : (x.turn now stimulus).Regular)
    (hfresh : ∀ socket, socket ∉ x.scene.sockets → (x.wires socket).Quiet →
      (x.wires socket).Follows (x.handed socket) ⟨socket, [], [], none⟩)
    (hother : ∀ socket, socket ∉ x.scene.sockets →
      (x.connection.turn now stimulus).handed socket = [] ∧
        x.connection.begins (x.connection.turn now stimulus) socket = [])
    (hline : ∀ line, (x.connection.turn now stimulus).next.line? = some line →
      line.socket ∈ x.scene.sockets ++ stimulus.sockets ∧
        (((x.turn now stimulus).wires line.socket).Quiet →
          ((x.turn now stimulus).wires line.socket).Follows
            (x.handed line.socket ++ (x.connection.turn now stimulus).handed line.socket) line)) :
    (x.turn now stimulus).Attuned where
  toRegular := hr
  known line hl := (hline line hl).1
  follows line hl hq := by
    rw [handed_turn]
    exact (hline line hl).2 hq
  fresh socket hs := by
    have hs : socket ∉ x.scene.sockets := fun hmem => hs (List.mem_append_left _ hmem)
    obtain ⟨ht, hb⟩ := hother socket hs
    have hwire : (x.turn now stimulus).wires socket = x.wires socket := follow_eq _ ht hb
    rw [handed_turn, ht, List.append_nil, hwire]
    exact hfresh socket hs

/-- A turn in which nothing is said leaves every wire as it is. -/
theorem attuned_of_silent (hr : (x.turn now stimulus).Regular)
    (hfresh : ∀ socket, socket ∉ x.scene.sockets → (x.wires socket).Quiet →
      (x.wires socket).Follows (x.handed socket) ⟨socket, [], [], none⟩)
    (ht : (x.connection.turn now stimulus).transmissions = [])
    (hb : ∀ socket, x.connection.begins (x.connection.turn now stimulus) socket = [])
    (hline : ∀ line, (x.connection.turn now stimulus).next.line? = some line →
      line.socket ∈ x.scene.sockets ++ stimulus.sockets ∧
        ((x.wires line.socket).Quiet →
          (x.wires line.socket).Follows (x.handed line.socket) line)) :
    (x.turn now stimulus).Attuned := by
  have hhanded := handed_of_nil ht
  refine attuned_turn hr hfresh (fun socket _ => ⟨hhanded socket, hb socket⟩) ?_
  intro line hnext
  have hwire : (x.turn now stimulus).wires line.socket = x.wires line.socket :=
    follow_eq _ (hhanded _) (hb _)
  rw [hwire, hhanded, List.append_nil]
  exact hline line hnext

/-- A turn that reads no bytes keeps every wire attuned. -/
theorem Attuned.turn (h : x.Attuned) (hst : ¬stimulus.Gives)
    (hsockets : ∀ socket ∈ stimulus.sockets, socket ∉ x.scene.sockets) :
    (x.turn now stimulus).Attuned := by
  have hr := h.toRegular.turn now hsockets
  have hknown {line : Line} (hl : x.connection.line? = some line) {socket : SocketId}
      (hs : socket ∉ x.scene.sockets) : line.socket ≠ socket := by
    rintro rfl
    exact hs (h.known line hl)
  have hold {socket : SocketId} (hs : socket ∈ x.scene.sockets) :
      socket ∈ x.scene.sockets ++ stimulus.sockets := List.mem_append_left _ hs
  cases h.intact.talking h.framed now hst with
  | rests hl ht =>
      refine attuned_of_silent hr h.fresh ht (begins_of_rests hl) ?_
      intro line hline
      have hl : x.connection.line? = some line := by
        rcases hl with hl | hl
        · exact hl.symm.trans hline
        · rw [hl] at hline
          cases hline
      exact ⟨hold (h.known _ hl), h.follows line hl⟩
  | dials link hdial hn ht =>
      refine attuned_of_silent hr h.fresh ht (begins_of_current x.connection hn rfl) ?_
      intro line hline
      rw [hn] at hline
      cases hline
      have hmem : link.socket ∈ stimulus.sockets := by
        rw [hdial]
        exact List.mem_singleton.2 rfl
      exact ⟨List.mem_append_right _ hmem, h.fresh _ (hsockets _ hmem)⟩
  | begins socket item hl hn hi ht =>
      have hhanded := handed_of_nil ht
      have hmem := hold (h.known _ hl)
      refine attuned_turn hr h.fresh
        (fun other hs => ⟨hhanded other, begins_of_socket _ hn (hknown hl hs)⟩) ?_
      intro line hline
      rw [hn] at hline
      cases hline
      have hbegins : x.connection.begins (x.connection.turn now stimulus) socket = [item] := by
        simp [Connection.begins, hl, hn]
      refine ⟨hmem, fun hq => ?_⟩
      have hfollows := (h.follows _ hl hq).begin (h.begins hi)
      rw [hhanded, List.append_nil]
      simpa only [Exchange.turn, Wire.follow, hhanded, hbegins, send_nil] using hfollows
  | sends line count hl hn ht =>
      have hmem := hold (h.known _ hl)
      have hhanded : (x.connection.turn now stimulus).handed line.socket =
          line.unsent.take count := by
        simp [Progress.handed, ht]
      refine attuned_turn hr h.fresh (fun other hs => ⟨?_, begins_of_socket _ hn (hknown hl hs)⟩) ?_
      · simp [Progress.handed, ht, hknown hl hs]
      intro next hline
      rw [hn] at hline
      cases hline
      have hbegins := begins_of_same hl hn rfl line.socket
      refine ⟨hmem, fun hq => ?_⟩
      have hfollows := (h.follows _ hl hq).send count
      rw [hhanded]
      simpa only [Exchange.turn, Wire.follow, hhanded, hbegins, List.append_nil] using hfollows
  | ends line item hl hc hu hend hn ht =>
      refine attuned_of_silent hr h.fresh ht (begins_of_current x.connection hn rfl) ?_
      intro next hline
      rw [hn] at hline
      cases hline
      refine ⟨hold (h.known line hl), fun hq => ?_⟩
      exact (h.follows line hl hq).end hq hc hu (hend.imp_right h.isFrame)

/-- Bytes that are read keep every wire attuned. -/
theorem Attuned.hear {line : Line} {bytes rest : Bytes} (h : x.Attuned)
    (hl : x.connection.line? = some line) (hreads : x.connection.isReading = true)
    (hb : bytes ≠ []) (hroom : bytes.length ≤ x.connection.block.room)
    (hrest : (x.wires line.socket).stream.replied = bytes ++ rest) (now : Instant) :
    ((x.setWire line.socket ((x.wires line.socket).give bytes)).turn now
      (.received bytes)).Attuned := by
  have hhearing := h.intact.hearing hb hroom hreads now
  have hknown := h.known line hl
  generalize hy : x.setWire line.socket ((x.wires line.socket).give bytes) = y
  have hscene : y.scene = x.scene := by rw [← hy]; rfl
  have hconnection : y.connection = x.connection := by rw [← hy]; rfl
  have hwire : y.wires line.socket = (x.wires line.socket).give bytes := by
    rw [← hy]
    exact if_pos rfl
  have hr : (y.turn now (.received bytes)).Regular :=
    (h.toRegular.congr hscene).turn now fun _ hmem => absurd hmem List.not_mem_nil
  have hfresh (socket : SocketId) (hs : socket ∉ y.scene.sockets) (hq : (y.wires socket).Quiet) :
      (y.wires socket).Follows (y.handed socket) ⟨socket, [], [], none⟩ := by
    have hne : socket ≠ line.socket := by
      rintro rfl
      exact hs (by rwa [hscene])
    have hsame : y.wires socket = x.wires socket := by
      rw [← hy]
      exact if_neg hne
    rw [hsame] at hq ⊢
    rw [handed, hscene]
    rw [hscene] at hs
    exact h.fresh socket hs hq
  have hmem : line.socket ∈ y.scene.sockets ++ (Stimulus.received bytes).sockets := by
    rw [hscene]
    exact List.mem_append_left _ hknown
  have hfollows (hq : (y.wires line.socket).Quiet) :
      (y.wires line.socket).Follows (y.handed line.socket)
        { line with heard := line.heard ++ bytes } := by
    rw [hwire] at hq ⊢
    rw [handed, hscene]
    exact (h.follows line hl hq).hear hrest
  rw [← hconnection] at hhearing hl
  cases hhearing with
  | parts hn ht =>
      refine attuned_of_silent hr hfresh ht (begins_of_none _ hn) ?_
      intro next hnext
      rw [hn] at hnext
      cases hnext
  | hears same hsame hn ht =>
      rw [hl] at hsame
      cases hsame
      refine attuned_of_silent hr hfresh ht (begins_of_same hl hn rfl) ?_
      intro next hnext
      rw [hn] at hnext
      cases hnext
      exact ⟨hmem, hfollows⟩
  | ends same item hsame hc hu hend hn ht =>
      rw [hl] at hsame
      cases hsame
      refine attuned_of_silent hr hfresh ht (begins_of_current y.connection hn rfl) ?_
      intro next hnext
      rw [hn] at hnext
      cases hnext
      rw [hconnection] at hend
      exact ⟨hmem, fun hq => (hfollows hq).end hq hc hu (.inr (h.isFrame hend))⟩

/-- Whatever is read from the socket keeps every wire attuned. -/
theorem Attuned.read {socket : SocketId} (h : x.Attuned) (hs : x.connection.socket = some socket)
    (hreads : x.connection.isReading = true) (now : Instant) (count : Nat) :
    (x.read socket now count).Attuned := by
  obtain ⟨phase, hp⟩ := Connection.parked_of_isReading hreads
  have hl := Connection.line?_of_parked hp hs
  cases hoffer : (x.wires socket).stream.offer (min count x.connection.block.room) with
  | none => simpa only [Exchange.read, hoffer] using h
  | some offer =>
      cases offer with
      | ended | failed error => simpa only [Exchange.read, hoffer] using h
      | bytes bytes =>
          simp only [Exchange.read, hoffer]
          split
          next => exact h
          next hb =>
            have hroom : bytes.length ≤ x.connection.block.room :=
              Nat.le_trans (Stream.offer_bytes_length_le hoffer) (Nat.min_le_right _ _)
            have hrest : (x.wires socket).stream.replied =
                bytes ++ (x.wires socket).stream.replied.drop
                  (min count x.connection.block.room) := by
              rw [Stream.bytes_of_offer hoffer, List.take_append_drop]
            exact h.hear hl hreads hb hroom hrest now

/-! ### All that can happen -/

/-- Steps of sessions keep every wire attuned, and so does whatever happens to other wires. -/
theorem Attuned.rewire {y : Exchange} (h : x.Attuned) (hs : y.scene = x.scene)
    (hw : ∀ socket line, socket ∉ x.scene.sockets ∨
        x.connection.line?.map (·.socket) = some socket → (y.wires socket).Quiet →
      ((x.wires socket).Quiet → (x.wires socket).Follows (x.handed socket) line) →
        (y.wires socket).Follows (x.handed socket) line) : y.Attuned := by
  have hconnection : y.connection = x.connection := by rw [connection, hs]; rfl
  have hhanded (socket : SocketId) : y.handed socket = x.handed socket := by
    rw [handed, hs]
    rfl
  refine ⟨h.toRegular.congr hs, fun line hl => ?_, fun line hl hq => ?_,
    fun socket hsocket hq => ?_⟩
  · rw [hs]
    exact h.known line (by rwa [← hconnection])
  · rw [hconnection] at hl
    rw [hhanded]
    exact hw _ line (.inr (by rw [hl]; rfl)) hq (h.follows line hl)
  · rw [hs] at hsocket
    rw [hhanded]
    exact hw socket _ (.inl hsocket) hq (h.fresh socket hsocket)

theorem Attuned.serve (h : x.Attuned) (socket : SocketId) (now : Instant) :
    (x.step (.serve socket now)).Attuned := by
  refine h.rewire rfl fun other line _ hq hfollows => ?_
  by_cases hother : other = socket
  · subst hother
    have hwire : (x.step (.serve other now)).wires other = ((x.wires other).serve x.node now).1 :=
      if_pos rfl
    rw [hwire] at hq ⊢
    exact (hfollows (Wire.quiet_of_serve hq)).serve hq
  · have hwire : (x.step (.serve socket now)).wires other = x.wires other := if_neg hother
    rw [hwire] at hq ⊢
    exact hfollows hq

theorem Attuned.hangUp {socket : SocketId} (h : x.Attuned) (hs : socket ∈ x.scene.sockets)
    (hl : x.connection.line?.map (·.socket) ≠ some socket) (wire : Wire) :
    (x.setWire socket wire).Attuned := by
  refine h.rewire rfl fun other line hother hq hfollows => ?_
  have hne : other ≠ socket := by
    rintro rfl
    exact hother.elim (fun hnot => hnot hs) hl
  have hwire : (x.setWire socket wire).wires other = x.wires other := if_neg hne
  rw [hwire] at hq ⊢
  exact hfollows hq

/-- What the users of the connection do keeps every wire attuned. -/
theorem Attuned.beside {scene : Scene} {fresh : List PendingWrite} (h : x.Attuned)
    (hr : scene.Reachable) (hb : x.scene.Beside fresh scene)
    (hfresh : ∀ w ∈ fresh, IsFrame w.payload) : { x with scene }.Attuned where
  scene := hr
  framed := hb.alike.framed h.framed
  codec := by
    obtain ⟨maxFrame, probe, hl, hcodec⟩ := h.codec
    exact ⟨maxFrame, probe, hl, hb.alike.codec_eq.trans hcodec⟩
  submitted w hw := (List.mem_append.1 (hb.submitted w hw)).elim (h.submitted w) (hfresh w)
  known line hl := by
    rw [hb.sockets_eq]
    exact h.known line (hb.alike.line?_eq.symm.trans hl)
  follows line hl hq := by
    rw [handed, hb.shipped_eq]
    exact h.follows line (hb.alike.line?_eq.symm.trans hl) hq
  fresh socket hs hq := by
    rw [hb.sockets_eq] at hs
    rw [handed, hb.shipped_eq]
    exact h.fresh socket hs hq

/-- Every event keeps every wire attuned. -/
theorem Attuned.step (h : x.Attuned) (event : ExchangeEvent) : (x.step event).Attuned := by
  cases event with
  | move move =>
      cases move with
      | turn now stimulus =>
          by_cases hst : stimulus.Gives
          · obtain ⟨bytes, rfl⟩ := hst
            exact h
          · have hstep : x.step (.move (.turn now stimulus)) =
                if ∀ socket ∈ stimulus.sockets, socket ∉ x.scene.sockets then x.turn now stimulus
                else x := by
              cases stimulus <;> first | rfl | exact absurd ⟨_, rfl⟩ hst
            rw [hstep]
            split
            next hsockets => exact h.turn hst hsockets
            next => exact h
      | recode codec => exact h
      | push w =>
          simp only [Exchange.step]
          split
          next hw =>
            refine h.beside (h.scene.step _) (x.scene.beside_submit w) fun v hv => ?_
            rw [List.mem_singleton.1 hv]
            exact isFrame_of_accepts hw
          next => exact h
      | _ => exact h.beside (h.scene.step _) (x.scene.beside_step nofun nofun nofun) nofun
  | read now count =>
      simp only [Exchange.step]
      split
      next socket hs =>
        split
        next hreads => exact h.read hs hreads now count
        next => exact h
      next => exact h
  | serve socket now => exact h.serve socket now
  | hangUp socket =>
      simp only [Exchange.step]
      split
      next hs => exact h.hangUp hs.1 hs.2 _
      next => exact h
  | retune behavior answersProbes isStopping =>
      exact h.rewire rfl fun _ _ _ hq hfollows => hfollows hq

/-- **Every wire follows the conversation** in every exchange that a run leads to. -/
theorem Reachable.attuned (h : x.Reachable) : x.Attuned := by
  induction h with
  | start now endpoint config maxFrame probe name node ends hp =>
      exact {
        scene := .start now endpoint config (format maxFrame probe) name
        framed := nofun
        codec := ⟨maxFrame, probe, hp, rfl⟩
        submitted := nofun
        known := nofun
        follows := nofun
        fresh := fun socket _ _ => {
          handed_eq := rfl
          frames := nofun
          treated := nofun
          stream_eq := fun _ => ⟨rfl, rfl⟩
          clientOpen := rfl
          taken_eq := rfl
          stands := .idle rfl nofun rfl } }
  | step _ event ih => exact ih.step event

/-! ### Responses -/

/-- A response is the reply of the node to the write with a ticket.  The write is the last item that
was sent over the socket, and the node has treated exactly the frames that were sent.  What was read
before are the replies to the other items, and nothing of the reply is left to be read. -/
def Attributed (x : Exchange) (socket : SocketId) (ticket : Nat) (response : Bytes) : Prop :=
  ∃ earlier a, (x.wires socket).answered = earlier ++ [a] ∧ (x.wires socket).awaiting = [] ∧
    a.item.ticket = some ticket ∧ a.reply = response ∧
    x.handed socket = (earlier ++ [a]).flatMap (fun a => frameOf a.frame) ∧
    (∃ w ∈ x.connection.inFlight, w.ticket = ticket ∧ w.payload = frameOf a.frame) ∧
    (x.wires socket).taken = earlier.flatMap (·.reply) ++ response ∧
    (x.wires socket).coming = []

/-- **A response is the reply to its own write**, whatever has happened before, as long as the node
has said nothing on that socket to a write that expects no response. -/
theorem response_attributed {ticket : Nat} {delivery : Delivery} {response : Bytes}
    (h : x.Reachable)
    (hmem : (ticket, .delivered delivery) ∈ (x.connection.turn now stimulus).outcomes)
    (hr : delivery.response = some response) :
    ∃ socket, x.connection.socket = some socket ∧
      ((x.wires socket).Quiet → x.Attributed socket ticket response) := by
  have ha := h.attuned
  obtain ⟨w, socket, hw, hticket, hsocket, hv, hl⟩ := ha.intact.response ha.framed hmem hr
  refine ⟨socket, hsocket, fun hq => ?_⟩
  have hfollows := ha.follows _ hl hq
  obtain ⟨earlier, a, hcurrent, hawaiting, hanswered, hreply, hcoming⟩ :=
    hfollows.heard (ha.isFrame hv)
  have hitem : Item.mk (some ticket) w.payload x.connection.expectsResponse = a.item :=
    Option.some.inj hcurrent
  have hframe : ∀ b ∈ earlier ++ [a], b.item.bytes = frameOf b.frame := by
    rw [← hanswered]
    exact fun b hb => (hfollows.treated b hb).1
  have htaken := hfollows.taken_eq
  have hhanded := hfollows.handed_eq
  rw [hcoming, hanswered, List.append_nil] at htaken
  rw [hawaiting, hanswered, List.append_nil, List.append_nil, List.flatMap_map,
    List.flatMap_congr hframe] at hhanded
  refine ⟨earlier, a, hanswered, hawaiting, ?_, hreply, hhanded, ⟨w, hw, hticket, ?_⟩, ?_, hcoming⟩
  · rw [← hitem]
  · rw [← hframe a (by simp), ← hitem]
  · have hreply : a.reply = response := hreply
    rw [htaken]
    simp [hreply]

/-- A connection to a node that acknowledges everything. -/
def acknowledging : Exchange :=
  start ⟨0⟩ ⟨"node", 9001⟩ {} 64 none none { port := 9001, behavior := .acknowledge } fun _ =>
    (⟨.v4 [127, 0, 0, 1], 50001⟩, ⟨.v4 [127, 0, 0, 1], 9001⟩)

theorem reachable_acknowledging : acknowledging.Reachable :=
  .start _ _ _ _ none _ _ _ nofun

/-- The connection is established, and waits for something to do. -/
def connectRun : List ExchangeEvent :=
  [.move .connect, .move (.turn ⟨0⟩ .tick), .move (.turn ⟨0⟩ .tick), .move (.turn ⟨0⟩ .command),
    .move (.turn ⟨0⟩ .tick), .move (.turn ⟨0⟩ .tick), .move (.turn ⟨0⟩ (.dialled ⟨0, none, []⟩)),
    .move (.turn ⟨0⟩ .tick), .move (.turn ⟨0⟩ .tick)]

/-- A payload of one octet in a frame is sent, and the node treats it. -/
def sendRun (ticket : Nat) (octet : UInt8) (expects : Bool) : List ExchangeEvent :=
  [.move (.push ⟨ticket, frameOf [octet], some expects, ⟨0⟩, none⟩), .move .wake,
    .move (.turn ⟨0⟩ .command), .move (.turn ⟨0⟩ .tick), .move (.turn ⟨0⟩ .tick),
    .move (.turn ⟨0⟩ (.accepted 5)), .move (.turn ⟨0⟩ .tick), .move (.turn ⟨0⟩ .tick),
    .serve 0 ⟨0⟩, .serve 0 ⟨0⟩]

/-- The task deals with what it has read. -/
def settleRun : List ExchangeEvent := [.move (.turn ⟨0⟩ .tick), .move (.turn ⟨0⟩ .tick)]

/-- A run with three writes on one socket.  The node acknowledges the first one, says nothing to the
second one, which expects no response, and acknowledges the third one, in two parts. -/
def answerRun : List ExchangeEvent :=
  connectRun ++ sendRun 7 3 true ++ [.read ⟨0⟩ 6] ++ settleRun ++
    .retune .silent false false :: sendRun 5 4 false ++
    .retune .acknowledge false false :: sendRun 1 2 true ++ [.read ⟨0⟩ 2] ++ settleRun ++
    [.read ⟨0⟩ 4]

/-- The response to the third write is the second thing that is read from the socket. -/
theorem response_attributed_answerRun :
    (1, .delivered ⟨5, some (frameOf acknowledgement), .zero, .zero⟩) ∈
        ((acknowledging.run answerRun).connection.turn ⟨0⟩ .tick).outcomes ∧
      ∃ socket, (acknowledging.run answerRun).connection.socket = some socket ∧
        ((acknowledging.run answerRun).wires socket).Quiet ∧
        ((acknowledging.run answerRun).wires socket).answered.map (·.item.ticket) =
          [some 7, some 5, some 1] ∧
        ((acknowledging.run answerRun).wires socket).taken =
          frameOf acknowledgement ++ frameOf acknowledgement ∧
        (acknowledging.run answerRun).Attributed socket 1 (frameOf acknowledgement) := by
  have hreachable : (acknowledging.run answerRun).Reachable := reachable_acknowledging.run _
  have hmem : (1, .delivered ⟨5, some (frameOf acknowledgement), .zero, .zero⟩) ∈
      ((acknowledging.run answerRun).connection.turn ⟨0⟩ .tick).outcomes := by decide +kernel
  obtain ⟨socket, hsocket, hattributed⟩ := response_attributed hreachable hmem rfl
  have hzero : (acknowledging.run answerRun).connection.socket = some 0 := by decide +kernel
  have hquiet : ((acknowledging.run answerRun).wires 0).Quiet := by
    unfold Wire.Quiet
    decide +kernel
  cases hsocket.symm.trans hzero
  exact ⟨hmem, 0, hzero, hquiet, by decide +kernel, by decide +kernel, hattributed hquiet⟩

/-- A run in which the node acknowledges a write that expects no response, and then falls silent.
The response that is read next is that acknowledgement. -/
def staleRun : List ExchangeEvent :=
  connectRun ++ sendRun 0 1 false ++ .retune .silent false false :: sendRun 1 2 true ++
    [.read ⟨0⟩ 6]

/-- **A response need not be the reply to its own write** if the node has replied to a write that
expects no response: such a reply is left in the stream. -/
theorem not_attributed_staleRun :
    ¬∀ (x : Exchange) (now : Instant) (stimulus : Stimulus) (ticket : Nat) (delivery : Delivery)
      (response : Bytes) (socket : SocketId), x.Reachable →
      (ticket, .delivered delivery) ∈ (x.connection.turn now stimulus).outcomes →
      delivery.response = some response → x.connection.socket = some socket →
        ∃ a ∈ (x.wires socket).answered, a.item.ticket = some ticket ∧ a.reply = response := by
  intro h
  have hreachable : (acknowledging.run staleRun).Reachable := reachable_acknowledging.run _
  obtain ⟨a, hmem, hticket, hreply⟩ := h (acknowledging.run staleRun) ⟨0⟩ .tick 1
    ⟨5, some (frameOf acknowledgement), .zero, .zero⟩ (frameOf acknowledgement) 0 hreachable
    (by decide +kernel) rfl (by decide +kernel)
  have hsilent : ∀ a ∈ ((acknowledging.run staleRun).wires 0).answered, a.item.ticket = some 1 →
      a.reply = [] := by decide +kernel
  rw [hsilent a hmem hticket] at hreply
  exact frameOf_ne_nil _ hreply.symm

end Exchange

end Uplink

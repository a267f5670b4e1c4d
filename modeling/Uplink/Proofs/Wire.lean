/-
A stream between a connection and a node.

The stream has a session of the node, which takes one step after the other.  What the connection
begins on it is recorded, with what the node has treated of that and how it replied.  As long as the
node says nothing to what expects no answer, the reply to what is under way is exactly what the
connection has heard since and what is still to come.

* `Uplink.Session.Turned` — what a step of a session can do;
* `Uplink.Wire` — a stream with its session and the record;
* `Uplink.Wire.Follows` — what a wire has to do with the conversation of its connection;
* `Uplink.Wire.Follows.serve` — **a session keeps to it**;
* `Uplink.Wire.Follows.begin`, `Uplink.Wire.Follows.send`, `Uplink.Wire.Follows.hear`,
  `Uplink.Wire.Follows.end` — and so does the connection;
* `Uplink.Wire.Follows.heard` — **a whole frame that was heard is the reply to what is under way**.
-/

import Uplink.Frame.LengthPrefixed
import Uplink.Proofs.Line
import Uplink.Session

set_option relaxedAutoImplicit false
set_option autoImplicit false

namespace Uplink

/-! ### Sessions -/

namespace Session

variable {s : Session} {n : Node} {t : Stream} {now : Instant}

/-- The payload of the frame that the session treats in its next step. -/
def frame? (s : Session) (n : Node) : Option Bytes :=
  if s.isOpen ∧ s.pause = none ∧ !n.isStopping then (readFrame? s.held).map (·.1) else none

/-- What a step of a session can do. -/
inductive Turned (s : Session) (n : Node) (t : Stream) (now : Instant) :
    Session → Node → Stream → Prop
  /-- The rest of a reply is sent. -/
  | resumes (due : Instant) (second : Bytes) (hp : s.pause = some (due, second)) :
      Turned s n t now { s with pause := none } n (t.reply second)
  /-- The session ends. -/
  | stops (hf : s.frame? n = none) : Turned s n t now { s with isOpen := false } n t.close
  /-- A frame is treated. -/
  | treats (frame rest : Bytes) (hp : s.pause = none) (hf : s.frame? n = some frame)
      (hr : readFrame? s.held = some (frame, rest)) :
      Turned s n t now ({ s with held := rest }.answer t now (n.receive frame).2).1
        (n.receive frame).1 ({ s with held := rest }.answer t now (n.receive frame).2).2
  /-- What has arrived is taken. -/
  | takes (hf : s.frame? n = none) :
      Turned s n t now (s.take t.sent) n { t with sent := [] }

/-- Every step of a session does one of these things. -/
theorem turned {s' : Session} {n' : Node} {t' : Stream}
    (h : s.turn? n t now = some (s', n', t')) : s.isOpen = true ∧ s.Turned n t now s' n' t' := by
  unfold turn? at h
  split at h
  · cases h
  next hopen =>
    have hopen : s.isOpen = true := by simpa using hopen
    refine ⟨hopen, ?_⟩
    cases hp : s.pause with
    | some pause =>
        obtain ⟨due, second⟩ := pause
        simp only [hp] at h
        split at h
        · cases h
        · cases h
          exact .resumes due second hp
    | none =>
        simp only [hp] at h
        split at h
        next hstop =>
          cases h
          exact .stops (by simp [frame?, hstop])
        next hstop =>
          simp only [next?] at h
          cases hr : readFrame? s.held with
          | some read =>
              obtain ⟨frame, rest⟩ := read
              simp only [hr, Option.map_some, Option.some.injEq, Prod.mk.injEq] at h
              obtain ⟨rfl, rfl, rfl⟩ := h
              exact .treats frame rest hp (by simp [frame?, hopen, hp, hstop, hr]) hr
          | none =>
              have hf : s.frame? n = none := by simp [frame?, hr]
              simp only [hr, Option.map_none, readOn?] at h
              split at h
              · simp only [Stream.take, List.take_length, List.drop_length, Option.map_some,
                  Option.some.injEq, Prod.mk.injEq] at h
                obtain ⟨rfl, rfl, rfl⟩ := h
                exact .takes hf
              · split at h
                · cases h
                  exact .stops hf
                · cases h

end Session

/-! ### Wires -/

/-- What the node has made of something that was sent to it. -/
structure Treatment where
  /-- What was sent. -/
  item : Item
  /-- The payload of the frame that the node treated. -/
  frame : Bytes
  /-- The reply. -/
  reply : Bytes
deriving DecidableEq, Repr

/-- A stream and its session, with a record of what was said. -/
structure Wire where
  /-- The stream. -/
  stream : Stream
  /-- The session. -/
  session : Session
  /-- What was begun and not treated by the node yet, in order. -/
  awaiting : List Item := []
  /-- What the node has treated, in order. -/
  answered : List Treatment := []
  /-- What the connection has read. -/
  taken : Bytes := []

namespace Wire

/-- Bytes of the node that have not been read, sent or not. -/
def coming (w : Wire) : Bytes := w.stream.replied ++ (w.session.pause.map (·.2)).getD []

/-- The node said nothing to what expects no answer. -/
def Quiet (w : Wire) : Prop := ∀ a ∈ w.answered, a.item.expects = false → a.reply = []

/-- The node has treated a frame: it belongs to the first item that was waiting for that. -/
def note (w : Wire) (frame reply : Bytes) : Wire :=
  match w.awaiting with
  | [] => w
  | item :: rest =>
      { w with awaiting := rest, answered := w.answered ++ [⟨item, frame, reply⟩] }

/-- The session takes a step, if it can take one. -/
def serve (w : Wire) (n : Node) (now : Instant) : Wire × Node :=
  match w.session.turn? n w.stream now with
  | some (session, node, stream) =>
      let w := match w.session.frame? n with
        | some frame => w.note frame (n.receive frame).2.bytes
        | none => w
      ({ w with session, stream }, node)
  | none => (w, n)

/-- The connection reads some bytes. -/
def give (w : Wire) (bytes : Bytes) : Wire :=
  { w with stream := w.stream.consume bytes.length, taken := w.taken ++ bytes }

end Wire

/-- The bytes that a step hands to a socket. -/
def Progress.handed (p : Progress) (socket : SocketId) : Bytes :=
  (p.transmissions.filter (·.1 = socket)).flatMap (·.2)

namespace Connection

/-- What a step begins over a socket. -/
def begins (c : Connection) (p : Progress) (socket : SocketId) : List Item :=
  match c.line?, p.next.line? with
  | some line, some next =>
      if line.current = none ∧ next.socket = socket then next.current.toList else []
  | _, _ => []

end Connection

/-- A wire after a step of the connection. -/
def Wire.follow (w : Wire) (c : Connection) (p : Progress) (socket : SocketId) : Wire :=
  { w with
    stream := w.stream.send (p.handed socket)
    awaiting := w.awaiting ++ c.begins p socket }

/-! ### Frames -/

/-- Exactly one frame. -/
def IsFrame (bytes : Bytes) : Prop :=
  ∃ frame, frame.length < 4294967296 ∧ bytes = frameOf frame

theorem isFrame_of_readFrame? {bytes frame : Bytes} (h : readFrame? bytes = some (frame, [])) :
    IsFrame bytes := by
  obtain ⟨hl, heq⟩ := readFrame?_eq_some_iff.1 h
  exact ⟨frame, hl, by rw [heq, List.append_nil]⟩

/-- A complete response is exactly one frame. -/
theorem isFrame_of_check {maxFrame : Nat} {probe : Option Bytes} {bytes : Bytes}
    (h : ({ maxFrame, probe } : LengthPrefixed).check bytes = .complete bytes.length) :
    IsFrame bytes := by
  suffices hr : readFrame? bytes = some (bytes.drop 4, []) from isFrame_of_readFrame? hr
  simp only [LengthPrefixed.check, LengthPrefixed.frameLength?, HeaderWidth.octets,
    Bool.false_eq_true, if_false] at h
  by_cases hheader : (bytes.take 4).length < 4
  · simp only [hheader, if_true] at h
    cases h
  · simp only [hheader, if_false] at h
    have hlength : ofBigEndian (bytes.take 4) + 4 = bytes.length := by
      split at h
      · cases h
      split at h
      · cases h
      split at h
      · cases h
      · simpa using h
    have hbody : ofBigEndian (bytes.take 4) = (bytes.drop 4).length := by
      rw [List.length_drop]
      omega
    unfold readFrame?
    simp only [hheader, if_false, hbody, Nat.lt_irrefl, List.take_length, List.drop_length]

namespace Wire

variable {w : Wire} {handed : Bytes} {line : Line} {now : Instant}

/-! ### Following the conversation -/

/-- Where the node stands with what is under way: nothing is, or it has not been treated yet, or
its reply is what remains to be read. -/
inductive Stands (w : Wire) (line : Line) : Prop
  | idle (hn : line.current = none) (hff : ∀ item ∈ w.awaiting, item.expects = false)
      (hc : line.heard ++ w.coming = [])
  | asked (earlier : List Item) (item : Item) (hn : line.current = some item)
      (ha : w.awaiting = earlier ++ [item]) (hff : ∀ item ∈ earlier, item.expects = false)
      (hc : line.heard ++ w.coming = [])
  | told (earlier : List Treatment) (a : Treatment) (hn : line.current = some a.item)
      (hw : w.awaiting = []) (ha : w.answered = earlier ++ [a])
      (hc : line.heard ++ w.coming = a.reply)

/-- A wire follows the conversation of its connection. -/
structure Follows (w : Wire) (handed : Bytes) (line : Line) : Prop where
  /-- What was begun is what was handed over, or is still to be. -/
  handed_eq : handed ++ line.unsent =
    (w.answered.map (·.item) ++ w.awaiting).flatMap (·.bytes)
  /-- Whole frames are begun. -/
  frames : ∀ item ∈ w.awaiting, IsFrame item.bytes
  /-- The node has treated what was begun, and replied with one frame at most. -/
  treated : ∀ a ∈ w.answered, a.item.bytes = frameOf a.frame ∧
    ∀ frame rest, readFrame? a.reply = some (frame, rest) → rest = []
  /-- What the node has not treated is what it holds, what is in the stream, and what is to come. -/
  stream_eq : w.session.isOpen = true → w.stream.serverOpen = true ∧
    w.session.held ++ w.stream.sent ++ line.unsent = w.awaiting.flatMap (·.bytes)
  /-- The connection has not given up its end. -/
  clientOpen : w.stream.clientOpen = true
  /-- What was read and what is to come are the replies. -/
  taken_eq : w.taken ++ w.coming = w.answered.flatMap (·.reply)
  /-- The reply to what is under way is what was heard and what is to come. -/
  stands : w.Stands line

theorem reply_of_clientOpen {t : Stream} (h : t.clientOpen = true) (bytes : Bytes) :
    t.reply bytes = { t with replied := t.replied ++ bytes } := by
  simp [Stream.reply, h]

theorem send_of_serverOpen {t : Stream} (h : t.serverOpen = true) (bytes : Bytes) :
    t.send bytes = { t with sent := t.sent ++ bytes } := by
  simp [Stream.send, h]

/-- Where the node stands depends on the record, and on what was heard and is to come. -/
theorem Stands.congr {v : Wire} {next : Line} (h : w.Stands line)
    (hcurrent : next.current = line.current) (hawaiting : v.awaiting = w.awaiting)
    (hanswered : v.answered = w.answered)
    (hheard : next.heard ++ v.coming = line.heard ++ w.coming) : v.Stands next := by
  cases h with
  | idle hn hff hc => exact .idle (hcurrent.trans hn) (by rwa [hawaiting]) (hheard.trans hc)
  | asked earlier item hn ha hff hc =>
      exact .asked earlier item (hcurrent.trans hn) (hawaiting.trans ha) hff (hheard.trans hc)
  | told earlier a hn hw ha hc =>
      exact .told earlier a (hcurrent.trans hn) (hawaiting.trans hw) (hanswered.trans ha)
        (hheard.trans hc)

/-- A step that treats no frame moves bytes, or ends the session. -/
theorem Follows.move {session : Session} {stream : Stream} (h : w.Follows handed line)
    (hc : { w with session, stream }.coming = w.coming)
    (hopen : stream.clientOpen = true)
    (hs : session.isOpen = true → stream.serverOpen = true ∧
      session.held ++ stream.sent ++ line.unsent = w.awaiting.flatMap (·.bytes)) :
    { w with session, stream }.Follows handed line where
  handed_eq := h.handed_eq
  frames := h.frames
  treated := h.treated
  stream_eq := hs
  clientOpen := hopen
  taken_eq := by
    rw [hc]
    exact h.taken_eq
  stands := h.stands.congr rfl rfl rfl (by rw [hc])

/-- A reply is to come, at once or after a pause, unless the connection is gone. -/
theorem coming_answer (s : Session) (t : Stream) (now : Instant) (hp : s.pause = none)
    (ht : t.clientOpen = true) (reply : Reply) :
    (s.answer t now reply).2.replied ++
      (((s.answer t now reply).1.pause).map (·.2)).getD [] = t.replied ++ reply.bytes := by
  cases reply <;>
    simp [Session.answer, Session.stop, Stream.close, Reply.bytes, Stream.reply, hp, ht]

theorem clientOpen_answer {s : Session} {t : Stream} (ht : t.clientOpen = true) (reply : Reply) :
    (s.answer t now reply).2.clientOpen = true := by
  cases reply <;> simp [Session.answer, Session.stop, Stream.close, Stream.reply, ht]

/-- A session that goes on after a reply has read no further. -/
theorem isOpen_answer {s : Session} {t : Stream} (reply : Reply)
    (ho : (s.answer t now reply).1.isOpen = true) :
    (s.answer t now reply).1.held = s.held ∧ (s.answer t now reply).2.sent = t.sent ∧
      (s.answer t now reply).2.serverOpen = t.serverOpen := by
  cases reply with
  | send bytes | sendSplit first pause second =>
      refine ⟨rfl, ?_, ?_⟩ <;>
        simp only [Session.answer, Stream.reply] <;> split <;> rfl
  | close => cases ho

/-- The frame that the session treats is the first item that was waiting for that. -/
theorem Follows.treat {frame rest : Bytes} (h : w.Follows handed line)
    (ho : w.session.isOpen = true) (hr : readFrame? w.session.held = some (frame, rest)) :
    ∃ item items, w.awaiting = item :: items ∧ item.bytes = frameOf frame ∧
      rest ++ w.stream.sent ++ line.unsent = items.flatMap (·.bytes) := by
  obtain ⟨hl, hheld⟩ := readFrame?_eq_some_iff.1 hr
  obtain ⟨-, hstream⟩ := h.stream_eq ho
  rw [hheld] at hstream
  simp only [List.append_assoc] at hstream
  cases ha : w.awaiting with
  | nil =>
      rw [ha, List.flatMap_nil] at hstream
      exact absurd (List.append_eq_nil_iff.1 hstream).1 (frameOf_ne_nil frame)
  | cons item items =>
      obtain ⟨frame', hl', hitem⟩ := h.frames item (by simp [ha])
      rw [ha, List.flatMap_cons, hitem] at hstream
      obtain ⟨rfl, hrest⟩ := frameOf_append_inj hl hl' hstream
      exact ⟨item, items, rfl, hitem, by simpa using hrest⟩

/-- A reply belongs to what was waiting for it, and comes after all that was said before. -/
theorem Follows.note {item : Item} {items : List Item} {frame reply : Bytes} {session : Session}
    {stream : Stream} (h : w.Follows handed line) (ha : w.awaiting = item :: items)
    (hitem : item.bytes = frameOf frame)
    (hreply : ∀ frame rest, readFrame? reply = some (frame, rest) → rest = [])
    (hc : stream.replied ++ (session.pause.map (·.2)).getD [] = w.coming ++ reply)
    (hopen : stream.clientOpen = true)
    (hs : session.isOpen = true → stream.serverOpen = true ∧
      session.held ++ stream.sent ++ line.unsent = items.flatMap (·.bytes))
    (hff : item.expects = false → reply = []) :
    { w with
      session, stream, awaiting := items
      answered := w.answered ++ [Treatment.mk item frame reply] }.Follows handed line where
  handed_eq := by
    rw [h.handed_eq, ha]
    simp
  frames other hother := h.frames other (by rw [ha]; exact List.mem_cons_of_mem _ hother)
  treated a hmem := by
    rcases List.mem_append.1 hmem with hmem | hmem
    · exact h.treated a hmem
    · rw [List.mem_singleton.1 hmem]
      exact ⟨hitem, hreply⟩
  stream_eq := hs
  clientOpen := hopen
  taken_eq := by
    rw [coming, hc, ← List.append_assoc, h.taken_eq]
    simp
  stands := by
    cases h.stands with
    | idle hn hall hheard =>
        refine .idle hn (fun other hother => hall other ?_) ?_
        · rw [ha]
          exact List.mem_cons_of_mem _ hother
        · rw [coming, hc, hff (hall item (by simp [ha])), List.append_nil]
          exact hheard
    | asked earlier last hn hlast hall hheard =>
        cases earlier with
        | nil =>
            -- The node has just treated what is under way.
            rw [ha] at hlast
            cases hlast
            refine .told w.answered ⟨item, frame, reply⟩ hn rfl rfl ?_
            rw [coming, hc, ← List.append_assoc, hheard, List.nil_append]
        | cons first earlier =>
            rw [ha] at hlast
            cases hlast
            refine .asked earlier last hn rfl (fun other hother => hall other (by simp [hother])) ?_
            rw [coming, hc, hff (hall item (by simp)), List.append_nil]
            exact hheard
    | told earlier a hn hw => rw [ha] at hw; cases hw

/-! ### Steps of the session -/

/-- What a session does makes no noise if the record has none afterwards. -/
theorem quiet_of_serve {n : Node} (hq : (w.serve n now).1.Quiet) : w.Quiet := by
  intro a ha
  refine hq a ?_
  unfold serve
  split
  next session node stream _ =>
    split
    · unfold Wire.note
      split
      · exact ha
      · exact List.mem_append_left _ ha
    · exact ha
  next => exact ha

/-- A wire goes on following the conversation when its session takes a step. -/
theorem Follows.serve {n : Node} (h : w.Follows handed line) (hq : (w.serve n now).1.Quiet) :
    (w.serve n now).1.Follows handed line := by
  cases hturn : w.session.turn? n w.stream now with
  | none => simpa only [Wire.serve, hturn] using h
  | some out =>
      obtain ⟨session, node, stream⟩ := out
      obtain ⟨ho, hturned⟩ := Session.turned hturn
      obtain ⟨hserver, hstream⟩ := h.stream_eq ho
      simp only [Wire.serve, hturn] at hq ⊢
      cases hturned with
      | resumes due second hp =>
          have hf : w.session.frame? n = none := by simp [Session.frame?, hp]
          simp only [hf] at hq ⊢
          rw [reply_of_clientOpen h.clientOpen]
          refine h.move ?_ h.clientOpen fun _ => ⟨hserver, hstream⟩
          simp [coming, hp]
      | stops hf =>
          simp only [hf] at hq ⊢
          exact h.move rfl h.clientOpen nofun
      | treats frame rest hp hf hr =>
          obtain ⟨item, items, ha, hitem, hrest⟩ := h.treat ho hr
          simp only [hf, Wire.note, ha] at hq ⊢
          have hcoming : w.coming = w.stream.replied := by simp [coming, hp]
          have hanswer := coming_answer { w.session with held := rest } w.stream now hp h.clientOpen
            (n.receive frame).2
          refine h.note ha hitem (fun _ _ => Node.rest_of_receive) ?_
            (clientOpen_answer h.clientOpen _) (fun hgoes => ?_) fun hff => ?_
          · rw [hanswer, hcoming]
          · obtain ⟨h₁, h₂, h₃⟩ := isOpen_answer _ hgoes
            rw [h₁, h₂, h₃]
            exact ⟨hserver, hrest⟩
          · exact hq _ (List.mem_append_right _ (List.mem_singleton.2 rfl)) hff
      | takes hf =>
          simp only [hf] at hq ⊢
          refine h.move rfl h.clientOpen fun _ => ⟨hserver, ?_⟩
          simpa [Session.take] using hstream

/-! ### Steps of the connection -/

variable {socket : SocketId} {item : Item}

/-- Something is begun once there is nothing left to be read. -/
theorem Follows.begin (h : w.Follows handed ⟨socket, [], [], none⟩) (hi : IsFrame item.bytes) :
    { w with awaiting := w.awaiting ++ [item] }.Follows handed
      ⟨socket, item.bytes, [], some item⟩ where
  handed_eq := by
    have := h.handed_eq
    simp only [List.append_nil] at this
    rw [this]
    simp
  frames other hother := by
    rcases List.mem_append.1 hother with hother | hother
    · exact h.frames other hother
    · rw [List.mem_singleton.1 hother]
      exact hi
  treated := h.treated
  stream_eq ho := by
    obtain ⟨hserver, hstream⟩ := h.stream_eq ho
    refine ⟨hserver, ?_⟩
    simp only [List.append_nil] at hstream
    rw [hstream]
    simp
  clientOpen := h.clientOpen
  taken_eq := h.taken_eq
  stands := by
    cases h.stands with
    | idle _ hff hc => exact .asked w.awaiting item rfl rfl hff hc
    | asked _ _ hn | told _ _ hn => cases hn

/-- The stream is handed some bytes. -/
theorem Follows.send (h : w.Follows handed line) (count : Nat) :
    { w with stream := w.stream.send (line.unsent.take count) }.Follows
      (handed ++ line.unsent.take count) { line with unsent := line.unsent.drop count } := by
  have hreplied : (w.stream.send (line.unsent.take count)).replied = w.stream.replied := by
    unfold Stream.send
    split <;> rfl
  have hc : { w with stream := w.stream.send (line.unsent.take count) }.coming = w.coming := by
    rw [coming, hreplied]
    rfl
  have hopen : (w.stream.send (line.unsent.take count)).clientOpen = true := by
    unfold Stream.send
    split <;> exact h.clientOpen
  refine ⟨?_, h.frames, h.treated, fun ho => ?_, hopen, ?_, ?_⟩
  · rw [List.append_assoc, List.take_append_drop]
    exact h.handed_eq
  · obtain ⟨hserver, hstream⟩ := h.stream_eq ho
    rw [send_of_serverOpen hserver]
    refine ⟨hserver, ?_⟩
    rw [← hstream]
    simp
  · rw [hc]
    exact h.taken_eq
  · exact h.stands.congr rfl rfl rfl (by rw [hc])

/-- Some of what was to come is heard. -/
theorem Follows.hear {bytes rest : Bytes} (h : w.Follows handed line)
    (hb : w.stream.replied = bytes ++ rest) :
    (w.give bytes).Follows handed { line with heard := line.heard ++ bytes } := by
  have hc : bytes ++ (w.give bytes).coming = w.coming := by
    simp [coming, give, Stream.consume, hb]
  refine ⟨h.handed_eq, h.frames, h.treated, h.stream_eq, h.clientOpen, ?_, ?_⟩
  · have htaken := h.taken_eq
    rw [← hc, ← List.append_assoc] at htaken
    exact htaken
  · refine h.stands.congr rfl rfl rfl ?_
    rw [List.append_assoc, hc]

/-- A whole frame that was heard is the reply to what is under way, and nothing follows it. -/
theorem Follows.heard (h : w.Follows handed line) (hf : IsFrame line.heard) :
    ∃ earlier a, line.current = some a.item ∧ w.awaiting = [] ∧ w.answered = earlier ++ [a] ∧
      a.reply = line.heard ∧ w.coming = [] := by
  obtain ⟨frame, hl, hheard⟩ := hf
  cases h.stands with
  | idle hn hff hc | asked earlier item hn ha hff hc =>
      rw [hheard] at hc
      exact absurd (List.append_eq_nil_iff.1 hc).1 (frameOf_ne_nil frame)
  | told earlier a hn hw ha hc =>
      have hreply : readFrame? a.reply = some (frame, w.coming) :=
        readFrame?_eq_some_iff.2 ⟨hl, by rw [← hc, hheard]⟩
      have hnil := (h.treated a (by simp [ha])).2 frame w.coming hreply
      exact ⟨earlier, a, hn, hw, ha, by rw [← hc, hnil, List.append_nil], hnil⟩

/-- What is under way ends when no answer is expected, or when the answer has come. -/
theorem Follows.end (h : w.Follows handed line) (hq : w.Quiet) (hc : line.current = some item)
    (hu : line.unsent = [])
    (hend : item.expects = false ∧ line.heard = [] ∨ IsFrame line.heard) :
    w.Follows handed ⟨socket, [], [], none⟩ := by
  have hhanded := h.handed_eq
  have hstream := h.stream_eq
  rw [hu] at hhanded hstream
  refine ⟨hhanded, h.frames, h.treated, hstream, h.clientOpen, h.taken_eq, ?_⟩
  rcases hend with ⟨he, hheard⟩ | hf
  · cases h.stands with
    | idle hn => rw [hc] at hn; cases hn
    | asked earlier last hn ha hff hnil =>
        rw [hc] at hn
        cases hn
        rw [hheard] at hnil
        refine .idle rfl (fun other hother => ?_) hnil
        rw [ha] at hother
        rcases List.mem_append.1 hother with hother | hother
        · exact hff other hother
        · rw [List.mem_singleton.1 hother]
          exact he
    | told earlier a hn hw ha hreply =>
        rw [hc] at hn
        cases hn
        rw [hheard, hq a (by simp [ha]) he] at hreply
        exact .idle rfl (by simp [hw]) hreply
  · obtain ⟨earlier, a, -, hw, -, -, hnil⟩ := h.heard hf
    exact .idle rfl (by simp [hw]) (by simp [hnil])

end Wire

end Uplink

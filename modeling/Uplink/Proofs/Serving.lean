/-
A stream that a node serves.

A client sends bytes over a stream, cut as the network pleases, reads what comes back and hangs up
in the end.  The session of the node makes steps in between, and meanwhile the node may be told to
treat frames otherwise, though not to close the stream, and may treat frames of other streams.  A
visit is a stream and its session, with a record of what was sent over it, of the frames that the
node has treated, and of what was said to the client.

* `Uplink.Reception` — a frame that the node has treated, and the answer to it;
* `Uplink.Visit`, `Uplink.Visit.step` — a visit, and what can happen in it;
* `Uplink.Session.Serves`, `Uplink.Session.serves` — what a step of a session can do while its node
  is not told to stop;
* `Uplink.Visit.Kept`, `Uplink.Visit.Kept.step` — **what every step keeps**;
* `Uplink.Visit.Kept.ends` — once the client has hung up, the session comes to its end;
* `Uplink.Visit.stream_read` — **a node reads what was sent**, frame by frame, however it was cut.
-/

import Uplink.Proofs.Frames
import Uplink.Proofs.Wire

set_option relaxedAutoImplicit false
set_option autoImplicit false

namespace Uplink

/-! ### Answers -/

/-- The answer to a frame: probes are echoed if the node is told so, and other frames are answered
as the behaviour says. -/
def answerTo (behavior : Behavior) (answersProbes : Bool) (payload : Bytes) : Bytes :=
  if payload = [] then if answersProbes then frameOf [] else []
  else
    match behavior with
    | .acknowledge | .split _ => frameOf acknowledgement
    | .garbage => garbage
    | .silent | .close => []

theorem bytes_receive (n : Node) (payload : Bytes) :
    (n.receive payload).2.bytes = answerTo n.behavior n.answersProbes payload := by
  unfold Node.receive answerTo
  split
  · rfl
  · cases n.behavior with
    | split pause => exact List.take_append_drop 3 _
    | acknowledge | silent | garbage | close => rfl

/-- What is said at once, and what after a pause. -/
def Reply.parts : Reply → Bytes × Bytes
  | send bytes => (bytes, [])
  | sendSplit first _ second => (first, second)
  | close => ([], [])

theorem Reply.bytes_eq (reply : Reply) : reply.bytes = reply.parts.1 ++ reply.parts.2 := by
  cases reply with
  | send bytes => exact (List.append_nil _).symm
  | sendSplit | close => rfl

theorem receive_ne_close {n : Node} (hn : n.behavior ≠ .close) (payload : Bytes) :
    (n.receive payload).2 ≠ .close := by
  unfold Node.receive
  split
  · nofun
  · cases hb : n.behavior with
    | close => exact absurd hb hn
    | acknowledge | split pause | silent | garbage => nofun

/-- What a frame does to a node. -/
theorem receive_fst (n : Node) (payload : Bytes) :
    (n.receive payload).1 =
      { n with
        frames := n.frames ++ [payload].filter (· ≠ [])
        probes := n.probes + [payload].count [] } := by
  unfold Node.receive
  by_cases hp : payload = []
  · simp [hp]
  · simp [hp]

/-- A frame that a node has treated. -/
structure Reception where
  /-- It came over the stream in question. -/
  isOurs : Bool
  /-- Its payload. -/
  payload : Bytes
  /-- How the node treated frames at that moment. -/
  behavior : Behavior
  /-- Whether it echoed probes at that moment. -/
  answersProbes : Bool
deriving DecidableEq, Repr

/-- The answer to it. -/
def Reception.answer (r : Reception) : Bytes := answerTo r.behavior r.answersProbes r.payload

/-- The node treats a frame now. -/
def Node.reception (n : Node) (isOurs : Bool) (payload : Bytes) : Reception :=
  ⟨isOurs, payload, n.behavior, n.answersProbes⟩

/-- The frames that came over the stream in question. -/
def ours (receptions : List Reception) : List Reception := receptions.filter (·.isOurs)

theorem ours_append (receptions : List Reception) (n : Node) (isOurs : Bool) (payload : Bytes) :
    ours (receptions ++ [n.reception isOurs payload]) =
      ours receptions ++ if isOurs then [n.reception isOurs payload] else [] := by
  cases isOurs <;> simp [ours, Node.reception]

/-! ### Steps of a session -/

namespace Session

variable {s s' : Session} {n n' : Node} {t t' : Stream} {now : Instant}

/-- What a session says in its next step. -/
def saying (s : Session) (n : Node) : Bytes :=
  match s.pause with
  | some (_, second) => second
  | none => ((s.frame? n).map fun payload => (n.receive payload).2.parts.1).getD []

/-- What a step of a session can do while its node is not told to stop. -/
inductive Serves (s : Session) (n : Node) (t : Stream) (now : Instant) :
    Session → Node → Stream → Prop
  /-- The rest of a reply is sent. -/
  | resumes (due : Instant) (second : Bytes) (hp : s.pause = some (due, second)) :
      Serves s n t now { s with pause := none } n (t.reply second)
  /-- A frame is treated. -/
  | treats (payload rest : Bytes) (hp : s.pause = none)
      (hr : readFrame? s.held = some (payload, rest)) :
      Serves s n t now ({ s with held := rest }.answer t now (n.receive payload).2).1
        (n.receive payload).1 ({ s with held := rest }.answer t now (n.receive payload).2).2
  /-- What has arrived is taken. -/
  | takes (hp : s.pause = none) (hr : readFrame? s.held = none) (ht : t.sent ≠ []) :
      Serves s n t now (s.take t.sent) n { t with sent := [] }
  /-- The session ends: there is nothing more to come. -/
  | ends (hp : s.pause = none) (hr : readFrame? s.held = none) (ht : t.sent = [])
      (hc : t.clientOpen = false) : Serves s n t now { s with isOpen := false } n t.close

/-- Every step of a session does one of these things. -/
theorem serves (hn : n.isStopping = false) (h : s.turn? n t now = some (s', n', t')) :
    s.isOpen = true ∧ s.Serves n t now s' n' t' := by
  unfold turn? at h
  split at h
  · cases h
  next hopen =>
    refine ⟨by simpa using hopen, ?_⟩
    cases hp : s.pause with
    | some pause =>
        obtain ⟨due, second⟩ := pause
        simp only [hp] at h
        split at h
        · cases h
        · cases h
          exact .resumes due second hp
    | none =>
        simp only [hp, hn, Bool.false_eq_true, if_false] at h
        simp only [next?] at h
        cases hr : readFrame? s.held with
        | some read =>
            obtain ⟨payload, rest⟩ := read
            simp only [hr, Option.map_some, Option.some.injEq, Prod.mk.injEq] at h
            obtain ⟨rfl, rfl, rfl⟩ := h
            exact .treats payload rest hp hr
        | none =>
            simp only [hr, Option.map_none, readOn?] at h
            split at h
            next harrived =>
              simp only [Stream.take, List.take_length, List.drop_length, Option.map_some,
                Option.some.injEq, Prod.mk.injEq] at h
              obtain ⟨rfl, rfl, rfl⟩ := h
              exact .takes hp hr harrived
            next harrived =>
              split at h
              next hexhausted =>
                cases h
                simp only [Stream.isExhausted, decide_eq_true_eq, Bool.not_eq_true'] at hexhausted
                exact .ends hp hr hexhausted.1 hexhausted.2
              next => cases h

/-- A session whose client has hung up takes a step as soon as it does not pause. -/
theorem turn?_isSome (ho : s.isOpen = true) (hn : n.isStopping = false)
    (hc : t.clientOpen = false) : ∃ now, (s.turn? n t now).isSome = true := by
  cases hp : s.pause with
  | some pause =>
      obtain ⟨due, second⟩ := pause
      have hdue : ¬due < due := Nat.lt_irrefl due.ns
      exact ⟨due, by simp [turn?, ho, hp, hdue]⟩
  | none =>
      refine ⟨⟨0⟩, ?_⟩
      simp only [turn?, ho, hp, hn, Bool.not_true, Bool.false_eq_true, if_false]
      split
      · rfl
      · simp only [readOn?, Stream.isExhausted, hc, Option.isSome_map]
        split
        · rfl
        next harrived => simp [Decidable.not_not.1 harrived]

/-- What is left of a reply after a pause. -/
def awaited (s : Session) : Bytes := (s.pause.map (·.2)).getD []

/-- The session says the first part of a reply, and keeps the second one for later. -/
theorem answer_eq (hp : s.pause = none) {reply : Reply} (hr : reply ≠ .close) (t : Stream)
    (now : Instant) : ∃ pause, s.answer t now reply = ({ s with pause }, t.reply reply.parts.1) ∧
      { s with pause }.awaited = reply.parts.2 := by
  cases reply with
  | send bytes => exact ⟨none, by rw [answer, ← hp]; rfl, rfl⟩
  | sendSplit first pause second => exact ⟨_, rfl, rfl⟩
  | close => exact absurd rfl hr

end Session

/-! ### Replies on a stream -/

namespace Stream

variable {t : Stream} {bytes : Bytes}

@[simp] theorem sent_reply : (t.reply bytes).sent = t.sent := by
  unfold reply
  split <;> rfl

@[simp] theorem clientOpen_reply : (t.reply bytes).clientOpen = t.clientOpen := by
  unfold reply
  split <;> rfl

@[simp] theorem serverOpen_reply : (t.reply bytes).serverOpen = t.serverOpen := by
  unfold reply
  split <;> rfl

end Stream

/-! ### Visits -/

/-- A stream and its session, with a record of what has happened. -/
structure Visit where
  /-- The node. -/
  node : Node
  /-- The session. -/
  session : Session
  /-- The stream. -/
  stream : Stream
  /-- What the client has sent. -/
  sent : Bytes := []
  /-- The frames that the node has treated since. -/
  receptions : List Reception := []
  /-- What the session has said. -/
  said : Bytes := []
  /-- What the client has read. -/
  heard : Bytes := []
deriving DecidableEq

namespace Visit

/-- What can happen in a visit. -/
inductive Act
  /-- Some bytes of the client arrive. -/
  | send (chunk : Bytes)
  /-- The client reads some bytes. -/
  | read (count : Nat)
  /-- The client hangs up. -/
  | hangUp
  /-- The session makes a step, if it can make one. -/
  | serve (now : Instant)
  /-- The node is told how to treat frames from now on. -/
  | instruct (behavior : Behavior) (answersProbes : Bool)
  /-- The node treats a frame of another stream. -/
  | elsewhere (payload : Bytes)

/-- The node is not told to close streams. -/
def Act.KeepsOn : Act → Prop
  | instruct behavior _ => behavior ≠ .close
  | _ => True

/-- A node accepts a stream. -/
def start (n : Node) (number socket : Nat) (near far : SocketAddress) : Visit where
  node := n
  session := { node := number, socket }
  stream := { near, far }

/-- A step of the session, if it can make one. -/
def serve (v : Visit) (now : Instant) : Visit :=
  match v.session.turn? v.node v.stream now with
  | some (session, node, stream) =>
      { v with
        session, node, stream
        receptions := v.receptions ++
          ((v.session.frame? v.node).map (v.node.reception true)).toList
        said := v.said ++ v.session.saying v.node }
  | none => v

/-- What happens.  A client that has hung up sends no more. -/
def step (v : Visit) : Act → Visit
  | .send chunk =>
      if v.stream.clientOpen then
        { v with stream := v.stream.send chunk, sent := v.sent ++ chunk }
      else v
  | .read count =>
      { v with
        stream := v.stream.consume count
        heard := v.heard ++ v.stream.replied.take count }
  | .hangUp => { v with stream := v.stream.hangUp }
  | .serve now => v.serve now
  | .instruct behavior answersProbes =>
      { v with node := { v.node with behavior, answersProbes } }
  | .elsewhere payload =>
      { v with
        node := (v.node.receive payload).1
        receptions := v.receptions ++ [v.node.reception false payload] }

/-- One act after the other. -/
def run (v : Visit) (acts : List Act) : Visit := acts.foldl step v

variable {v : Visit} {n : Node}

/-! ### What every step keeps -/

/-- What a visit to a node keeps. -/
structure Kept (n : Node) (v : Visit) : Prop where
  /-- The node goes on. -/
  behavior_ne : v.node.behavior ≠ .close
  isStopping_eq : v.node.isStopping = false
  /-- It has recorded the frames that are not empty, and has counted the others. -/
  frames_eq : v.node.frames =
    n.frames ++ (v.receptions.map (·.payload)).filter (· ≠ [])
  probes_eq : v.node.probes = n.probes + (v.receptions.map (·.payload)).count []
  /-- What was sent was treated, is held by the session, or waits in the stream. -/
  length_lt : ∀ r ∈ (ours v.receptions), r.payload.length < 4294967296
  sent_eq : v.sent =
    ((ours v.receptions).map (·.payload)).flatMap frameOf ++ (v.session.held ++ v.stream.sent)
  /-- What was said are the answers, up to what is said after a pause. -/
  said_eq : v.said ++ v.session.awaited = (ours v.receptions).flatMap (·.answer)
  /-- The client has read what was said, or can read it. -/
  heard_eq : v.stream.clientOpen = true → v.heard ++ v.stream.replied = v.said
  /-- The session ends when the client has hung up and everything is treated. -/
  serverOpen : v.session.isOpen = true → v.stream.serverOpen = true
  ended : v.session.isOpen = false → v.stream.clientOpen = false ∧ v.session.pause = none ∧
    readFrame? v.session.held = none ∧ v.stream.sent = []

theorem kept_start (hb : n.behavior ≠ .close) (hs : n.isStopping = false) (number socket : Nat)
    (near far : SocketAddress) : (start n number socket near far).Kept n where
  behavior_ne := hb
  isStopping_eq := hs
  frames_eq := (List.append_nil _).symm
  probes_eq := rfl
  length_lt := nofun
  sent_eq := rfl
  said_eq := rfl
  heard_eq _ := rfl
  serverOpen _ := rfl
  ended := nofun

/-- The node treats a frame. -/
theorem Kept.receive (h : v.Kept n) (isOurs : Bool) (payload : Bytes) :
    let node := (v.node.receive payload).1
    let receptions := v.receptions ++ [v.node.reception isOurs payload]
    node.behavior ≠ .close ∧ node.isStopping = false ∧
      node.frames = n.frames ++ (receptions.map (·.payload)).filter (· ≠ []) ∧
      node.probes = n.probes + (receptions.map (·.payload)).count [] := by
  simp only [receive_fst, h.frames_eq, h.probes_eq, List.map_append, List.filter_append,
    List.count_append, List.append_assoc, Nat.add_assoc]
  exact ⟨h.behavior_ne, h.isStopping_eq, rfl, rfl⟩

/-- Bytes move on, or the session ends. -/
theorem Kept.move {session : Session} {stream : Stream} {said : Bytes} (h : v.Kept n)
    (hheld : session.held ++ stream.sent = v.session.held ++ v.stream.sent)
    (hsaid : said ++ session.awaited = v.said ++ v.session.awaited)
    (hheard : stream.clientOpen = true → v.heard ++ stream.replied = said)
    (hserver : session.isOpen = true → stream.serverOpen = true)
    (hended : session.isOpen = false → stream.clientOpen = false ∧ session.pause = none ∧
      readFrame? session.held = none ∧ stream.sent = []) :
    { v with session, stream, said }.Kept n where
  behavior_ne := h.behavior_ne
  isStopping_eq := h.isStopping_eq
  frames_eq := h.frames_eq
  probes_eq := h.probes_eq
  length_lt := h.length_lt
  sent_eq := by
    rw [hheld]
    exact h.sent_eq
  said_eq := hsaid.trans h.said_eq
  heard_eq := hheard
  serverOpen := hserver
  ended := hended

/-- The client can read what the session says. -/
theorem Kept.heard_reply (h : v.Kept n) (bytes : Bytes)
    (hc : (v.stream.reply bytes).clientOpen = true) :
    v.heard ++ (v.stream.reply bytes).replied = v.said ++ bytes := by
  rw [Stream.clientOpen_reply] at hc
  rw [Wire.reply_of_clientOpen hc, ← h.heard_eq hc, List.append_assoc]

/-- A frame is treated and answered. -/
theorem Kept.treat {payload rest : Bytes} (h : v.Kept n) (ho : v.session.isOpen = true)
    (hp : v.session.pause = none) (hr : readFrame? v.session.held = some (payload, rest))
    (now : Instant) :
    let answered := { v.session with held := rest }.answer v.stream now
      (v.node.receive payload).2
    { v with
      session := answered.1
      node := (v.node.receive payload).1
      stream := answered.2
      receptions := v.receptions ++ [v.node.reception true payload]
      said := v.said ++ (v.node.receive payload).2.parts.1 }.Kept n := by
  obtain ⟨hl, hheld⟩ := readFrame?_eq_some_iff.1 hr
  obtain ⟨hbehavior, hstopping, hframes, hprobes⟩ := h.receive true payload
  obtain ⟨pause, hanswer, hlater⟩ := Session.answer_eq (s := { v.session with held := rest })
    hp (receive_ne_close h.behavior_ne payload) v.stream now
  have hours := ours_append v.receptions v.node true payload
  have hsaid : v.said = (ours v.receptions).flatMap (·.answer) := by
    have := h.said_eq
    rwa [Session.awaited, hp, Option.map_none, Option.getD_none, List.append_nil] at this
  have hbytes : (v.node.receive payload).2.parts.1 ++ (v.node.receive payload).2.parts.2 =
      (v.node.reception true payload).answer :=
    (Reply.bytes_eq _).symm.trans (bytes_receive v.node payload)
  simp only [if_true] at hours
  simp only [hanswer]
  refine ⟨hbehavior, hstopping, hframes, hprobes, fun r hmem => ?_, ?_, ?_, ?_, fun _ => ?_, ?_⟩
  · simp only [hours] at hmem
    rcases List.mem_append.1 hmem with hmem | hmem
    · exact h.length_lt r hmem
    · rw [List.mem_singleton.1 hmem]
      exact hl
  · simp only [hours, List.map_append, List.flatMap_append, h.sent_eq, hheld]
    simp [Node.reception]
  · simp only [hours, List.flatMap_append, hlater, List.append_assoc, hbytes, ← hsaid,
      List.flatMap_singleton]
  · exact h.heard_reply _
  · simpa using h.serverOpen ho
  · intro hclosed
    rw [ho] at hclosed
    cases hclosed

/-- A step of the session keeps it. -/
theorem Kept.serve (h : v.Kept n) (now : Instant) : (v.serve now).Kept n := by
  cases hturn : v.session.turn? v.node v.stream now with
  | none => simpa only [Visit.serve, hturn] using h
  | some out =>
      obtain ⟨session, node, stream⟩ := out
      obtain ⟨ho, hserves⟩ := Session.serves h.isStopping_eq hturn
      have hgoes : v.session.isOpen ≠ false := by simp [ho]
      simp only [Visit.serve, hturn]
      cases hserves with
      | resumes due second hp =>
          have hframe : v.session.frame? v.node = none := by simp [Session.frame?, hp]
          have hsaying : v.session.saying v.node = second := by simp [Session.saying, hp]
          have hawaited : v.session.awaited = second := by simp [Session.awaited, hp]
          simp only [hframe, hsaying, Option.map_none, Option.toList_none, List.append_nil]
          refine h.move (by simp) ?_ (h.heard_reply second) (fun _ => ?_) fun hc => absurd hc hgoes
          · rw [hawaited]
            exact List.append_nil _
          · simpa using h.serverOpen ho
      | treats payload rest hp hr =>
          have hframe : v.session.frame? v.node = some payload := by
            simp [Session.frame?, ho, hp, h.isStopping_eq, hr]
          have hsaying : v.session.saying v.node = (v.node.receive payload).2.parts.1 := by
            simp [Session.saying, hp, hframe]
          simp only [hframe, hsaying, Option.map_some, Option.toList_some]
          exact h.treat ho hp hr now
      | takes hp hr ht =>
          have hframe : v.session.frame? v.node = none := by simp [Session.frame?, hr]
          have hsaying : v.session.saying v.node = [] := by simp [Session.saying, hp, hframe]
          simp only [hframe, hsaying, Option.map_none, Option.toList_none, List.append_nil]
          exact h.move (List.append_nil _) rfl h.heard_eq (fun _ => h.serverOpen ho)
            fun hc => absurd hc hgoes
      | ends hp hr ht hc =>
          have hframe : v.session.frame? v.node = none := by simp [Session.frame?, hr]
          have hsaying : v.session.saying v.node = [] := by simp [Session.saying, hp, hframe]
          simp only [hframe, hsaying, Option.map_none, Option.toList_none, List.append_nil]
          refine h.move ?_ rfl h.heard_eq (fun ho => absurd ho Bool.false_ne_true)
            fun _ => ⟨hc, hp, hr, rfl⟩
          rw [ht]
          rfl

/-- **Whatever happens, the node has treated what came**, frame by frame, and has said the
answers. -/
theorem Kept.step (h : v.Kept n) {act : Act} (ha : act.KeepsOn) : (v.step act).Kept n := by
  cases act with
  | serve now => exact h.serve now
  | send chunk =>
      simp only [Visit.step]
      split
      next hc =>
        have ho : v.session.isOpen = true := by
          cases ho : v.session.isOpen with
          | true => rfl
          | false =>
              rw [(h.ended ho).1] at hc
              cases hc
        rw [Wire.send_of_serverOpen (h.serverOpen ho)]
        refine { h with sent_eq := ?_, ended := fun hclosed => ?_ }
        · show v.sent ++ chunk = _
          rw [h.sent_eq]
          simp [ours]
        · rw [ho] at hclosed
          cases hclosed
      next => exact h
  | read count =>
      refine { h with heard_eq := fun hc => ?_ }
      show v.heard ++ v.stream.replied.take count ++ v.stream.replied.drop count = v.said
      rw [List.append_assoc, List.take_append_drop]
      exact h.heard_eq hc
  | hangUp =>
      exact { h with
        heard_eq := nofun
        ended := fun hclosed => ⟨rfl, (h.ended hclosed).2⟩ }
  | instruct behavior answersProbes => exact { h with behavior_ne := ha }
  | elsewhere payload =>
      obtain ⟨hbehavior, hstopping, hframes, hprobes⟩ := h.receive false payload
      have hours : ours (v.step (.elsewhere payload)).receptions = ours v.receptions :=
        (ours_append v.receptions v.node false payload).trans (List.append_nil _)
      exact { h with
        behavior_ne := hbehavior
        isStopping_eq := hstopping
        frames_eq := hframes
        probes_eq := hprobes
        length_lt := by
          rw [hours]
          exact h.length_lt
        sent_eq := by
          rw [hours]
          exact h.sent_eq
        said_eq := by
          rw [hours]
          exact h.said_eq }

theorem Kept.run {acts : List Act} (h : v.Kept n) (ha : ∀ act ∈ acts, act.KeepsOn) :
    (v.run acts).Kept n := by
  induction acts generalizing v with
  | nil => exact h
  | cons act acts ih =>
      exact ih (h.step (ha act List.mem_cons_self)) fun a hmem =>
        ha a (List.mem_cons_of_mem _ hmem)

/-! ### The end of a session -/

/-- How much a session whose client has hung up has still to do. -/
def toDo (v : Visit) : Nat :=
  v.session.held.length + 2 * v.stream.sent.length + (v.session.pause.map fun _ => 1).getD 0 +
    if v.session.isOpen then 1 else 0

/-- Every step of the session brings it nearer to its end. -/
theorem Kept.toDo_serve {now : Instant} (h : v.Kept n)
    (hturn : (v.session.turn? v.node v.stream now).isSome = true) :
    (v.serve now).stream.clientOpen = v.stream.clientOpen ∧ (v.serve now).toDo < v.toDo := by
  obtain ⟨⟨session, node, stream⟩, hturn⟩ := Option.isSome_iff_exists.1 hturn
  obtain ⟨ho, hserves⟩ := Session.serves h.isStopping_eq hturn
  simp only [Visit.serve, hturn, toDo]
  cases hserves with
  | resumes due second hp =>
      simp only [Stream.clientOpen_reply, Stream.sent_reply, hp, ho, Option.map_some,
        Option.map_none, Option.getD_some, Option.getD_none, if_true, true_and]
      omega
  | treats payload rest hp hr =>
      obtain ⟨-, hheld⟩ := readFrame?_eq_some_iff.1 hr
      obtain ⟨pause, hanswer, -⟩ := Session.answer_eq (s := { v.session with held := rest })
        hp (receive_ne_close h.behavior_ne payload) v.stream now
      have hpause : (pause.map fun _ => 1).getD 0 ≤ 1 := by cases pause <;> simp
      have hlength : (frameOf payload).length = payload.length + 4 := by
        rw [frameOf, List.length_append, length_bigEndian, Nat.add_comm]
      simp only [hanswer]
      simp only [hheld, hp, ho, Stream.clientOpen_reply, Stream.sent_reply, List.length_append,
        hlength, Option.map_none, Option.getD_none, if_true, true_and]
      omega
  | takes hp hr ht =>
      have := List.length_pos_iff.2 ht
      simp only [Session.take, hp, ho, List.length_append, List.length_nil, Option.map_none,
        Option.getD_none, if_true, true_and]
      omega
  | ends hp hr ht hc =>
      simp only [Stream.close, hp, ht, ho, List.length_nil, Option.map_none, Option.getD_none,
        Bool.false_eq_true, if_false, if_true, true_and]
      omega

theorem sent_serve (v : Visit) (now : Instant) : (v.serve now).sent = v.sent := by
  unfold serve
  split <;> rfl

/-- **Once the client has hung up, the session comes to its end.** -/
theorem Kept.ends (h : v.Kept n) (hc : v.stream.clientOpen = false) :
    ∃ instants : List Instant, (v.run (instants.map .serve)).session.isOpen = false ∧
      (v.run (instants.map .serve)).sent = v.sent := by
  induction hd : v.toDo using Nat.strongRecOn generalizing v with
  | _ d ih =>
      cases ho : v.session.isOpen with
      | false => exact ⟨[], ho, rfl⟩
      | true =>
          obtain ⟨now, hturn⟩ := Session.turn?_isSome ho h.isStopping_eq hc
          obtain ⟨hclient, hless⟩ := h.toDo_serve hturn
          obtain ⟨instants, hend, hsent⟩ :=
            ih _ (hd ▸ hless) (h.serve now) (hclient.trans hc) rfl
          exact ⟨now :: instants, hend, hsent.trans (v.sent_serve now)⟩

/-! ### What the node has read -/

/-- The node has treated the first frames of what was sent, and what is behind them is still on the
way. -/
theorem Kept.later (h : v.Kept n) {payloads : List Bytes} {rest : Bytes}
    (hsplits : Splits v.sent payloads rest) :
    ∃ later, payloads = (ours v.receptions).map (·.payload) ++ later ∧
      Splits (v.session.held ++ v.stream.sent) later rest := by
  refine hsplits.later (fun payload hmem => ?_) h.sent_eq
  obtain ⟨r, hr, rfl⟩ := List.mem_map.1 hmem
  exact h.length_lt r hr

/-- A session that has taken everything and holds no whole frame has treated all frames. -/
theorem Kept.treated_all (h : v.Kept n) {payloads : List Bytes} {rest : Bytes}
    (hsplits : Splits v.sent payloads rest) (hsent : v.stream.sent = [])
    (hheld : readFrame? v.session.held = none) :
    (ours v.receptions).map (·.payload) = payloads := by
  obtain ⟨later, rfl, hlater⟩ := h.later hsplits
  rw [hsent, List.append_nil] at hlater
  rw [(hlater.of_unfinished (unfinished_iff.2 hheld)).1, List.append_nil]

/-- **A node reads what was sent.**  However the bytes were cut, and whatever else happens, the node
records the frames that are not empty, counts the others, and answers each as it was told to at that
moment.  The frames of the stream are treated in order, and what the client hears are the answers to
them.  What was sent is frames and the beginning of a further one in exactly one way; these frames
are treated and no others, all of them as soon as the session has taken everything.  Once the client
has hung up, the session comes to its end, and then all is treated and said. -/
theorem stream_read {n : Node} (hb : n.behavior ≠ .close) (hs : n.isStopping = false)
    (number socket : Nat) (near far : SocketAddress) {acts : List Act}
    (ha : ∀ act ∈ acts, act.KeepsOn) :
    let v := (start n number socket near far).run acts
    v.node.frames = n.frames ++ (v.receptions.map (·.payload)).filter (· ≠ []) ∧
    v.node.probes = n.probes + (v.receptions.map (·.payload)).count [] ∧
    v.said ++ v.session.awaited = (ours v.receptions).flatMap (·.answer) ∧
    (v.stream.clientOpen = true → v.heard ++ v.stream.replied = v.said) ∧
    (∃! parts : List Bytes × Bytes, Splits v.sent parts.1 parts.2) ∧
    ∀ payloads rest, Splits v.sent payloads rest →
      (ours v.receptions).map (·.payload) <+: payloads ∧
      (v.stream.sent = [] → readFrame? v.session.held = none →
        (ours v.receptions).map (·.payload) = payloads) ∧
      (v.session.isOpen = false → v.stream.clientOpen = false ∧
        (ours v.receptions).map (·.payload) = payloads ∧
        v.said = (ours v.receptions).flatMap (·.answer)) ∧
      (v.stream.clientOpen = false → ∃ instants : List Instant,
        let t := v.run (instants.map .serve)
        t.session.isOpen = false ∧ (ours t.receptions).map (·.payload) = payloads ∧
          t.said = (ours t.receptions).flatMap (·.answer)) := by
  intro v
  have h : v.Kept n := (kept_start hb hs number socket near far).run ha
  -- What is true of an ended session is true of the one that this one leads to.
  have hended {t : Visit} (ht : t.Kept n) (hsent : t.sent = v.sent)
      (ho : t.session.isOpen = false) {payloads : List Bytes} {rest : Bytes}
      (hsplits : Splits v.sent payloads rest) :
      (ours t.receptions).map (·.payload) = payloads ∧
        t.said = (ours t.receptions).flatMap (·.answer) := by
    obtain ⟨-, hp, hheld, harrived⟩ := ht.ended ho
    refine ⟨ht.treated_all (hsent ▸ hsplits) harrived hheld, ?_⟩
    rw [← ht.said_eq, Session.awaited, hp, Option.map_none, Option.getD_none, List.append_nil]
  refine ⟨h.frames_eq, h.probes_eq, h.said_eq, h.heard_eq, existsUnique_splits v.sent,
    fun payloads rest hsplits => ⟨?_, h.treated_all hsplits,
      fun ho => ⟨(h.ended ho).1, hended h rfl ho hsplits⟩, fun hc => ?_⟩⟩
  · obtain ⟨later, rfl, -⟩ := h.later hsplits
    exact List.prefix_append _ _
  · obtain ⟨instants, ho, hsent⟩ := h.ends hc
    have hserves : ∀ act ∈ instants.map Act.serve, act.KeepsOn := by
      intro act hmem
      obtain ⟨now, -, rfl⟩ := List.mem_map.1 hmem
      trivial
    exact ⟨instants, ho, hended (h.run hserves) hsent ho hsplits⟩

/-! ### A visit -/

/-- A probe and a frame arrive in three parts, and then a part of a further frame. -/
def halvedRun : List Act :=
  [.send [0, 0], .serve ⟨0⟩, .send [0, 0, 0, 0, 0, 1, 65, 0, 0], .serve ⟨1⟩, .serve ⟨2⟩,
    .instruct (.split ⟨10⟩) false, .serve ⟨3⟩, .send [0, 9, 1], .hangUp, .serve ⟨4⟩, .serve ⟨13⟩,
    .serve ⟨14⟩, .serve ⟨15⟩]

theorem stream_read_halvedRun :
    let n : Node := { port := 9001, behavior := .silent, answersProbes := true }
    let v := (start n 0 0 ⟨.loopback, 50001⟩ ⟨.loopback, 9001⟩).run halvedRun
    v.session.isOpen = false ∧ (ours v.receptions).map (·.payload) = [[], [65]] ∧
      v.node.frames = [[65]] ∧ v.node.probes = 1 ∧
      v.said = frameOf [] ++ frameOf acknowledgement := by
  intro n
  have hacts : ∀ act ∈ halvedRun, act.KeepsOn := by simp [halvedRun, Act.KeepsOn]
  have hread := stream_read (n := n) (by decide) rfl 0 0 ⟨.loopback, 50001⟩ ⟨.loopback, 9001⟩ hacts
  obtain ⟨v, hv⟩ : ∃ v, v = (start n 0 0 ⟨.loopback, 50001⟩ ⟨.loopback, 9001⟩).run halvedRun :=
    ⟨_, rfl⟩
  have hclosed : v.session.isOpen = false := by
    rw [hv]
    decide +kernel
  have hsplits : Splits v.sent [[], [65]] [0, 0, 0, 9, 1] :=
    ⟨by decide, unfinished_iff.2 (by decide), by rw [hv]; decide +kernel⟩
  have hours : ours v.receptions =
      [⟨true, [], .silent, true⟩, ⟨true, [65], .split ⟨10⟩, false⟩] := by
    rw [hv]
    decide +kernel
  simp only [← hv] at hread ⊢
  obtain ⟨hframes, hprobes, -, -, -, hread⟩ := hread
  obtain ⟨-, -, hend, -⟩ := hread _ _ hsplits
  obtain ⟨-, hall, hanswers⟩ := hend hclosed
  refine ⟨hclosed, hall, ?_, ?_, ?_⟩
  · rw [hframes, hv]
    decide +kernel
  · rw [hprobes, hv]
    decide +kernel
  · rw [hanswers, hours]
    decide +kernel

end Visit
end Uplink

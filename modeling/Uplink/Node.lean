/-
A scripted ingestion node.

The node reads frames, each behind its length in four octets.  An empty frame is a probe, which is
counted and, if the node is told so, echoed.  Every other frame is recorded and treated as the
node's behaviour says at that moment.

* `Uplink.frameOf`, `Uplink.readFrame?` — the frame of a payload, and the first frame of some bytes,
  with `Uplink.readFrame?_eq_some_iff`;
* `Uplink.Behavior`, `Uplink.Node` — how a node treats frames, and what it has seen;
* `Uplink.Node.receive` — the reply to a frame.
-/

import Uplink.Bytes
import Uplink.Duration

set_option relaxedAutoImplicit false
set_option autoImplicit false

namespace Uplink

/-! ### Frames -/

/-- The frame of a payload. -/
def frameOf (payload : Bytes) : Bytes := bigEndian 4 payload.length ++ payload

/-- The payload of the frame that some bytes start with, once it is complete, and the bytes after
it. -/
def readFrame? (bytes : Bytes) : Option (Bytes × Bytes) :=
  let header := bytes.take 4
  if header.length < 4 then none
  else
    let length := ofBigEndian header
    let body := bytes.drop 4
    if body.length < length then none else some (body.take length, body.drop length)

/-- The first frame of a frame and whatever follows it is that frame, **for every payload whose
length fits the header**. -/
theorem readFrame?_frameOf (payload rest : Bytes) (h : payload.length < 4294967296) :
    readFrame? (frameOf payload ++ rest) = some (payload, rest) := by
  have hl : ofBigEndian (bigEndian 4 payload.length) = payload.length :=
    ofBigEndian_bigEndian 4 _ h
  have ht : (frameOf payload ++ rest).take 4 = bigEndian 4 payload.length := by
    rw [frameOf, List.append_assoc, List.take_left' (length_bigEndian _ _)]
  have hd : (frameOf payload ++ rest).drop 4 = payload ++ rest := by
    rw [frameOf, List.append_assoc, List.drop_left' (length_bigEndian _ _)]
  unfold readFrame?
  simp [ht, hd, hl]

/-- Bytes start with a frame exactly when they are **a frame of a payload whose length fits the
header**, with whatever follows. -/
theorem readFrame?_eq_some_iff {bytes payload rest : Bytes} :
    readFrame? bytes = some (payload, rest) ↔
      payload.length < 4294967296 ∧ bytes = frameOf payload ++ rest := by
  refine ⟨fun h => ?_, fun ⟨hl, h⟩ => h ▸ readFrame?_frameOf payload rest hl⟩
  simp only [readFrame?] at h
  split at h
  · cases h
  next hheader =>
    split at h
    · cases h
    next hbody =>
      simp only [Option.some.injEq, Prod.mk.injEq] at h
      obtain ⟨rfl, rfl⟩ := h
      have hheader : (bytes.take 4).length = 4 := by
        have := List.length_take_le 4 bytes
        omega
      have hlength : ((bytes.drop 4).take (ofBigEndian (bytes.take 4))).length =
          ofBigEndian (bytes.take 4) := by
        rw [List.length_take]
        omega
      have hlt := ofBigEndian_lt (bytes.take 4)
      have hwrite := bigEndian_ofBigEndian (bytes.take 4)
      rw [hheader] at hlt hwrite
      rw [frameOf, hlength, hwrite]
      exact ⟨hlt, by rw [List.append_assoc, List.take_append_drop, List.take_append_drop]⟩

/-- Frames that bytes start with are the same if the bytes are. -/
theorem frameOf_append_inj {payload payload' rest rest' : Bytes}
    (hl : payload.length < 4294967296) (hl' : payload'.length < 4294967296)
    (h : frameOf payload ++ rest = frameOf payload' ++ rest') :
    payload = payload' ∧ rest = rest' := by
  have := readFrame?_frameOf payload rest hl
  rw [h, readFrame?_frameOf payload' rest' hl'] at this
  cases this
  exact ⟨rfl, rfl⟩

theorem frameOf_ne_nil (payload : Bytes) : frameOf payload ≠ [] := by
  intro h
  have := congrArg List.length h
  simp [frameOf] at this

/-! ### Nodes -/

/-- How a node treats a frame. -/
inductive Behavior
  /-- Acknowledges it. -/
  | acknowledge
  /-- Acknowledges it in two parts with a pause between them. -/
  | split (pause : Duration)
  /-- Says nothing. -/
  | silent
  /-- Answers with bytes that are no frame. -/
  | garbage
  /-- Closes the stream. -/
  | close
deriving DecidableEq, Repr

/-- The payload of an acknowledgement. -/
def acknowledgement : Bytes := utf8 "ok"

/-- Bytes that are no frame. -/
def garbage : Bytes := [255, 255, 255, 255] ++ utf8 "garbage"

/-- What a node does after a frame. -/
inductive Reply
  /-- Sends some bytes, possibly none. -/
  | send (bytes : Bytes)
  /-- Sends some bytes, pauses, and sends some more. -/
  | sendSplit (first : Bytes) (pause : Duration) (second : Bytes)
  /-- Closes the stream. -/
  | close
deriving DecidableEq, Repr

/-- All the bytes of a reply. -/
def Reply.bytes : Reply → Bytes
  | send bytes => bytes
  | sendSplit first _ second => first ++ second
  | close => []

/-- A node. -/
structure Node where
  /-- Where it listens. -/
  port : Nat
  /-- How it treats frames from now on. -/
  behavior : Behavior
  /-- It echoes probes. -/
  answersProbes : Bool := false
  /-- The frames it has recorded. -/
  frames : List Bytes := []
  /-- The streams it has accepted. -/
  connections : Nat := 0
  /-- The probes it has seen. -/
  probes : Nat := 0
  /-- Streams that it has not accepted yet. -/
  backlog : List Nat := []
  /-- It accepts streams. -/
  isAccepting : Bool := true
  /-- It was told to stop. -/
  isStopping : Bool := false
  /-- Its owner has given it up. -/
  isDropped : Bool := false
deriving DecidableEq, Repr

namespace Node

/-- The reply of a behaviour. -/
def replyOf : Behavior → Reply
  | .acknowledge => .send (frameOf acknowledgement)
  | .split pause =>
      .sendSplit ((frameOf acknowledgement).take 3) pause ((frameOf acknowledgement).drop 3)
  | .silent => .send []
  | .garbage => .send garbage
  | .close => .close

/-- The reply to the payload of a frame, and the node that has seen it. -/
def receive (n : Node) (payload : Bytes) : Node × Reply :=
  if payload = [] then
    ({ n with probes := n.probes + 1 }, .send (if n.answersProbes then frameOf [] else []))
  else ({ n with frames := n.frames ++ [payload] }, replyOf n.behavior)

/-- A reply is one frame, or none at all. -/
theorem rest_of_receive {n : Node} {payload frame rest : Bytes}
    (h : readFrame? (n.receive payload).2.bytes = some (frame, rest)) : rest = [] := by
  have hnil : readFrame? [] = none := rfl
  have hgarbage : readFrame? garbage = none := by decide +kernel
  have hframe {p : Bytes} (hl : p.length < 4294967296)
      (h : readFrame? (frameOf p) = some (frame, rest)) : rest = [] := by
    rw [← List.append_nil (frameOf p), readFrame?_frameOf p [] hl] at h
    cases h
    rfl
  have hack : acknowledgement.length < 4294967296 := by decide +kernel
  unfold receive at h
  split at h
  · simp only [Reply.bytes] at h
    split at h
    · exact hframe (by decide) h
    · rw [hnil] at h
      cases h
  · cases hb : n.behavior with
    | acknowledge =>
        rw [hb] at h
        exact hframe hack h
    | split pause =>
        rw [hb] at h
        simp only [replyOf, Reply.bytes, List.take_append_drop] at h
        exact hframe hack h
    | garbage =>
        rw [hb] at h
        simp only [replyOf, Reply.bytes, hgarbage] at h
        cases h
    | silent | close =>
        rw [hb] at h
        simp only [replyOf, Reply.bytes, hnil] at h
        cases h

end Node

end Uplink

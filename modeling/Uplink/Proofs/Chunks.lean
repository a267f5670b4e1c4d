/-
Reading a frame in chunks.

A response arrives in chunks, cut as the network pleases.  Before each of them the block makes room,
which may double it, and after each of them everything that the block holds is checked again.  A
ceiling bounds the block and a limit bounds the frames; as long as the ceiling is not the smaller of
the two, the block never stands in the way of a frame.

* `Uplink.ReceiveBlock.Fits` — what reads into a block can give, one after the other;
* `Uplink.ReceiveBlock.readAll` — the verdicts on what is held after each of them;
* `Uplink.ReceiveBlock.read_of_lt` — a block that holds less than its ceiling can be read into;
* `Uplink.ReceiveBlock.readAll_concat` — chunks of which only the last one completes something;
* `Uplink.Connection.hear_of_readAll` — **the task that awaits a response reads as `readAll` does**;
* `Uplink.LengthPrefixed.check_append` — a verdict other than that bytes are missing is final;
* `Uplink.LengthPrefixed.read_in_chunks` — **where a frame is cut makes no difference**.
-/

import Mathlib.Data.List.Basic
import Uplink.Connection.Task
import Uplink.Proofs.Framing

set_option relaxedAutoImplicit false
set_option autoImplicit false

namespace Uplink

/-! ### Reading into a block -/

namespace ReceiveBlock

variable {b b' : ReceiveBlock} {check : Bytes → Verdict} {chunk : Bytes} {chunks : List Bytes}

/-- A read takes no more than the room that is made for it. -/
def Fits : ReceiveBlock → List Bytes → Prop
  | _, [] => True
  | b, chunk :: chunks =>
      ∀ b', b.reserve = .ok b' → chunk.length ≤ b'.room ∧ (b'.fill chunk).Fits chunks

/-- Chunks are read one after the other: the verdicts on what is held after each of them, and the
block in the end. -/
def readAll (check : Bytes → Verdict) :
    ReceiveBlock → List Bytes → Except ProtocolFault (List Verdict × ReceiveBlock)
  | b, [] => .ok ([], b)
  | b, chunk :: chunks =>
      match b.reserve with
      | .ok b' =>
          (readAll check (b'.fill chunk) chunks).map fun (verdicts, last) =>
            (check (b'.fill chunk).held :: verdicts, last)
      | .error fault => .error fault

/-- The bytes were read into the block. -/
structure Filled (b : ReceiveBlock) (bytes : Bytes) (b' : ReceiveBlock) : Prop where
  sound : b'.Sound
  held_eq : b'.held = b.held ++ bytes
  ceiling_eq : b'.ceiling = b.ceiling

theorem Filled.trans {b'' : ReceiveBlock} {first second : Bytes} (h : b.Filled first b')
    (h' : b'.Filled second b'') : b.Filled (first ++ second) b'' where
  sound := h'.sound
  held_eq := by rw [h'.held_eq, h.held_eq, List.append_assoc]
  ceiling_eq := h'.ceiling_eq.trans h.ceiling_eq

theorem held_fill (h : chunk.length ≤ b.room) : (b.fill chunk).held = b.held ++ chunk := by
  rw [fill, List.take_of_length_le h]

/-- **A block that holds less than its ceiling can be read into**: there is room for a byte, and a
chunk that fits the room is held after the others. -/
theorem read_of_lt (hb : b.Sound) (hlt : b.held.length < b.ceiling) :
    ∃ b', b.reserve = .ok b' ∧ 0 < b'.room ∧
      ∀ chunk, chunk.length ≤ b'.room → b.Filled chunk (b'.fill chunk) := by
  have hreserve : ∃ b', b.reserve = .ok b' ∧ b'.ceiling = b.ceiling := by
    obtain ⟨-, heq⟩ | ⟨-, -, heq⟩ | ⟨hfull, htop, -⟩ := b.reserve_cases
    · exact ⟨b, heq, rfl⟩
    · exact ⟨_, heq, rfl⟩
    · omega
  obtain ⟨b', hr, hceiling⟩ := hreserve
  refine ⟨b', hr, hb.room_pos hr, fun chunk hfit => ⟨(hb.reserve hr).fill chunk, ?_, hceiling⟩⟩
  rw [held_fill hfit, held_reserve hr]

/-! ### Reading chunk by chunk -/

theorem readAll_cons (hr : b.reserve = .ok b') : b.readAll check (chunk :: chunks) =
    ((b'.fill chunk).readAll check chunks).map fun (verdicts, last) =>
      (check (b'.fill chunk).held :: verdicts, last) := by
  rw [readAll, hr]

/-- What it takes to read a chunk and the ones after it. -/
theorem of_readAll_cons {verdicts : List Verdict}
    (h : b.readAll check (chunk :: chunks) = .ok (verdicts, b')) :
    ∃ b₁ more, b.reserve = .ok b₁ ∧ (b₁.fill chunk).readAll check chunks = .ok (more, b') ∧
      verdicts = check (b₁.fill chunk).held :: more := by
  rw [readAll] at h
  split at h
  next b₁ hreserve =>
    cases hrest : (b₁.fill chunk).readAll check chunks with
    | error fault =>
        rw [hrest] at h
        cases h
    | ok result =>
        obtain ⟨more, last⟩ := result
        rw [hrest] at h
        cases h
        exact ⟨b₁, more, hreserve, hrest, rfl⟩
  next => cases h

/-- What is read in two parts. -/
theorem readAll_append {first second : List Bytes} {verdicts : List Verdict}
    (h : b.readAll check first = .ok (verdicts, b')) :
    b.readAll check (first ++ second) = (b'.readAll check second).map fun (more, last) =>
      (verdicts ++ more, last) := by
  induction first generalizing b verdicts with
  | nil =>
      cases h
      rw [List.nil_append]
      cases b'.readAll check second <;> rfl
  | cons chunk rest ih =>
      obtain ⟨b₁, more, hreserve, hrest, rfl⟩ := of_readAll_cons h
      rw [List.cons_append, readAll_cons hreserve, ih hrest]
      cases b'.readAll check second <;> rfl

theorem Fits.left {first second : List Bytes} (h : b.Fits (first ++ second)) : b.Fits first := by
  induction first generalizing b with
  | nil => trivial
  | cons chunk rest ih =>
      intro b' hreserve
      obtain ⟨hroom, hrest⟩ := h b' hreserve
      exact ⟨hroom, ih hrest⟩

/-- Chunks that fit go on to fit after the first of them are read. -/
theorem Fits.right {first second : List Bytes} {verdicts : List Verdict}
    (h : b.Fits (first ++ second)) (hr : b.readAll check first = .ok (verdicts, b')) :
    b'.Fits second := by
  induction first generalizing b verdicts with
  | nil =>
      cases hr
      exact h
  | cons chunk rest ih =>
      obtain ⟨b₁, more, hreserve, hrest, -⟩ := of_readAll_cons hr
      exact ih (h b₁ hreserve).2 hrest

/-- Chunks that stay below the ceiling and complete nothing are all read. -/
theorem readAll_incomplete (check : Bytes → Verdict) (hb : b.Sound) (hfit : b.Fits chunks)
    (hlt : (b.held ++ chunks.flatten).length < b.ceiling)
    (hcheck : ∀ part, part <+: b.held ++ chunks.flatten → check part = .incomplete) :
    ∃ b', b.readAll check chunks = .ok (.replicate chunks.length .incomplete, b') ∧
      b.Filled chunks.flatten b' := by
  induction chunks generalizing b with
  | nil => exact ⟨b, rfl, hb, by simp, rfl⟩
  | cons chunk rest ih =>
      rw [List.flatten_cons, ← List.append_assoc] at hlt hcheck
      have hshort : b.held.length < b.ceiling := by
        simp only [List.length_append] at hlt
        omega
      obtain ⟨b₁, hreserve, -, hread⟩ := read_of_lt hb hshort
      obtain ⟨hroom, hrest⟩ := hfit b₁ hreserve
      have hfilled := hread chunk hroom
      rw [← hfilled.held_eq] at hlt hcheck
      obtain ⟨last, hall, hlast⟩ := ih hfilled.sound hrest (by rwa [hfilled.ceiling_eq]) hcheck
      refine ⟨last, ?_, hfilled.trans hlast⟩
      rw [readAll_cons hreserve, hall, hcheck _ (List.prefix_append _ _)]
      rfl

/-- **Chunks of which only the last one completes something** are all read, and the last verdict is
the one on all bytes together. -/
theorem readAll_concat (check : Bytes → Verdict) (hb : b.Sound)
    (hfit : b.Fits (chunks ++ [chunk])) (hlt : (b.held ++ chunks.flatten).length < b.ceiling)
    (hcheck : ∀ part, part <+: b.held ++ chunks.flatten → check part = .incomplete) :
    ∃ b', b.readAll check (chunks ++ [chunk]) =
        .ok (.replicate chunks.length .incomplete ++ [check b'.held], b') ∧
      b.Filled (chunks ++ [chunk]).flatten b' := by
  obtain ⟨b₁, hearly, hfilled⟩ := readAll_incomplete check hb hfit.left hlt hcheck
  have hshort : b₁.held.length < b₁.ceiling := by
    rwa [hfilled.held_eq, hfilled.ceiling_eq]
  obtain ⟨b₂, hreserve, -, hread⟩ := read_of_lt hfilled.sound hshort
  obtain ⟨hroom, -⟩ := hfit.right hearly b₂ hreserve
  refine ⟨b₂.fill chunk, ?_, ?_⟩
  · rw [readAll_append hearly, readAll_cons hreserve]
    rfl
  · rw [List.flatten_append, List.flatten_singleton]
    exact hfilled.trans (hread chunk hroom)

end ReceiveBlock

/-! ### The task that awaits a response -/

namespace Connection

variable {c : Connection} {chunk : Bytes} {b : ReceiveBlock}

/-- The task is about to make room for bytes of a response. -/
structure Awaiting (c : Connection) : Prop where
  status_eq : c.status = .waiting
  position_eq : c.position = .entering
  exiting_eq : c.exiting = false
  socket_ne : c.socket ≠ none

/-- The task makes room, and a chunk arrives. -/
def hear (c : Connection) (now : Instant) (chunk : Bytes) : Connection :=
  ((c.turn now .tick).next.turn now (.received chunk)).next

/-- Chunks arrive one after the other, each of them at its time. -/
def hearAll (c : Connection) : List (Instant × Bytes) → Connection
  | [] => c
  | (now, chunk) :: rest => ((c.hear now chunk).turn now .tick).next.hearAll rest

/-- The chunk is read into the block, and the verdict is the one on all that the block holds. -/
theorem hear_eq (h : c.Awaiting) (hr : c.block.reserve = .ok b) (hne : chunk ≠ [])
    (hfit : chunk.length ≤ b.room) {now : Instant} (hclock : c.keepAlive.hasRoom now = true) :
    let d := (({ c with block := b } : Connection).receive chunk).touch now
    c.hear now chunk = { d with position := .signalled d.verdict } := by
  have hroom : (c.turn now .tick).next = { c with block := b, position := .parked .waiting } := by
    simp [turn, h.position_eq, enter, h.exiting_eq, h.status_eq, enterWaiting, h.socket_ne,
      makeRoom, hr, park]
  rw [hear, hroom]
  simp only [turn, observe, observeWaiting, observeResponse, List.take_of_length_le hfit, hne,
    if_false, proceed]
  rw [if_neg (by simp [touch, receive, hclock])]
  rfl

/-- As long as the response is incomplete, the task goes on to await the rest. -/
theorem awaiting_hear (h : c.Awaiting) (hr : c.block.reserve = .ok b) (hne : chunk ≠ [])
    (hfit : chunk.length ≤ b.room) (hv : c.codec.check (b.fill chunk).held = .incomplete)
    {now : Instant} (hclock : c.keepAlive.hasRoom now = true) :
    let d := ((c.hear now chunk).turn now .tick).next
    d.Awaiting ∧ d.block = b.fill chunk ∧ d.codec = c.codec ∧
      d.keepAlive = c.keepAlive.touch now := by
  intro d
  have hverdict : ((({ c with block := b } : Connection).receive chunk).touch now).verdict =
      .incomplete := by
    simp only [verdict, touch, receive, hv]
  have hd : d = { (({ c with block := b } : Connection).receive chunk).touch now with
      position := .entering } := by
    simp only [d, hear_eq h hr hne hfit hclock, hverdict, turn]
    simp [fire, eventOf?, attend, Signal.waiter?, touch, receive, h.status_eq, transition, moveTo,
      absorb, perform]
  rw [hd]
  exact ⟨⟨h.status_eq, rfl, h.exiting_eq, h.socket_ne⟩, rfl, rfl, rfl⟩

/-- **The task that awaits a response reads as `readAll` does**, as long as the clock has room for
the next tick: if the first chunks complete nothing, the next one is read into the block that they
leave, and the task goes by the verdict on what that holds then. -/
theorem hear_of_readAll (h : c.Awaiting) {arrivals : List (Instant × Bytes)} {verdict : Verdict}
    {last : ReceiveBlock} (hfit : c.block.Fits (arrivals.map (·.2) ++ [chunk]))
    (hne : [] ∉ arrivals.map (·.2) ++ [chunk])
    (hread : c.block.readAll c.codec.check (arrivals.map (·.2) ++ [chunk]) =
      .ok (.replicate arrivals.length .incomplete ++ [verdict], last)) {now : Instant}
    (hclock : ∀ time ∈ arrivals.map (·.1) ++ [now], c.keepAlive.hasRoom time = true) :
    let d := (c.hearAll arrivals).hear now chunk
    d.block = last ∧ d.codec.check last.held = verdict ∧ d.position = .signalled d.verdict := by
  induction arrivals generalizing c with
  | nil =>
      obtain ⟨b, more, hreserve, hnil, hverdicts⟩ := ReceiveBlock.of_readAll_cons hread
      cases hnil
      obtain ⟨rfl, -⟩ := List.cons.inj hverdicts
      have hchunk : chunk ≠ [] := fun heq => hne (by simp [heq])
      intro d
      have hd : d = _ := hear_eq h hreserve hchunk (hfit b hreserve).1 (hclock now (by simp))
      rw [hd]
      exact ⟨rfl, rfl, rfl⟩
  | cons arrival rest ih =>
      obtain ⟨time, first⟩ := arrival
      obtain ⟨b, more, hreserve, hrest, hverdicts⟩ := ReceiveBlock.of_readAll_cons hread
      obtain ⟨hv, rfl⟩ := List.cons.inj hverdicts
      obtain ⟨hroom, hfit⟩ := hfit b hreserve
      rw [List.map_cons, List.cons_append, List.mem_cons, not_or] at hne
      obtain ⟨hagain, hblock, hcodec, hkeep⟩ :=
        awaiting_hear h hreserve (Ne.symm hne.1) hroom hv.symm (hclock time (by simp))
      rw [← hblock] at hfit hrest
      rw [← hcodec] at hrest
      refine ih hagain hfit hne.2 hrest fun later hlater => ?_
      rw [hkeep]
      exact hclock later (List.mem_cons_of_mem _ hlater)

end Connection

/-- One of the chunks brings the byte with a given number. -/
theorem exists_chunk {chunks : List Bytes} {n : Nat} (hpos : 0 < n)
    (hn : n ≤ chunks.flatten.length) :
    ∃ early chunk late, chunks = early ++ chunk :: late ∧ early.flatten.length < n ∧
      n ≤ (early ++ [chunk]).flatten.length := by
  induction chunks generalizing n with
  | nil => simp at hn; omega
  | cons first rest ih =>
      by_cases hfirst : n ≤ first.length
      · exact ⟨[], first, rest, rfl, by simpa using hpos, by simpa using hfirst⟩
      · rw [List.flatten_cons, List.length_append] at hn
        obtain ⟨early, chunk, late, rfl, hearly, hchunk⟩ :=
          ih (n := n - first.length) (by omega) (by omega)
        refine ⟨first :: early, chunk, late, rfl, ?_, ?_⟩
        · rw [List.flatten_cons, List.length_append]
          omega
        · rw [List.cons_append, List.flatten_cons, List.length_append]
          omega

/-! ### Verdicts on more bytes -/

namespace LengthPrefixed

variable {f : LengthPrefixed} {b : ReceiveBlock} {buffer frame part : Bytes} {chunks : List Bytes}

theorem octets_le_of_frameLength? {n : Nat} (h : f.frameLength? buffer = some n) :
    f.width.octets ≤ buffer.length := by
  refine Nat.le_of_not_lt fun hshort => ?_
  rw [frameLength?_eq_none_iff.2 hshort] at h
  cases h

/-- A complete header tells the same length whatever follows. -/
theorem frameLength?_append {n : Nat} (h : f.frameLength? buffer = some n) (more : Bytes) :
    f.frameLength? (buffer ++ more) = some n := by
  have hlong : f.width.octets ≤ buffer.length := octets_le_of_frameLength? h
  rw [← h, frameLength?, frameLength?, List.take_append_of_le_length hlong]

/-- **A verdict other than that bytes are missing is final.** -/
theorem check_append (h : f.check buffer ≠ .incomplete) (more : Bytes) :
    f.check (buffer ++ more) = f.check buffer := by
  cases hlength : f.frameLength? buffer with
  | none => exact absurd (by simp [check, hlength]) h
  | some n =>
      have hlength' := frameLength?_append hlength more
      by_cases hn : f.width.octets ≤ n ∧ n ≤ f.maxFrame
      · rw [check_of_allowed hlength hn] at h ⊢
        rw [check_of_allowed hlength' hn]
        split at h
        · exact absurd rfl h
        next hall => rw [if_neg hall, if_neg (by rw [List.length_append]; omega)]
      · -- The length alone decides.
        simp only [check, hlength, hlength']
        split
        · rfl
        · rw [if_pos (by omega), if_pos (by omega)]

/-- A frame that is accepted is found incomplete before its last byte. -/
theorem check_of_part (h : f.check frame = .complete frame.length) (hpart : part <+: frame)
    (hne : part ≠ frame) : f.check part = .incomplete := by
  have hencode := encode_of_check h
  rw [List.take_length] at hencode
  exact check_of_prefix hencode hpart hne

theorem length_lt_of_part (hpart : part <+: frame) (hne : part ≠ frame) :
    part.length < frame.length :=
  Nat.lt_of_le_of_ne hpart.length_le fun heq => hne (hpart.eq_of_length heq)

/-! ### Whole frames, their parts, and what is no frame -/

/-- Part of a frame is read without a complaint, and so is what follows. -/
theorem read_part (hb : b.Sound) (hnil : b.held = []) (hmax : f.maxFrame ≤ b.ceiling)
    (hfit : b.Fits chunks) (h : f.check frame = .complete frame.length)
    (hpart : chunks.flatten <+: frame) (hne : chunks.flatten ≠ frame) :
    ∃ b', b.readAll f.check chunks = .ok (.replicate chunks.length .incomplete, b') ∧
      ∃ b'', b'.reserve = .ok b'' ∧ 0 < b''.room := by
  obtain ⟨-, -, hallowed, -⟩ := check_eq_complete_iff.1 h
  have hlt := length_lt_of_part hpart hne
  have hroom : (b.held ++ chunks.flatten).length < b.ceiling := by
    rw [hnil, List.nil_append]
    omega
  obtain ⟨b', hread, hfilled⟩ := ReceiveBlock.readAll_incomplete f.check hb hfit hroom
    fun p hp => by
      rw [hnil, List.nil_append] at hp
      refine check_of_part h (hp.trans hpart) fun heq => ?_
      have hle := hp.length_le
      rw [heq] at hle
      omega
  obtain ⟨b'', hreserve, hpos, -⟩ := ReceiveBlock.read_of_lt hfilled.sound (by
    rwa [hfilled.held_eq, hfilled.ceiling_eq])
  exact ⟨b', hread, b'', hreserve, hpos⟩

/-- A frame is complete with its last chunk, and taken as it was sent. -/
theorem read_whole (hb : b.Sound) (hnil : b.held = []) (hmax : f.maxFrame ≤ b.ceiling)
    (hchunks : [] ∉ chunks) (hfit : b.Fits chunks)
    (h : f.check chunks.flatten = .complete chunks.flatten.length) :
    ∃ b', b.readAll f.check chunks = .ok (.replicate (chunks.length - 1) .incomplete ++
        [.complete chunks.flatten.length], b') ∧
      b'.held = chunks.flatten ∧ b'.takeFrame chunks.flatten.length = chunks.flatten := by
  obtain ⟨-, hheader, hallowed, -⟩ := check_eq_complete_iff.1 h
  have hoctets : 0 < f.width.octets := by cases f.width <;> decide
  rcases chunks.eq_nil_or_concat' with rfl | ⟨early, chunk, rfl⟩
  · simp only [List.flatten_nil, List.length_nil] at hheader
    omega
  have hchunk : 0 < chunk.length := by
    rw [List.length_pos_iff]
    rintro rfl
    exact hchunks (by simp)
  have hpart : early.flatten <+: (early ++ [chunk]).flatten := by simp
  have hlt : early.flatten.length < (early ++ [chunk]).flatten.length := by
    rw [List.flatten_append, List.flatten_singleton, List.length_append]
    omega
  obtain ⟨b', hread, hfilled⟩ := ReceiveBlock.readAll_concat f.check hb hfit
    (by rw [hnil, List.nil_append]; omega) fun p hp => by
      rw [hnil, List.nil_append] at hp
      refine check_of_part h (hp.trans hpart) fun heq => ?_
      have hle := hp.length_le
      rw [heq] at hle
      omega
  have hheld : b'.held = (early ++ [chunk]).flatten := by
    rw [hfilled.held_eq, hnil, List.nil_append]
  refine ⟨b', ?_, hheld, by rw [ReceiveBlock.takeFrame, hheld, List.take_length]⟩
  rw [hread, hheld, h, List.length_append, List.length_singleton, Nat.add_sub_cancel]

/-- Bytes that tell a length that is not allowed are refused with the last octet of the header. -/
theorem read_refused (hb : b.Sound) (hnil : b.held = []) (hfit : b.Fits chunks) {n : Nat}
    (hlength : f.frameLength? chunks.flatten = some n) (hn : n < f.width.octets ∨ f.maxFrame < n)
    (hceiling : f.width.octets ≤ b.ceiling) :
    ∃ early chunk late fault b', chunks = early ++ chunk :: late ∧
      early.flatten.length < f.width.octets ∧
      f.width.octets ≤ (early ++ [chunk]).flatten.length ∧
      b.readAll f.check (early ++ [chunk]) =
        .ok (.replicate early.length .incomplete ++ [.malformed fault], b') := by
  have hheader := octets_le_of_frameLength? hlength
  obtain ⟨early, chunk, late, rfl, hearly, hchunk⟩ :=
    exists_chunk (n := f.width.octets) (by cases f.width <;> decide) hheader
  have hsplit : early ++ chunk :: late = (early ++ [chunk]) ++ late := by simp
  rw [hsplit] at hfit hlength
  obtain ⟨b', hread, hfilled⟩ := ReceiveBlock.readAll_concat f.check hb hfit.left
    (by rw [hnil, List.nil_append]; omega) fun p hp => by
      have hle := hp.length_le
      rw [hnil, List.nil_append] at hle
      exact check_eq_incomplete_iff.2 (.inl (by omega))
  have hheld : b'.held = (early ++ [chunk]).flatten := by
    rw [hfilled.held_eq, hnil, List.nil_append]
  -- The header is complete, and tells what it tells in front of everything.
  have htold : f.frameLength? (early ++ [chunk]).flatten = some n := by
    cases hshort : f.frameLength? (early ++ [chunk]).flatten with
    | none =>
        have hlt := frameLength?_eq_none_iff.1 hshort
        omega
    | some m =>
        rw [List.flatten_append, frameLength?_append hshort] at hlength
        exact hlength
  obtain ⟨fault, hfault⟩ := check_of_not_allowed htold (by omega)
  refine ⟨early, chunk, late, fault, b', rfl, hearly, hchunk, ?_⟩
  rw [hread, hheld, hfault]

/-- **Where a frame is cut makes no difference.**  Let bytes be read in chunks, none of them empty,
into an empty block whose ceiling is not below the limit of the frames, whatever its size is.  If
the bytes are a proper part of a frame, all verdicts are that bytes are missing, and there is room
for more.  If they are a frame, it is complete with the last chunk and not before; the block then
holds that frame and nothing else, and it is taken as it was sent.  If they tell a length that is
shorter than the header or above the limit, they are refused with the chunk that completes the
header, and not before.  A verdict other than that bytes are missing does not change with more
bytes. -/
theorem read_in_chunks (hb : b.Sound) (hnil : b.held = []) (hmax : f.maxFrame ≤ b.ceiling)
    (hchunks : [] ∉ chunks) (hfit : b.Fits chunks) :
    (∀ frame, f.check frame = .complete frame.length → chunks.flatten <+: frame →
      chunks.flatten ≠ frame →
        ∃ b', b.readAll f.check chunks = .ok (.replicate chunks.length .incomplete, b') ∧
          ∃ b'', b'.reserve = .ok b'' ∧ 0 < b''.room) ∧
    (f.check chunks.flatten = .complete chunks.flatten.length →
      ∃ b', b.readAll f.check chunks = .ok (.replicate (chunks.length - 1) .incomplete ++
          [.complete chunks.flatten.length], b') ∧
        b'.held = chunks.flatten ∧ b'.takeFrame chunks.flatten.length = chunks.flatten) ∧
    (∀ n, f.frameLength? chunks.flatten = some n → n < f.width.octets ∨ f.maxFrame < n →
      f.width.octets ≤ b.ceiling →
        ∃ early chunk late fault b', chunks = early ++ chunk :: late ∧
          early.flatten.length < f.width.octets ∧
          f.width.octets ≤ (early ++ [chunk]).flatten.length ∧
          b.readAll f.check (early ++ [chunk]) =
            .ok (.replicate early.length .incomplete ++ [.malformed fault], b')) ∧
    (∀ buffer more,
      (∀ fault, f.check buffer = .malformed fault → f.check (buffer ++ more) = .malformed fault) ∧
      ∀ n, f.check buffer = .complete n → f.check (buffer ++ more) = .complete n) := by
  refine ⟨fun frame h hpart hne => read_part hb hnil hmax hfit h hpart hne,
    fun h => read_whole hb hnil hmax hchunks hfit h,
    fun n hlength hn hceiling => read_refused hb hnil hfit hlength hn hceiling,
    fun buffer more => ⟨fun fault h => ?_, fun n h => ?_⟩⟩
  · rw [check_append (by rw [h]; nofun), h]
  · rw [check_append (by rw [h]; nofun), h]

/-- A frame of the greatest length allowed, in a block that starts with one byte. -/
theorem read_in_chunks_short :
    [] ∉ ([[0], [5], [7, 8], [9]] : List Bytes) ∧
      (ReceiveBlock.new 1 5).Fits [[0], [5], [7, 8], [9]] ∧
      ∃ b', (ReceiveBlock.new 1 5).readAll short.check [[0], [5], [7, 8], [9]] =
          .ok ([.incomplete, .incomplete, .incomplete, .complete 5], b') ∧
        b'.held = [0, 5, 7, 8, 9] := by
  have hfit : (ReceiveBlock.new 1 5).Fits [[0], [5], [7, 8], [9]] := by
    rintro b₁ ⟨⟩
    refine ⟨by decide, ?_⟩
    rintro b₂ ⟨⟩
    refine ⟨by decide, ?_⟩
    rintro b₃ ⟨⟩
    refine ⟨by decide, ?_⟩
    rintro b₄ ⟨⟩
    exact ⟨by decide, trivial⟩
  obtain ⟨-, hwhole, -⟩ := read_in_chunks (f := short) (ReceiveBlock.sound_new 1 5) rfl
    (by decide) (by decide) hfit
  obtain ⟨b', hread, hheld, -⟩ := hwhole (by decide)
  exact ⟨by decide, hfit, b', hread, hheld⟩

end LengthPrefixed

end Uplink

/-
Bytes as frames.

Any bytes are some frames, one after the other, and behind them the beginning of a further frame;
and there is only one way to see them so.  Nothing is lost on this way: an end inside a header, an
end inside a body and an end between two frames are all the beginning of a frame, of which more or
less is missing.

* `Uplink.Unfinished` — the beginning of a frame, with `Uplink.unfinished_iff`;
* `Uplink.Splits` — bytes as frames and the beginning of a further one;
* `Uplink.Splits.later` — frames that were read are the first ones;
* `Uplink.existsUnique_splits` — **all bytes are frames in exactly one way**.
-/

import Mathlib.Logic.ExistsUnique
import Uplink.Node

set_option relaxedAutoImplicit false
set_option autoImplicit false

namespace Uplink

variable {bytes rest rest' : Bytes} {early payloads payloads' : List Bytes}

/-! ### The beginning of a frame -/

/-- A frame begins with these bytes, and goes on. -/
def Unfinished (bytes : Bytes) : Prop :=
  ∃ payload more, payload.length < 4294967296 ∧ more ≠ [] ∧ bytes ++ more = frameOf payload

/-- A header and a body of the length that it tells are a frame. -/
theorem frameOf_eq_append {header body : Bytes} (hheader : header.length = 4)
    (hbody : body.length = ofBigEndian header) :
    body.length < 4294967296 ∧ frameOf body = header ++ body := by
  have hlt := ofBigEndian_lt header
  have hwrite := bigEndian_ofBigEndian header
  rw [hheader, ← hbody] at hlt hwrite
  exact ⟨hlt, by rw [frameOf, hwrite]⟩

/-- Bytes that may stand for what is missing of a frame. -/
def padding (count : Nat) : Bytes := List.replicate count 0

@[simp] theorem length_padding (count : Nat) : (padding count).length = count :=
  List.length_replicate

theorem padding_ne_nil {count : Nat} (h : 0 < count) : padding count ≠ [] :=
  List.ne_nil_of_length_pos (by rwa [length_padding])

/-- Bytes with no whole frame in front of them are the beginning of one. -/
theorem unfinished_of_readFrame? (h : readFrame? bytes = none) : Unfinished bytes := by
  by_cases hshort : bytes.length < 4
  · have hheader : (bytes ++ padding (4 - bytes.length)).length = 4 := by
      rw [List.length_append, length_padding]
      omega
    obtain ⟨hlt, hframe⟩ := frameOf_eq_append hheader (length_padding _)
    refine ⟨_, padding (4 - bytes.length) ++
      padding (ofBigEndian (bytes ++ padding (4 - bytes.length))), hlt, ?_, ?_⟩
    · exact List.append_ne_nil_of_left_ne_nil (padding_ne_nil (by omega)) _
    · rw [hframe, List.append_assoc]
  · have hheader : (bytes.take 4).length = 4 := by
      rw [List.length_take]
      omega
    have hmissing : (bytes.drop 4).length < ofBigEndian (bytes.take 4) := by
      simpa only [readFrame?, hheader, Nat.lt_irrefl, if_false, ite_eq_left_iff, reduceCtorEq,
        imp_false, Decidable.not_not] using h
    have hbody : (bytes.drop 4 ++
        padding (ofBigEndian (bytes.take 4) - (bytes.drop 4).length)).length =
          ofBigEndian (bytes.take 4) := by
      rw [List.length_append, length_padding]
      omega
    obtain ⟨hlt, hframe⟩ := frameOf_eq_append hheader hbody
    refine ⟨_, padding _, hlt, padding_ne_nil (Nat.sub_pos_of_lt hmissing), ?_⟩
    rw [hframe, ← List.append_assoc, List.take_append_drop]

/-- **The beginning of a frame is what no whole frame is in front of.** -/
theorem unfinished_iff : Unfinished bytes ↔ readFrame? bytes = none := by
  refine ⟨fun ⟨payload, more, hl, hmore, heq⟩ => ?_, unfinished_of_readFrame?⟩
  cases hr : readFrame? bytes with
  | none => rfl
  | some read =>
      obtain ⟨payload', rest⟩ := read
      obtain ⟨hl', hbytes⟩ := readFrame?_eq_some_iff.1 hr
      rw [hbytes, List.append_assoc, ← List.append_nil (frameOf payload)] at heq
      obtain ⟨-, hnil⟩ := frameOf_append_inj hl' hl heq
      exact absurd (List.append_eq_nil_iff.1 hnil).2 hmore

/-! ### Frames, one after the other -/

/-- Bytes are the frames of some payloads, one after the other, and behind them the beginning of a
further frame. -/
structure Splits (bytes : Bytes) (payloads : List Bytes) (rest : Bytes) : Prop where
  length_lt : ∀ payload ∈ payloads, payload.length < 4294967296
  unfinished : Unfinished rest
  bytes_eq : bytes = payloads.flatMap frameOf ++ rest

/-- Frames that bytes begin with are the first of all their frames, and the bytes behind them hold
the others. -/
theorem Splits.later {behind : Bytes} (h : Splits bytes payloads rest)
    (hl : ∀ payload ∈ early, payload.length < 4294967296)
    (heq : bytes = early.flatMap frameOf ++ behind) :
    ∃ later, payloads = early ++ later ∧ Splits behind later rest := by
  induction early generalizing bytes payloads with
  | nil =>
      obtain rfl : bytes = behind := heq
      exact ⟨payloads, rfl, h⟩
  | cons payload early ih =>
      rw [List.flatMap_cons, List.append_assoc] at heq
      have hpayload := hl payload List.mem_cons_self
      obtain ⟨hlengths, hrest, hbytes⟩ := h
      cases payloads with
      | nil =>
          -- No whole frame is in front of what is unfinished.
          rw [List.flatMap_nil, List.nil_append] at hbytes
          rw [← hbytes, heq, unfinished_iff, readFrame?_frameOf payload _ hpayload] at hrest
          cases hrest
      | cons payload' payloads =>
          rw [heq, List.flatMap_cons, List.append_assoc] at hbytes
          obtain ⟨rfl, hbehind⟩ :=
            frameOf_append_inj hpayload (hlengths payload' List.mem_cons_self) hbytes
          obtain ⟨later, rfl, hlater⟩ :=
            ih ⟨fun p hp => hlengths p (List.mem_cons_of_mem _ hp), hrest, hbehind⟩
              (fun p hp => hl p (List.mem_cons_of_mem _ hp)) rfl
          exact ⟨later, rfl, hlater⟩

/-- What is the beginning of a frame holds no frame. -/
theorem Splits.of_unfinished (h : Splits bytes payloads rest) (hu : Unfinished bytes) :
    payloads = [] ∧ rest = bytes := by
  obtain ⟨later, hlater, hbehind⟩ := (⟨nofun, hu, rfl⟩ : Splits bytes [] bytes).later
    h.length_lt h.bytes_eq
  obtain ⟨rfl, rfl⟩ := List.append_eq_nil_iff.1 hlater.symm
  exact ⟨rfl, hbehind.bytes_eq⟩

theorem Splits.unique (h : Splits bytes payloads rest) (h' : Splits bytes payloads' rest') :
    payloads' = payloads ∧ rest' = rest := by
  obtain ⟨later, rfl, hlater⟩ := h'.later h.length_lt h.bytes_eq
  obtain ⟨rfl, rfl⟩ := hlater.of_unfinished h.unfinished
  exact ⟨List.append_nil _, rfl⟩

theorem exists_splits (bytes : Bytes) : ∃ payloads rest, Splits bytes payloads rest := by
  -- Each frame in front leaves fewer bytes behind it.
  induction hn : bytes.length using Nat.strongRecOn generalizing bytes with
  | _ n ih =>
      cases hr : readFrame? bytes with
      | none => exact ⟨[], bytes, nofun, unfinished_of_readFrame? hr, rfl⟩
      | some read =>
          obtain ⟨payload, behind⟩ := read
          obtain ⟨hl, rfl⟩ := readFrame?_eq_some_iff.1 hr
          have hpos := List.length_pos_iff.2 (frameOf_ne_nil payload)
          rw [List.length_append] at hn
          obtain ⟨payloads, rest, hlengths, hrest, rfl⟩ := ih _ (by omega) behind rfl
          exact ⟨payload :: payloads, rest, List.forall_mem_cons.2 ⟨hl, hlengths⟩, hrest,
            by rw [List.flatMap_cons, List.append_assoc]⟩

/-- **All bytes are frames, and the beginning of a further one, in exactly one way.** -/
theorem existsUnique_splits (bytes : Bytes) :
    ∃! parts : List Bytes × Bytes, Splits bytes parts.1 parts.2 := by
  obtain ⟨payloads, rest, h⟩ := exists_splits bytes
  exact ⟨(payloads, rest), h, fun _ h' => Prod.ext (h.unique h').1 (h.unique h').2⟩

end Uplink

import RustTun.Windows.Tun

/-!
# All or nothing

A send either hands the whole packet to the session, or drops it when the ring is full,
or fails; and it leaves no packet it allocated behind.  It does so exactly if the packet
it gets is one of the size it asked for, that is if the length survives the narrowing to
16 bits, or if it gets none.

Everything else about the two sends is in `gather_eq` and `gather_eq_none`: however the
payload is cut into slices, the copying loop fills a packet of the right size and runs
over the end of a smaller one.
-/

namespace RustTun.Windows

open Scatter Slice

namespace Tun

/-! ## The copying loop -/

/-- The loop fills a packet that is large enough with the slices in order. -/
theorem gather_eq {bufs : List Buf} {dst : Buf} {offset : Nat}
    (h : offset + bufs.flatten.length ≤ dst.length) :
    gather dst offset bufs =
      some (dst.take offset ++ bufs.flatten ++ dst.drop (offset + bufs.flatten.length)) := by
  induction bufs generalizing dst offset with
  | nil => simp [gather]
  | cons buf bufs ih =>
      rw [List.flatten_cons, List.length_append] at h
      rw [gather]
      by_cases hbuf : buf = []
      · rw [if_pos hbuf, ih (by omega)]
        simp [hbuf]
      · have hfits : offset + buf.length ≤ dst.length := by omega
        have hcopy := copyFrom_of_le hfits
        have hlen := length_copyFrom hcopy
        have htake : (dst.take offset ++ buf ++ dst.drop (offset + buf.length)).take
            (offset + buf.length) = dst.take offset ++ buf :=
          List.take_left' (by rw [List.length_append, List.length_take]; omega)
        have hdrop : (dst.take offset ++ buf ++ dst.drop (offset + buf.length)).drop
            (offset + buf.length + bufs.flatten.length) =
              dst.drop (offset + (buf.length + bufs.flatten.length)) := by
          rw [List.drop_append, List.drop_of_length_le
            (by simp only [List.length_append, List.length_take]; omega), List.nil_append,
            List.drop_drop]
          congr 1
          simp only [List.length_append, List.length_take]
          omega
        rw [if_neg hbuf, hcopy, Option.bind_eq_bind, Option.bind_some, ih (by omega), htake, hdrop]
        simp

/-- The loop runs over the end of a packet that is not. -/
theorem gather_eq_none {bufs : List Buf} {dst : Buf} {offset : Nat} (hoffset : offset ≤ dst.length)
    (h : dst.length < offset + bufs.flatten.length) : gather dst offset bufs = none := by
  induction bufs generalizing dst offset with
  | nil => simp at h; omega
  | cons buf bufs ih =>
      rw [List.flatten_cons, List.length_append] at h
      rw [gather]
      by_cases hbuf : buf = []
      · rw [if_pos hbuf]
        exact ih hoffset (by rw [hbuf, List.length_nil] at h; omega)
      · rw [if_neg hbuf]
        by_cases hfits : offset + buf.length ≤ dst.length
        · have hcopy := copyFrom_of_le hfits
          have hlen := length_copyFrom hcopy
          rw [hcopy, Option.bind_eq_bind, Option.bind_some, ih (by omega) (by omega)]
        · rw [copyFrom_eq_none (Nat.lt_of_not_le hfits)]
          rfl

/-- The loop copies slices into a packet of their total length. -/
theorem gather_of_length_eq {bufs : List Buf} {packet : Buf}
    (h : packet.length = bufs.flatten.length) : gather packet 0 bufs = some bufs.flatten := by
  rw [gather_eq (by omega), Nat.zero_add, ← h]
  simp

/-! ## One call -/

/-- What a send of `payload` in the session `s` may end in: one packet with the bytes of
the payload was sent; or the ring was full and the packet is dropped; or the call failed
and nothing was sent.  In no case is a packet left that was allocated and not sent, whose
drop would panic. -/
structure AllOrNothing (payload : Buf) (s : Session)
    (r : Except (Stop IoError) Unit × Session) : Prop where
  sent :
    r.1 = .ok () ∧ r.2.sent = s.sent ++ [payload] ∨
    r.1 = .ok () ∧ r.2.sent = s.sent ∧
      (∃ e, s.full (UInt16.ofNat payload.length) = some (.io e) ∧
        e.rawOsError = some ERROR_BUFFER_OVERFLOW) ∨
    (∃ e, r.1 = .error (.err e)) ∧ r.2.sent = s.sent
  unsent : r.2.unsent = s.unsent

/-- The packet that the session hands out for a payload, if any, is of its length. -/
def Allocates (s : Session) (payload : Buf) : Prop :=
  payload.length < UInt16.size ∨ s.full (UInt16.ofNat payload.length) ≠ none

/-- A failed allocation is a full ring, which is ignored, or an error. -/
theorem allocationFailed_cases (w : WintunError) :
    (∃ e, w = .io e ∧ e.rawOsError = some ERROR_BUFFER_OVERFLOW ∧ allocationFailed w = pure ()) ∨
      ∃ e, allocationFailed w = .fail e := by
  cases w with
  | other text => exact .inr ⟨_, rfl⟩
  | io e =>
      cases hcode : e.rawOsError with
      | none => exact .inr ⟨e, by simp [allocationFailed, hcode]⟩
      | some code =>
          by_cases hover : code = ERROR_BUFFER_OVERFLOW
          · exact .inl ⟨e, rfl, by rw [hcode, hover], by simp [allocationFailed, hcode, hover]⟩
          · by_cases heof : code = ERROR_HANDLE_EOF
            · exact .inr ⟨.wrap .brokenPipe e, by
                simp [allocationFailed, hcode, heof, ERROR_BUFFER_OVERFLOW, ERROR_HANDLE_EOF]⟩
            · exact .inr ⟨e, by simp [allocationFailed, hcode, hover, heof]⟩

/-- A send whose allocation failed returns exactly if the ring is full. -/
theorem allocationFailed_eq_ok_iff {w : WintunError} {s t : Session} :
    allocationFailed w s = (.ok (), t) ↔
      (∃ e, w = .io e ∧ e.rawOsError = some ERROR_BUFFER_OVERFLOW) ∧ t = s := by
  cases w with
  | other text => simp [allocationFailed]
  | io e =>
      cases hcode : e.rawOsError with
      | none => simp [allocationFailed, hcode]
      | some code =>
          by_cases hover : code = ERROR_BUFFER_OVERFLOW
          · simp [allocationFailed, hcode, hover, eq_comm]
          · simp only [allocationFailed, hcode, if_neg hover]
            split <;> simp [hcode, hover]

/-- A failed allocation is all or nothing. -/
theorem allOrNothing_of_full {payload : Buf} {s : Session} {w : WintunError}
    (h : s.full (UInt16.ofNat payload.length) = some w) :
    AllOrNothing payload s (allocationFailed w s) := by
  rcases allocationFailed_cases w with ⟨e, rfl, hcode, heq⟩ | ⟨e, heq⟩
  · rw [heq]
    exact ⟨.inr (.inl ⟨rfl, rfl, e, h, hcode⟩), rfl⟩
  · rw [heq]
    exact ⟨.inr (.inr ⟨⟨e, rfl⟩, rfl⟩), rfl⟩

/-- The packet handed out for a payload has the length of the payload modulo `UInt16.size`. -/
theorem length_allocated (payload : Buf) :
    (List.replicate (UInt16.ofNat payload.length).toNat (0 : UInt8)).length =
      payload.length % UInt16.size := by
  rw [List.length_replicate, UInt16.toNat_ofNat']

/-- A payload that is too long for the packet it gets: the copy panics, and the packet
is left unsent. -/
theorem withPacket_of_long {payload : Buf} {fill : Buf → Option Buf} {s : Session}
    (hfull : s.full (UInt16.ofNat payload.length) = none) (hlong : UInt16.size ≤ payload.length)
    (hshort : ∀ packet : Buf, packet.length < payload.length → fill packet = none) :
    withPacket payload.length (fillAndSend fill) s =
      (.error .panic, { s with unsent := s.unsent + 1 }) := by
  have hmod : payload.length % UInt16.size < payload.length :=
    Nat.lt_of_lt_of_le (Nat.mod_lt _ (by decide)) hlong
  have hnone := hshort _ (by rw [length_allocated payload]; exact hmod)
  unfold withPacket Session.allocateSendPacket
  simp only [hfull]
  rw [fillAndSend, hnone]
  rfl

/-- A payload of the length of the packet it gets is sent. -/
theorem withPacket_of_short {payload : Buf} {fill : Buf → Option Buf} {s : Session}
    (hfull : s.full (UInt16.ofNat payload.length) = none) (hfits : payload.length < UInt16.size)
    (hfill : ∀ packet : Buf, packet.length = payload.length → fill packet = some payload) :
    withPacket payload.length (fillAndSend fill) s =
      (.ok (), { s with sent := s.sent ++ [payload] }) := by
  unfold withPacket Session.allocateSendPacket
  simp only [hfull]
  rw [fillAndSend, hfill _ (by rw [length_allocated, Nat.mod_eq_of_lt hfits])]
  rfl

/-- What the two sends have in common: `fill` copies the payload into the packet, which
succeeds on a packet of its length and panics on a smaller one. -/
theorem allOrNothing_withPacket_iff {payload : Buf} {fill : Buf → Option Buf}
    (hfill : ∀ packet : Buf, packet.length = payload.length → fill packet = some payload)
    (hshort : ∀ packet : Buf, packet.length < payload.length → fill packet = none) (s : Session) :
    AllOrNothing payload s (withPacket payload.length (fillAndSend fill) s) ↔
      Allocates s payload := by
  rw [Allocates]
  cases hfull : s.full (UInt16.ofNat payload.length) with
  | some w =>
      simp only [ne_eq, reduceCtorEq, not_false_eq_true, or_true, iff_true]
      unfold withPacket Session.allocateSendPacket
      simp only [hfull]
      exact allOrNothing_of_full hfull
  | none =>
      simp only [ne_eq, not_true_eq_false, or_false]
      constructor
      · intro h
        by_contra hlong
        rw [withPacket_of_long hfull (Nat.le_of_not_lt hlong) hshort] at h
        exact absurd h.unsent (Nat.succ_ne_self _)
      · intro hfits
        rw [withPacket_of_short hfull hfits hfill]
        exact ⟨.inl ⟨rfl, rfl⟩, rfl⟩

/-- **Both sends are all or nothing exactly while the length fits in 16 bits**, or the
ring has no packet for what is left of it.  The slices may be cut in any way. -/
theorem allOrNothing_iff (s : Session) :
    (∀ buf, AllOrNothing buf s (send buf s) ↔ Allocates s buf) ∧
      ∀ bufs : List Buf, bufs.flatten ≠ [] →
        (AllOrNothing bufs.flatten s (sendVectored bufs s) ↔ Allocates s bufs.flatten) := by
  constructor
  · intro buf
    refine allOrNothing_withPacket_iff (fun packet h ↦ ?_) (fun packet h ↦ ?_) s
    · have hcopy : copyFrom packet 0 packet.length buf =
          some (packet.take 0 ++ buf ++ packet.drop packet.length) :=
        if_pos ⟨Nat.zero_le _, Nat.le_refl _, by omega⟩
      rw [hcopy, List.drop_length, List.append_nil]
      rfl
    · exact if_neg fun hc ↦ by omega
  · intro bufs hne
    have hsize : size bufs ≠ 0 := by
      rw [size_eq_length_flatten]
      intro h
      exact hne (List.length_eq_zero_iff.1 h)
    rw [sendVectored, if_neg hsize, size_eq_length_flatten]
    refine allOrNothing_withPacket_iff (fun packet h ↦ ?_) (fun packet h ↦ ?_) s
    · exact gather_of_length_eq h
    · exact gather_eq_none (Nat.zero_le _) (by omega)

/-- **A vectored send of something that returns** has sent one packet, or has found the
ring full and dropped it. -/
theorem sendVectored_eq_ok_iff {bufs : List Buf} (hne : bufs.flatten ≠ []) {s t : Session} :
    sendVectored bufs s = (.ok (), t) ↔
      (s.full (UInt16.ofNat bufs.flatten.length) = none ∧ bufs.flatten.length < UInt16.size ∧
          t = { s with sent := s.sent ++ [bufs.flatten] }) ∨
        s.RingFull bufs.flatten.length ∧ t = s := by
  have hsize : size bufs ≠ 0 := by
    rw [size_eq_length_flatten]
    intro h
    exact hne (List.length_eq_zero_iff.1 h)
  rw [sendVectored, if_neg hsize, size_eq_length_flatten]
  cases hfull : s.full (UInt16.ofNat bufs.flatten.length) with
  | some w =>
      have hcall : withPacket bufs.flatten.length
          (fillAndSend fun packet ↦ gather packet 0 bufs) s = allocationFailed w s := by
        unfold withPacket Session.allocateSendPacket
        simp only [hfull]
      rw [hcall, allocationFailed_eq_ok_iff, Session.RingFull, hfull]
      simp only [reduceCtorEq, false_and, false_or, Option.some.injEq]
  | none =>
      simp only [Session.RingFull, hfull, reduceCtorEq, false_and, exists_false, or_false, true_and]
      by_cases hfits : bufs.flatten.length < UInt16.size
      · rw [withPacket_of_short hfull hfits fun packet h ↦ gather_of_length_eq h, Prod.mk.injEq]
        constructor
        · intro h
          exact ⟨hfits, h.2.symm⟩
        · intro h
          exact ⟨rfl, h.2.symm⟩
      · rw [withPacket_of_long hfull (Nat.le_of_not_lt hfits)
          fun packet h ↦ gather_eq_none (Nat.zero_le _) (by omega)]
        constructor
        · intro h
          cases h
        · intro h
          exact absurd h.1 hfits

/-- A session whose ring always has room. -/
def roomySession : Session :=
  { inbound := [], shutdown := "", broken := none, full := fun _ ↦ none, sent := [], unsent := 0 }

/-- Two slices and an empty one are sent as one packet. -/
theorem allOrNothing_two_slices :
    AllOrNothing [1, 2, 3] roomySession (sendVectored [[1], [], [2, 3]] roomySession) :=
  ((allOrNothing_iff roomySession).2 [[1], [], [2, 3]] (by decide)).2 (.inl (by decide))

/-- A buffer of `65537` bytes gets a packet of one byte: the copy panics and leaves the
packet unsent. -/
theorem send_65537_panics :
    (send (List.replicate 65537 0) roomySession).1 = .error .panic ∧
      (send (List.replicate 65537 0) roomySession).2.unsent = 1 ∧
      ¬ AllOrNothing (List.replicate 65537 0) roomySession
        (send (List.replicate 65537 0) roomySession) := by
  have hlong : UInt16.size ≤ (List.replicate 65537 (0 : UInt8)).length := by
    rw [List.length_replicate]
    decide
  have hsend : send (List.replicate 65537 0) roomySession =
      (.error .panic, { roomySession with unsent := 1 }) :=
    withPacket_of_long rfl hlong fun packet h ↦ if_neg fun hc ↦ by omega
  rw [hsend]
  exact ⟨rfl, rfl, fun h ↦ nomatch h.unsent⟩

end Tun

end RustTun.Windows

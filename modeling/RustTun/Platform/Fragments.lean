import RustTun.Platform.Vectored

/-!
# Fragments make no difference

A packet that is sent may come in any number of slices, and one that is received may go
into any number of buffers.  `Writer::send_vectored` does what `Writer::send` does with the
slices put together, and `Reader::recv_vectored` what `Reader::recv` does with the buffers
put together, header or no header, as long as the call gets through to the driver.
-/

namespace RustTun

open Scatter

/-! ## The first nibble -/

/-- The first nibble of a packet. -/
def nibble (packet : Buf) : Option UInt8 := packet.head?.map fun b : UInt8 ↦ b >>> 4

/-- The packet begins as an IP packet does. -/
def IsIp (packet : Buf) : Prop := nibble packet = some 4 ∨ nibble packet = some 6

instance (packet : Buf) : Decidable (IsIp packet) := inferInstanceAs (Decidable (_ ∨ _))

/-- The version of an IP packet is its first nibble. -/
theorem isIpv6_of_isIp {packet : Buf} (h : IsIp packet) :
    isIpv6 packet = .ok (decide (nibble packet = some 6)) := by
  cases packet with
  | nil => rcases h with h | h <;> cases h
  | cons b packet =>
      rcases h with h | h
      · have hb : b >>> 4 = 4 := Option.some.inj h
        simp [isIpv6, nibble, hb]
      · have hb : b >>> 4 = 6 := Option.some.inj h
        simp [isIpv6, nibble, hb]

/-- What does not begin as an IP packet does is invalid data. -/
theorem isIpv6_of_not_isIp {packet : Buf} (h : ¬ IsIp packet) :
    ∃ text, isIpv6 packet = .error (.new .invalidData text) := by
  cases packet with
  | nil => exact ⟨_, rfl⟩
  | cons b packet =>
      have h4 : b >>> 4 ≠ 4 := fun hb ↦ h (.inl (congrArg some hb))
      have h6 : b >>> 4 ≠ 6 := fun hb ↦ h (.inr (congrArg some hb))
      exact ⟨"IP version " ++ toString (b >>> 4), by simp only [isIpv6, if_neg h4, if_neg h6]⟩

/-! ## Calls that get through -/

/-- A vectored call on `bufs` behind a header of length `offset` gets through: there are
not too many buffers, and the driver is willing. -/
structure File.Takes (f : File) (offset : Nat) (bufs : List Buf) : Prop where
  accepts : File.Accepts offset bufs
  willing : f.refusals.head?.join = none

namespace File

/-- One buffer is never too many. -/
theorem accepts_singleton (offset : Nat) (buf : Buf) : Accepts offset [buf] := by
  have hlen : (nonempty [buf]).length ≤ 1 := List.length_filter_le _ _
  have hmax : 1 < iovMax := by decide
  rw [Accepts]
  split
  · exact Nat.le_of_lt hmax
  · omega

/-- A call that gets through with some buffers gets through with one. -/
theorem Takes.singleton {f : File} {offset : Nat} {bufs : List Buf} (h : f.Takes offset bufs)
    (buf : Buf) : f.Takes offset [buf] :=
  ⟨accepts_singleton offset buf, h.willing⟩

end File

/-! ## Sending -/

namespace Writer

/-- The header a packet is sent behind, if there is to be one. -/
def headerOf (os : TargetOs) (w : Writer) (packet : Buf) : Buf :=
  w.header os (decide (nibble packet = some 6))

/-- The frame of a packet that needs no header, or has one. -/
theorem frame_of_isIp {os : TargetOs} {w : Writer} {packet : Buf}
    (h : w.offset = 0 ∨ IsIp packet) :
    w.frame os packet = .ok (w.headerOf os packet ++ packet) := by
  rw [frame, headerOf]
  by_cases ho : w.offset = 0
  · rw [if_pos ho, header, ho, List.take_zero, List.nil_append]
  · rw [if_neg ho, isIpv6_of_isIp (h.resolve_left ho)]
    rfl

/-- A gathered write that gets through puts out one frame. -/
theorem sendVectored_of_takes {os : TargetOs} {w : Writer} {bufs : List Buf} {f : File}
    (hne : bufs.flatten ≠ []) (hip : w.offset = 0 ∨ IsIp bufs.flatten)
    (htakes : f.Takes w.offset bufs) :
    w.sendVectored os bufs f = (.ok (),
      { f with
        outbound := f.outbound ++ [w.headerOf os bufs.flatten ++ bufs.flatten]
        refusals := f.refusals.tail }) :=
  (sendVectored_eq_ok_iff hne).2 ⟨htakes.accepts, _, frame_of_isIp hip,
    File.submit_eq_ok_iff.2 ⟨htakes.willing, rfl⟩⟩

/-- **Sending slices is sending what they make up.**  With a header in front, what is not
an IP packet is refused either way; otherwise, whenever the gathered write gets through,
both calls put out the same frame, and `write_vectored` counts the bytes of the packet. -/
theorem sendVectored_eq_send (os : TargetOs) (w : Writer) (bufs : List Buf)
    (hne : bufs.flatten ≠ []) (f : File) :
    (w.offset ≠ 0 ∧ ¬ IsIp bufs.flatten →
      ∃ text, w.sendVectored os bufs f = (.error (.err (.new .invalidData text)), f) ∧
        w.send os bufs.flatten f = (.error (.err (.new .invalidData text)), f)) ∧
    (¬ (w.offset ≠ 0 ∧ ¬ IsIp bufs.flatten) → f.Takes w.offset bufs →
      let frame := (packetInformation os (decide (nibble bufs.flatten = some 6))).take w.offset
        ++ bufs.flatten
      let g := { f with outbound := f.outbound ++ [frame], refusals := f.refusals.tail }
      w.sendVectored os bufs f = (.ok (), g) ∧ w.send os bufs.flatten f = (.ok (), g) ∧
        (w.writeImpl os).vectored bufs f = (.ok bufs.flatten.length, g)) := by
  have hone : [bufs.flatten].flatten = bufs.flatten := List.flatten_singleton ..
  have hflat : w.send os bufs.flatten f = w.sendVectored os [bufs.flatten] f := by
    rw [send_eq_sendVectored os w hne]
  rw [hflat]
  constructor
  · rintro ⟨ho, hip⟩
    obtain ⟨text, htext⟩ := isIpv6_of_not_isIp hip
    exact ⟨text, sendVectored_header_invalid os ho htext hne f,
      sendVectored_header_invalid os ho (by rw [hone, htext]) (by rwa [hone]) f⟩
  · intro hvalid htakes frame g
    have hip : w.offset = 0 ∨ IsIp bufs.flatten := by
      by_cases ho : w.offset = 0
      · exact .inl ho
      · exact .inr (not_not.1 fun hip ↦ hvalid ⟨ho, hip⟩)
    have hsend : w.sendVectored os bufs f = (.ok (), g) := sendVectored_of_takes hne hip htakes
    have hsendOne : w.sendVectored os [bufs.flatten] f = (.ok (), g) := by
      rw [sendVectored_of_takes (by rwa [hone]) (by rwa [hone]) (htakes.singleton _), hone]
      rfl
    refine ⟨hsend, hsendOne, ?_⟩
    have hwrite : (w.writeImpl os).vectored bufs f = (.ok (size bufs), g) :=
      Call.bind_of_ok hsend _
    rw [hwrite, size_eq_length_flatten]

/-- An IPv6 packet in two slices and an empty one between them, behind packet information. -/
theorem sendVectored_two_slices :
    (Tun.sample true).writer.sendVectored .linux [[0x60], [], [1, 2]]
        { inbound := [], outbound := [], refusals := [], nonblock := false } =
      (.ok (), { inbound := [], outbound := [[0, 0, 0x86, 0xDD, 0x60, 1, 2]], refusals := []
                 nonblock := false }) := by
  have hne : ([[0x60], [], [1, 2]] : List Buf).flatten ≠ [] := by decide
  have h := (sendVectored_eq_send .linux (Tun.sample true).writer _ hne
    { inbound := [], outbound := [], refusals := [], nonblock := false }).2
  exact (h (fun hc ↦ hc.2 (.inr rfl)) ⟨by decide, rfl⟩).1

end Writer

/-! ## Receiving -/

/-- The device after a read that got through and found a frame: the frame is gone, unless
there was no room for anything. -/
def File.afterRead (f : File) (offset : Nat) (bufs rest : List Buf) : File :=
  if offset ≠ 0 ∨ bufs.flatten ≠ [] then { f with inbound := rest, refusals := f.refusals.tail }
  else f

namespace Reader

/-- A scattered read that gets through and finds a frame. -/
theorem recvVectored_of_takes (os : TargetOs) {r : Reader} {bufs : List Buf} {f : File}
    {frame : Buf} {rest : List Buf} (hin : f.inbound = frame :: rest)
    (htakes : f.Takes r.offset bufs) :
    r.recvVectored os bufs f = (.ok (min (frame.length - r.offset) (capacity bufs),
      scatter (frame.drop r.offset) bufs), f.afterRead r.offset bufs rest) := by
  rw [File.afterRead]
  by_cases hroom : r.offset ≠ 0 ∨ bufs.flatten ≠ []
  · rw [if_pos hroom]
    exact (recvVectored_eq_ok_iff hroom).2 ⟨htakes.accepts,
      File.receive_eq_ok_iff.2 ⟨htakes.willing, frame, rest, hin, rfl, rfl, rfl⟩⟩
  · rw [if_neg hroom]
    rw [not_or, not_not, not_not] at hroom
    obtain ⟨ho, hnil⟩ := hroom
    have hcap : capacity bufs = 0 := by rw [capacity_eq_length_flatten, hnil]; rfl
    have hlen : bufs.length ≤ File.iovMax := by
      have haccepts := htakes.accepts
      rwa [File.Accepts, if_pos ho] at haccepts
    rw [recvVectored_plain ho, Fd.checked_eq_ok, File.readv_of_flatten_eq_nil hlen hnil,
      scatter_of_capacity_eq_zero hcap, hcap, Nat.min_zero]

/-- A flat read that gets through and finds a frame. -/
theorem recv_of_takes (os : TargetOs) {r : Reader} {buf : Buf} {f : File} {frame : Buf}
    {rest : List Buf} (hin : f.inbound = frame :: rest) (htakes : f.Takes r.offset [buf]) :
    r.recv os buf f = (.ok (min (frame.length - r.offset) buf.length,
      overwrite (frame.drop r.offset) buf), f.afterRead r.offset [buf] rest) := by
  have h := recv_eq_recvVectored os r buf f
  rw [recvVectored_of_takes os hin htakes] at h
  rcases hrecv : r.recv os buf f with ⟨_ | ⟨n, filled⟩, g⟩
  · rw [hrecv] at h
    cases h
  · rw [hrecv] at h
    simpa [Except.map] using h.symm

/-- What is in the buffers after a read that gets through and finds a frame. -/
theorem flatten_of_takes {r : Reader} {bufs : List Buf} {frame : Buf} {n : Nat}
    (hn : n = min (frame.length - r.offset) (capacity bufs)) :
    (scatter (frame.drop r.offset) bufs).flatten =
      (frame.drop r.offset).take n ++ bufs.flatten.drop n := by
  rw [flatten_scatter, overwrite_eq_take_append_drop]
  rw [hn, List.length_drop, capacity_eq_length_flatten]

/-- **Receiving into buffers is receiving into what they make up.**  A read that gets
through returns how much of the frame is behind the header, as far as there is room; the
buffers hold that much of it, followed by what they held before, and a flat read of the
same size does the same.  So what is sent in any slices is received in any buffers that
are large enough. -/
theorem recvVectored_eq_recv (os : TargetOs) (w : Writer) (r : Reader) :
    (∀ (bufs : List Buf) (f : File) (frame : Buf) (rest : List Buf),
      f.inbound = frame :: rest → f.Takes r.offset bufs →
      let n := min (frame.length - r.offset) (capacity bufs)
      ∃ filled g, r.recvVectored os bufs f = (.ok (n, filled), g) ∧
        filled.map List.length = bufs.map List.length ∧
        filled.flatten = (frame.drop r.offset).take n ++ bufs.flatten.drop n ∧
        r.recv os bufs.flatten f = (.ok (n, filled.flatten), g)) ∧
    (w.offset = r.offset → ∀ (src : List Buf) (f g : File) (frame : Buf), src.flatten ≠ [] →
      w.sendVectored os src f = (.ok (), g) → g.outbound = f.outbound ++ [frame] →
      ∀ (dst : List Buf) (h : File) (rest : List Buf), src.flatten.length ≤ capacity dst →
        h.inbound = frame :: rest → h.Takes r.offset dst →
        ∃ filled k, r.recvVectored os dst h = (.ok (src.flatten.length, filled), k) ∧
          filled.flatten.take src.flatten.length = src.flatten) := by
  constructor
  · intro bufs f frame rest hin htakes n
    have hsame : f.afterRead r.offset [bufs.flatten] rest = f.afterRead r.offset bufs rest := by
      rw [File.afterRead, List.flatten_singleton, File.afterRead]
    refine ⟨_, _, recvVectored_of_takes os hin htakes, map_length_scatter _ _,
      flatten_of_takes rfl, ?_⟩
    rw [recv_of_takes os hin (htakes.singleton _), hsame, flatten_scatter,
      ← capacity_eq_length_flatten]
  · intro ho src f g frame hne hsend hout dst h rest hroom hin htakes
    obtain ⟨header, hlen, hframe⟩ := Writer.packet_of_sendVectored_eq_ok hne hsend
    have heq : frame = header ++ src.flatten := by
      rw [hout, List.append_cancel_left_eq, List.cons.injEq] at hframe
      exact hframe.1
    have hbody : frame.drop r.offset = src.flatten := by
      rw [heq, ← ho, ← hlen, List.drop_left]
    have hn : src.flatten.length = min (frame.length - r.offset) (capacity dst) := by
      rw [← List.length_drop, hbody, Nat.min_eq_left hroom]
    have hrecv := recvVectored_of_takes os hin htakes
    rw [← hn] at hrecv
    refine ⟨_, _, hrecv, ?_⟩
    rw [flatten_of_takes hn, hbody, List.take_length, List.take_left]

/-- A packet behind packet information is read into two buffers and an empty one. -/
theorem recvVectored_two_buffers :
    (Tun.sample true).reader.recv .linux [9, 9, 9, 9]
        { inbound := [[0, 0, 8, 0, 0x45, 1, 2]], outbound := [], refusals := []
          nonblock := false } =
      (.ok (3, [0x45, 1, 2, 9]),
        { inbound := [], outbound := [], refusals := [], nonblock := false }) := by
  obtain ⟨filled, g, hrecv, -, -, hflat⟩ := (recvVectored_eq_recv .linux (Tun.sample true).writer
    (Tun.sample true).reader).1 [[9, 9], [], [9, 9]]
    { inbound := [[0, 0, 8, 0, 0x45, 1, 2]], outbound := [], refusals := [], nonblock := false }
    _ _ rfl ⟨by decide, rfl⟩
  cases hrecv
  exact hflat

end Reader

end RustTun

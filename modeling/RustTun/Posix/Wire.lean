import RustTun.Posix.Split

/-!
# What reading and writing do to the packet device

The four calls of `Reader` and `Writer` in terms of the device: `File.receive` takes
one frame and hands over what is behind its header, and `File.submit` puts one frame
out.  Each call is one of the two, guarded by the checks made on the way (of the number of
buffers, of the room in them, and of the first nibble of what is sent):

| call | without header | with header |
|---|---|---|
| `recv` | nothing to read into: `0` | |
| `recv_vectored` | too many; nothing to read into: `0` | too many non-empty |
| `send` | nothing to write | nibble |
| `send_vectored` | too many; nothing to write | nothing to write; nibble; too many non-empty |

The two columns differ in more than the header: without it the buffers are counted
and weighed as they are, with it only the non-empty ones are counted and the header
itself makes room for something to be read.
-/

namespace RustTun

open Scatter

namespace File

/-- Take the oldest frame and scatter what is behind its first `offset` bytes. -/
def deliverPast (os : TargetOs) (offset : Nat) (bufs : List Buf) (f : File) :
    Except Errno (Nat × List Buf) × File :=
  match f.inbound with
  | [] => (.error (EAGAIN os), f)
  | p :: ps =>
    (.ok (min (p.length - offset) (capacity bufs), scatter (p.drop offset) bufs),
      { f with inbound := ps })

/-- Receive one frame from behind its header. -/
def receive (os : TargetOs) (offset : Nat) (bufs : List Buf) :
    File → Except Errno (Nat × List Buf) × File :=
  reach (deliverPast os offset bufs)

/-- Change what a successful call returns. -/
def mapOk {α β : Type} (g : α → β) (call : File → Except Errno α × File) :
    File → Except Errno β × File := fun f ↦ ((call f).1.map g, (call f).2)

theorem mapOk_reach {α β : Type} (g : α → β) (call : File → Except Errno α × File) :
    mapOk g (reach call) = reach (mapOk g call) := by
  funext f
  unfold mapOk reach
  rcases f.refusals.head?.join with _ | e <;> rfl

theorem mapOk_mapOk {α β γ : Type} (g : α → β) (h : β → γ) (call : File → Except Errno α × File) :
    mapOk h (mapOk g call) = mapOk (fun a ↦ h (g a)) call := by
  funext f
  unfold mapOk
  rcases call f with ⟨_ | a, f⟩ <;> rfl

theorem checked_bind_pure {α β : Type} (call : File → Except Errno α × File) (g : α → β) :
    (Fd.checked call >>= fun a ↦ pure (g a)) = Fd.checked (mapOk g call) := by
  funext f
  rw [Call.bind_apply]
  unfold Fd.checked mapOk
  rcases call f with ⟨_ | a, f⟩ <;> rfl

/-- The number of buffers is one that a vectored call goes on with. -/
def Accepts (offset : Nat) (bufs : List Buf) : Prop :=
  if offset = 0 then bufs.length ≤ iovMax else (nonempty bufs).length < iovMax

instance (offset : Nat) (bufs : List Buf) : Decidable (Accepts offset bufs) :=
  inferInstanceAs (Decidable
    (if offset = 0 then bufs.length ≤ iovMax else (nonempty bufs).length < iovMax))

/-- Submit one frame. -/
def submit (frame : Buf) : File → Except Errno Unit × File := reach (emit frame)

variable {os : TargetOs}

theorem deliver_eq_deliverPast (bufs : List Buf) : deliver os bufs = deliverPast os 0 bufs := by
  funext f
  unfold deliver deliverPast
  rcases f.inbound with _ | ⟨p, ps⟩ <;> rfl

theorem readv_of_le {bufs : List Buf} (hlen : bufs.length ≤ iovMax) (hcap : bufs.flatten ≠ []) :
    readv os bufs = receive os 0 bufs := by
  have h0 : capacity bufs ≠ 0 := by
    rw [capacity_eq_length_flatten]
    intro h
    exact hcap (List.length_eq_zero_iff.1 h)
  funext f
  rw [readv, if_neg (by omega), if_neg h0, receive, deliver_eq_deliverPast]

theorem readv_of_flatten_eq_nil {bufs : List Buf} (hlen : bufs.length ≤ iovMax)
    (hcap : bufs.flatten = []) (f : File) : readv os bufs f = (.ok (0, bufs), f) := by
  rw [readv, if_neg (by omega), if_pos (by rw [capacity_eq_length_flatten, hcap]; rfl)]

theorem readv_of_lt {bufs : List Buf} (hlen : iovMax < bufs.length) (f : File) :
    readv os bufs f = (.error EINVAL, f) := by
  rw [readv, if_pos hlen]

/-- **A receive returns exactly if the driver is willing and there is a frame**, and then
returns what fits of it. -/
theorem receive_eq_ok_iff {offset n : Nat} {bufs filled : List Buf} {f g : File} :
    receive os offset bufs f = (.ok (n, filled), g) ↔
      f.refusals.head?.join = none ∧ ∃ p rest, f.inbound = p :: rest ∧
        n = min (p.length - offset) (capacity bufs) ∧ filled = scatter (p.drop offset) bufs ∧
        g = { f with inbound := rest, refusals := f.refusals.tail } := by
  unfold receive reach
  cases href : f.refusals.head?.join with
  | some e => simp
  | none =>
      rw [deliverPast]
      cases hin : f.inbound with
      | nil => simp
      | cons p ps =>
          simp only [Prod.mk.injEq, Except.ok.injEq, List.cons.injEq, true_and]
          constructor
          · rintro ⟨⟨rfl, rfl⟩, rfl⟩
            exact ⟨p, ps, ⟨rfl, rfl⟩, rfl, rfl, rfl⟩
          · rintro ⟨p', rest, ⟨rfl, rfl⟩, rfl, rfl, rfl⟩
            exact ⟨⟨rfl, rfl⟩, rfl⟩

/-- **A submission returns exactly if the driver is willing.** -/
theorem submit_eq_ok_iff {frame : Buf} {f g : File} :
    submit frame f = (.ok (), g) ↔
      f.refusals.head?.join = none ∧
        g = { f with outbound := f.outbound ++ [frame], refusals := f.refusals.tail } := by
  unfold submit reach
  cases href : f.refusals.head?.join with
  | some e => simp
  | none => simp [emit, eq_comm]

/-- One buffer comes back as one buffer. -/
theorem receive_singleton {offset : Nat} {buf : Buf} {n : Nat} {filled : List Buf} {f g : File}
    (h : receive os offset [buf] f = (.ok (n, filled), g)) : ∃ b, filled = [b] := by
  unfold receive reach deliverPast at h
  split at h
  · cases h
  · split at h
    · cases h
    · cases h
      exact ⟨_, rfl⟩

/-- One buffer comes back as one buffer. -/
theorem readv_singleton {buf : Buf} {n : Nat} {filled : List Buf} {f g : File}
    (h : readv os [buf] f = (.ok (n, filled), g)) : ∃ b, filled = [b] := by
  have hlen : [buf].length ≤ iovMax := (by decide : 1 ≤ iovMax)
  by_cases hb : [buf].flatten = []
  · rw [readv_of_flatten_eq_nil hlen hb] at h
    cases h
    exact ⟨buf, rfl⟩
  · rw [readv_of_le hlen hb] at h
    exact receive_singleton h

theorem writev_of_le {bufs : List Buf} (hlen : bufs.length ≤ iovMax) (hne : bufs.flatten ≠ []) :
    writev bufs = submit bufs.flatten := by
  funext f
  rw [writev, if_neg (by omega), if_neg hne, submit]

theorem writev_of_lt {bufs : List Buf} (hlen : iovMax < bufs.length) (f : File) :
    writev bufs f = (.error EINVAL, f) := by
  rw [writev, if_pos hlen]

theorem write_of_ne {buf : Buf} (hne : buf ≠ []) : write buf = submit buf := by
  funext f
  rw [write, if_neg hne, submit]

end File

/-! ## Reading -/

namespace Reader

variable {os : TargetOs} {r : Reader}

/-- Reading into the header and then into `bufs` takes off the header. -/
theorem mapOk_deliver {header : Buf} (hlen : header.length = r.offset) (bufs : List Buf) :
    File.mapOk (fun x ↦ (r.payload x.1, x.2.drop 1)) (File.deliver os (header :: bufs)) =
      File.deliverPast os r.offset bufs := by
  funext f
  unfold File.mapOk File.deliver File.deliverPast
  rcases f.inbound with _ | ⟨p, ps⟩
  · rfl
  · have hn : r.payload (min p.length (r.offset + capacity bufs)) =
        min (p.length - r.offset) (capacity bufs) := by
      rw [payload]
      split <;> omega
    simp [Except.map, hlen, hn]

/-- The header fits. -/
@[simp] theorem length_header (r : Reader) : r.header.length = r.offset := by
  have := r.offset_le
  rw [header, List.length_take, List.length_replicate]
  omega

/-- Reading the header and some more buffers, as long as there are not too many. -/
theorem mapOk_readv (ho : r.offset ≠ 0) {bufs : List Buf} (hlen : bufs.length < File.iovMax) :
    File.mapOk (fun x ↦ (r.payload x.1, x.2.drop 1))
        (File.readv os (r.header :: bufs)) =
      File.receive os r.offset bufs := by
  have hne : (r.header :: bufs).flatten ≠ [] := by
    intro h
    have hnil := List.flatten_eq_nil_iff.1 h _ List.mem_cons_self
    exact ho (by rw [← r.length_header, hnil]; rfl)
  rw [File.readv_of_le (by simp only [List.length_cons]; omega) hne, File.receive,
    ← File.deliver_eq_deliverPast, File.mapOk_reach, mapOk_deliver r.length_header, File.receive]

/-- Without a header the buffers are read into as they are. -/
theorem recvVectored_plain (ho : r.offset = 0) (bufs : List Buf) :
    r.recvVectored os bufs = Fd.checked (File.readv os bufs) := by
  rw [recvVectored, if_pos ho, Fd.readv_eq]

/-- With a header a read receives into the caller's buffers what is behind it. -/
theorem recvVectored_header (ho : r.offset ≠ 0) {bufs : List Buf}
    (hlen : (nonempty bufs).length < File.iovMax) :
    r.recvVectored os bufs = Fd.checked (File.receive os r.offset bufs) := by
  have hmap : r.recvVectored os bufs =
      Fd.checked (File.mapOk (fun x ↦ (x.1, refill bufs x.2))
        (File.mapOk (fun x ↦ (r.payload x.1, x.2.drop 1))
          (File.readv os (r.header :: nonempty bufs)))) := by
    rw [recvVectored, if_neg ho, Fd.readv_eq, File.mapOk_mapOk]
    exact File.checked_bind_pure _ _
  rw [hmap, mapOk_readv ho hlen, File.receive, File.mapOk_reach, File.receive]
  congr 2
  funext f
  unfold File.mapOk File.deliverPast
  rcases f.inbound with _ | ⟨p, ps⟩
  · rfl
  · simp [Except.map, refill_scatter]

/-- With a header in front there is room for one buffer less. -/
theorem recvVectored_header_full (ho : r.offset ≠ 0) {bufs : List Buf}
    (hlen : File.iovMax ≤ (nonempty bufs).length) (f : File) :
    r.recvVectored os bufs f = (.error (.err (.os File.EINVAL)), f) := by
  have hlt : File.iovMax < (r.header :: nonempty bufs).length := by
    simp only [List.length_cons]; omega
  rw [recvVectored, if_neg ho, Fd.readv_eq]
  refine Call.bind_of_error ?_ _
  rw [Fd.checked, File.readv_of_lt hlt]

/-- **A flat read is a scattered read into one buffer.** -/
theorem recv_eq_recvVectored (os : TargetOs) (r : Reader) (buf : Buf) (f : File) :
    r.recvVectored os [buf] f =
      ((r.recv os buf f).1.map (fun x ↦ (x.1, [x.2])), (r.recv os buf f).2) := by
  by_cases ho : r.offset = 0
  · rw [recvVectored_plain ho, recv, if_pos ho]
    unfold Fd.read Fd.checked File.read
    rcases hr : File.readv os [buf] f with ⟨_ | ⟨n, filled⟩, g⟩
    · rfl
    · obtain ⟨b, rfl⟩ := File.readv_singleton hr
      rfl
  · have hrecv : r.recv os buf = Fd.checked (File.mapOk (fun x ↦ (x.1, x.2.headD buf))
        (File.mapOk (fun x ↦ (r.payload x.1, x.2.drop 1)) (File.readv os [r.header, buf]))) := by
      rw [recv, if_neg ho, Fd.readv_eq, File.mapOk_mapOk]
      exact File.checked_bind_pure _ _
    have hlen : [buf].length < File.iovMax := (by decide : 1 < File.iovMax)
    have hone : (nonempty [buf]).length < File.iovMax :=
      Nat.lt_of_le_of_lt (List.length_filter_le _ _) hlen
    rw [hrecv, mapOk_readv ho hlen, recvVectored_header ho hone]
    unfold Fd.checked File.mapOk
    rcases hr : File.receive os r.offset [buf] f with ⟨_ | ⟨n, filled⟩, g⟩
    · rfl
    · obtain ⟨b, rfl⟩ := File.receive_singleton hr
      rfl

/-- A flat read with room for something, the header included, receives one frame. -/
theorem recv_eq_receive (os : TargetOs) (r : Reader) {buf : Buf}
    (hroom : r.offset ≠ 0 ∨ buf ≠ []) (f : File) :
    ((r.recv os buf f).1.map (fun x ↦ (x.1, [x.2])), (r.recv os buf f).2) =
      Fd.checked (File.receive os r.offset [buf]) f := by
  have hmax : 1 < File.iovMax := by decide
  rw [← recv_eq_recvVectored]
  by_cases ho : r.offset = 0
  · have hne : [buf].flatten ≠ [] := by simpa using hroom.resolve_left (fun h ↦ h ho)
    have hlen : [buf].length ≤ File.iovMax := Nat.le_of_lt hmax
    rw [recvVectored_plain ho, File.readv_of_le hlen hne, ho]
  · have hone : (nonempty [buf]).length < File.iovMax :=
      Nat.lt_of_le_of_lt (List.length_filter_le _ _) hmax
    rw [recvVectored_header ho hone]

/-- A scattered read with room for something returns exactly if there are not too many
buffers and a frame is received. -/
theorem recvVectored_eq_ok_iff {bufs filled : List Buf} {n : Nat} {f g : File}
    (hroom : r.offset ≠ 0 ∨ bufs.flatten ≠ []) :
    r.recvVectored os bufs f = (.ok (n, filled), g) ↔
      File.Accepts r.offset bufs ∧ File.receive os r.offset bufs f = (.ok (n, filled), g) := by
  rw [File.Accepts]
  by_cases ho : r.offset = 0
  · have hne : bufs.flatten ≠ [] := hroom.resolve_left fun h ↦ h ho
    rw [recvVectored_plain ho, Fd.checked_eq_ok, if_pos ho]
    by_cases hlen : bufs.length ≤ File.iovMax
    · rw [File.readv_of_le hlen hne, ho]
      constructor
      · intro h
        exact ⟨hlen, h⟩
      · intro h
        exact h.2
    · rw [File.readv_of_lt (Nat.lt_of_not_le hlen)]
      constructor
      · intro h
        cases h
      · intro h
        exact absurd h.1 hlen
  · rw [if_neg ho]
    by_cases hlen : (nonempty bufs).length < File.iovMax
    · rw [recvVectored_header ho hlen, Fd.checked_eq_ok]
      constructor
      · intro h
        exact ⟨hlen, h⟩
      · intro h
        exact h.2
    · rw [recvVectored_header_full ho (Nat.le_of_not_lt hlen)]
      constructor
      · intro h
        cases h
      · intro h
        exact absurd h.1 hlen

/-- A scattered read with room for something that returned took one frame, and filled the
buffers in order with what is behind its header. -/
theorem packet_of_recvVectored_eq_ok {bufs filled : List Buf} {n : Nat} {f g : File}
    (hroom : r.offset ≠ 0 ∨ bufs.flatten ≠ [])
    (h : r.recvVectored os bufs f = (.ok (n, filled), g)) :
    ∃ frame, f.inbound = frame :: g.inbound ∧
      n = min (frame.length - r.offset) (capacity bufs) ∧
      filled = scatter (frame.drop r.offset) bufs := by
  obtain ⟨-, hreceive⟩ := (recvVectored_eq_ok_iff hroom).1 h
  obtain ⟨-, frame, rest, hin, hn, hfilled, rfl⟩ := File.receive_eq_ok_iff.1 hreceive
  exact ⟨frame, hin, hn, hfilled⟩

/-- A scattered read without room for anything takes no frame. -/
theorem state_of_recvVectored_eq_ok {bufs : List Buf} {x : Nat × List Buf} {f g : File}
    (ho : r.offset = 0) (hroom : bufs.flatten = []) (h : r.recvVectored os bufs f = (.ok x, g)) :
    g = f := by
  rw [recvVectored_plain ho, Fd.checked_eq_ok] at h
  by_cases hlen : bufs.length ≤ File.iovMax
  · rw [File.readv_of_flatten_eq_nil hlen hroom] at h
    cases h
    rfl
  · rw [File.readv_of_lt (Nat.lt_of_not_le hlen)] at h
    cases h

/-- A flat read that is large enough returns what is behind the header of the oldest
frame. -/
theorem take_of_recv_eq_ok {f g : File} {header body buf filled : Buf} {n : Nat}
    (hin : f.inbound.head? = some (header ++ body)) (hlen : header.length = r.offset)
    (hne : body ≠ []) (hbuf : body.length ≤ buf.length)
    (h : r.recv os buf f = (.ok (n, filled), g)) : n = body.length ∧ filled.take n = body := by
  have hpos : 0 < body.length := List.length_pos_iff.2 hne
  have hrecv := recv_eq_receive os r
    (.inr (List.ne_nil_of_length_pos (Nat.lt_of_lt_of_le hpos hbuf))) f
  rw [h] at hrecv
  obtain ⟨-, p, rest, hp, rfl, hfilled, -⟩ :=
    File.receive_eq_ok_iff.1 (Fd.checked_eq_ok.1 hrecv.symm)
  rw [hp, List.head?_cons, Option.some.injEq] at hin
  subst hin
  rw [← hlen, List.drop_left, scatter_cons, scatter_nil, List.cons.injEq] at hfilled
  obtain ⟨rfl, -⟩ := hfilled
  have hn : min ((header ++ body).length - r.offset) (capacity [buf]) = body.length := by
    rw [← hlen, List.length_append, capacity_cons, capacity_nil]
    omega
  refine ⟨hn, ?_⟩
  rw [hn, ← Nat.min_eq_left hbuf, take_overwrite, List.take_of_length_le hbuf]

end Reader

/-! ## Writing -/

/-- The protocol is that of the first non-empty buffer, which is that of the packet. -/
theorem isIpv6_flatten {bufs rest : List Buf} {first : Buf} (h : nonempty bufs = first :: rest) :
    isIpv6 bufs.flatten = isIpv6 first := by
  have hne : first ≠ [] := ne_nil_of_mem_nonempty (by rw [h]; exact List.mem_cons_self)
  rw [← flatten_nonempty, h, List.flatten_cons]
  cases first with
  | nil => exact absurd rfl hne
  | cons b first => rfl

namespace Writer

variable {w : Writer}

/-- The header is the whole of the packet information if there is one. -/
theorem length_header_of_offset (os : TargetOs) (ipv6 : Bool) (ho : w.offset = PIL) :
    (w.header os ipv6).length = PIL := by
  rw [header, ho, List.length_take, length_packetInformation, Nat.min_self]

/-- Without a header the buffers are written as they are. -/
theorem sendVectored_plain (os : TargetOs) (ho : w.offset = 0) (bufs : List Buf) :
    w.sendVectored os bufs = Fd.checked (File.writev bufs) := by
  rw [sendVectored, if_pos ho, Fd.writev_eq]

/-- With a header the buffers are written behind the header of their protocol. -/
theorem sendVectored_of_isIpv6 (os : TargetOs) (ho : w.offset ≠ 0) {bufs : List Buf}
    {ipv6 : Bool} (hip : isIpv6 bufs.flatten = .ok ipv6) :
    w.sendVectored os bufs = Fd.checked (File.writev (w.header os ipv6 :: nonempty bufs)) := by
  rw [sendVectored, if_neg ho]
  rcases h : nonempty bufs with _ | ⟨first, rest⟩
  · rw [nonempty_eq_nil_iff.1 h] at hip
    cases hip
  · rw [isIpv6_flatten h] at hip
    simp only [hip]
    rw [Fd.writev_eq]

/-- With a header a packet is submitted behind the header of its protocol. -/
theorem sendVectored_header (os : TargetOs) (ho : w.offset ≠ 0) {bufs : List Buf} {ipv6 : Bool}
    (hip : isIpv6 bufs.flatten = .ok ipv6) (hlen : (nonempty bufs).length < File.iovMax) :
    w.sendVectored os bufs = Fd.checked (File.submit (w.header os ipv6 ++ bufs.flatten)) := by
  have hflat : (w.header os ipv6 :: nonempty bufs).flatten =
      w.header os ipv6 ++ bufs.flatten := by
    rw [List.flatten_cons, flatten_nonempty]
  have hne : bufs.flatten ≠ [] := by
    intro h
    rw [h] at hip
    cases hip
  rw [sendVectored_of_isIpv6 os ho hip,
    File.writev_of_le (by simp only [List.length_cons]; omega) (by simp [hflat, hne]), hflat]

/-- With a header in front there is room for one buffer less. -/
theorem sendVectored_header_full (os : TargetOs) (ho : w.offset ≠ 0) {bufs : List Buf}
    {ipv6 : Bool} (hip : isIpv6 bufs.flatten = .ok ipv6)
    (hlen : File.iovMax ≤ (nonempty bufs).length) (f : File) :
    w.sendVectored os bufs f = (.error (.err (.os File.EINVAL)), f) := by
  rw [sendVectored_of_isIpv6 os ho hip, Fd.checked,
    File.writev_of_lt (by simp only [List.length_cons]; omega)]

/-- With a header a buffer that is not a packet is refused before anything is written. -/
theorem sendVectored_header_invalid (os : TargetOs) (ho : w.offset ≠ 0) {bufs : List Buf}
    {e : IoError} (hip : isIpv6 bufs.flatten = .error e) (hne : bufs.flatten ≠ []) (f : File) :
    w.sendVectored os bufs f = (.error (.err e), f) := by
  rw [sendVectored, if_neg ho]
  rcases h : nonempty bufs with _ | ⟨first, rest⟩
  · exact absurd (nonempty_eq_nil_iff.1 h) hne
  · rw [isIpv6_flatten h] at hip
    simp only [hip, Call.fail_apply]

/-- A flat write of a packet submits it behind a header of the length of the offset; the
packet is what the library needs to recognise only if there is a header. -/
theorem send_of_isIpv6 (os : TargetOs) (w : Writer) {buf : Buf} (hne : buf ≠ [])
    (hip : w.offset ≠ 0 → ∃ ipv6, isIpv6 buf = .ok ipv6) :
    ∃ header : Buf, header.length = w.offset ∧
      w.send os buf = Fd.checked (File.submit (header ++ buf)) := by
  have hmax : 1 < File.iovMax := by decide
  by_cases ho : w.offset = 0
  · refine ⟨[], ho.symm, ?_⟩
    rw [send, if_pos ho, Fd.write, File.write_of_ne hne, List.nil_append]
  · obtain ⟨ipv6, hip⟩ := hip ho
    refine ⟨w.header os ipv6, ?_, ?_⟩
    · have hle := w.offset_le
      rw [header, List.length_take, length_packetInformation, Nat.min_eq_left hle]
    · have hlen : [w.header os ipv6, buf].length ≤ File.iovMax := by
        simp only [List.length_cons, List.length_nil]; omega
      have hgather : [w.header os ipv6, buf].flatten = w.header os ipv6 ++ buf := by simp
      simp only [send, if_neg ho, hip]
      rw [Fd.writev_eq, File.writev_of_le hlen (by rw [hgather]; simp [hne]), hgather]

/-- **A flat write of something is a gathered write of one buffer.** -/
theorem send_eq_sendVectored (os : TargetOs) (w : Writer) {buf : Buf} (hne : buf ≠ []) :
    w.send os buf = w.sendVectored os [buf] := by
  by_cases ho : w.offset = 0
  · have hflat : [buf].flatten ≠ [] := by simpa using hne
    have hlen : [buf].length ≤ File.iovMax := (by decide : 1 ≤ File.iovMax)
    rw [sendVectored_plain os ho, send, if_pos ho, Fd.write, File.write_of_ne hne,
      File.writev_of_le hlen hflat, List.flatten_singleton]
  · rw [send, sendVectored, if_neg ho, if_neg ho]
    cases buf with
    | nil => exact absurd rfl hne
    | cons b buf => rfl

/-- The frame of a packet: the packet behind its header, if there is to be one. -/
def frame (os : TargetOs) (w : Writer) (packet : Buf) : Except IoError Buf :=
  if w.offset = 0 then .ok packet
  else (isIpv6 packet).map fun ipv6 ↦ w.header os ipv6 ++ packet

/-- A frame is its packet behind a header of the length of the offset. -/
theorem frame_eq_ok {os : TargetOs} {w : Writer} {packet fr : Buf}
    (h : w.frame os packet = .ok fr) :
    ∃ header : Buf, header.length = w.offset ∧ fr = header ++ packet := by
  unfold frame at h
  by_cases ho : w.offset = 0
  · rw [if_pos ho] at h
    cases h
    exact ⟨[], ho.symm, rfl⟩
  · rw [if_neg ho] at h
    cases hip : isIpv6 packet with
    | error e => rw [hip] at h; cases h
    | ok ipv6 =>
        rw [hip] at h
        cases h
        refine ⟨w.header os ipv6, ?_, rfl⟩
        rw [header, List.length_take, length_packetInformation, Nat.min_eq_left w.offset_le]

/-- A gathered write of something returns exactly if there are not too many buffers and
the frame of the packet they make up is submitted. -/
theorem sendVectored_eq_ok_iff {os : TargetOs} {bufs : List Buf} {f g : File}
    (hne : bufs.flatten ≠ []) :
    w.sendVectored os bufs f = (.ok (), g) ↔
      File.Accepts w.offset bufs ∧
        ∃ fr, w.frame os bufs.flatten = .ok fr ∧ File.submit fr f = (.ok (), g) := by
  unfold File.Accepts frame
  by_cases ho : w.offset = 0
  · simp only [if_pos ho]
    rw [sendVectored_plain os ho, Fd.checked_eq_ok]
    by_cases hlen : bufs.length ≤ File.iovMax
    · rw [File.writev_of_le hlen hne]
      constructor
      · intro h
        exact ⟨hlen, _, rfl, h⟩
      · rintro ⟨_, fr, hfr, h⟩
        cases hfr
        exact h
    · rw [File.writev_of_lt (Nat.lt_of_not_le hlen)]
      constructor
      · intro h
        cases h
      · intro h
        exact absurd h.1 hlen
  · simp only [if_neg ho]
    cases hip : isIpv6 bufs.flatten with
    | error e =>
        rw [sendVectored_header_invalid os ho hip hne]
        constructor
        · intro h
          cases h
        · rintro ⟨_, fr, hfr, _⟩
          cases hfr
    | ok ipv6 =>
        by_cases hlen : (nonempty bufs).length < File.iovMax
        · rw [sendVectored_header os ho hip hlen, Fd.checked_eq_ok]
          constructor
          · intro h
            exact ⟨hlen, _, rfl, h⟩
          · rintro ⟨_, fr, hfr, h⟩
            cases hfr
            exact h
        · rw [sendVectored_header_full os ho hip (Nat.le_of_not_lt hlen)]
          constructor
          · intro h
            cases h
          · intro h
            exact absurd h.1 hlen

/-- A gathered write of something that returned put out one frame: the packet behind a
header. -/
theorem packet_of_sendVectored_eq_ok {os : TargetOs} {bufs : List Buf} {f g : File}
    (hne : bufs.flatten ≠ []) (h : w.sendVectored os bufs f = (.ok (), g)) :
    ∃ header : Buf, header.length = w.offset ∧
      g.outbound = f.outbound ++ [header ++ bufs.flatten] := by
  obtain ⟨-, fr, hfr, hsubmit⟩ := (sendVectored_eq_ok_iff hne).1 h
  obtain ⟨header, hlen, rfl⟩ := frame_eq_ok hfr
  obtain ⟨-, rfl⟩ := File.submit_eq_ok_iff.1 hsubmit
  exact ⟨header, hlen, rfl⟩

end Writer

end RustTun

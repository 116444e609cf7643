import Mathlib.Data.List.Forall2
import RustTun.Base.Run
import RustTun.Posix.Wire

/-!
# When packet information is a no-op

The documentation of `packet_information` promises that the packets a user sends and
receives carry no header whether it is set or not.  This file runs two `Tun`s side by
side, one over a device of bare packets and one over a device of the same packets
behind headers, and says for which calls the two cannot be told apart.

Being in step is the relation `SameFrames` of the two devices.  A step of the pair is
one call made on both, and it keeps the promise (`Agree`) if both reply the same and
the devices are in step afterwards.  The calls that do are those of
`TunCall.Transparent`, a condition on the buffers alone:

* A read with nothing to read into returns at once without a header, and with one
  takes a packet, for the header makes room for something to be read.
* Without a header all buffers count towards `IOV_MAX`; with a header the empty ones
  are dropped first and the header is added, so that the two limits differ.
-/

namespace RustTun

open Scatter Transition

/-- `Behind p q`: the frame `q` is the packet `p` behind a header. -/
def Behind (p q : Buf) : Prop := ∃ header : Buf, header.length = PIL ∧ q = header ++ p

/-- The two devices hold the same packets, the second one behind headers, and their
drivers answer the same. -/
structure SameFrames (f g : File) : Prop where
  inbound : List.Forall₂ Behind f.inbound g.inbound
  outbound : List.Forall₂ Behind f.outbound g.outbound
  refusals : f.refusals = g.refusals

/-! ## What the calls that reach the driver do -/

namespace File

/-- Receiving from two devices in step. -/
theorem receive_agree (os : TargetOs) {f g : File} (h : SameFrames f g) (bufs : List Buf) :
    (receive os 0 bufs f).1 = (receive os PIL bufs g).1 ∧
      SameFrames (receive os 0 bufs f).2 (receive os PIL bufs g).2 := by
  obtain ⟨inbound, outbound, refusals, nonblock⟩ := f
  obtain ⟨inbound', outbound', refusals', nonblock'⟩ := g
  obtain ⟨hin, hout, href⟩ := h
  dsimp only at hin hout href
  subst href
  unfold receive reach
  dsimp only
  rcases refusals.head?.join with _ | e
  · cases hin with
    | nil => exact ⟨rfl, .nil, hout, rfl⟩
    | cons hpq hrest =>
        obtain ⟨header, hlen, rfl⟩ := hpq
        refine ⟨?_, hrest, hout, rfl⟩
        simp [deliverPast, ← hlen]
  · exact ⟨rfl, hin, hout, rfl⟩

/-- Submitting a packet to two devices in step, to one of them behind a header. -/
theorem submit_agree {f g : File} (h : SameFrames f g) {header : Buf}
    (hlen : header.length = PIL) (packet : Buf) :
    (submit packet f).1 = (submit (header ++ packet) g).1 ∧
      SameFrames (submit packet f).2 (submit (header ++ packet) g).2 := by
  obtain ⟨hin, hout, href⟩ := h
  unfold submit reach
  rw [href]
  rcases g.refusals.head?.join with _ | e
  · exact ⟨rfl, hin, List.rel_append hout (.cons ⟨header, hlen, rfl⟩ .nil), rfl⟩
  · exact ⟨rfl, hin, hout, rfl⟩

/-- Refusing too many buffers is not finding a packet. -/
theorem einval_ne_eagain {α : Type} (os : TargetOs) :
    (.error EINVAL : Except Errno α) ≠ .error (EAGAIN os) := by
  intro h
  injection h with h
  cases os <;> exact absurd h (by decide)

/-- With a willing driver a call that reaches it is made. -/
theorem reach_of_refusals_eq_nil {α : Type} (call : File → Except Errno α × File) {f : File}
    (h : f.refusals = []) : reach call f = call f := by
  obtain ⟨inbound, outbound, refusals, nonblock⟩ := f
  subst h
  rfl

/-- With a willing driver a read that reaches it takes a packet, unless there is none. -/
theorem receive_takes {os : TargetOs} {f : File} (h : f.refusals = []) (offset : Nat)
    (bufs : List Buf) (hne : (receive os offset bufs f).1 ≠ .error (EAGAIN os)) :
    (receive os offset bufs f).2.inbound.length < f.inbound.length := by
  unfold receive at hne ⊢
  rw [reach_of_refusals_eq_nil _ h] at hne ⊢
  obtain ⟨inbound, outbound, refusals, nonblock⟩ := f
  cases inbound with
  | nil => exact absurd rfl hne
  | cons p ps => exact Nat.lt_succ_self _

/-- With a willing driver a write that reaches it succeeds. -/
theorem submit_of_refusals_eq_nil {f : File} (h : f.refusals = []) (packet : Buf) :
    (submit packet f).1 = .ok () := by
  rw [submit, reach_of_refusals_eq_nil _ h]
  rfl

/-- Reading leaves a willing driver willing. -/
theorem refusals_readv (os : TargetOs) {f : File} (h : f.refusals = []) (bufs : List Buf) :
    (readv os bufs f).2.refusals = [] := by
  rw [readv]
  split_ifs
  · exact h
  · exact h
  · rw [reach_of_refusals_eq_nil _ h, deliver]
    rcases f.inbound with _ | ⟨p, ps⟩ <;> exact h

/-- Writing leaves a willing driver willing. -/
theorem refusals_writev {f : File} (h : f.refusals = []) (bufs : List Buf) :
    (writev bufs f).2.refusals = [] := by
  rw [writev]
  split_ifs
  · exact h
  · exact h
  · rw [reach_of_refusals_eq_nil _ h]
    exact h

theorem refusals_write {f : File} (h : f.refusals = []) (buf : Buf) :
    (write buf f).2.refusals = [] := by
  rw [write, reach_of_refusals_eq_nil _ h]
  split <;> exact h

theorem refusals_setNonblock {f : File} (h : f.refusals = []) :
    f.setNonblock.2.refusals = [] := by
  rw [setNonblock, reach_of_refusals_eq_nil _ h]
  exact h

/-- Changing the mode of two devices in step. -/
theorem setNonblock_agree {f g : File} (h : SameFrames f g) :
    f.setNonblock.1 = g.setNonblock.1 ∧ SameFrames f.setNonblock.2 g.setNonblock.2 := by
  obtain ⟨hin, hout, href⟩ := h
  unfold setNonblock reach
  rw [href]
  cases g.refusals.head?.join with
  | none => exact ⟨rfl, hin, hout, rfl⟩
  | some e => exact ⟨rfl, hin, hout, rfl⟩

end File

/-! ## One call on both -/

namespace Tun

/-- A `Tun` over bare packets. -/
structure Plain (t : Tun) : Prop where
  reader : t.reader.offset = 0
  writer : t.writer.offset = 0

/-- A `Tun` over packets behind headers. -/
structure Framed (t : Tun) : Prop where
  reader : t.reader.offset = PIL
  writer : t.writer.offset = PIL

theorem plain_new (fd : Fd) (mtu : UInt16) (h : Shared.Heap) :
    (Tun.new fd mtu false h).1.Plain := ⟨rfl, rfl⟩

theorem framed_new (fd : Fd) (mtu : UInt16) (h : Shared.Heap) :
    (Tun.new fd mtu true h).1.Framed := ⟨rfl, rfl⟩

theorem Plain.perform {t : Tun} (h : t.Plain) (os : TargetOs) (f : File) (c : TunCall) :
    (t.perform os f c).2.1.Plain := by
  cases c <;> exact ⟨h.reader, h.writer⟩

theorem Framed.perform {t : Tun} (h : t.Framed) (os : TargetOs) (f : File) (c : TunCall) :
    (t.perform os f c).2.1.Framed := by
  cases c <;> exact ⟨h.reader, h.writer⟩

/-- A flat read replies as the scattered read into one buffer does. -/
theorem perform_recv (os : TargetOs) (t : Tun) (f : File) (buf : Buf) :
    t.perform os f (.recv buf) = t.perform os f (.recvVectored [buf]) := by
  have h := Reader.recv_eq_recvVectored os t.reader buf f
  simp only [perform, Tun.recv, Tun.recvVectored, h]

/-- A flat write replies as the gathered write of one buffer does. -/
theorem perform_send (os : TargetOs) (t : Tun) (f : File) {buf : Buf} (hne : buf ≠ []) :
    t.perform os f (.send buf) = t.perform os f (.sendVectored [buf]) := by
  have h := Writer.send_eq_sendVectored os t.writer hne
  simp only [perform, Tun.send, Tun.sendVectored, h]

end Tun

/-- The reply to a read determines what the read returned. -/
theorem Reply.ofRead_injective {bufs : List Buf} {r r' : Except (Stop IoError) (Nat × List Buf)}
    (h : Reply.ofRead bufs r = Reply.ofRead bufs r') : r = r' := by
  rcases r with e | ⟨n, filled⟩ <;> rcases r' with e' | ⟨n', filled'⟩ <;> cases h <;> rfl

/-- The calls a `Tun` with packet information answers as one without does. -/
def TunCall.Transparent : TunCall → Prop
  | .recv buf => buf ≠ []
  | .recvVectored bufs =>
    bufs.flatten ≠ [] ∧ (File.iovMax < bufs.length ↔ File.iovMax ≤ (nonempty bufs).length)
  | .sendVectored bufs => File.iovMax < bufs.length ↔ File.iovMax ≤ (nonempty bufs).length
  | .send _ | .setMtu _ | .setNonblock => True

/-- What is sent is an IP packet. -/
def TunCall.SendsPacket : TunCall → Prop
  | .send buf => ∃ ipv6, isIpv6 buf = .ok ipv6
  | .sendVectored bufs => ∃ ipv6, isIpv6 bufs.flatten = .ok ipv6
  | _ => True

namespace TunCall

/-- One buffer is never too many. -/
theorem transparent_singleton {buf : Buf} :
    (recvVectored [buf]).Transparent ↔ (recv buf).Transparent := by
  have hlen : (nonempty [buf]).length ≤ 1 := List.length_filter_le _ _
  have hmax : 1 < File.iovMax := by decide
  simp only [Transparent, List.flatten_cons, List.flatten_nil, List.append_nil,
    List.length_cons, List.length_nil, and_iff_left_iff_imp]
  omega

theorem sendsPacket_singleton {buf : Buf} :
    (sendVectored [buf]).SendsPacket ↔ (send buf).SendsPacket := by
  simp [SendsPacket]

/-- A packet is not empty. -/
theorem ne_nil_of_sendsPacket {buf : Buf} (h : (send buf).SendsPacket) : buf ≠ [] := by
  rintro rfl
  obtain ⟨ipv6, h⟩ := h
  cases h

end TunCall

/-- A `Tun` without and a `Tun` with packet information, and their devices. -/
structure Pair where
  plain : Tun × File
  framed : Tun × File

namespace Pair

/-- Make one call on both. -/
def perform (os : TargetOs) (s : Pair) (c : TunCall) : Pair :=
  { plain := (s.plain.1.perform os s.plain.2 c).2
    framed := (s.framed.1.perform os s.framed.2 c).2 }

/-- The two are told apart by nothing that happened so far. -/
structure InStep (s : Pair) : Prop where
  plain : s.plain.1.Plain
  framed : s.framed.1.Framed
  frames : SameFrames s.plain.2 s.framed.2

/-- The promise: the call has the same reply on both, and leaves the devices in step. -/
structure Agree (os : TargetOs) (s : Pair) (c : TunCall) (t : Pair) : Prop where
  reply : (s.plain.1.perform os s.plain.2 c).1 = (s.framed.1.perform os s.framed.2 c).1
  frames : SameFrames t.plain.2 t.framed.2

variable {os : TargetOs} {s : Pair}

/-- A call keeps the two in step if it keeps the devices in step. -/
theorem InStep.perform (h : s.InStep) {c : TunCall}
    (hagree : Agree os s c (s.perform os c)) : (s.perform os c).InStep :=
  ⟨h.plain.perform .., h.framed.perform .., hagree.frames⟩

/-- Agreement on a read, as agreement of what the two readers return. -/
theorem agree_recvVectored_iff {bufs : List Buf} :
    Agree os s (.recvVectored bufs) (s.perform os (.recvVectored bufs)) ↔
      (s.plain.1.recvVectored os bufs s.plain.2).1 =
          (s.framed.1.recvVectored os bufs s.framed.2).1 ∧
        SameFrames (s.plain.1.recvVectored os bufs s.plain.2).2
          (s.framed.1.recvVectored os bufs s.framed.2).2 :=
  ⟨fun h ↦ ⟨Reply.ofRead_injective h.reply, h.frames⟩,
    fun h ↦ ⟨congrArg (Reply.ofRead bufs) h.1, h.2⟩⟩

/-- Agreement on a write, as agreement of what the two writers return. -/
theorem agree_sendVectored_iff {bufs : List Buf} :
    Agree os s (.sendVectored bufs) (s.perform os (.sendVectored bufs)) ↔
      (s.plain.1.sendVectored os bufs s.plain.2).1 =
          (s.framed.1.sendVectored os bufs s.framed.2).1 ∧
        SameFrames (s.plain.1.sendVectored os bufs s.plain.2).2
          (s.framed.1.sendVectored os bufs s.framed.2).2 :=
  ⟨fun h ↦ ⟨by injection h.reply, h.frames⟩, fun h ↦ ⟨congrArg Reply.done h.1, h.2⟩⟩

/-- A flat read agrees exactly if the scattered read into one buffer does. -/
theorem agree_recv_iff {buf : Buf} :
    Agree os s (.recv buf) (s.perform os (.recv buf)) ↔
      Agree os s (.recvVectored [buf]) (s.perform os (.recvVectored [buf])) := by
  have hs : s.perform os (.recv buf) = s.perform os (.recvVectored [buf]) := by
    simp only [Pair.perform, Tun.perform_recv]
  rw [hs]
  constructor <;> rintro ⟨hreply, hframes⟩ <;> refine ⟨?_, hframes⟩
  · rwa [Tun.perform_recv, Tun.perform_recv] at hreply
  · rwa [Tun.perform_recv, Tun.perform_recv]

/-- A flat write of something agrees exactly if the gathered write of one buffer does. -/
theorem agree_send_iff {buf : Buf} (hne : buf ≠ []) :
    Agree os s (.send buf) (s.perform os (.send buf)) ↔
      Agree os s (.sendVectored [buf]) (s.perform os (.sendVectored [buf])) := by
  have hs : s.perform os (.send buf) = s.perform os (.sendVectored [buf]) := by
    simp only [Pair.perform, Tun.perform_send os _ _ hne]
  rw [hs]
  constructor <;> rintro ⟨hreply, hframes⟩ <;> refine ⟨?_, hframes⟩
  · rwa [Tun.perform_send os _ _ hne, Tun.perform_send os _ _ hne] at hreply
  · rwa [Tun.perform_send os _ _ hne, Tun.perform_send os _ _ hne]

/-! ## Which calls keep the promise -/

/-- Reads that both reach the driver, or that neither of the two does, agree. -/
theorem agree_recvVectored (h : s.InStep) {bufs : List Buf}
    (hc : (TunCall.recvVectored bufs).Transparent) :
    Agree os s (.recvVectored bufs) (s.perform os (.recvVectored bufs)) := by
  obtain ⟨hne, hmax⟩ := hc
  have hpi : s.framed.1.reader.offset ≠ 0 := by rw [h.framed.reader]; decide
  rw [agree_recvVectored_iff, Tun.recvVectored, Tun.recvVectored,
    Reader.recvVectored_plain h.plain.reader]
  by_cases hlen : File.iovMax < bufs.length
  · rw [Reader.recvVectored_header_full hpi (hmax.1 hlen), Fd.checked, File.readv_of_lt hlen]
    exact ⟨rfl, h.frames⟩
  · have hfew : (nonempty bufs).length < File.iovMax := Nat.lt_of_not_le fun hn ↦ hlen (hmax.2 hn)
    rw [Reader.recvVectored_header hpi hfew, File.readv_of_le (Nat.le_of_not_lt hlen) hne,
      h.framed.reader]
    obtain ⟨hres, hframes⟩ := File.receive_agree os h.frames bufs
    exact ⟨Fd.checked_fst_inj.2 hres, by rwa [Fd.checked_snd, Fd.checked_snd]⟩

/-- Writes that both reach the driver, or that neither of the two does, agree. -/
theorem agree_sendVectored (h : s.InStep) {bufs : List Buf}
    (hip : (TunCall.sendVectored bufs).SendsPacket)
    (hc : (TunCall.sendVectored bufs).Transparent) :
    Agree os s (.sendVectored bufs) (s.perform os (.sendVectored bufs)) := by
  obtain ⟨ipv6, hip⟩ := hip
  have hpi : s.framed.1.writer.offset ≠ 0 := by rw [h.framed.writer]; decide
  have hne : bufs.flatten ≠ [] := fun hnil ↦ by rw [hnil] at hip; cases hip
  rw [agree_sendVectored_iff, Tun.sendVectored, Tun.sendVectored,
    Writer.sendVectored_plain os h.plain.writer]
  by_cases hlen : File.iovMax < bufs.length
  · rw [Writer.sendVectored_header_full os hpi hip (hc.1 hlen), Fd.checked,
      File.writev_of_lt hlen]
    exact ⟨rfl, h.frames⟩
  · have hfew : (nonempty bufs).length < File.iovMax := Nat.lt_of_not_le fun hn ↦ hlen (hc.2 hn)
    rw [Writer.sendVectored_header os hpi hip hfew,
      File.writev_of_le (Nat.le_of_not_lt hlen) hne]
    obtain ⟨hres, hframes⟩ := File.submit_agree h.frames
      (Writer.length_header_of_offset os ipv6 h.framed.writer) bufs.flatten
    exact ⟨Fd.checked_fst_inj.2 hres, by rwa [Fd.checked_snd, Fd.checked_snd]⟩

/-- A read that reaches one of the drivers only is noticed: it fails as a read of an
empty queue does, or the queues have different lengths afterwards. -/
theorem receive_noticed {offset : Nat} {bufs : List Buf} {f g : File}
    (hlen : f.inbound.length = g.inbound.length) (hwill : f.refusals = [])
    (hne : (File.receive os offset bufs f).1 ≠ .error (File.EAGAIN os))
    (hafter : (File.receive os offset bufs f).2.inbound.length = g.inbound.length) : False := by
  have := File.receive_takes hwill offset bufs hne
  omega

/-- With willing drivers a read keeps the promise only if it is transparent. -/
theorem transparent_of_agree_recvVectored (h : s.InStep) (hwill : s.plain.2.refusals = [])
    {bufs : List Buf}
    (hagree : Agree os s (.recvVectored bufs) (s.perform os (.recvVectored bufs))) :
    (TunCall.recvVectored bufs).Transparent := by
  have hpi : s.framed.1.reader.offset ≠ 0 := by rw [h.framed.reader]; decide
  have hwill' : s.framed.2.refusals = [] := by rw [← h.frames.refusals, hwill]
  have hlen := h.frames.inbound.length_eq
  rw [agree_recvVectored_iff, Tun.recvVectored, Tun.recvVectored,
    Reader.recvVectored_plain h.plain.reader] at hagree
  by_cases hfew : (nonempty bufs).length < File.iovMax
  · rw [Reader.recvVectored_header hpi hfew, Fd.checked_fst_inj, Fd.checked_snd,
      Fd.checked_snd] at hagree
    obtain ⟨hres, hafter⟩ := hagree
    have hafter := hafter.inbound.length_eq
    by_cases hmany : File.iovMax < bufs.length
    · rw [File.readv_of_lt hmany] at hres hafter
      exact (receive_noticed hlen.symm hwill' (by rw [← hres]; exact File.einval_ne_eagain os)
        hafter.symm).elim
    · refine ⟨fun hnil ↦ ?_, ⟨fun hn ↦ absurd hn hmany, fun hn ↦ absurd hfew (Nat.not_lt.2 hn)⟩⟩
      rw [File.readv_of_flatten_eq_nil (Nat.le_of_not_lt hmany) hnil] at hres hafter
      exact receive_noticed hlen.symm hwill' (by rw [← hres]; exact (nomatch ·)) hafter.symm
  · rw [Reader.recvVectored_header_full hpi (Nat.le_of_not_lt hfew)] at hagree
    obtain ⟨hres, hafter⟩ := hagree
    have hne : bufs.flatten ≠ [] := fun hnil ↦ hfew (by rw [nonempty_eq_nil_iff.2 hnil]; decide)
    refine ⟨hne, ⟨fun _ ↦ Nat.le_of_not_lt hfew, fun _ ↦ ?_⟩⟩
    by_contra hmany
    rw [File.readv_of_le (Nat.le_of_not_lt hmany) hne] at hres hafter
    have hres : (File.receive os 0 bufs s.plain.2).1 = .error File.EINVAL :=
      Fd.checked_fst_eq_error.1 hres
    rw [Fd.checked_snd] at hafter
    exact receive_noticed hlen hwill (by rw [hres]; exact File.einval_ne_eagain os)
      hafter.inbound.length_eq

/-- With willing drivers a write keeps the promise only if it is transparent. -/
theorem transparent_of_agree_sendVectored (h : s.InStep) (hwill : s.plain.2.refusals = [])
    {bufs : List Buf} (hip : (TunCall.sendVectored bufs).SendsPacket)
    (hagree : Agree os s (.sendVectored bufs) (s.perform os (.sendVectored bufs))) :
    (TunCall.sendVectored bufs).Transparent := by
  obtain ⟨ipv6, hip⟩ := hip
  have hpi : s.framed.1.writer.offset ≠ 0 := by rw [h.framed.writer]; decide
  have hwill' : s.framed.2.refusals = [] := by rw [← h.frames.refusals, hwill]
  have hne : bufs.flatten ≠ [] := fun hnil ↦ by rw [hnil] at hip; cases hip
  obtain ⟨hres, -⟩ := agree_sendVectored_iff.1 hagree
  rw [Tun.sendVectored, Tun.sendVectored, Writer.sendVectored_plain os h.plain.writer] at hres
  constructor
  · intro hmany
    by_contra hfew
    rw [Writer.sendVectored_header os hpi hip (Nat.lt_of_not_le hfew), Fd.checked_fst_inj,
      File.writev_of_lt hmany, File.submit_of_refusals_eq_nil hwill'] at hres
    cases hres
  · intro hfull
    by_contra hmany
    rw [Writer.sendVectored_header_full os hpi hip hfull,
      File.writev_of_le (Nat.le_of_not_lt hmany) hne] at hres
    have hres : (File.submit bufs.flatten s.plain.2).1 = .error File.EINVAL :=
      Fd.checked_fst_eq_error.1 hres
    rw [File.submit_of_refusals_eq_nil hwill] at hres
    cases hres

/-- Every transparent call keeps the promise, whatever the drivers answer. -/
theorem agree_of_transparent (h : s.InStep) {c : TunCall} (hip : c.SendsPacket)
    (hc : c.Transparent) : Agree os s c (s.perform os c) := by
  cases c with
  | recv buf =>
      rw [agree_recv_iff]
      exact agree_recvVectored h (TunCall.transparent_singleton.2 hc)
  | recvVectored bufs => exact agree_recvVectored h hc
  | send buf =>
      have hne : buf ≠ [] := TunCall.ne_nil_of_sendsPacket hip
      rw [agree_send_iff hne]
      exact agree_sendVectored h (TunCall.sendsPacket_singleton.2 hip)
        (TunCall.transparent_singleton.2 hne).2
  | sendVectored bufs => exact agree_sendVectored h hip hc
  | setMtu value => exact ⟨rfl, h.frames⟩
  | setNonblock =>
      obtain ⟨hres, hframes⟩ := File.setNonblock_agree h.frames
      refine ⟨congrArg Reply.done (Fd.checked_fst_inj.2 hres), ?_⟩
      simp only [Pair.perform, Tun.perform, Tun.setNonblock, Fd.setNonblock, Fd.checked_snd]
      exact hframes

/-- **One call.**  With willing drivers a call keeps the promise exactly if it is
transparent. -/
theorem agree_iff (h : s.InStep) (hwill : s.plain.2.refusals = []) {c : TunCall}
    (hip : c.SendsPacket) : Agree os s c (s.perform os c) ↔ c.Transparent := by
  refine ⟨fun hagree ↦ ?_, agree_of_transparent h hip⟩
  cases c with
  | recv buf =>
      rw [agree_recv_iff] at hagree
      exact TunCall.transparent_singleton.1 (transparent_of_agree_recvVectored h hwill hagree)
  | recvVectored bufs => exact transparent_of_agree_recvVectored h hwill hagree
  | send buf => trivial
  | sendVectored bufs => exact transparent_of_agree_sendVectored h hwill hip hagree
  | setMtu value => trivial
  | setNonblock => trivial

end Pair

/-! ## Sequences of calls -/

/-- A willing driver stays willing. -/
theorem Tun.Plain.refusals_perform {t : Tun} (h : t.Plain) (os : TargetOs) {f : File}
    (hwill : f.refusals = []) (c : TunCall) : (t.perform os f c).2.2.refusals = [] := by
  have hrecv (bufs : List Buf) : (t.perform os f (.recvVectored bufs)).2.2.refusals = [] := by
    simp only [Tun.perform, Tun.recvVectored, Reader.recvVectored_plain h.reader, Fd.checked_snd]
    exact File.refusals_readv os hwill bufs
  cases c with
  | recv buf =>
      rw [Tun.perform_recv]
      exact hrecv [buf]
  | recvVectored bufs => exact hrecv bufs
  | send buf =>
      simp only [Tun.perform, Tun.send, Writer.send, h.writer, ↓reduceIte, Fd.write,
        Fd.checked_snd]
      exact File.refusals_write hwill buf
  | sendVectored bufs =>
      simp only [Tun.perform, Tun.sendVectored, Writer.sendVectored_plain os h.writer,
        Fd.checked_snd]
      exact File.refusals_writev hwill bufs
  | setMtu value => exact hwill
  | setNonblock =>
      simp only [Tun.perform, Tun.setNonblock, Fd.setNonblock, Fd.checked_snd]
      exact File.refusals_setNonblock hwill

/-- Two `Tun`s, one without and one with packet information, over two devices that
carry the same packets, and the same calls made on both. -/
def pairSystem (os : TargetOs) : System Pair TunCall where
  init s := ∃ fd fd' mtu heap heap' f g, SameFrames f g ∧
    s = { plain := ((Tun.new fd mtu false heap).1, f)
          framed := ((Tun.new fd' mtu true heap').1, g) }
  step s c t := c.SendsPacket ∧ t = s.perform os c

theorem pairSystem_inStep {os : TargetOs} {s : Pair} (h : (pairSystem os).init s) : s.InStep := by
  obtain ⟨fd, fd', mtu, heap, heap', f, g, hframes, rfl⟩ := h
  exact ⟨Tun.plain_new .., Tun.framed_new .., hframes⟩

/-- **Packet information is a no-op exactly for the transparent calls.**  A sequence of
transparent calls has the same replies and leaves the same packets behind with and
without packet information, whatever the drivers answer; and with drivers that refuse
nothing every sequence that does so consists of transparent calls. -/
theorem packetInformation_noop_iff (os : TargetOs) (s : Pair) (l : List (TunCall × Pair))
    (hinit : (pairSystem os).init s) (hrun : (pairSystem os).Run s l) :
    (AllSteps (fun _ c _ ↦ c.Transparent) s l → AllSteps (Pair.Agree os) s l) ∧
      (s.plain.2.refusals = [] →
        (AllSteps (Pair.Agree os) s l ↔ AllSteps (fun _ c _ ↦ c.Transparent) s l)) := by
  have hs := pairSystem_inStep hinit
  constructor
  · refine hrun.allSteps_mono (I := Pair.InStep) ?_ ?_ hs
    · rintro s c t hs ⟨hip, rfl⟩ hc
      exact Pair.agree_of_transparent hs hip hc
    · rintro s c t hs ⟨hip, rfl⟩ hc
      exact hs.perform (Pair.agree_of_transparent hs hip hc)
  · intro hwill
    refine hrun.allSteps_iff (I := fun s ↦ s.InStep ∧ s.plain.2.refusals = []) ?_ ?_ ⟨hs, hwill⟩
    · rintro s c t ⟨hs, hwill⟩ ⟨hip, rfl⟩
      exact Pair.agree_iff hs hwill hip
    · rintro s c t ⟨hs, hwill⟩ ⟨hip, rfl⟩ hagree
      exact ⟨hs.perform hagree, hs.plain.refusals_perform os hwill c⟩

/-- One IPv4 packet waits on both devices. -/
def onePacket : Pair :=
  let heap : Shared.Heap := { next := 0, strong := fun _ ↦ 0 }
  let file (frame : Buf) : File :=
    { inbound := [frame], outbound := [], refusals := [], nonblock := true }
  { plain := ((Tun.new { inner := 3, closeFdOnDrop := true } 1500 false heap).1, file [0x45])
    framed :=
      ((Tun.new { inner := 4, closeFdOnDrop := true } 1500 true heap).1, file [0, 0, 8, 0, 0x45]) }

theorem onePacket_init : (pairSystem .linux).init onePacket := by
  have hframes : SameFrames onePacket.plain.2 onePacket.framed.2 :=
    ⟨.cons ⟨[0, 0, 8, 0], rfl, rfl⟩ .nil, .nil, rfl⟩
  exact ⟨_, _, _, _, _, _, _, hframes, rfl⟩

/-- A read into a buffer of two bytes has the same reply on both. -/
theorem packetInformation_noop_onePacket :
    AllSteps (Pair.Agree .linux) onePacket
      [(.recv [0, 0], onePacket.perform .linux (.recv [0, 0]))] := by
  have hrun : (pairSystem .linux).Run onePacket
      [(.recv [0, 0], onePacket.perform .linux (.recv [0, 0]))] :=
    .cons ⟨trivial, rfl⟩ (.nil _)
  have h := packetInformation_noop_iff .linux onePacket _ onePacket_init hrun
  exact h.1 ⟨List.cons_ne_nil _ _, trivial⟩

/-- A read into an empty buffer takes the packet from the device with packet information
only, which the next read then finds. -/
theorem recv_empty_noticed :
    (pairSystem .linux).init onePacket ∧
      (onePacket.plain.1.performAll .linux onePacket.plain.2 [.recv [], .recv [0]]).1 =
        [.received (.ok 0) [[]], .received (.ok 1) [[0x45]]] ∧
      (onePacket.framed.1.performAll .linux onePacket.framed.2 [.recv [], .recv [0]]).1 =
        [.received (.ok 0) [[]], .received (.error (.err (.os (File.EAGAIN .linux)))) [[0]]] :=
  ⟨onePacket_init, by decide, by decide⟩

end RustTun

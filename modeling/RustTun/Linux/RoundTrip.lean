import RustTun.Linux.Device
import RustTun.Posix.Wire

/-!
# Sending back what was received

What a Linux descriptor delivers depends on the flags it was registered with: an IP
packet or an Ethernet frame, behind a virtio-net header with `IFF_VNET_HDR`, and all of
it behind the packet information without `IFF_NO_PI` (`Delivers`).  The reader takes
the packet information off.  The writer puts it back, but only after inferring the
protocol from the first nibble of what it is given; in the two modes in which this is
not the first nibble of an IP packet the inference has nothing to go by.

| layer | `vnet_hdr` | first byte of what is received |
|---|---|---|
| `L3` | off | version and header length of the packet |
| `L3` | on | flags of the virtio-net header |
| `L2` | off | destination address of the frame |
| `L2` | on | flags of the virtio-net header |
-/

namespace RustTun.Linux

open Scatter

/-- The length of the virtio-net header. -/
def vnetHdrLen : Nat := 10

/-- The length of an Ethernet header. -/
def ETH_HLEN : Nat := 14

/-- `Delivers flags frame body`: a descriptor registered with `flags` can deliver the
frame `frame`, which is `body` once the packet information is taken off. -/
structure Delivers (flags : UInt16) (frame body : Buf) : Prop where
  frame_eq : ∃ header : Buf,
    header.length = (if flags &&& IFF_NO_PI = 0 then PIL else 0) ∧ frame = header ++ body
  body_eq : ∃ vnet packet : Buf,
    vnet.length = (if flags &&& IFF_VNET_HDR = 0 then 0 else vnetHdrLen) ∧
      body = vnet ++ packet ∧
      (flags &&& IFF_TUN ≠ 0 → ∃ ipv6, isIpv6 packet = .ok ipv6) ∧
      (flags &&& IFF_TAP ≠ 0 → ETH_HLEN ≤ packet.length)

/-! ## The flags of a configuration -/

/-- The four flags a descriptor's frames depend on, as bits of a word that is put
together the way `ifruFlags` does. -/
theorem flags_bits (l2 pi napi vnet multi : Bool) :
    let flags := (if l2 then IFF_TAP else IFF_TUN) ||| (if pi then 0 else IFF_NO_PI)
      ||| (if napi then IFF_NAPI else 0) ||| (if vnet then IFF_VNET_HDR else 0)
      ||| (if multi then IFF_MULTI_QUEUE else 0)
    (flags &&& IFF_NO_PI = 0 ↔ pi) ∧ (flags &&& IFF_VNET_HDR = 0 ↔ !vnet) ∧
      (flags &&& IFF_TUN = 0 ↔ l2) ∧ (flags &&& IFF_TAP = 0 ↔ !l2) := by
  revert l2 pi napi vnet multi
  decide

/-- The layer a configuration asks for is `L2`. -/
def isL2 (config : Configuration PlatformConfig) : Bool := config.layer = some .l2

/-- What the flags of a configuration say about its frames. -/
theorem ifruFlags_bits (config : Configuration PlatformConfig) :
    (ifruFlags config &&& IFF_NO_PI = 0 ↔ config.platformConfig.packetInformation) ∧
      (ifruFlags config &&& IFF_VNET_HDR = 0 ↔ !config.platformConfig.vnetHdr) ∧
      (ifruFlags config &&& IFF_TUN = 0 ↔ isL2 config) ∧
      (ifruFlags config &&& IFF_TAP = 0 ↔ !isL2 config) := by
  have hbits := flags_bits (isL2 config) config.platformConfig.packetInformation
    config.platformConfig.napi config.platformConfig.vnetHdr (decide (1 < config.queues.getD 1))
  have htype : deviceType config.layer = if isL2 config then IFF_TAP else IFF_TUN := by
    rw [isL2]
    rcases config.layer with _ | _ | _ <;> rfl
  rw [ifruFlags, htype]
  simpa only [decide_eq_true_eq] using hbits

/-! ## The device of a configuration -/

/-- Reader and writer of a device strip and add headers of the same length. -/
structure Device.Offset (n : Nat) (dev : Device) : Prop where
  reader : dev.tun.reader.offset = n
  writer : dev.tun.writer.offset = n

namespace Device

variable {κ : Type} (K : Kernel κ)

/-- No setter changes the offsets of the device. -/
theorem abstractDevice_keeps_offset (config : Configuration PlatformConfig) (n : Nat) :
    (abstractDevice K).Keeps (fun s ↦ s.1.Offset n) config where
  setAddress _ _ := .bind (keeps_onHost _) fun _ ↦ .pure _
  setDestination _ _ := .bind (keeps_onHost _) fun _ ↦ .pure _
  setBroadcast _ _ := .bind (keeps_onHost _) fun _ ↦ .pure _
  setNetmask _ _ := .bind (keeps_onHost _) fun _ ↦ .pure _
  setMtu _ _ := .bind (keeps_onHost _) fun _ ↦ .modify fun _ h ↦ ⟨h.reader, h.writer⟩
  enabled _ _ := .bind (keeps_onHost _) fun _ ↦ .bind (keeps_onHost _) fun _ ↦ .pure _

theorem keeps_setUp (config : Configuration PlatformConfig) (n : Nat) :
    (setUp K config).Keeps fun s ↦ s.1.Offset n :=
  .bind (abstractDevice_keeps_offset K config n).configure fun _ ↦ .modify fun _ h ↦ h

/-- The header length the configuration asks for. -/
def offset (config : Configuration PlatformConfig) : Nat :=
  if config.platformConfig.packetInformation then PIL else 0

theorem create_offset {config : Configuration PlatformConfig} {s t : Process κ} {dev : Device}
    (h : create K config s = (.ok dev, t)) : dev.Offset (offset config) := by
  unfold create at h
  split at h
  · cases h
  · obtain ⟨devName, s₁, -, h⟩ := Call.bind_eq_ok.1 h
    split at h
    · cases h
    · obtain ⟨⟨tunFd, req⟩, s₂, -, h⟩ := Call.bind_eq_ok.1 h
      obtain ⟨ctl, s₃, -, h⟩ := Call.bind_eq_ok.1 h
      obtain ⟨tun, s₄, htun, h⟩ := Call.bind_eq_ok.1 h
      obtain ⟨rfl, -⟩ := Call.pure_eq_ok.1 h
      cases htun
      exact ⟨rfl, rfl⟩

/-- The offsets of a device are those its configuration asks for. -/
theorem new_offset {config : Configuration PlatformConfig} {s t : Process κ} {dev : Device}
    (h : new K config s = (.ok dev, t)) : dev.Offset (offset config) := by
  obtain ⟨dev₀, s₁, hcreate, h⟩ := Call.bind_eq_ok.1 h
  have hoffset := create_offset K hcreate
  by_cases hroot : config.platformConfig.ensureRootPrivileges
  · rw [if_pos hroot] at h
    exact keeps_setUp K config (offset config) _ _ _ hoffset (orDrop_eq_ok.1 h)
  · rw [if_neg hroot] at h
    obtain ⟨rfl, -⟩ := Call.pure_eq_ok.1 h
    exact hoffset

end Device

/-! ## Receiving and sending -/

/-- What the user may expect of giving `bytes` to `send`: whatever the state of the
device behind the descriptor, the call writes `body` behind a header of the configured
length and does nothing else; in particular the library has no objection of its own. -/
structure Resends (dev : Device) (n : Nat) (body bytes : Buf) : Prop where
  submits : ∃ header : Buf, header.length = n ∧
    ∀ f, dev.tun.send .linux bytes f = Fd.checked (File.submit (header ++ body)) f
  accepts : ∀ f text, (dev.tun.send .linux bytes f).1 ≠ .error (.err (.new .invalidData text))

/-- A library that has an objection writes nothing. -/
theorem not_resends_of_isIpv6 {dev : Device} {n : Nat} (hdev : dev.Offset n) (hn : n ≠ 0)
    {body : Buf} {e : IoError} (hip : isIpv6 body = .error e) : ¬ Resends dev n body body := by
  rintro ⟨⟨header, -, hsubmit⟩, -⟩
  let willing : File := { inbound := [], outbound := [], refusals := [], nonblock := false }
  have hw : dev.tun.writer.offset ≠ 0 := by rw [hdev.writer]; exact hn
  have hsend := hsubmit willing
  rw [Tun.send, Writer.send, if_neg hw, hip] at hsend
  cases hsend

/-- A packet the library can place is written. -/
theorem resends_of_isIpv6 {dev : Device} {n : Nat} (hdev : dev.Offset n) {body : Buf}
    (hne : body ≠ []) (hip : n ≠ 0 → ∃ ipv6, isIpv6 body = .ok ipv6) :
    Resends dev n body body := by
  obtain ⟨header, hlen, hsend⟩ := Writer.send_of_isIpv6 .linux dev.tun.writer hne
    (by rw [hdev.writer]; exact hip)
  constructor
  · exact ⟨header, by rw [hlen, hdev.writer], fun f ↦ by rw [Tun.send, hsend]⟩
  · intro f text hinvalid
    rw [Tun.send, hsend] at hinvalid
    exact Fd.checked_fst_ne_new hinvalid

/-- **What a Linux device delivers can be sent back exactly if the library can place it.**
For every accepted configuration and every frame its device can deliver, a `recv` with
enough room returns the body of the frame, and giving that to `send` writes it again
unless packet information is on and the body does not begin as an IP packet does. -/
theorem recv_send_iff {κ : Type} (K : Kernel κ) (config : Configuration PlatformConfig)
    {s t : Process κ} {dev : Device} (hnew : Device.new K config s = (.ok dev, t))
    {frame body : Buf} (hdelivers : Delivers (ifruFlags config) frame body) (hne : body ≠ [])
    {f g : File} (hin : f.inbound.head? = some frame) {buf filled : Buf} {n : Nat}
    (hbuf : body.length ≤ buf.length) (hrecv : dev.tun.recv .linux buf f = (.ok (n, filled), g)) :
    filled.take n = body ∧
      (Resends dev (Device.offset config) body (filled.take n) ↔
        (config.platformConfig.packetInformation = true → ∃ ipv6, isIpv6 body = .ok ipv6)) := by
  have hdev := Device.new_offset K hnew
  obtain ⟨header, hlen, rfl⟩ := hdelivers.frame_eq
  have hpi : (ifruFlags config &&& IFF_NO_PI = 0) =
      (config.platformConfig.packetInformation = true) :=
    propext (ifruFlags_bits config).1
  have hoffset : header.length = dev.tun.reader.offset := by
    rw [hlen, hdev.reader, Device.offset]
    simp only [hpi]
  have htake := (Reader.take_of_recv_eq_ok hin hoffset hne hbuf hrecv).2
  have hon : Device.offset config ≠ 0 ↔ config.platformConfig.packetInformation = true := by
    rw [Device.offset]
    split_ifs with h
    · constructor
      · intro _
        exact h
      · intro _
        decide
    · constructor
      · intro h0
        exact absurd rfl h0
      · intro h'
        exact absurd h' h
  refine ⟨htake, ?_⟩
  rw [htake, ← hon]
  constructor
  · intro hresends hn
    cases hip : isIpv6 body with
    | ok ipv6 => exact ⟨ipv6, rfl⟩
    | error e => exact absurd hresends (not_resends_of_isIpv6 hdev hn hip)
  · exact resends_of_isIpv6 hdev hne

/-- A kernel that grants every request. -/
def grantingKernel : Kernel Unit where
  open_ _ := (3, ())
  socket _ := (4, ())
  lastOsError _ := 0
  ioctl _ _ req _ := (.ok req, ())
  replaceQdisc _ _ _ := (.ok (), ())

/-- A process in which nothing has happened yet. -/
def startProcess : Process Unit := { world := .initial, host := () }

/-- A device of either layer with packet information. -/
def piConfig (layer : Layer) : Configuration PlatformConfig :=
  { platformConfig := { packetInformation := true }, layer := some layer }

/-- A queue of one frame. -/
def oneFrame (frame : Buf) : File :=
  { inbound := [frame], outbound := [], refusals := [], nonblock := false }

/-- An IPv6 packet behind packet information is received and sent back. -/
theorem recv_send_l3 :
    ∃ dev t, Device.new grantingKernel (piConfig .l3) startProcess = (.ok dev, t) ∧
      Resends dev PIL [0x60, 0] [0x60, 0] := by
  refine ⟨_, _, rfl, ?_⟩
  have hdelivers : Delivers (ifruFlags (piConfig .l3)) [0, 0, 0x86, 0xDD, 0x60, 0] [0x60, 0] :=
    { frame_eq := ⟨[0, 0, 0x86, 0xDD], by decide, rfl⟩
      body_eq := ⟨[], [0x60, 0], by decide, rfl, fun _ ↦ ⟨true, by decide⟩,
        fun htap ↦ absurd htap (by decide)⟩ }
  have hbuf : ([0x60, 0] : Buf).length ≤ ([0, 0, 0, 0] : Buf).length := by decide
  have h := recv_send_iff grantingKernel (piConfig .l3) (s := startProcess) rfl hdelivers
    (List.cons_ne_nil _ _) (f := oneFrame [0, 0, 0x86, 0xDD, 0x60, 0]) rfl
    hbuf rfl
  exact h.2.2 fun _ ↦ ⟨true, by decide⟩

/-- An Ethernet broadcast frame behind packet information is received but not sent
back. -/
theorem recv_send_l2 :
    let body : Buf := [0xff, 0xff, 0xff, 0xff, 0xff, 0xff, 2, 0, 0, 0, 0, 1, 8, 0]
    Delivers (ifruFlags (piConfig .l2)) ([0, 0, 8, 0] ++ body) body ∧
      ∃ dev t, Device.new grantingKernel (piConfig .l2) startProcess = (.ok dev, t) ∧
        (dev.tun.recv .linux (List.replicate 14 0) (oneFrame ([0, 0, 8, 0] ++ body))).1 =
          .ok (14, body) ∧
        (dev.tun.send .linux body (oneFrame [])).1 =
          .error (.err (.new .invalidData "IP version 15")) := by
  intro body
  constructor
  · exact
      { frame_eq := ⟨[0, 0, 8, 0], by decide, rfl⟩
        body_eq := ⟨[], body, by decide, rfl, fun htun ↦ absurd htun (by decide),
          fun _ ↦ by decide⟩ }
  · exact ⟨_, _, rfl, by rfl, by rfl⟩

/-- In layer 3 without a virtio-net header everything can be sent back. -/
theorem isIpv6_of_delivers_l3 {config : Configuration PlatformConfig}
    (hlayer : config.layer ≠ some .l2) (hvnet : config.platformConfig.vnetHdr = false)
    {frame body : Buf} (hdelivers : Delivers (ifruFlags config) frame body) :
    ∃ ipv6, isIpv6 body = .ok ipv6 := by
  obtain ⟨-, hvnetBit, htunBit, -⟩ := ifruFlags_bits config
  obtain ⟨vnet, packet, hlen, rfl, hip, -⟩ := hdelivers.body_eq
  rw [if_pos (hvnetBit.2 (by rw [hvnet]; rfl))] at hlen
  rw [List.length_eq_zero_iff.1 hlen, List.nil_append]
  exact hip fun htun ↦ hlayer (of_decide_eq_true (htunBit.1 htun))

end RustTun.Linux

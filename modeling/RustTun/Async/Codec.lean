import RustTun.Base.Call
import RustTun.Error
import RustTun.Posix.Fd

/-!
# The packet codec

`TunPacketCodec` turns packets into the contents of a byte buffer and back.  `encode`
appends the bytes of a packet to what is in the buffer, and `decode` takes everything out
of it as one packet.  Nothing in the buffer says where one packet ends and the next
begins, so that packets keep their boundaries only while the buffer never holds two.
-/

namespace RustTun

/-! ## The buffer -/

/-- The type `BytesMut` of the crate `bytes`, with the functions that the codec calls.  That there
is memory for what is put into a buffer is taken for granted. -/
structure BytesMut (β : Type) where
  /-- `BytesMut::new`. -/
  new : β
  /-- The bytes that a buffer dereferences to, which are those of `freeze().to_vec()`. -/
  contents : β → Buf
  /-- `BytesMut::split_to`. -/
  splitTo : Nat → Call IoError β β
  /-- `BytesMut::reserve`. -/
  reserve : Nat → Call IoError β Unit
  /-- `BufMut::put`. -/
  put : Buf → Call IoError β Unit
  /-- A new buffer is empty. -/
  contents_new : contents new = []
  /-- Splitting a buffer returns what is in front of the index, and leaves the rest. -/
  splitTo_of_le {at_ : Nat} {b : β} : at_ ≤ (contents b).length → ∃ front rest,
    splitTo at_ b = (.ok front, rest) ∧ contents front = (contents b).take at_ ∧
      contents rest = (contents b).drop at_
  /-- Making room leaves the contents alone. -/
  reserve_apply (additional : Nat) (b : β) : ∃ b',
    reserve additional b = (.ok (), b') ∧ contents b' = contents b
  /-- What is put into a buffer is appended. -/
  put_apply (bytes : Buf) (b : β) : ∃ b',
    put bytes b = (.ok (), b') ∧ contents b' = contents b ++ bytes

/-- Buffers that are their contents; splitting one behind its end panics. -/
def BytesMut.std : BytesMut Buf where
  new := []
  contents b := b
  splitTo at_ b := if at_ ≤ b.length then (.ok (b.take at_), b.drop at_) else (.error .panic, b)
  reserve _ := pure ()
  put bytes := .modify (· ++ bytes)
  contents_new := rfl
  splitTo_of_le h := ⟨_, _, if_pos h, rfl, rfl⟩
  reserve_apply _ b := ⟨b, rfl, rfl⟩
  put_apply bytes b := ⟨b ++ bytes, rfl, rfl⟩

/-! ## The codec -/

/-- `TunPacketCodec`. -/
structure TunPacketCodec where
  mtu : Nat
deriving DecidableEq, Repr

namespace TunPacketCodec

variable {β : Type} (B : BytesMut β)

/-- `Decoder::decode`. -/
def decode (codec : TunPacketCodec) : Call IoError β (Option Buf) := do
  let buf ← .get
  if (B.contents buf).isEmpty then
    pure none
  else
    let pkt ← B.splitTo (B.contents buf).length
    B.reserve codec.mtu
    pure (some (B.contents pkt))

/-- `Encoder::encode`. -/
def encode (_ : TunPacketCodec) (item : Buf) : Call IoError β Unit := do
  B.reserve item.length
  B.put item

/-- Encode packets one after the other. -/
def encodeAll (codec : TunPacketCodec) : List Buf → Call IoError β Unit
  | [] => pure ()
  | pkt :: pkts => do
    codec.encode B pkt
    codec.encodeAll pkts

/-- `codec.Drains B buf pkts rest`: calling `decode` on `buf` until it returns `None` yields
`pkts` and leaves `rest`. -/
inductive Drains (codec : TunPacketCodec) : β → List Buf → β → Prop
  | /-- `decode` returns `None`. -/ done {buf rest : β} :
      codec.decode B buf = (.ok none, rest) → Drains codec buf [] rest
  | /-- `decode` returns a packet and is called again. -/ item {buf mid rest : β}
      {pkt : Buf} {pkts : List Buf} :
      codec.decode B buf = (.ok (some pkt), mid) → Drains codec mid pkts rest →
      Drains codec buf (pkt :: pkts) rest

/-- The packets come out of the buffer as they went in, and leave it empty. -/
def PreservesBoundaries (codec : TunPacketCodec) (pkts : List Buf) : Prop :=
  ∃ buf rest, codec.encodeAll B pkts B.new = (.ok (), buf) ∧ codec.Drains B buf pkts rest ∧
    B.contents rest = []

/-! ## What the calls do -/

variable {B} {codec : TunPacketCodec}

/-- There is nothing to decode in an empty buffer. -/
theorem decode_of_nil (codec : TunPacketCodec) {buf : β} (h : B.contents buf = []) :
    codec.decode B buf = (.ok none, buf) := by
  have hempty : (B.contents buf).isEmpty = true := List.isEmpty_iff.2 h
  rw [decode, Call.bind_of_ok (Call.get_apply buf), hempty, if_pos rfl]
  rfl

/-- What is in the buffer comes out as one packet. -/
theorem decode_of_ne_nil (codec : TunPacketCodec) {buf : β} (h : B.contents buf ≠ []) :
    ∃ rest, codec.decode B buf = (.ok (some (B.contents buf)), rest) ∧ B.contents rest = [] := by
  have hempty : (B.contents buf).isEmpty = false := List.isEmpty_eq_false_iff.2 h
  obtain ⟨pkt, mid, hsplit, hpkt, hmid⟩ := B.splitTo_of_le (Nat.le_refl (B.contents buf).length)
  obtain ⟨rest, hreserve, hrest⟩ := B.reserve_apply codec.mtu mid
  refine ⟨rest, ?_, ?_⟩
  · rw [decode, Call.bind_of_ok (Call.get_apply buf), hempty, if_neg Bool.false_ne_true,
      Call.bind_of_ok hsplit, Call.bind_of_ok hreserve, hpkt, List.take_length]
    rfl
  · rw [hrest, hmid, List.drop_length]

/-- Encoding appends. -/
theorem encode_apply (codec : TunPacketCodec) (item : Buf) (buf : β) :
    ∃ buf', codec.encode B item buf = (.ok (), buf') ∧
      B.contents buf' = B.contents buf ++ item := by
  obtain ⟨mid, hreserve, hmid⟩ := B.reserve_apply item.length buf
  obtain ⟨buf', hput, hbuf'⟩ := B.put_apply item mid
  refine ⟨buf', ?_, ?_⟩
  · rw [encode, Call.bind_of_ok hreserve, hput]
  · rw [hbuf', hmid]

/-- Encoding packet after packet appends them all. -/
theorem encodeAll_apply (codec : TunPacketCodec) (pkts : List Buf) (buf : β) :
    ∃ buf', codec.encodeAll B pkts buf = (.ok (), buf') ∧
      B.contents buf' = B.contents buf ++ pkts.flatten := by
  induction pkts generalizing buf with
  | nil => exact ⟨buf, rfl, (List.append_nil _).symm⟩
  | cons pkt pkts ih =>
      obtain ⟨mid, hencode, hmid⟩ := codec.encode_apply pkt buf
      obtain ⟨buf', hall, hbuf'⟩ := ih mid
      refine ⟨buf', ?_, ?_⟩
      · rw [encodeAll, Call.bind_of_ok hencode, hall]
      · rw [hbuf', hmid, List.flatten_cons, List.append_assoc]

/-- An empty buffer yields nothing. -/
theorem drains_iff_of_nil {buf rest : β} (h : B.contents buf = []) {pkts : List Buf} :
    codec.Drains B buf pkts rest ↔ pkts = [] ∧ rest = buf := by
  have hdecode := codec.decode_of_nil h
  constructor
  · intro h
    cases h with
    | done h =>
        rw [hdecode] at h
        cases h
        exact ⟨rfl, rfl⟩
    | item h _ =>
        rw [hdecode] at h
        cases h
  · rintro ⟨rfl, rfl⟩
    exact .done hdecode

/-- A buffer that is not empty yields all it holds as one packet. -/
theorem drains_iff_of_ne_nil {buf : β} (h : B.contents buf ≠ []) {pkts : List Buf} :
    (∃ rest, codec.Drains B buf pkts rest ∧ B.contents rest = []) ↔ pkts = [B.contents buf] := by
  obtain ⟨mid, hdecode, hmid⟩ := codec.decode_of_ne_nil h
  constructor
  · rintro ⟨rest, h, -⟩
    cases h with
    | done h =>
        rw [hdecode] at h
        cases h
    | item h hrest =>
        rw [hdecode] at h
        cases h
        obtain ⟨rfl, -⟩ := (drains_iff_of_nil hmid).1 hrest
        rfl
  · rintro rfl
    exact ⟨mid, .item hdecode ((drains_iff_of_nil hmid).2 ⟨rfl, rfl⟩), hmid⟩

/-- **The codec keeps packet boundaries exactly while there is at most one packet.** -/
theorem preservesBoundaries_iff (B : BytesMut β) (codec : TunPacketCodec) (pkts : List Buf)
    (hne : ∀ pkt ∈ pkts, pkt ≠ []) :
    codec.PreservesBoundaries B pkts ↔ pkts.length ≤ 1 := by
  obtain ⟨buf, hencode, hbuf⟩ := codec.encodeAll_apply (B := B) pkts B.new
  rw [B.contents_new, List.nil_append] at hbuf
  have hdrains : codec.PreservesBoundaries B pkts ↔
      ∃ rest, codec.Drains B buf pkts rest ∧ B.contents rest = [] := by
    constructor
    · rintro ⟨buf', rest, hencode', hdrains⟩
      cases hencode.symm.trans hencode'
      exact ⟨rest, hdrains⟩
    · rintro ⟨rest, hdrains⟩
      exact ⟨buf, rest, hencode, hdrains⟩
  rw [hdrains]
  match pkts with
  | [] => exact iff_of_true ⟨buf, (drains_iff_of_nil hbuf).2 ⟨rfl, rfl⟩, hbuf⟩ (Nat.zero_le _)
  | pkt :: pkts =>
      have hflat : B.contents buf ≠ [] := by
        rw [hbuf]
        intro h
        exact hne pkt List.mem_cons_self (List.flatten_eq_nil_iff.1 h pkt List.mem_cons_self)
      rw [drains_iff_of_ne_nil hflat, hbuf]
      cases pkts with
      | nil => simp
      | cons pkt' pkts => simp

/-- One packet goes through the codec. -/
theorem preservesBoundaries_one :
    (∀ pkt ∈ [[0x45, 0, 0]], pkt ≠ ([] : Buf)) ∧
      (TunPacketCodec.mk 1500).PreservesBoundaries .std [[0x45, 0, 0]] := by
  have hne : ∀ pkt ∈ [[0x45, 0, 0]], pkt ≠ ([] : Buf) := by decide
  exact ⟨hne, (preservesBoundaries_iff .std _ _ hne).2 (by decide)⟩

/-- Two packets that are encoded before the first is decoded come out as one. -/
theorem decode_joins_two_packets :
    let codec : TunPacketCodec := ⟨1500⟩
    codec.encodeAll .std [[0x45], [0x60]] BytesMut.std.new = (.ok (), [0x45, 0x60]) ∧
      codec.decode .std [0x45, 0x60] = (.ok (some [0x45, 0x60]), []) ∧
      ¬ codec.PreservesBoundaries .std [[0x45], [0x60]] := by
  refine ⟨rfl, rfl, ?_⟩
  rintro ⟨buf, rest, hbuf, h⟩
  cases hbuf
  have hne : BytesMut.std.contents [0x45, 0x60] ≠ [] := List.cons_ne_nil _ _
  have heq := (drains_iff_of_ne_nil hne).1 ⟨rest, h⟩
  cases heq

end TunPacketCodec

end RustTun

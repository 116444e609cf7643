import RustTun.Address
import RustTun.Base.Dotted

/-!
# The spellings of an address

Of each type that `IntoAddress` is implemented for, the values that are converted into a given IPv4
address are known (`spells_iff`).  There is one of each type, but for socket addresses, which also
have a port: an integer has the first octet in its lowest byte, and a text is what the address is
printed as, with no zeros in front of a number and nothing around it.
-/

namespace RustTun

open IntoAddress Memory

namespace Ipv4Addr

/-- `Display for Ipv4Addr`. -/
def display (ip : Ipv4Addr) : Name :=
  IpText.dotted [(ip.octets 0).toNat, (ip.octets 1).toNat, (ip.octets 2).toNat, (ip.octets 3).toNat]

/-- `u32::from_le_bytes` of the octets. -/
def toLe (ip : Ipv4Addr) : UInt32 := .ofNat (ofLeBytes ip.octets)

/-! ## Octets -/

/-- Four octets as a block. -/
def block (a b c d : UInt8) : Block 4 := Fin.cons a (Fin.cons b (Fin.cons c (Fin.cons d Fin.elim0)))

/-- An address is made of its octets, and of no others. -/
theorem ofOctets_eq_iff {octets : Block 4} {ip : Ipv4Addr} :
    ofOctets octets = ip ↔ octets = ip.octets := by
  constructor
  · rintro rfl
    have hlt : ofBeBytes octets < 2 ^ 32 := ofBeBytes_lt octets
    rw [ofOctets, Ipv4Addr.octets, BitVec.toNat_ofNat, Nat.mod_eq_of_lt hlt, beBytes_ofBeBytes]
  · rintro rfl
    exact ofOctets_octets ip

/-- A block of four octets has them. -/
theorem block_eq_iff {a b c d : UInt8} {octets : Block 4} :
    block a b c d = octets ↔ (a, b, c, d) = (octets 0, octets 1, octets 2, octets 3) := by
  constructor
  · rintro rfl
    rfl
  · intro h
    obtain ⟨rfl, rfl, rfl, rfl⟩ := h
    funext i
    match i with
    | 0 | 1 | 2 | 3 => rfl

/-- The number of four octets. -/
theorem ofBeBytes_block (a b c d : UInt8) : ofBeBytes (block a b c d) =
    256 * (256 * (256 * a.toNat + b.toNat) + c.toNat) + d.toNat := by
  have hrfl : ofBeBytes (block a b c d) =
      d.toNat + 256 * (c.toNat + 256 * (b.toNat + 256 * (a.toNat + 256 * 0))) := rfl
  rw [hrfl]
  omega

/-- `Ipv4Addr::new` puts octets together. -/
theorem new_eq_ofOctets (a b c d : UInt8) : Ipv4Addr.new a b c d = ofOctets (block a b c d) := by
  have hlt : ofBeBytes (block a b c d) < 2 ^ 32 := ofBeBytes_lt _
  apply BitVec.eq_of_toNat_eq
  rw [ofOctets, BitVec.toNat_ofNat, Nat.mod_eq_of_lt hlt, ofBeBytes_block, Ipv4Addr.new,
    BitVec.toNat_append, BitVec.toNat_append, BitVec.toNat_append,
    ← Nat.shiftLeft_add_eq_or_of_lt b.toBitVec.isLt,
    ← Nat.shiftLeft_add_eq_or_of_lt c.toBitVec.isLt,
    ← Nat.shiftLeft_add_eq_or_of_lt d.toBitVec.isLt, Nat.shiftLeft_eq, Nat.shiftLeft_eq,
    Nat.shiftLeft_eq]
  have htoNat (x : UInt8) : x.toBitVec.toNat = x.toNat := rfl
  rw [htoNat, htoNat, htoNat, htoNat]
  omega

/-- An address is put together from its octets, and from no others. -/
theorem new_eq_iff {a b c d : UInt8} {ip : Ipv4Addr} :
    Ipv4Addr.new a b c d = ip ↔
      (a, b, c, d) = (ip.octets 0, ip.octets 1, ip.octets 2, ip.octets 3) := by
  rw [new_eq_ofOctets, ofOctets_eq_iff, block_eq_iff]

/-- What is converted from an integer. -/
theorem ofOctets_leBytes_eq_iff {value : UInt32} {ip : Ipv4Addr} :
    ofOctets (leBytes 4 value.toNat) = ip ↔ value = ip.toLe := by
  rw [ofOctets_eq_iff, toLe]
  constructor
  · intro h
    rw [← h, ofLeBytes_leBytes value.toNat_lt, UInt32.ofNat_toNat]
  · rintro rfl
    have hlt : ofLeBytes ip.octets < 2 ^ 32 := ofLeBytes_lt ip.octets
    rw [UInt32.toNat_ofNat', Nat.mod_eq_of_lt hlt, leBytes_ofLeBytes]

end Ipv4Addr

/-! ## Integers -/

/-- The lowest byte. -/
theorem toUInt8_and (value : UInt32) : (value &&& 0xff).toUInt8 = UInt8.ofNat value.toNat := by
  have hmask : (value &&& 0xff).toNat = value.toNat % 2 ^ 8 := by
    rw [UInt32.toNat_and]
    exact Nat.and_two_pow_sub_one_eq_mod value.toNat 8
  apply UInt8.toNat.inj
  rw [UInt32.toNat_toUInt8, hmask, UInt8.toNat_ofNat']
  omega

/-- The four shifts of an integer are its bytes. -/
theorem intoAddress_u32 (value : UInt32) :
    intoAddress value = .ok (.v4 (Ipv4Addr.ofOctets (leBytes 4 value.toNat))) := by
  have hbytes : leBytes 4 value.toNat = Ipv4Addr.block (value &&& 0xff).toUInt8
      ((value >>> 8) &&& 0xff).toUInt8 ((value >>> 16) &&& 0xff).toUInt8
      ((value >>> 24) &&& 0xff).toUInt8 := by
    rw [toUInt8_and, toUInt8_and, toUInt8_and, toUInt8_and, UInt32.toNat_shiftRight,
      UInt32.toNat_shiftRight, UInt32.toNat_shiftRight, Nat.shiftRight_eq_div_pow,
      Nat.shiftRight_eq_div_pow, Nat.shiftRight_eq_div_pow]
    symm
    rw [Ipv4Addr.block_eq_iff, leBytes, leBytes, leBytes, leBytes, Fin.val_zero, Nat.pow_zero,
      Nat.div_one]
    rfl
  rw [hbytes, ← Ipv4Addr.new_eq_ofOctets]
  rfl

/-! ## Texts -/

/-- The value of four octets that were read. -/
theorem ofNat_foldl {a b c d : Nat} (ha : a < 256) (hb : b < 256) (hc : c < 256) (hd : d < 256) :
    (.ofNat 32 ([a, b, c, d].foldl (fun value octet ↦ 256 * value + octet) 0) : Ipv4Addr) =
      Ipv4Addr.ofOctets (Ipv4Addr.block (.ofNat a) (.ofNat b) (.ofNat c) (.ofNat d)) := by
  rw [Ipv4Addr.ofOctets, Ipv4Addr.ofBeBytes_block, UInt8.toNat_ofNat_of_lt' ha,
    UInt8.toNat_ofNat_of_lt' hb, UInt8.toNat_ofNat_of_lt' hc, UInt8.toNat_ofNat_of_lt' hd]
  simp only [List.foldl_cons, List.foldl_nil, Nat.mul_zero, Nat.zero_add]

/-- **A text is parsed as an IPv4 address exactly if it is what the address is printed as.** -/
theorem parseIpAddr_eq_v4_iff {text : Name} {ip : Ipv4Addr} :
    parseIpAddr text = some (.v4 ip) ↔ text = ip.display := by
  rw [parseIpAddr, Option.map_eq_some_iff]
  constructor
  · rintro ⟨parsed, hparse, hip⟩
    cases parsed with
    | v6 groups => cases hip
    | v4 octets =>
        obtain ⟨hlength, hlt, rfl⟩ := IpText.parse_eq_v4_iff.1 hparse
        match octets, hlength with
        | [a, b, c, d], _ =>
            simp only [List.forall_mem_cons] at hlt
            obtain ⟨ha, hb, hc, hd, -⟩ := hlt
            rw [IpAddr.v4.injEq, ofNat_foldl ha hb hc hd, Ipv4Addr.ofOctets_eq_iff,
              Ipv4Addr.block_eq_iff, Prod.mk.injEq, Prod.mk.injEq, Prod.mk.injEq] at hip
            obtain ⟨ha', hb', hc', hd'⟩ := hip
            rw [Ipv4Addr.display, ← ha', ← hb', ← hc', ← hd', UInt8.toNat_ofNat_of_lt' ha,
              UInt8.toNat_ofNat_of_lt' hb, UInt8.toNat_ofNat_of_lt' hc, UInt8.toNat_ofNat_of_lt' hd]
  · rintro rfl
    have hlt (i : Fin 4) : (ip.octets i).toNat < 256 := (ip.octets i).toNat_lt
    refine ⟨.v4 [(ip.octets 0).toNat, (ip.octets 1).toNat, (ip.octets 2).toNat,
      (ip.octets 3).toNat], IpText.parse_eq_v4_iff.2 ⟨rfl, ?_, rfl⟩, ?_⟩
    · simp only [List.forall_mem_cons]
      exact ⟨hlt 0, hlt 1, hlt 2, hlt 3, List.forall_mem_nil _⟩
    · rw [IpAddr.v4.injEq, ofNat_foldl (hlt 0) (hlt 1) (hlt 2) (hlt 3), Ipv4Addr.ofOctets_eq_iff,
        Ipv4Addr.block_eq_iff, UInt8.ofNat_toNat, UInt8.ofNat_toNat, UInt8.ofNat_toNat,
        UInt8.ofNat_toNat]

/-! ## Arguments -/

/-- The value is a spelling of an address. -/
def Argument.Spells (ip : Ipv4Addr) : Argument → Prop
  | .u32 value => value = ip.toLe
  | .i32 value => value = ip.toLe.toInt32
  | .octets value => value = (ip.octets 0, ip.octets 1, ip.octets 2, ip.octets 3)
  | .text value => value = ip.display
  | .ipv4Addr value => value = ip
  | .ipAddr value => value = .v4 ip
  | .socketAddrV4 value => value.ip = ip
  | .socketAddr value => ∃ port, value = .v4 ip port
  | @Argument.other _ inst value => inst.intoAddress value = .ok (.v4 ip)

/-- **The values that are converted into an address are its spellings.** -/
theorem spells_iff (arg : Argument) (ip : Ipv4Addr) :
    intoAddress arg = .ok (.v4 ip) ↔ arg.Spells ip := by
  have hok {a b : Ipv4Addr} : (.ok (.v4 a) : Except (Stop Error) IpAddr) = .ok (.v4 b) ↔ a = b := by
    rw [Except.ok.injEq, IpAddr.v4.injEq]
  cases arg with
  | u32 value =>
      show intoAddress value = .ok (.v4 ip) ↔ value = ip.toLe
      rw [intoAddress_u32, hok, Ipv4Addr.ofOctets_leBytes_eq_iff]
  | i32 value =>
      show intoAddress value.toUInt32 = .ok (.v4 ip) ↔ value = ip.toLe.toInt32
      rw [intoAddress_u32, hok, Ipv4Addr.ofOctets_leBytes_eq_iff]
      constructor
      · intro h
        rw [← h, Int32.toInt32_toUInt32]
      · rintro rfl
        exact UInt32.toUInt32_toInt32 _
  | octets value => exact hok.trans Ipv4Addr.new_eq_iff
  | text value =>
      show intoAddress value = .ok (.v4 ip) ↔ value = ip.display
      rw [← parseIpAddr_eq_v4_iff]
      constructor
      · exact parseIpAddr_of_intoAddress
      · intro h
        simp only [intoAddress, h]
  | ipv4Addr value => exact hok
  | ipAddr value =>
      cases value with
      | v4 addr => exact hok.trans (IpAddr.v4.injEq addr ip).to_iff.symm
      | v6 addr => exact iff_of_false (fun h ↦ nomatch h) fun h ↦ nomatch h
  | socketAddrV4 value => exact hok
  | socketAddr value =>
      cases value with
      | v4 addr port =>
          refine hok.trans ⟨?_, ?_⟩
          · rintro rfl
            exact ⟨port, rfl⟩
          · rintro ⟨port', h⟩
            cases h
            rfl
      | v6 addr port flowinfo scopeId =>
          refine iff_of_false (fun h ↦ nomatch h) ?_
          rintro ⟨port', h⟩
          cases h
  | other value => exact Iff.rfl

/-- The address `10.0.0.1`. -/
example : Ipv4Addr.display 0x0a000001 = [49, 48, 46, 48, 46, 48, 46, 49] ∧
    Ipv4Addr.toLe 0x0a000001 = 0x0100000a := by
  decide

end RustTun

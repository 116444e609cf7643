import RustTun.Base.Memory
import RustTun.Net
import RustTun.Posix.Split

/-!
# Socket addresses as C structures

An address travels to the kernel and back in a `sockaddr_union`: 128 bytes that are a
`sockaddr_in` or a `sockaddr_in6`, told apart by a family that both keep in the same place.
The place, its width and the number of the family depend on the target, and so does
whether a length stands in front of it; ports are in the order of the network, and the
numbers in the order of the machine.

The encoder and the decoder agree on the address and the port
(`SocketAddr.tryFrom_rsAddrToSockaddr`).  Neither has anything to do with the flow
information and the scope of an IPv6 address, and `SocketAddr.roundTrip_iff` says that
nothing else is lost.
-/

namespace RustTun

open Memory

/-! ## Addresses -/

/-- `std::net::Ipv6Addr`. -/
abbrev Ipv6Addr := BitVec 128

/-- `Ipv4Addr::octets`. -/
def Ipv4Addr.octets (ip : Ipv4Addr) : Block 4 := beBytes 4 ip.toNat

/-- `Ipv4Addr::from([u8; 4])`. -/
def Ipv4Addr.ofOctets (octets : Block 4) : Ipv4Addr := BitVec.ofNat 32 (ofBeBytes octets)

/-- `Ipv6Addr::octets`. -/
def Ipv6Addr.octets (ip : Ipv6Addr) : Block 16 := beBytes 16 ip.toNat

/-- `Ipv6Addr::from([u8; 16])`. -/
def Ipv6Addr.ofOctets (octets : Block 16) : Ipv6Addr := BitVec.ofNat 128 (ofBeBytes octets)

theorem Ipv4Addr.ofOctets_octets (ip : Ipv4Addr) : Ipv4Addr.ofOctets ip.octets = ip := by
  apply BitVec.eq_of_toNat_eq
  rw [ofOctets, octets, ofBeBytes_beBytes ip.isLt, BitVec.toNat_ofNat]
  exact Nat.mod_eq_of_lt ip.isLt

theorem Ipv6Addr.ofOctets_octets (ip : Ipv6Addr) : Ipv6Addr.ofOctets ip.octets = ip := by
  apply BitVec.eq_of_toNat_eq
  rw [ofOctets, octets, ofBeBytes_beBytes ip.isLt, BitVec.toNat_ofNat]
  exact Nat.mod_eq_of_lt ip.isLt

theorem Ipv6Addr.octets_ofOctets (octets : Block 16) :
    (Ipv6Addr.ofOctets octets).octets = octets := by
  have hlt : ofBeBytes octets < 2 ^ 128 := ofBeBytes_lt octets
  rw [ofOctets, Ipv6Addr.octets, BitVec.toNat_ofNat, Nat.mod_eq_of_lt hlt, beBytes_ofBeBytes]

/-- `std::net::SocketAddr`. -/
inductive SocketAddr where
  | v4 (ip : Ipv4Addr) (port : UInt16)
  | v6 (ip : Ipv6Addr) (port : UInt16) (flowinfo scopeId : UInt32)
deriving DecidableEq, Repr

namespace SocketAddr

/-- `SocketAddr::new`. -/
def new : IpAddr → UInt16 → SocketAddr
  | .v4 ip, port => .v4 ip port
  | .v6 ip, port => .v6 ip port 0 0

/-- `SocketAddr::ip`. -/
def ip : SocketAddr → IpAddr
  | .v4 ip _ => .v4 ip
  | .v6 ip _ _ _ => .v6 ip

/-- `SocketAddr::port`. -/
def port : SocketAddr → UInt16
  | .v4 _ port => port
  | .v6 _ port _ _ => port

/-- An address without flow information and without a scope. -/
def IsPlain : SocketAddr → Prop
  | .v4 _ _ => True
  | .v6 _ _ flowinfo scopeId => flowinfo = 0 ∧ scopeId = 0

/-- An address is its address and port exactly if it has nothing else. -/
theorem new_ip_port_eq_iff {a : SocketAddr} : new a.ip a.port = a ↔ a.IsPlain := by
  cases a with
  | v4 ip port => exact ⟨fun _ ↦ trivial, fun _ ↦ rfl⟩
  | v6 ip port flowinfo scopeId =>
      constructor
      · intro h
        cases h
        exact ⟨rfl, rfl⟩
      · rintro ⟨rfl, rfl⟩
        rfl

end SocketAddr

/-! ## Layouts -/

/-- `sockaddr_union`. -/
abbrev SockaddrUnion := Block 128

/-- `libc::AF_INET`. -/
def AF_INET : Nat := 2

/-- `libc::AF_INET6`. -/
def AF_INET6 : TargetOs → Nat
  | .linux | .android => 10
  | .macos | .ios => 30
  | .freebsd => 28

/-- The size of a `libc::sa_family_t`. -/
def familySize : TargetOs → Nat
  | .linux | .android => 2
  | .macos | .ios | .freebsd => 1

namespace SockaddrUnion

/-- `sin_len` and `sin6_len`, of the targets that have them. -/
def len : Field 128 1 := ⟨0, by decide⟩

/-- `ss_family`, `sin_family` and `sin6_family`: at the front of the union, or behind the
length. -/
def family : (os : TargetOs) → Field 128 (familySize os)
  | .linux | .android => ⟨0, by decide⟩
  | .macos | .ios | .freebsd => ⟨1, by decide⟩

/-- `sin_port`. -/
def sinPort : Field 128 2 := ⟨2, by decide⟩

/-- `sin_addr.s_addr`. -/
def sinAddr : Field 128 4 := ⟨4, by decide⟩

/-- `sin6_port`. -/
def sin6Port : Field 128 2 := ⟨2, by decide⟩

/-- `sin6_addr.s6_addr`. -/
def sin6Addr : Field 128 16 := ⟨8, by decide⟩

/-- `libc::sockaddr`. -/
def addr : Field 128 16 := ⟨0, by decide⟩

/-- The family is in front of all fields but the length. -/
theorem family_disjoint (os : TargetOs) {w : Nat} {f : Field 128 w} (h : 2 ≤ f.offset) :
    f.Disjoint (family os) := by
  cases os <;> exact .inr h

/-- `sockaddr_union::from` of a `libc::sockaddr`: `rest` is what is in the bytes of the union
that the structure does not have. -/
def ofSockaddr (rest : SockaddrUnion) (sa : Block 16) : SockaddrUnion := rest.set addr sa

/-- The fields that a `libc::sockaddr` has pass through it unchanged. -/
theorem get_ofSockaddr (rest sa : SockaddrUnion) {w : Nat} {f : Field 128 w}
    (h : f.offset + w ≤ 16) : (ofSockaddr rest (sa.get addr)).get f = sa.get f := by
  have hoffset : f.offset = addr.offset + (⟨f.offset, h⟩ : Field 16 w).offset :=
    (Nat.zero_add _).symm
  rw [ofSockaddr, Block.get_set_of_inside _ hoffset, Block.get_get _ hoffset]

/-- The bytes that a `libc::sockaddr` does not have are not changed by it. -/
theorem ofSockaddr_apply (rest : SockaddrUnion) (sa : Block 16) {i : Fin 128} (h : 16 ≤ i.val) :
    ofSockaddr rest sa i = rest i :=
  Block.set_apply_of_not_mem _ _ _ fun hi ↦ absurd hi.2 (Nat.not_lt.2 h)

end SockaddrUnion

/-! ## Conversions -/

section

open SockaddrUnion

variable (os : TargetOs) (e : Endian)

/-- Set the length, on the targets on which that is done. -/
def setLen (size : UInt8) (addr : SockaddrUnion) : SockaddrUnion :=
  match os with
  | .freebsd | .macos => addr.set len fun _ ↦ size
  | .linux | .android | .ios => addr

/-- `rs_addr_to_sockaddr`. -/
def rsAddrToSockaddr : SocketAddr → SockaddrUnion
  | .v4 ip port =>
    let addr : SockaddrUnion := .zeroed 128
    let addr := setLen os 16 addr
    let addr := addr.set (family os) (neBytes e _ AF_INET)
    let addr := addr.set sinAddr (neBytes e 4 (ofNeBytes e ip.octets))
    addr.set sinPort (neBytes e 2 (toBe e 2 port.toNat))
  | .v6 ip port _ _ =>
    let addr : SockaddrUnion := .zeroed 128
    let addr := setLen os 28 addr
    let addr := addr.set (family os) (neBytes e _ (AF_INET6 os))
    let addr := addr.set sin6Addr ip.octets
    addr.set sin6Port (neBytes e 2 (toBe e 2 port.toNat))

/-- `sockaddr_to_rs_addr`. -/
def sockaddrToRsAddr (sa : SockaddrUnion) : Option SocketAddr :=
  let family := ofNeBytes e (sa.get (family os))
  if family = AF_INET then
    let ip := Ipv4Addr.ofOctets (neBytes e 4 (ofNeBytes e (sa.get sinAddr)))
    let port := UInt16.ofNat (toBe e 2 (ofNeBytes e (sa.get sinPort)))
    some (.new (.v4 ip) port)
  else if family = AF_INET6 os then
    let ip := Ipv6Addr.ofOctets (sa.get sin6Addr)
    let port := UInt16.ofNat (toBe e 2 (ofNeBytes e (sa.get sin6Port)))
    some (.new (.v6 ip) port)
  else
    none

/-- `SocketAddr::try_from`. -/
def SocketAddr.tryFrom (sa : SockaddrUnion) : Except IoError SocketAddr :=
  match sockaddrToRsAddr os e sa with
  | some a => .ok a
  | none => .error (.simple .invalidInput)

/-- `ipaddr_to_sockaddr`, of an address that is at `addr` in some block of memory; nothing,
if more is overwritten than there is. -/
def ipaddrToSockaddr {n : Nat} (srcAddr : IpAddr) (srcPort : UInt16) (mem : Block n)
    (addr size : Nat) : Option (Block n) :=
  let sa := rsAddrToSockaddr os e (.new srcAddr srcPort)
  sa.copyNonoverlapping mem addr (min size 128)

end

/-! ## What is written -/

namespace SockaddrUnion

variable {os : TargetOs} {e : Endian}

/-- The number of a family fits into its field. -/
theorem ofNeBytes_inet : ofNeBytes e (neBytes e (familySize os) AF_INET) = AF_INET :=
  ofNeBytes_neBytes e (by cases os <;> decide)

theorem ofNeBytes_inet6 :
    ofNeBytes e (neBytes e (familySize os) (AF_INET6 os)) = AF_INET6 os :=
  ofNeBytes_neBytes e (by cases os <;> decide)

theorem inet6_ne_inet : AF_INET6 os ≠ AF_INET := by
  cases os <;> decide

/-- The port comes back from the order of the network. -/
theorem port_eq (port : UInt16) :
    UInt16.ofNat (toBe e 2 (ofNeBytes e (neBytes e 2 (toBe e 2 port.toNat)))) = port := by
  have hlt : port.toNat < 256 ^ 2 := port.toNat_lt
  rw [toBe_ofNeBytes, neBytes_toBe, ofBeBytes_beBytes hlt, UInt16.ofNat_toNat]

/-- A union that has the family, the address and the port of an IPv4 address. -/
structure IsV4 (os : TargetOs) (e : Endian) (sa : SockaddrUnion) (ip : Ipv4Addr)
    (port : UInt16) : Prop where
  family : sa.get (family os) = neBytes e _ AF_INET
  addr : sa.get sinAddr = ip.octets
  port : sa.get sinPort = neBytes e 2 (toBe e 2 port.toNat)

/-- A union that has the family and the port of an IPv6 address. -/
structure IsV6 (os : TargetOs) (e : Endian) (sa : SockaddrUnion) (port : UInt16) : Prop where
  family : sa.get (SockaddrUnion.family os) = neBytes e _ (AF_INET6 os)
  port : sa.get sin6Port = neBytes e 2 (toBe e 2 port.toNat)

theorem isV4_rsAddrToSockaddr (os : TargetOs) (e : Endian) (ip : Ipv4Addr) (port : UInt16) :
    IsV4 os e (rsAddrToSockaddr os e (.v4 ip port)) ip port where
  family := by
    rw [rsAddrToSockaddr, Block.get_set_of_disjoint _ (family_disjoint os (by decide)),
      Block.get_set_of_disjoint _ (family_disjoint os (by decide)), Block.get_set]
  addr := by
    have hdisjoint : sinPort.Disjoint sinAddr := by decide
    rw [rsAddrToSockaddr, Block.get_set_of_disjoint _ hdisjoint, Block.get_set,
      neBytes_ofNeBytes]
  port := Block.get_set _ _ _

theorem isV6_rsAddrToSockaddr (os : TargetOs) (e : Endian) (ip : Ipv6Addr) (port : UInt16)
    (flowinfo scopeId : UInt32) :
    IsV6 os e (rsAddrToSockaddr os e (.v6 ip port flowinfo scopeId)) port where
  family := by
    rw [rsAddrToSockaddr, Block.get_set_of_disjoint _ (family_disjoint os (by decide)),
      Block.get_set_of_disjoint _ (family_disjoint os (by decide)), Block.get_set]
  port := Block.get_set _ _ _

/-- The address of an IPv6 address is in its field. -/
theorem sin6Addr_rsAddrToSockaddr (ip : Ipv6Addr) (port : UInt16) (flowinfo scopeId : UInt32) :
    (rsAddrToSockaddr os e (.v6 ip port flowinfo scopeId)).get sin6Addr = ip.octets := by
  have hdisjoint : sin6Port.Disjoint sin6Addr := by decide
  rw [rsAddrToSockaddr, Block.get_set_of_disjoint _ hdisjoint, Block.get_set]

/-- What the decoder makes of an IPv4 address. -/
theorem IsV4.sockaddrToRsAddr_eq {sa : SockaddrUnion} {ip : Ipv4Addr} {port : UInt16}
    (h : IsV4 os e sa ip port) : sockaddrToRsAddr os e sa = some (.v4 ip port) := by
  have hip : Ipv4Addr.ofOctets (neBytes e 4 (ofNeBytes e (sa.get sinAddr))) = ip := by
    rw [neBytes_ofNeBytes, h.addr, Ipv4Addr.ofOctets_octets]
  have hfamily : ofNeBytes e (sa.get (SockaddrUnion.family os)) = AF_INET := by
    rw [h.family, ofNeBytes_inet]
  rw [sockaddrToRsAddr, if_pos hfamily, hip, h.port, port_eq]
  rfl

/-- What the decoder makes of an IPv6 address: the address is whatever its field has. -/
theorem IsV6.sockaddrToRsAddr_eq {sa : SockaddrUnion} {port : UInt16} (h : IsV6 os e sa port) :
    sockaddrToRsAddr os e sa =
      some (.v6 (Ipv6Addr.ofOctets (sa.get sin6Addr)) port 0 0) := by
  have hfamily : ofNeBytes e (sa.get (SockaddrUnion.family os)) = AF_INET6 os := by
    rw [h.family, ofNeBytes_inet6]
  have hinet : ofNeBytes e (sa.get (SockaddrUnion.family os)) ≠ AF_INET := by
    rw [hfamily]
    exact inet6_ne_inet
  rw [sockaddrToRsAddr, if_neg hinet, if_pos hfamily, h.port, port_eq]
  rfl

end SockaddrUnion

/-! ## Round trips -/

namespace SocketAddr

variable (os : TargetOs) (e : Endian)

/-- Encoding and decoding keep the address and the port. -/
theorem tryFrom_rsAddrToSockaddr (a : SocketAddr) :
    tryFrom os e (rsAddrToSockaddr os e a) = .ok (new a.ip a.port) := by
  cases a with
  | v4 ip port =>
      rw [tryFrom, (SockaddrUnion.isV4_rsAddrToSockaddr os e ip port).sockaddrToRsAddr_eq]
      rfl
  | v6 ip port flowinfo scopeId =>
      have hv6 := SockaddrUnion.isV6_rsAddrToSockaddr os e ip port flowinfo scopeId
      rw [tryFrom, hv6.sockaddrToRsAddr_eq, SockaddrUnion.sin6Addr_rsAddrToSockaddr,
        Ipv6Addr.ofOctets_octets]
      rfl

/-- The encoder only depends on the address and the port. -/
theorem rsAddrToSockaddr_new (a : SocketAddr) :
    rsAddrToSockaddr os e (new a.ip a.port) = rsAddrToSockaddr os e a := by
  cases a with
  | v4 ip port => rfl
  | v6 ip port flowinfo scopeId => rfl

/-- **An address comes back from a `sockaddr_union` exactly if it has no flow information
and no scope**; the union comes back from its address in any case. -/
theorem roundTrip_iff (a : SocketAddr) :
    (tryFrom os e (rsAddrToSockaddr os e a) = .ok a ↔ a.IsPlain) ∧
      ∃ b, tryFrom os e (rsAddrToSockaddr os e a) = .ok b ∧
        rsAddrToSockaddr os e b = rsAddrToSockaddr os e a := by
  have hdecode := tryFrom_rsAddrToSockaddr os e a
  constructor
  · rw [hdecode, Except.ok.injEq]
    exact new_ip_port_eq_iff
  · exact ⟨new a.ip a.port, hdecode, rsAddrToSockaddr_new os e a⟩

/-- The address `fe80::1` of a link that has the number 3 is sent without the number, as is
its flow information. -/
theorem tryFrom_loses_scope :
    let linkLocal : Ipv6Addr := 0xfe80 <<< 112 ||| 1
    tryFrom .linux .little (rsAddrToSockaddr .linux .little (.v6 linkLocal 80 0 3)) =
        .ok (.v6 linkLocal 80 0 0) ∧
      tryFrom .linux .little (rsAddrToSockaddr .linux .little (.v6 linkLocal 80 0 3)) ≠
        .ok (.v6 linkLocal 80 0 3) := by
  intro linkLocal
  have hdecode := tryFrom_rsAddrToSockaddr .linux .little (.v6 linkLocal 80 0 3)
  refine ⟨hdecode, fun h ↦ ?_⟩
  rw [hdecode] at h
  cases h

end SocketAddr

end RustTun

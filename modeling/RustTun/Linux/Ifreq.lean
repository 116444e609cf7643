import RustTun.Posix.Sockaddr

/-!
# Addresses in Linux requests

The setters of the Linux device write an address into the union `ifr_ifru` of a request,
and the getters read one out of it.  The two move different numbers of bytes: a setter
copies as much of a `sockaddr_union` as the union of the request has room for, 24 bytes, a
getter reads the 16 bytes of a `libc::sockaddr` and leaves the rest of its own
`sockaddr_union` uninitialised.  The address of an IPv6 address begins at byte 8 and has 16
bytes, so that a getter never has its second half.
-/

namespace RustTun.Linux

open Memory

/-! ## Requests -/

/-- The bytes of an `ifreq` of 64-bit Linux. -/
abbrev IfreqBytes := Block 40

/-- `ifr_name`. -/
def ifrName : Field 40 16 := ⟨0, by decide⟩

/-- `ifr_ifru`, which is all of the request but its name. -/
def ifrIfru : Field 40 24 := ⟨16, by decide⟩

/-- `OVERWRITE_SIZE`: the size of the union `ifr_ifru`. -/
def OVERWRITE_SIZE : Nat := 24

/-- The fields of `ifr_ifru` that are a `libc::sockaddr`. -/
inductive IfruSockaddr where
  | /-- The field of `address` and `set_address`. -/ ifruAddr
  | /-- The field of `destination` and `set_destination`. -/ ifruDstaddr
  | /-- The field of `broadcast` and `set_broadcast`. -/ ifruBroadaddr
  | /-- The field of `netmask` and `set_netmask`. -/ ifruNetmask
deriving DecidableEq, Repr

/-- Where a field is: all fields of a union begin where the union does. -/
def IfruSockaddr.field : IfruSockaddr → Field 40 16
  | .ifruAddr | .ifruDstaddr | .ifruBroadaddr | .ifruNetmask => ⟨16, by decide⟩

variable (e : Endian)

/-- What a setter makes of a request before it is sent; nothing, if it writes past the
request. -/
def putAddr (f : IfruSockaddr) (req : IfreqBytes) (value : IpAddr) : Option IfreqBytes :=
  ipaddrToSockaddr .linux e value 0 req f.field.offset OVERWRITE_SIZE

/-- What a getter makes of a request that was answered, where `rest` is in the memory of its
`sockaddr_union`. -/
def getAddr (f : IfruSockaddr) (req : IfreqBytes) (rest : SockaddrUnion) :
    Except IoError IpAddr := do
  let sa := SockaddrUnion.ofSockaddr rest (req.get f.field)
  let addr ← SocketAddr.tryFrom .linux e sa
  pure addr.ip

/-! ## What is written -/

/-- The part of a `sockaddr_union` that is copied into a request. -/
def copied : Field 128 24 := ⟨0, by decide⟩

variable {e} {f : IfruSockaddr} {req : IfreqBytes}

/-- A setter writes all of the union, and nothing else. -/
theorem putAddr_eq (value : IpAddr) :
    putAddr e f req value =
      some (req.set ifrIfru ((rsAddrToSockaddr .linux e (.new value 0)).get copied)) := by
  have hsrc : 0 + min OVERWRITE_SIZE 128 ≤ 128 := by decide
  have hdst : f.field.offset + min OVERWRITE_SIZE 128 ≤ 40 := by cases f <;> decide
  rw [putAddr, ipaddrToSockaddr, Block.copyNonoverlapping_eq _ _ hsrc hdst]
  cases f <;> rfl

/-- What a getter reads of it is the front of the `sockaddr_union`. -/
theorem get_field_set_ifrIfru (sa : SockaddrUnion) :
    (req.set ifrIfru (sa.get copied)).get f.field = sa.get SockaddrUnion.addr := by
  let front : Field 24 16 := ⟨0, by decide⟩
  have hfield : f.field.offset = ifrIfru.offset + front.offset := by cases f <;> rfl
  have haddr : SockaddrUnion.addr.offset = copied.offset + front.offset := rfl
  rw [Block.get_set_of_inside _ hfield, Block.get_get _ haddr]

/-! ## What is read -/

/-- A getter decodes the front of what a setter encoded. -/
theorem getAddr_set (sa rest : SockaddrUnion) :
    getAddr e f (req.set ifrIfru (sa.get copied)) rest =
      (SocketAddr.tryFrom .linux e (.ofSockaddr rest (sa.get SockaddrUnion.addr))).map
        SocketAddr.ip := by
  rw [getAddr, get_field_set_ifrIfru]
  rfl

/-- All that there is to an IPv4 address is at the front. -/
theorem getAddr_v4 (ip : Ipv4Addr) (rest : SockaddrUnion) :
    getAddr e f
      (req.set ifrIfru ((rsAddrToSockaddr .linux e (.new (.v4 ip) 0)).get copied)) rest =
      .ok (.v4 ip) := by
  have hv4 := SockaddrUnion.isV4_rsAddrToSockaddr .linux e ip 0
  have hread : SockaddrUnion.IsV4 .linux e (SockaddrUnion.ofSockaddr rest
      ((rsAddrToSockaddr .linux e (.v4 ip 0)).get SockaddrUnion.addr)) ip 0 :=
    { family := by rw [SockaddrUnion.get_ofSockaddr _ _ (by decide), hv4.family]
      addr := by rw [SockaddrUnion.get_ofSockaddr _ _ (by decide), hv4.addr]
      port := by rw [SockaddrUnion.get_ofSockaddr _ _ (by decide), hv4.port] }
  rw [getAddr_set, SocketAddr.new, SocketAddr.tryFrom, hread.sockaddrToRsAddr_eq]
  rfl

/-- The address of an IPv6 address is read from a field that reaches into uninitialised
memory. -/
theorem getAddr_v6 (ip : Ipv6Addr) (rest : SockaddrUnion) :
    getAddr e f
      (req.set ifrIfru ((rsAddrToSockaddr .linux e (.new (.v6 ip) 0)).get copied)) rest =
      .ok (.v6 (Ipv6Addr.ofOctets ((SockaddrUnion.ofSockaddr rest
        ((rsAddrToSockaddr .linux e (.v6 ip 0 0 0)).get SockaddrUnion.addr)).get
          SockaddrUnion.sin6Addr))) := by
  have hv6 := SockaddrUnion.isV6_rsAddrToSockaddr .linux e ip 0 0 0
  have hread : SockaddrUnion.IsV6 .linux e (SockaddrUnion.ofSockaddr rest
      ((rsAddrToSockaddr .linux e (.v6 ip 0 0 0)).get SockaddrUnion.addr)) 0 :=
    { family := by rw [SockaddrUnion.get_ofSockaddr _ _ (by decide), hv6.family]
      port := by rw [SockaddrUnion.get_ofSockaddr _ _ (by decide), hv6.port] }
  rw [getAddr_set, SocketAddr.new, SocketAddr.tryFrom, hread.sockaddrToRsAddr_eq]
  rfl

/-- The ninth byte of an IPv6 address is one of those: it is whatever is there. -/
theorem octet_of_getAddr_v6 {ip : Ipv6Addr} {rest : SockaddrUnion}
    (h : getAddr e f
      (req.set ifrIfru ((rsAddrToSockaddr .linux e (.new (.v6 ip) 0)).get copied)) rest =
      .ok (.v6 ip)) : rest 16 = ip.octets 8 := by
  rw [getAddr_v6, Except.ok.injEq, IpAddr.v6.injEq] at h
  have hoctets := congrArg Ipv6Addr.octets h
  rw [Ipv6Addr.octets_ofOctets] at hoctets
  rw [← hoctets]
  exact (SockaddrUnion.ofSockaddr_apply rest _ (Nat.le_refl 16)).symm

/-- **A getter reads back what a setter wrote exactly if that was an IPv4 address**; no setter
writes past `ifr_ifru`, on either side of it. -/
theorem getAddr_putAddr_iff (e : Endian) (f : IfruSockaddr) (req : IfreqBytes)
    (value : IpAddr) :
    ∃ req', putAddr e f req value = some req' ∧ req'.get ifrName = req.get ifrName ∧
      ((∀ rest, getAddr e f req' rest = .ok value) ↔ ∃ ip, value = .v4 ip) := by
  have hdisjoint : ifrIfru.Disjoint ifrName := by decide
  refine ⟨_, putAddr_eq value, Block.get_set_of_disjoint _ hdisjoint _, ?_⟩
  cases value with
  | v4 ip => exact ⟨fun _ ↦ ⟨ip, rfl⟩, fun _ ↦ getAddr_v4 ip⟩
  | v6 ip =>
      constructor
      · intro h
        -- the uninitialised byte is made to differ from the one that should be there
        have hoctet := octet_of_getAddr_v6 (h fun _ ↦ Ipv6Addr.octets ip 8 + 1)
        exact absurd hoctet (by simp)
      · rintro ⟨_, h⟩
        cases h

/-- Over memory that happens to be zeroed, the address `::1` is read back as `::`. -/
theorem getAddr_putAddr_loopback :
    ∃ req, putAddr .little .ifruAddr (.zeroed 40) (.v6 1) = some req ∧
      getAddr .little .ifruAddr req (.zeroed 128) = .ok (.v6 0) ∧
      ¬ ∀ rest, getAddr .little .ifruAddr req rest = .ok (.v6 1) := by
  refine ⟨_, putAddr_eq _, ?_, fun h ↦ ?_⟩
  · rfl
  · have hoctet := octet_of_getAddr_v6 (h fun _ ↦ 1)
    exact absurd hoctet (by decide)

end RustTun.Linux

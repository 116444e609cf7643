import Mathlib.Data.BitVec

/-!
# Addresses, masks and routes

IPv4 addresses are 32-bit words in network order, so that masking an address is
`&&&`.  The masks that describe a network are the *contiguous* ones, `prefixMask p`
for a prefix length `p`; the setters of the library accept any mask, and it is the
third-party crate `ipnet` that tells them apart.  `Ipnet` is that crate as a parameter:
its functions together with what their documentation says about them.
-/

namespace RustTun

/-- `std::net::Ipv4Addr`. -/
abbrev Ipv4Addr := BitVec 32

/-- `Ipv4Addr::new`. -/
def Ipv4Addr.new (a b c d : UInt8) : Ipv4Addr :=
  a.toBitVec ++ b.toBitVec ++ c.toBitVec ++ d.toBitVec

/-- `std::net::IpAddr`. -/
inductive IpAddr where
  | v4 (addr : Ipv4Addr)
  | v6 (addr : BitVec 128)
deriving DecidableEq, Repr

/-- The address is an IPv4 address. -/
def IpAddr.IsIpv4 : IpAddr → Prop
  | .v4 _ => True
  | .v6 _ => False

instance (ip : IpAddr) : Decidable ip.IsIpv4 :=
  match ip with
  | .v4 _ => .isTrue trivial
  | .v6 _ => .isFalse id

theorem IpAddr.IsIpv4.eq_v4 {ip : IpAddr} (h : ip.IsIpv4) : ∃ addr, ip = .v4 addr := by
  cases ip with
  | v4 addr => exact ⟨addr, rfl⟩
  | v6 addr => exact h.elim

/-! ## Masks -/

/-- The mask of a network whose addresses agree in their first `p` bits. -/
def prefixMask (p : Nat) : Ipv4Addr := BitVec.allOnes 32 <<< (32 - p)

/-- A mask that describes a network. -/
def Contiguous (mask : Ipv4Addr) : Prop := ∃ p ≤ 32, mask = prefixMask p

instance (mask : Ipv4Addr) : Decidable (Contiguous mask) :=
  decidable_of_iff (∃ p : Fin 33, mask = prefixMask p)
    ⟨fun ⟨p, h⟩ ↦ ⟨p, Nat.le_of_lt_succ p.isLt, h⟩,
      fun ⟨p, hp, h⟩ ↦ ⟨⟨p, Nat.lt_succ_of_le hp⟩, h⟩⟩

/-- Different prefix lengths have different masks. -/
theorem prefixMask_injective {p q : Nat} (hp : p ≤ 32) (hq : q ≤ 32)
    (h : prefixMask p = prefixMask q) : p = q := by
  have hall : ∀ p q : Fin 33, prefixMask p = prefixMask q → p = q := by decide
  have := hall ⟨p, Nat.lt_succ_of_le hp⟩ ⟨q, Nat.lt_succ_of_le hq⟩ h
  exact congrArg Fin.val this

/-- The network of an address is its own network. -/
theorem and_prefixMask_and_prefixMask (addr : Ipv4Addr) (p : Nat) :
    addr &&& prefixMask p &&& prefixMask p = addr &&& prefixMask p := by
  rw [BitVec.and_assoc, BitVec.and_self]

/-- The functions of the crate `ipnet` that the library calls. -/
structure Ipnet where
  /-- `ip_mask_to_prefix` of an IPv4 mask. -/
  ipMaskToPrefix : Ipv4Addr → Option Nat
  /-- `Ipv4Net::new(addr, prefix_len)` and then `network`. -/
  network : Ipv4Addr → Nat → Option Ipv4Addr
  /-- A mask has a prefix length exactly if it is the mask of that length. -/
  ipMaskToPrefix_eq_some {mask : Ipv4Addr} {p : Nat} :
    ipMaskToPrefix mask = some p ↔ p ≤ 32 ∧ mask = prefixMask p
  /-- A prefix length is at most the length of an address. -/
  network_of_le {addr : Ipv4Addr} {p : Nat} :
    p ≤ 32 → network addr p = some (addr &&& prefixMask p)

namespace Ipnet

variable (ipnet : Ipnet)

/-- A mask without a prefix length is one that does not describe a network. -/
theorem ipMaskToPrefix_eq_none {mask : Ipv4Addr} :
    ipnet.ipMaskToPrefix mask = none ↔ ¬ Contiguous mask := by
  constructor
  · rintro h ⟨p, hp⟩
    rw [ipnet.ipMaskToPrefix_eq_some.2 hp] at h
    cases h
  · intro h
    cases hm : ipnet.ipMaskToPrefix mask with
    | none => rfl
    | some p => exact absurd ⟨p, ipnet.ipMaskToPrefix_eq_some.1 hm⟩ h

/-- `ipnet` as a computation. -/
def std : Ipnet where
  ipMaskToPrefix mask := (List.range 33).find? fun p ↦ mask = prefixMask p
  network addr p := if p ≤ 32 then some (addr &&& prefixMask p) else none
  ipMaskToPrefix_eq_some := by
    intro mask p
    constructor
    · intro h
      have hmem : p < 33 := List.mem_range.1 (List.mem_of_find?_eq_some h)
      have heq := List.find?_some h
      exact ⟨by omega, of_decide_eq_true heq⟩
    · rintro ⟨hp, rfl⟩
      cases hfind : (List.range 33).find? fun q ↦ prefixMask p = prefixMask q with
      | none =>
          have := List.find?_eq_none.1 hfind p (List.mem_range.2 (by omega))
          exact absurd (decide_eq_true rfl) this
      | some q =>
          have hmem : q < 33 := List.mem_range.1 (List.mem_of_find?_eq_some hfind)
          have heq := List.find?_some hfind
          rw [prefixMask_injective hp (by omega) (of_decide_eq_true heq)]
  network_of_le := fun hp ↦ if_pos hp

end Ipnet

/-! ## Routes -/

/-- `Route` of the macOS and FreeBSD devices: what the last successful `route add` was
about. -/
structure Route where
  addr : Ipv4Addr
  netmask : Ipv4Addr
  dest : Ipv4Addr
deriving DecidableEq, Repr

/-- The three values that a setter of its own changes. -/
inductive Component where
  | address
  | destination
  | netmask
deriving DecidableEq, Repr

/-- A route with one component replaced. -/
def Route.set (r : Route) : Component → Ipv4Addr → Route
  | .address, value => { r with addr := value }
  | .destination, value => { r with dest := value }
  | .netmask, value => { r with netmask := value }

/-- An entry of a routing table. -/
structure RouteEntry where
  net : Ipv4Addr
  prefixLen : Nat
  gateway : Ipv4Addr
deriving DecidableEq, Repr

end RustTun

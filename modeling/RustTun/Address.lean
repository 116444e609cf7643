import RustTun.Base.IpText
import RustTun.Configuration
import RustTun.Posix.Sockaddr

/-!
# Converting things into addresses

`IntoAddress` is meant for IPv4 addresses, and most of its implementations can only make those.
Two are of types that include IPv6 addresses, and panic on them.  A text is parsed as an address
of either kind.

`Argument` is a value of any type with an implementation, including those of other crates:
`Argument.isIpv4_iff` says which of them are converted into IPv4 addresses, if they are converted
at all.
-/

namespace RustTun

universe u

/-- `IntoAddress`. -/
class IntoAddress (A : Type u) where
  /-- `into_address`. -/
  intoAddress : A → Except (Stop Error) IpAddr

open IntoAddress

/-- `std::net::SocketAddrV4`. -/
structure SocketAddrV4 where
  ip : Ipv4Addr
  port : UInt16
deriving DecidableEq, Repr

/-- `str::parse::<IpAddr>`. -/
def parseIpAddr (text : Name) : Option IpAddr :=
  (IpText.parse text).map fun
    | .v4 octets => .v4 (.ofNat 32 (octets.foldl (fun value octet ↦ 256 * value + octet) 0))
    | .v6 groups => .v6 (.ofNat 128 (groups.foldl (fun value group ↦ 65536 * value + group) 0))

/-! ## The implementations

A reference, and a `String`, is converted as what it refers to. -/

instance : IntoAddress UInt32 where
  intoAddress value := .ok <| .v4 <|
    .new (value &&& 0xff).toUInt8 ((value >>> 8) &&& 0xff).toUInt8
      ((value >>> 16) &&& 0xff).toUInt8 ((value >>> 24) &&& 0xff).toUInt8

instance : IntoAddress Int32 where
  intoAddress value := intoAddress value.toUInt32

instance : IntoAddress (UInt8 × UInt8 × UInt8 × UInt8) where
  intoAddress value := .ok (.v4 (.new value.1 value.2.1 value.2.2.1 value.2.2.2))

instance : IntoAddress Name where
  intoAddress text :=
    match parseIpAddr text with
    | some ip => .ok ip
    | none => .error (.err .invalidAddress)

instance : IntoAddress Ipv4Addr where
  intoAddress value := .ok (.v4 value)

instance : IntoAddress IpAddr where
  intoAddress
    | .v4 value => .ok (.v4 value)
    | .v6 _ => .error .panic

instance : IntoAddress SocketAddrV4 where
  intoAddress value := .ok (.v4 value.ip)

instance : IntoAddress SocketAddr where
  intoAddress
    | .v4 ip _ => .ok (.v4 ip)
    | .v6 _ _ _ _ => .error .panic

/-! ## Arguments -/

/-- A value of a type that implements `IntoAddress`. -/
inductive Argument : Type 1
  | u32 (value : UInt32)
  | i32 (value : Int32)
  | octets (value : UInt8 × UInt8 × UInt8 × UInt8)
  | text (value : Name)
  | ipv4Addr (value : Ipv4Addr)
  | ipAddr (value : IpAddr)
  | socketAddrV4 (value : SocketAddrV4)
  | socketAddr (value : SocketAddr)
  | /-- The trait is public. -/ other {A : Type} [IntoAddress A] (value : A)

instance : IntoAddress Argument where
  intoAddress
    | .u32 value => intoAddress value
    | .i32 value => intoAddress value
    | .octets value => intoAddress value
    | .text value => intoAddress value
    | .ipv4Addr value => intoAddress value
    | .ipAddr value => intoAddress value
    | .socketAddrV4 value => intoAddress value
    | .socketAddr value => intoAddress value
    | @Argument.other _ inst value => inst.intoAddress value

/-- A text with a colon in it, or a value that another crate converts into an IPv6 address. -/
def Argument.Ipv6 : Argument → Prop
  | .text value => IpText.colon ∈ value
  | @Argument.other _ inst value => ∃ ip, inst.intoAddress value = .ok (.v6 ip)
  | _ => False

/-- The text of an address has a colon exactly if it is not an IPv4 address. -/
theorem isIpv4_parseIpAddr_iff {text : Name} {ip : IpAddr} (h : parseIpAddr text = some ip) :
    ip.IsIpv4 ↔ IpText.colon ∉ text := by
  obtain ⟨parsed, hparse, rfl⟩ := Option.map_eq_some_iff.1 h
  cases parsed with
  | v4 octets => exact iff_of_true trivial (IpText.colon_notMem_of_v4 hparse)
  | v6 groups => exact iff_of_false id fun hnot ↦ hnot (IpText.colon_mem_of_v6 hparse)

/-- A text that is converted was parsed. -/
theorem parseIpAddr_of_intoAddress {text : Name} {ip : IpAddr} (h : intoAddress text = .ok ip) :
    parseIpAddr text = some ip := by
  cases hparse : parseIpAddr text with
  | none =>
      have herror : intoAddress text = .error (.err .invalidAddress) := by
        simp only [intoAddress, hparse]
      rw [herror] at h
      cases h
  | some ip' =>
      have hok : intoAddress text = .ok ip' := by
        simp only [intoAddress, hparse]
      rw [hok] at h
      cases h
      rfl

/-- **What is converted is an IPv4 address unless it is one of these two things.** -/
theorem Argument.isIpv4_iff {arg : Argument} {ip : IpAddr} (h : intoAddress arg = .ok ip) :
    ip.IsIpv4 ↔ ¬ arg.Ipv6 := by
  cases arg with
  | u32 value | i32 value | octets value | ipv4Addr value | socketAddrV4 value =>
      cases h
      exact iff_of_true trivial id
  | ipAddr value | socketAddr value =>
      cases value with
      | v4 =>
          cases h
          exact iff_of_true trivial id
      | v6 => cases h
  | text value => exact isIpv4_parseIpAddr_iff (parseIpAddr_of_intoAddress h)
  | @other A inst value =>
      have hvalue : inst.intoAddress value = .ok ip := h
      show ip.IsIpv4 ↔ ¬ ∃ ip, inst.intoAddress value = .ok (.v6 ip)
      rw [hvalue]
      cases ip with
      | v4 addr => exact iff_of_true trivial fun ⟨_, h⟩ ↦ nomatch h
      | v6 addr => exact iff_of_false id fun hnot ↦ hnot ⟨addr, rfl⟩

end RustTun

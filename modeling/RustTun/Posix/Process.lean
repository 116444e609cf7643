import RustTun.Configuration
import RustTun.Posix.Ownership

/-!
# What a posix device runs in

`Process κ` is the state the platform devices are built in: the process's descriptors
and reference counts, and the state `κ` of the host, which each platform models as far
as its device depends on it.  Requests about an interface travel in an `Ifreq`, whose
name field is a fixed array the library copies the name of the device into.
-/

namespace RustTun

open Scatter

/-! ## Requests -/

def IFNAMSIZ : Nat := 16

def IFF_UP : UInt16 := 0x0001
def IFF_RUNNING : UInt16 := 0x0040

/-- The fields of the union `ifr_ifru` that are used, each with its contents. -/
inductive IfrIfru where
  | flags (value : UInt16)
  | addr (ip : IpAddr) (port : UInt16)
  | dstaddr (ip : IpAddr) (port : UInt16)
  | broadaddr (ip : IpAddr) (port : UInt16)
  | netmask (ip : IpAddr) (port : UInt16)
  | mtu (value : Nat)
  | newname (name : Name)
deriving DecidableEq, Repr

/-- `ifreq`. -/
structure Ifreq where
  ifrName : List UInt8
  ifrIfru : IfrIfru
deriving DecidableEq, Repr

/-- A zeroed array of `IFNAMSIZ` bytes with `name` copied to its front. -/
def nameField (name : Name) : List UInt8 := overwrite name (List.replicate IFNAMSIZ 0)

/-- `mem::zeroed()` with `name` copied to the front of `ifr_name`. -/
def Ifreq.named (name : Name) : Ifreq := { ifrName := nameField name, ifrIfru := .flags 0 }

/-- The bytes in front of the first NUL. -/
def cStr (bytes : List UInt8) : List UInt8 := bytes.takeWhile (· ≠ 0)

/-- The flags of an interface after `enabled(value)`. -/
def enabledFlags (value : Bool) (flags : UInt16) : UInt16 :=
  if value then flags ||| (IFF_UP ||| IFF_RUNNING) else flags &&& ~~~IFF_UP

/-! ## Processes -/

/-- The process and its host. -/
structure Process (κ : Type) where
  world : World
  host : κ

namespace Process

variable {κ : Type}

/-- A call that only concerns the host. -/
def ofHost {α : Type} (x : Call Error κ α) : Call Error (Process κ) α := fun s ↦
  let (r, host) := x s.host
  (r, { s with host })

/-- A result as a call. -/
def ofExcept {α : Type} : Except Error α → Call Error (Process κ) α
  | .ok a => pure a
  | .error e => .fail e

/-- `Tun::new`. -/
def newTun (fd : Fd) (mtu : UInt16) (pi : Bool) : Call Error (Process κ) Tun := fun s ↦
  let (tun, heap) := Tun.new fd mtu pi s.world.heap
  (.ok tun, { s with world := { s.world with heap } })

/-- Drop an `Fd`. -/
def dropFd (fd : Fd) (s : Process κ) : Process κ := { s with world := s.world.dropFd fd }

/-- Drop a `Tun`. -/
def dropTun (tun : Tun) (s : Process κ) : Process κ := { s with world := s.world.dropTun tun }

/-- A call on the host that returned. -/
theorem ofHost_eq_ok {α : Type} {x : Call Error κ α} {s t : Process κ} {a : α}
    (h : ofHost x s = (.ok a, t)) : x s.host = (.ok a, t.host) ∧ t.world = s.world := by
  unfold ofHost at h
  rcases hx : x s.host with ⟨r, host⟩
  rw [hx] at h
  cases h
  exact ⟨rfl, rfl⟩

/-- A result that is a call on nothing. -/
theorem ofExcept_eq_ok {α : Type} {r : Except Error α} {s t : Process κ} {a : α}
    (h : ofExcept r s = (.ok a, t)) : r = .ok a ∧ t = s := by
  cases r with
  | ok b =>
      obtain ⟨rfl, rfl⟩ := Call.pure_eq_ok.1 h
      exact ⟨rfl, rfl⟩
  | error e => cases h

/-- A call on the host keeps what it keeps of the host. -/
theorem keeps_ofHost {α : Type} {I : κ → Prop} {x : Call Error κ α} (hx : x.Keeps I) :
    (ofHost x).Keeps fun s ↦ I s.host := by
  intro s a t hs h
  unfold ofHost at h
  rcases hc : x s.host with ⟨r, host⟩
  rw [hc] at h
  cases h
  exact hx s.host a host hs hc

theorem keeps_ofExcept {α : Type} {I : Process κ → Prop} (r : Except Error α) :
    (ofExcept r).Keeps I := by
  cases r with
  | ok a => exact .pure a
  | error e => exact .fail e

theorem keeps_newTun {I : κ → Prop} (fd : Fd) (mtu : UInt16) (pi : Bool) :
    (newTun fd mtu pi).Keeps fun s : Process κ ↦ I s.host := by
  intro s a t hs h
  cases h
  exact hs

theorem preserves_ofExcept {α : Type} {I : Process κ → Prop} (r : Except Error α) :
    (ofExcept r).Preserves I := by
  cases r with
  | ok a => exact .pure a
  | error e => exact .fail e

end Process

/-- A call on the host that is made from a device, in which the device has no other
part. -/
def onHost {κ δ α : Type} (call : δ → Call Error κ α) : Call Error (δ × Process κ) α :=
  fun (dev, s) ↦
    let (r, s) := Process.ofHost (call dev) s
    (r, dev, s)

theorem onHost_apply {κ δ α : Type} (call : δ → Call Error κ α) (dev : δ) (s : Process κ) :
    onHost call (dev, s) = ((call dev s.host).1, dev, { s with host := (call dev s.host).2 }) := rfl

/-- A call on the host that returned. -/
theorem onHost_eq_ok {κ δ α : Type} {call : δ → Call Error κ α} {dev dev' : δ}
    {s t : Process κ} {a : α} (h : onHost call (dev, s) = (.ok a, dev', t)) :
    dev' = dev ∧ call dev s.host = (.ok a, t.host) := by
  rw [onHost_apply, Prod.mk.injEq, Prod.mk.injEq] at h
  obtain ⟨ha, rfl, rfl⟩ := h
  exact ⟨rfl, Prod.ext ha rfl⟩

/-- A call on the host keeps what is said of the device alone. -/
theorem keeps_onHost {κ δ α : Type} {I : δ → Prop} (call : δ → Call Error κ α) :
    (onHost call).Keeps fun s ↦ I s.1 := by
  rintro ⟨dev, s⟩ a ⟨dev', t⟩ hs h
  obtain ⟨rfl, -⟩ := onHost_eq_ok h
  exact hs

/-- A call on the host preserves what is said of the device alone, together with what it
preserves of the host. -/
theorem preserves_onHost {κ δ α : Type} {I : δ → Prop} {J : κ → Prop}
    {call : δ → Call Error κ α} (h : ∀ dev, (call dev).Preserves J) :
    (onHost call).Preserves fun s ↦ I s.1 ∧ J s.2.host :=
  fun s hs ↦ ⟨hs.1, h s.1 s.2.host hs.2⟩

/-- A call on the host stops as it does without a device. -/
theorem stopsIn_onHost {κ δ α : Type} {E : Stop Error → Prop} {call : δ → Call Error κ α}
    (h : ∀ dev, (call dev).StopsIn E) : (onHost call).StopsIn E :=
  fun s ↦ h s.1 s.2.host

/-- Finish a new device with calls on it; it is dropped if they fail. -/
def orDrop {κ δ : Type} (drop : δ → Process κ → Process κ)
    (x : Call Error (δ × Process κ) Unit) (dev : δ) : Call Error (Process κ) δ := fun s ↦
  match x (dev, s) with
  | (.ok _, dev, s) => (.ok dev, s)
  | (.error e, dev, s) => (.error e, drop dev s)

/-- The host after a device was finished, or dropped because that failed, is the one the calls
on it left behind. -/
theorem orDrop_host {κ δ : Type} (drop : δ → Process κ → Process κ)
    (hdrop : ∀ dev s, (drop dev s).host = s.host) (x : Call Error (δ × Process κ) Unit) (dev : δ)
    (s : Process κ) : (orDrop drop x dev s).2.host = (x (dev, s)).2.2.host := by
  rw [orDrop]
  rcases x (dev, s) with ⟨_ | ⟨⟩, d, u⟩
  · exact hdrop d u
  · rfl

/-- A device that was finished is one the calls on it left behind. -/
theorem orDrop_eq_ok {κ δ : Type} {drop : δ → Process κ → Process κ}
    {x : Call Error (δ × Process κ) Unit} {dev dev' : δ} {s t : Process κ} :
    orDrop drop x dev s = (.ok dev', t) ↔ x (dev, s) = (.ok (), dev', t) := by
  rw [orDrop]
  rcases x (dev, s) with ⟨_ | ⟨⟩, d, u⟩ <;> simp

end RustTun

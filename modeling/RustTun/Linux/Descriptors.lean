import RustTun.Base.Erasure
import RustTun.Base.Triple
import RustTun.Linux.Device
import RustTun.Posix.Closing

/-!
# The descriptors of a Linux device

`Device::new` gets one descriptor from the driver and one from the network stack, and there are
many ways for it to stop after that: the driver refuses the request, there is no control socket,
or the device exists already and one of the settings of the configuration is refused.  Whatever it
got has to be closed then, by whichever destructors run.

To speak of the descriptors a kernel handed out, it is made to record them
(`Kernel.recording`), which changes nothing else (`Device.erases_new`).  `Device.Accounts` is what
must have become of them, and `Device.new_accounts` says that it has, however the call ends.
-/

namespace RustTun.Linux

open Call Transition

variable {κ : Type} (K : Kernel κ)

/-! ## The record -/

/-- The same kernel, with a record of the descriptors it was asked for. -/
def Kernel.recording : Kernel (κ × List RawFd) where
  open_ k := ((K.open_ k.1).1, (K.open_ k.1).2, k.2 ++ [(K.open_ k.1).1])
  socket k := ((K.socket k.1).1, (K.socket k.1).2, k.2 ++ [(K.socket k.1).1])
  lastOsError k := K.lastOsError k.1
  ioctl op fd req k := ((K.ioctl op fd req k.1).1, (K.ioctl op fd req k.1).2, k.2)
  replaceQdisc name kind k :=
    ((K.replaceQdisc name kind k.1).1, (K.replaceQdisc name kind k.1).2, k.2)

/-- Since `s₀`, the kernel answered with the descriptors `given`, and `closed` were closed. -/
structure Since (s₀ : Process (κ × List RawFd)) (given closed : List RawFd)
    (s : Process (κ × List RawFd)) : Prop where
  given : s.host.2 = s₀.host.2 ++ given
  closed : s.world.closes = s₀.world.closes ++ closed

/-- Of the answers since `s₀`, those that are descriptors were closed, in this order. -/
def Settled (s₀ s : Process (κ × List RawFd)) : Prop :=
  ∃ given, Since s₀ given (given.filter (0 ≤ ·)) s

variable {s₀ s : Process (κ × List RawFd)} {given closed : List RawFd}

theorem Since.refl (s₀ : Process (κ × List RawFd)) : Since s₀ [] [] s₀ :=
  ⟨(List.append_nil _).symm, (List.append_nil _).symm⟩

theorem Since.settled (h : Since s₀ given closed s) (hclosed : given.filter (0 ≤ ·) = closed) :
    Settled s₀ s := by
  subst hclosed
  exact ⟨given, h⟩

@[simp] theorem filter_nonneg_of_neg {n : RawFd} (hn : n < 0) : [n].filter (0 ≤ ·) = [] :=
  List.filter_cons_of_neg (by simp [hn])

@[simp] theorem filter_nonneg_of_nonneg {n : RawFd} (hn : 0 ≤ n) (l : List RawFd) :
    (n :: l).filter (0 ≤ ·) = n :: l.filter (0 ≤ ·) :=
  List.filter_cons_of_pos (by simp [hn])

/-- Dropping an `Fd` that closes its descriptor. -/
theorem Since.dropFd (h : Since s₀ given closed s) {n : RawFd} (hn : 0 ≤ n) :
    Since s₀ given (closed ++ [n]) (Process.dropFd ⟨n, true⟩ s) where
  given := h.given
  closed := by
    show s.world.closes ++ (⟨n, true⟩ : Fd).drop.toList = _
    rw [Fd.drop_of_nonneg hn, h.closed, List.append_assoc]
    rfl

namespace Device

/-! ## Creation -/

/-- The device holds the two descriptors that were obtained since `s₀`, and nothing was closed. -/
structure Holds (s₀ : Process (κ × List RawFd)) (n m : RawFd) (dev : Device)
    (s : Process (κ × List RawFd)) : Prop where
  tun_nonneg : 0 ≤ n
  ctl_nonneg : 0 ≤ m
  tun : dev.tun.fd.val = ⟨n, true⟩
  ctl : dev.ctl = ⟨m, true⟩
  owned : dev.tun.Owned s.world.heap
  used : dev.tun.fd.cell < s.world.heap.next
  since : Since s₀ [n, m] [] s

/-- A request changes neither the record nor what was closed. -/
theorem since_request (op : Ioctl) (fd : RawFd) (req : Ifreq) :
    (Process.ofHost (K.recording.request op fd req)).Preserves (Since s₀ given closed) := by
  intro s hs
  have hhost : (K.recording.request op fd req s.host).2.2 = s.host.2 := by
    rw [Kernel.request]
    cases hanswer : K.recording.ioctl op fd req s.host with
    | mk r k =>
        have hk : k.2 = s.host.2 := congrArg (fun x ↦ x.2.2) hanswer.symm
        cases r with
        | error e => exact hk
        | ok req' => exact hk
  exact ⟨hhost.trans hs.given, hs.closed⟩

/-- The driver is opened, or what was opened is closed again. -/
theorem triple_openDriver (s₀ : Process (κ × List RawFd)) (req : Ifreq) :
    Triple (Since s₀ [] []) (openDriver K.recording req)
      (fun x s ↦ ∃ n, 0 ≤ n ∧ x.1 = ⟨n, true⟩ ∧ Since s₀ [n] [] s) (Settled s₀) := by
  have hopen : Triple (Since s₀ [] []) (Process.ofHost K.recording.openTun)
      (fun n ↦ Since s₀ [n] []) (Settled s₀) := by
    intro s hs
    refine ⟨?_, hs.closed⟩
    show s.host.2 ++ [_] = _
    rw [hs.given, List.append_assoc]
    rfl
  refine hopen.bind fun n ↦ ?_
  by_cases hn : n < 0
  · have hfd : Fd.new n true = .error .invalidDescriptor := if_pos hn
    rw [hfd]
    exact fun s hs ↦ Since.settled hs (filter_nonneg_of_neg hn)
  · have hfd : Fd.new n true = .ok ⟨n, true⟩ := if_neg hn
    have hn : 0 ≤ n := Int.not_lt.1 hn
    rw [hfd]
    refine .guarded (E := Since s₀ [n] []) ?_ fun s hs ↦ ?_
    · refine .bind (.of_preserves (since_request K _ _ _) fun _ hs ↦ hs) fun req' ↦ ?_
      exact .pure fun s hs ↦ ⟨n, hn, rfl, hs⟩
    · exact (hs.dropFd hn).settled (filter_nonneg_of_nonneg hn [])

/-- So is the control socket, and if there is none, the driver is closed again. -/
theorem triple_openControl (s₀ : Process (κ × List RawFd)) {n : RawFd} (hn : 0 ≤ n) :
    Triple (Since s₀ [n] [])
      (.guarded (Process.dropFd ⟨n, true⟩) do
        let fd ← Process.ofHost K.recording.openSocket
        Process.ofExcept (Fd.new fd true))
      (fun ctl s ↦ ∃ m, 0 ≤ m ∧ ctl = ⟨m, true⟩ ∧ Since s₀ [n, m] [] s) (Settled s₀) := by
  have hsocket : Triple (Since s₀ [n] []) (Process.ofHost K.recording.openSocket)
      (fun m ↦ Since s₀ [n, m] []) (fun s ↦ ∃ m, m < 0 ∧ Since s₀ [n, m] [] s) := by
    intro s hs
    refine ⟨?_, hs.closed⟩
    show s.host.2 ++ [_] = _
    rw [hs.given, List.append_assoc]
    rfl
  refine .guarded (hsocket.bind fun m ↦ ?_) fun s hs ↦ ?_
  · by_cases hm : m < 0
    · have hfd : Fd.new m true = .error .invalidDescriptor := if_pos hm
      rw [hfd]
      exact .fail fun s hs ↦ ⟨m, hm, hs⟩
    · have hfd : Fd.new m true = .ok ⟨m, true⟩ := if_neg hm
      rw [hfd]
      exact .pure fun s hs ↦ ⟨m, Int.not_lt.1 hm, rfl, hs⟩
  · obtain ⟨m, hm, hs⟩ := hs
    refine (hs.dropFd hn).settled ?_
    rw [filter_nonneg_of_nonneg hn, filter_nonneg_of_neg hm]
    rfl

/-- **What is created** holds both descriptors. -/
theorem triple_create (s₀ : Process (κ × List RawFd)) (config : Configuration PlatformConfig) :
    Triple (Since s₀ [] []) (create K.recording config)
      (fun dev s ↦ ∃ n m, Holds s₀ n m dev s) (Settled s₀) := by
  have hnil (s : Process (κ × List RawFd)) (hs : Since s₀ [] [] s) : Settled s₀ s :=
    hs.settled rfl
  rw [create]
  split
  · exact .fail hnil
  · refine .bind (.of_preserves (Process.preserves_ofExcept _) hnil) fun devName ↦ ?_
    split
    · exact .fail hnil
    · refine (triple_openDriver K s₀ _).bind fun x ↦ ?_
      obtain ⟨tunFd, req⟩ := x
      refine .of_exists fun n ↦ .of_imp fun hn ↦ .of_imp fun hfd ↦ ?_
      obtain rfl : tunFd = ⟨n, true⟩ := hfd
      refine (triple_openControl K s₀ hn).bind fun ctl ↦ ?_
      refine .of_exists fun m ↦ .of_imp fun hm ↦ .of_imp fun hctl ↦ ?_
      subst hctl
      exact fun s hs ↦
        ⟨n, m, hn, hm, rfl, rfl, Tun.owned_new _ _ _ _, Nat.lt_succ_self _, hs.given, hs.closed⟩

/-! ## Finishing the device -/

/-- A request changes none of what the device holds. -/
theorem holds_control {n m : RawFd} (op : Ioctl) (ifru : IfrIfru) :
    (control K.recording op ifru).Preserves fun x ↦ Holds s₀ n m x.1 x.2 := by
  rintro ⟨dev, s⟩ hs
  have hsince := since_request K op dev.ctl.inner { dev.request with ifrIfru := ifru } s
    hs.since
  exact { hs with since := hsince }

/-- Nor does taking the configuration over. -/
theorem holds_setUp {n m : RawFd} (config : Configuration PlatformConfig) :
    (setUp K.recording config).Preserves fun x ↦ Holds s₀ n m x.1 x.2 := by
  have hsetters :
      (abstractDevice K.recording).Preserves fun x ↦ Holds s₀ n m x.1 x.2 :=
    { setAddress _ := .bind (holds_control K _ _) fun _ ↦ .pure _
      setDestination _ := .bind (holds_control K _ _) fun _ ↦ .pure _
      setBroadcast _ := .bind (holds_control K _ _) fun _ ↦ .pure _
      setNetmask _ := .bind (holds_control K _ _) fun _ ↦ .pure _
      setMtu _ := .bind (holds_control K _ _) fun _ ↦ .modify fun _ hs ↦
        { hs with owned := ⟨hs.owned.reader, hs.owned.writer, hs.owned.strong⟩ }
      enabled _ := .bind (holds_control K _ _) fun _ ↦
        .bind (holds_control K _ _) fun _ ↦ .pure _ }
  exact .bind (hsetters.configure config) fun _ ↦ .modify fun _ hs ↦
    { hs with since := ⟨hs.since.given, hs.since.closed⟩ }

/-- Dropping the device closes both descriptors, that of the driver first. -/
theorem Holds.since_drop {n m : RawFd} {dev : Device} (h : Holds s₀ n m dev s) :
    Since s₀ [n, m] [n, m] (drop dev s) := by
  have htun : Since s₀ [n, m] [n] (s.dropTun dev.tun) := by
    refine ⟨h.since.given, ?_⟩
    have hdrop : dev.tun.fd.val.drop = some n := by
      rw [h.tun]
      exact Fd.drop_of_nonneg h.tun_nonneg
    show (s.world.dropTun dev.tun).closes = _
    rw [h.owned.closes_dropTun, hdrop, h.since.closed, List.append_nil]
    rfl
  have hctl : drop dev s = Process.dropFd ⟨m, true⟩ (s.dropTun dev.tun) := by
    rw [drop, h.ctl]
  rw [hctl]
  exact htun.dropFd h.ctl_nonneg

/-! ## The record changes nothing -/

/-- The process without the record. -/
def forget (s : Process (κ × List RawFd)) : Process κ := ⟨s.world, s.host.1⟩

/-- A device and the process without the record. -/
def forgetBoth (x : Device × Process (κ × List RawFd)) : Device × Process κ := (x.1, forget x.2)

theorem erases_ofHost {α : Type} {x : Call Error (κ × List RawFd) α} {y : Call Error κ α}
    (h : Erases Prod.fst x y) : Erases forget (Process.ofHost x) (Process.ofHost y) := by
  intro s
  have hs := h s.host
  rw [Process.ofHost, Process.ofHost]
  show ((y s.host.1).1, (⟨s.world, (y s.host.1).2⟩ : Process κ)) = _
  rw [hs]
  rfl

theorem erases_ofExcept {α : Type} (r : Except Error α) :
    Erases forget (Process.ofExcept r : Call Error (Process (κ × List RawFd)) α)
      (Process.ofExcept r) := by
  cases r with
  | ok a => exact .pure a
  | error e => exact .fail e

theorem erases_request (op : Ioctl) (fd : RawFd) (req : Ifreq) :
    Erases Prod.fst (K.recording.request op fd req) (K.request op fd req) := by
  intro k
  have hrecording : K.recording.ioctl op fd req k =
      ((K.ioctl op fd req k.1).1, (K.ioctl op fd req k.1).2, k.2) := rfl
  rw [Kernel.request, Kernel.request, hrecording]
  rcases K.ioctl op fd req k.1 with ⟨_ | req', k'⟩
  · rfl
  · rfl

theorem erases_control (op : Ioctl) (ifru : IfrIfru) :
    Erases forgetBoth (control K.recording op ifru) (control K op ifru) := by
  rintro ⟨dev, s⟩
  have hs := erases_request K op dev.ctl.inner { dev.request with ifrIfru := ifru } s.host
  show control K op ifru (dev, forget s) = _
  rw [control, onHost_apply, control, onHost_apply]
  show ((K.request op _ _ s.host.1).1, dev,
    (⟨s.world, (K.request op _ _ s.host.1).2⟩ : Process κ)) = _
  rw [hs]
  rfl

theorem erases_openDriver (req : Ifreq) :
    Erases forget (openDriver K.recording req) (openDriver K req) := by
  refine .bind (erases_ofHost fun _ ↦ rfl) fun n ↦ ?_
  cases Fd.new n true with
  | error e => exact erases_ofHost fun _ ↦ rfl
  | ok tunFd =>
      refine .guarded ?_ fun _ ↦ rfl
      exact .bind (erases_ofHost (erases_request K _ _ _)) fun req' ↦ .pure _

theorem erases_create (config : Configuration PlatformConfig) :
    Erases forget (create K.recording config) (create K config) := by
  rw [create, create]
  split
  · exact .fail _
  · refine .bind (erases_ofExcept _) fun devName ↦ ?_
    split
    · exact .fail _
    · refine .bind (erases_openDriver K _) fun x ↦ .bind (.guarded ?_ fun _ ↦ rfl) fun ctl ↦ ?_
      · exact .bind (erases_ofHost fun _ ↦ rfl) fun n ↦ erases_ofExcept _
      · exact .bind (fun _ ↦ rfl) fun tun ↦ .pure _

theorem erases_whenGiven {α : Type} (field : Option α)
    {set : α → Call Error (Device × Process (κ × List RawFd)) Unit}
    {set' : α → Call Error (Device × Process κ) Unit}
    (h : ∀ value, Erases forgetBoth (set value) (set' value)) :
    Erases forgetBoth (AbstractDevice.whenGiven field set)
      (AbstractDevice.whenGiven field set') := by
  cases field with
  | none => exact .pure ()
  | some value => exact h value

theorem erases_setUp (config : Configuration PlatformConfig) :
    Erases forgetBoth (setUp K.recording config) (setUp K config) := by
  have hset (op : Ioctl) (ifru : IfrIfru) : Erases forgetBoth
      (control K.recording op ifru >>= fun _ ↦ pure ()) (control K op ifru >>= fun _ ↦ pure ()) :=
    .bind (erases_control K op ifru) fun _ ↦ .pure ()
  have hconfigure : Erases forgetBoth ((abstractDevice K.recording).configure config)
      ((abstractDevice K).configure config) := by
    refine .bind (erases_whenGiven config.address fun _ ↦ hset _ _) fun _ ↦
      .bind (erases_whenGiven config.destination fun _ ↦ hset _ _) fun _ ↦
      .bind (erases_whenGiven config.broadcast fun _ ↦ hset _ _) fun _ ↦
      .bind (erases_whenGiven config.netmask fun _ ↦ hset _ _) fun _ ↦
      .bind (erases_whenGiven config.mtu fun _ ↦ ?_) fun _ ↦
      erases_whenGiven config.enabled fun _ ↦ ?_
    · exact .bind (erases_control K _ _) fun _ ↦ .modify fun _ ↦ rfl
    · exact .bind (erases_control K _ _) fun req ↦ hset _ _
  exact .bind hconfigure fun _ ↦ .modify fun _ ↦ rfl

/-- **The record changes nothing**: without it, a call of `Device::new` ends in the same way and
in the same state. -/
theorem erases_new (config : Configuration PlatformConfig) :
    Erases forget (new K.recording config) (new K config) := by
  refine .bind (erases_create K config) fun dev ↦ ?_
  split
  · intro s
    have hs := erases_setUp K config (dev, s)
    rw [orDrop, orDrop, show (dev, forget s) = forgetBoth (dev, s) from rfl, hs]
    rcases setUp K.recording config (dev, s) with ⟨_ | ⟨⟩, dev', t⟩
    · rfl
    · rfl
  · exact .pure dev

/-! ## The account -/

/-- What became of the descriptors that were obtained by the time `Device::new` ended.  A device
that was returned has both, and closes both when it is dropped; a call that stopped closed all it
got, in the order in which it got them. -/
def Accounts (s₀ : Process (κ × List RawFd)) :
    Except (Stop Error) Device × Process (κ × List RawFd) → Prop
  | (.ok dev, s) => ∃ n m, Holds s₀ n m dev s ∧ Since s₀ [n, m] [n, m] (drop dev s)
  | (.error _, s) => Settled s₀ s

theorem accounts_new (config : Configuration PlatformConfig) (s : Process (κ × List RawFd)) :
    Accounts s (new K.recording config s) := by
  have hcreate := triple_create K s config
  rw [new, bind_apply]
  rcases hc : create K.recording config s with ⟨e | dev, t⟩
  · exact hcreate.of_error (.refl s) hc
  · obtain ⟨n, m, hholds⟩ := hcreate.of_ok (.refl s) hc
    show Accounts s ((if config.platformConfig.ensureRootPrivileges then
      orDrop drop (setUp K.recording config) dev else pure dev) t)
    split_ifs
    · have hfinish := holds_setUp K config (dev, t) hholds
      rw [orDrop]
      rcases hx : setUp K.recording config (dev, t) with ⟨e | ⟨⟩, dev', u⟩
      · rw [hx] at hfinish
        exact hfinish.since_drop.settled (by simp [hfinish.tun_nonneg, hfinish.ctl_nonneg])
      · rw [hx] at hfinish
        exact ⟨n, m, hfinish, hfinish.since_drop⟩
    · exact ⟨n, m, hholds, hholds.since_drop⟩

/-- **No descriptor is lost, and none is closed twice.**  However the kernel answers, `Device::new`
ends as it does with a record of the descriptors it is given; and each of these is one that the
device closes when it is dropped, or has been closed when the call stops. -/
theorem new_accounts (config : Configuration PlatformConfig) (s : Process (κ × List RawFd)) :
    new K config (forget s) =
        ((new K.recording config s).1, forget (new K.recording config s).2) ∧
      Accounts s (new K.recording config s) :=
  ⟨erases_new K config s, accounts_new K config s⟩

/-! ## The whole life of a device -/

/-- The device as far as descriptors go. -/
def posix (dev : Device) : RustTun.Device := { tun := dev.tun, ctl := some dev.ctl }

/-- What holds its two descriptors owns both. -/
theorem Holds.ownsBoth {n m : RawFd} {dev : Device} (h : Holds s₀ n m dev s) :
    dev.posix.OwnsBoth s₀.world n m s.world where
  tun_nonneg := h.tun_nonneg
  ctl_nonneg := h.ctl_nonneg
  tun := h.tun
  ctl := congrArg some h.ctl
  owned := h.owned
  used := h.used
  closes := h.since.closed.trans (List.append_nil _)

/-- **From the first descriptor to the last `close`.**  A device that `Device::new` returned is over
the two descriptors that the kernel answered with; and if they are two, as the first is open still
when the second is handed out, then whatever a program does with the device, both are closed as
they should be. -/
theorem new_closes_given (config : Configuration PlatformConfig)
    (s₀ s : Process (κ × List RawFd)) (dev : Device)
    (hnew : new K.recording config s₀ = (.ok dev, s)) :
    ∃ n m, s.host.2 = s₀.host.2 ++ [n, m] ∧
      (n ≠ m → ClosesBoth .linux s₀.world n m dev.posix s.world) := by
  have haccounts := accounts_new K config s₀
  rw [hnew] at haccounts
  obtain ⟨n, m, hholds, -⟩ := haccounts
  exact ⟨n, m, hholds.since.given, fun hne ↦ hholds.ownsBoth.closesBoth hne .linux⟩

/-- A device over the descriptors 3 and 4 is split, and its halves are dropped: 4 is closed by the
split, and 3 by the last drop. -/
theorem new_closes_given_three_four :
    let K : Kernel Unit :=
      { open_ := fun k ↦ (3, k), socket := fun k ↦ (4, k), lastOsError := fun _ ↦ 0
        ioctl := fun _ _ req k ↦ (.ok req, k), replaceQdisc := fun _ _ k ↦ (.ok (), k) }
    ∃ (dev : Device) (s : Process (Unit × List RawFd)) (f : File)
      (l : List (Sharing.Action × Sharing)),
      new K.recording { platformConfig := {} } ⟨.initial, (), []⟩ = (.ok dev, s) ∧
        l.map Prod.fst = [.split, .drop, .drop] ∧
        (final ⟨[.device dev.posix], s.world, f⟩ l).world.closes = [4, 3] := by
  intro K
  obtain ⟨dev, s, hnew, hgiven⟩ : ∃ dev s,
      new K.recording { platformConfig := {} } ⟨.initial, (), []⟩ = (.ok dev, s) ∧
        s.host.2 = [3, 4] := ⟨_, _, rfl, rfl⟩
  obtain ⟨n, m, hhost, hcloses⟩ := new_closes_given K _ _ _ _ hnew
  obtain ⟨rfl, rfl⟩ : 3 = n ∧ 4 = m := by simpa [hgiven] using hhost
  let f : File := { inbound := [], outbound := [], refusals := [], nonblock := false }
  let r := dev.tun.reader
  let x := dev.tun.writer
  let w := (dev.posix.split s.world).2
  have hsplit : Sharing.Step .linux ⟨[] ++ [.device dev.posix], s.world, f⟩ .split
      ⟨[] ++ [.reader r, .writer x], w, f⟩ := .split rfl
  have hreader : Sharing.Step .linux ⟨[] ++ [.reader r, .writer x], w, f⟩ .drop
      ⟨[] ++ [.writer x], (Part.reader r).drop w, f⟩ := .drop
  have hwriter (w : World) : Sharing.Step .linux ⟨[] ++ [.writer x], w, f⟩ .drop
      ⟨[] ++ [], (Part.writer x).drop w, f⟩ := .drop
  have hrun := System.Run.cons (S := sharings .linux 3 true) hsplit <| .cons hreader <|
    .cons (hwriter _) <| .nil _
  exact ⟨dev, s, f, _, hnew, rfl, hcloses (by decide) f _ hrun⟩

end Device

end RustTun.Linux

import RustTun.Base.Run
import RustTun.MacOs.Device

/-!
# The cached route and the routing table

The routing table has the route that is cached, and none if none is cached: `Booked`.
Replacing the route is deleting the old one and adding the new one, and there are three
ways for it to stop half way through: the new mask may not be that of a network, the
command that adds may fail, and the command that deletes may.  The last of the three is
harmless, for it stops before anything was done; the other two leave a table without a
route, and a cached route that every later `route delete` fails on.

`RouteBook.kept_setRoute_iff` says so of one replacement, and `keepsBook_iff` of all sequences of
setters on a device from `Device::new`.
-/

namespace RustTun.MacOs

open Transition

namespace RouteBook

/-- The table has the cached route, the network of its address with its destination as
the gateway, or is empty if there is none. -/
def Booked (b : RouteBook) : Prop :=
  match b.cached with
  | none => b.routes.table = []
  | some r => ∃ p ≤ 32, r.netmask = prefixMask p ∧ b.routes.table = [Routes.entry r.addr p r.dest]

/-- What is promised of a call on the book `b` that ended with `r`: the book is still
right, and a call that failed did not change it. -/
structure Kept (b : RouteBook) (r : Except (Stop Error) Unit × RouteBook) : Prop where
  booked : r.2.Booked
  unchanged : ∀ e, r.1 = .error e → r.2.cached = b.cached ∧ r.2.routes.table = b.routes.table

/-- Replacing the route of `b` by `route` stops, if it does, before it did anything. -/
def Replaceable (b : RouteBook) (route : Route) : Prop :=
  b.cached = none ∨ b.routes.nextFails ∨ Contiguous route.netmask ∧ ¬ b.routes.skip.nextFails

/-- A book that is right stays right when a run did nothing. -/
theorem Booked.skip {b : RouteBook} (h : b.Booked) :
    Booked { b with routes := b.routes.skip } := by
  unfold Booked at h ⊢
  exact h

/-- A call that did nothing but use up a run kept the book. -/
theorem Kept.of_skip {b : RouteBook} (h : b.Booked) (r : Except (Stop Error) Unit) :
    Kept b (r, { b with routes := b.routes.skip }) :=
  ⟨h.skip, fun _ _ ↦ ⟨rfl, rfl⟩⟩

section Commands

variable (ipnet : Ipnet) {b : RouteBook} {route v : Route}

/-! ## The two commands -/

/-- The route to delete is the one that was added. -/
theorem deleteRoute_apply {p : Nat} (hp : p ≤ 32) (hmask : v.netmask = prefixMask p) :
    deleteRoute ipnet v b = run (.delete (v.addr &&& prefixMask p) p v.dest) b := by
  have hlength : ipnet.ipMaskToPrefix v.netmask = some p :=
    ipnet.ipMaskToPrefix_eq_some.2 ⟨hp, hmask⟩
  have hnetwork : ipnet.network v.addr p = some (v.addr &&& prefixMask p) := ipnet.network_of_le hp
  rw [deleteRoute]
  rw [hlength, orInvalidConfig, Call.bind_of_ok (Call.pure_apply p b), hnetwork, orInvalidConfig,
    Call.bind_of_ok (Call.pure_apply _ b)]

/-- Deleting fails if the command does, and changes nothing then. -/
theorem deleteRoute_of_nextFails (hb : b.Booked) (hcached : b.cached = some v)
    (hfails : b.routes.nextFails) :
    ∃ e, deleteRoute ipnet v b = (.error (.err e), { b with routes := b.routes.skip }) := by
  unfold Booked at hb
  rw [hcached] at hb
  obtain ⟨p, hp, hmask, -⟩ := hb
  obtain ⟨e, he⟩ :=
    Routes.runCommand_of_nextFails hfails (.delete (v.addr &&& prefixMask p) p v.dest)
  refine ⟨e, ?_⟩
  rw [deleteRoute_apply ipnet hp hmask, run, he]

/-- Deleting empties the table if the command succeeds. -/
theorem deleteRoute_of_not_nextFails (hb : b.Booked) (hcached : b.cached = some v)
    (hfails : ¬ b.routes.nextFails) :
    deleteRoute ipnet v b = (.ok (), { b with routes := { b.routes.skip with table := [] } }) := by
  unfold Booked at hb
  rw [hcached] at hb
  obtain ⟨p, hp, hmask, htable⟩ := hb
  have hentry : Routes.entry (v.addr &&& prefixMask p) p v.dest = Routes.entry v.addr p v.dest := by
    rw [Routes.entry, Routes.entry, and_prefixMask_and_prefixMask]
  have hrun := Routes.runCommand_delete hfails (htable.trans (by rw [hentry]))
  rw [deleteRoute_apply ipnet hp hmask, run, hrun]

/-- Adding fails on a mask that is not that of a network. -/
theorem addRoute_of_not_contiguous (hmask : ¬ Contiguous route.netmask) :
    addRoute ipnet route b = (.error (.err .invalidConfig), b) := by
  rw [addRoute, ipnet.ipMaskToPrefix_eq_none.2 hmask, orInvalidConfig]
  rfl

/-- Adding fails if the command does. -/
theorem addRoute_of_nextFails (hmask : Contiguous route.netmask) (hfails : b.routes.nextFails) :
    ∃ e, addRoute ipnet route b = (.error (.err e), { b with routes := b.routes.skip }) := by
  obtain ⟨p, hp, hmask⟩ := hmask
  obtain ⟨e, he⟩ := Routes.runCommand_of_nextFails hfails (.add route.addr p route.dest)
  refine ⟨e, ?_⟩
  rw [addRoute, ipnet.ipMaskToPrefix_eq_some.2 ⟨hp, hmask⟩, orInvalidConfig,
    Call.bind_of_ok (Call.pure_apply p b), Call.bind_apply, run, he]

/-- Adding enters the route and caches it if the command succeeds. -/
theorem addRoute_of_not_nextFails {p : Nat} (hp : p ≤ 32) (hmask : route.netmask = prefixMask p)
    (hfails : ¬ b.routes.nextFails) :
    addRoute ipnet route b = (.ok (),
      { cached := some route
        routes := { b.routes.skip with
          table := b.routes.table ++ [Routes.entry route.addr p route.dest] } }) := by
  rw [addRoute, ipnet.ipMaskToPrefix_eq_some.2 ⟨hp, hmask⟩, orInvalidConfig,
    Call.bind_of_ok (Call.pure_apply p b), Call.bind_apply, run,
    Routes.runCommand_add hfails route.addr p route.dest]
  rfl

/-- Adding to an empty table that no route is cached for keeps the book. -/
theorem kept_addRoute (hcached : b.cached = none) (htable : b.routes.table = []) :
    Kept b (addRoute ipnet route b) := by
  have hb : b.Booked := by unfold Booked; rw [hcached]; exact htable
  by_cases hmask : Contiguous route.netmask
  · by_cases hfails : b.routes.nextFails
    · obtain ⟨e, he⟩ := addRoute_of_nextFails ipnet hmask hfails
      rw [he]
      exact .of_skip hb _
    · obtain ⟨p, hp, hmask⟩ := hmask
      rw [addRoute_of_not_nextFails ipnet hp hmask hfails]
      refine ⟨⟨p, hp, hmask, ?_⟩, fun _ h ↦ nomatch h⟩
      rw [htable]
      rfl
  · rw [addRoute_of_not_contiguous ipnet hmask]
    exact ⟨hb, fun _ _ ↦ ⟨rfl, rfl⟩⟩

/-- A book with a cached route and an empty table is not right. -/
theorem not_booked (hcached : b.cached = some v) (htable : b.routes.table = []) : ¬ b.Booked := by
  rw [Booked, hcached]
  rintro ⟨p, -, -, h⟩
  rw [htable] at h
  cases h

/-- After the old route was deleted, adding the new one makes the book right exactly if
it succeeds. -/
theorem kept_addRoute_iff (hcached : b.cached = some v) :
    Kept b (addRoute ipnet route { b with routes := { b.routes.skip with table := [] } }) ↔
      Contiguous route.netmask ∧ ¬ b.routes.skip.nextFails := by
  set c : RouteBook := { b with routes := { b.routes.skip with table := [] } } with hc
  have hcc : c.cached = some v := hcached
  have hctable : c.routes.table = [] := rfl
  have hnext : c.routes.nextFails ↔ b.routes.skip.nextFails := Iff.rfl
  constructor
  · intro hkept
    by_contra hcon
    rcases Decidable.not_and_iff_not_or_not.1 hcon with hmask | hfails
    · rw [addRoute_of_not_contiguous ipnet hmask] at hkept
      exact not_booked hcc hctable hkept.booked
    · by_cases hmask : Contiguous route.netmask
      · obtain ⟨e, he⟩ := addRoute_of_nextFails ipnet hmask (hnext.2 (Decidable.not_not.1 hfails))
        rw [he] at hkept
        exact not_booked (b := { c with routes := c.routes.skip }) hcc hctable hkept.booked
      · rw [addRoute_of_not_contiguous ipnet hmask] at hkept
        exact not_booked hcc hctable hkept.booked
  · rintro ⟨⟨p, hp, hmask⟩, hfails⟩
    rw [addRoute_of_not_nextFails ipnet hp hmask (fun h ↦ hfails (hnext.1 h))]
    refine ⟨⟨p, hp, hmask, ?_⟩, fun _ h ↦ nomatch h⟩
    rw [hctable]
    rfl

/-! ## Replacing the route -/

/-- **One replacement.**  It keeps the book exactly if it does not stop half way. -/
theorem kept_setRoute_iff (hb : b.Booked) :
    Kept b (setRoute ipnet route b) ↔ b.Replaceable route := by
  rw [Replaceable]
  cases hcached : b.cached with
  | none =>
      have htable : b.routes.table = [] := by
        unfold Booked at hb
        rwa [hcached] at hb
      have hset : setRoute ipnet route b = addRoute ipnet route b := by
        rw [setRoute, Call.bind_of_ok (Call.get_apply b), hcached]
      rw [hset]
      constructor
      · intro _
        exact .inl rfl
      · intro _
        exact kept_addRoute ipnet hcached htable
  | some v =>
      have hset : setRoute ipnet route b =
          (deleteRoute ipnet v >>= fun _ ↦ addRoute ipnet route) b := by
        rw [setRoute, Call.bind_of_ok (Call.get_apply b), hcached]
      rw [hset]
      by_cases hfails : b.routes.nextFails
      · obtain ⟨e, he⟩ := deleteRoute_of_nextFails ipnet hb hcached hfails
        rw [Call.bind_of_error he]
        constructor
        · intro _
          exact .inr (.inl hfails)
        · intro _
          exact .of_skip hb _
      · rw [Call.bind_of_ok (deleteRoute_of_not_nextFails ipnet hb hcached hfails),
          kept_addRoute_iff ipnet hcached]
        simp [hfails]

end Commands

end RouteBook

namespace Device

open RouteBook

variable (ipnet : Ipnet)

/-! ## The setters -/

/-- The setter of a component. -/
def setter : Component → IpAddr → Call Error (Device × Process Host) Unit
  | .address => setAddress ipnet
  | .destination => setDestination ipnet
  | .netmask => setNetmask ipnet

/-- The next request on the control socket is made and granted. -/
def Granted (s : Device × Process Host) : Prop :=
  (∃ req, s.1.request = .ok req) ∧ s.2.host.refusals.head?.join = none

/-- Setting the component `c` does not stop while the route is half replaced. -/
def Settable (s : Device × Process Host) (c : Component) (value : Ipv4Addr) : Prop :=
  Granted s → ∀ r ∈ s.1.route, (book s).Replaceable (r.set c value)

/-- A request that is not made or not granted fails and leaves the book alone. -/
theorem control_of_not_granted {α : Type} (effect : Ifreq → Host → α × Host)
    {s : Device × Process Host} (h : ¬ Granted s) :
    ∃ e t, control (fun req ↦ Host.ioctl (effect req)) s = (.error (.err e), t) ∧
      book t = book s := by
  cases hreq : s.1.request with
  | error e =>
      exact ⟨e, s, by rw [control, onHost_apply, withRequest_of_error _ hreq]; rfl, rfl⟩
  | ok req =>
      cases href : s.2.host.refusals.head?.join with
      | none => exact absurd ⟨⟨req, hreq⟩, href⟩ h
      | some e =>
          have happly : control (fun req ↦ Host.ioctl (effect req)) s =
              (.error (.err (.io (.os e))), s.1,
                { s.2 with host := { s.2.host with refusals := s.2.host.refusals.tail } }) := by
            rw [control, onHost_apply, withRequest_of_ok _ hreq, Host.ioctl_of_refused _ href]
          exact ⟨_, _, happly, rfl⟩

/-- A request that is granted has its effect. -/
theorem control_of_granted {α : Type} (effect : Ifreq → Host → α × Host)
    {s : Device × Process Host} (h : Granted s)
    (heffect : ∀ req h, (effect req h).2.routes = h.routes) :
    ∃ a t, control (fun req ↦ Host.ioctl (effect req)) s = (.ok a, t) ∧ t.1 = s.1 ∧
      book t = book s := by
  obtain ⟨⟨req, hreq⟩, href⟩ := h
  have happly : control (fun req ↦ Host.ioctl (effect req)) s =
      (.ok (effect req { s.2.host with refusals := s.2.host.refusals.tail }).1, s.1,
        { s.2 with
          host := (effect req { s.2.host with refusals := s.2.host.refusals.tail }).2 }) := by
    rw [control, onHost_apply, withRequest_of_ok _ hreq, Host.ioctl_of_granted _ href]
  refine ⟨_, _, happly, rfl, ?_⟩
  unfold book
  dsimp only
  rw [heffect]

/-- A setting request that is granted. -/
theorem control_siocset (f : Ifreq → Ifreq) {s : Device × Process Host} (h : Granted s) :
    ∃ t, control (fun req ↦ Host.siocset (f req)) s = (.ok (), t) ∧ t.1 = s.1 ∧
      book t = book s := by
  obtain ⟨⟨⟩, t, ht⟩ := control_of_granted (fun _ h ↦ ((), h)) h fun _ _ ↦ rfl
  exact ⟨t, ht⟩

/-- A setting request that is not. -/
theorem control_siocset_fails (f : Ifreq → Ifreq) {s : Device × Process Host} (h : ¬ Granted s) :
    ∃ e t, control (fun req ↦ Host.siocset (f req)) s = (.error (.err e), t) ∧ book t = book s :=
  control_of_not_granted (fun _ h ↦ ((), h)) h

/-- A call on the book is a call on the book. -/
theorem book_onBook {α : Type} (call : Call Error RouteBook α) (s : Device × Process Host) :
    ((onBook call s).1, book (onBook call s).2) = call (book s) := rfl

/-- **One setter.**  It keeps the book exactly if it does not stop while the route is half
replaced. -/
theorem kept_setter_iff {s : Device × Process Host} (hb : (book s).Booked) (c : Component)
    (value : Ipv4Addr) :
    Kept (book s) ((setter ipnet c (.v4 value) s).1, book (setter ipnet c (.v4 value) s).2) ↔
      Settable s c value := by
  obtain ⟨ifru, hset⟩ : ∃ ifru, setter ipnet c = setComponent ipnet ifru c := by
    cases c <;> exact ⟨_, rfl⟩
  rw [hset, setComponent]
  by_cases hgranted : Granted s
  · obtain ⟨t, hcontrol, hdev, hbook⟩ := control_siocset
      (fun req ↦ { req with ifrIfru := ifru (.v4 value) 0 }) hgranted
    rw [Call.bind_of_ok hcontrol, Call.bind_of_ok (Call.get_apply t), Settable, hdev]
    cases hroute : s.1.route with
    | none =>
        simp only [Call.pure_apply, hbook, Option.not_mem_none, false_imp_iff, implies_true,
          iff_true]
        exact ⟨hb, fun _ h ↦ nomatch h⟩
    | some r =>
        simp only [setRoute, book_onBook, hbook, Option.mem_some_iff, forall_eq', hgranted,
          true_imp_iff]
        exact kept_setRoute_iff ipnet hb
  · obtain ⟨e, t, hcontrol, hbook⟩ := control_siocset_fails
      (fun req ↦ { req with ifrIfru := ifru (.v4 value) 0 }) hgranted
    rw [Call.bind_of_error hcontrol, hbook]
    constructor
    · intro _ h
      exact absurd h hgranted
    · intro _
      exact ⟨hb, fun _ _ ↦ ⟨rfl, rfl⟩⟩

/-! ## A new device -/

/-- No route is cached and there is none. -/
structure NoRoute (b : RouteBook) : Prop where
  cached : b.cached = none
  table : b.routes.table = []

theorem NoRoute.booked {b : RouteBook} (h : NoRoute b) : b.Booked := by
  rw [Booked, h.cached]
  exact h.table

/-- A request on the control socket leaves the book alone. -/
theorem keeps_control {α : Type} {I : RouteBook → Prop} {effect : Ifreq → Host → α × Host}
    (heffect : ∀ req h, (effect req h).2.routes = h.routes) :
    (control fun req ↦ Host.ioctl (effect req)).Keeps fun s ↦ I (book s) := by
  intro s a t hs h
  by_cases hgranted : Granted s
  · obtain ⟨a', t', heq, -, hbook⟩ := control_of_granted effect hgranted heffect
    rw [heq] at h
    cases h
    rwa [hbook]
  · obtain ⟨e, t', heq, -⟩ := control_of_not_granted effect hgranted
    rw [heq] at h
    cases h

/-- Without a route the setters of the components have none to replace. -/
theorem keeps_setComponent (ifru : IpAddr → UInt16 → IfrIfru) (c : Component) (ip : IpAddr) :
    (setComponent ipnet ifru c ip).Keeps fun s ↦ NoRoute (book s) := by
  cases ip with
  | v6 addr => exact .panic
  | v4 addr =>
      refine .bind (keeps_control fun _ _ ↦ rfl) fun _ s a t hs h ↦ ?_
      have hroute : s.1.route = none := hs.cached
      rw [Call.bind_of_ok (Call.get_apply s), hroute, Call.pure_eq_ok] at h
      rw [← h.2]
      exact hs

/-- Taking a configuration over adds no route. -/
theorem keeps_configure (config : Configuration PlatformConfig) :
    ((abstractDevice ipnet).configure config).Keeps fun s ↦ NoRoute (book s) := by
  refine AbstractDevice.Keeps.configure ⟨?_, ?_, ?_, ?_, ?_, ?_⟩
  · intro ip _
    exact keeps_setComponent ipnet _ _ ip
  · intro ip _
    exact keeps_setComponent ipnet _ _ ip
  · intro ip _
    cases ip with
    | v6 addr => exact .panic
    | v4 addr => exact keeps_control fun _ _ ↦ rfl
  · intro ip _
    exact keeps_setComponent ipnet _ _ ip
  · intro mtu _
    exact .bind (keeps_control fun _ _ ↦ rfl) fun _ ↦ .modify fun _ h ↦ ⟨h.cached, h.table⟩
  · intro value _
    exact .bind (keeps_control fun _ _ ↦ rfl) fun _ ↦ keeps_control fun _ _ ↦ rfl

/-- Setting the alias of a device without a route makes its book right. -/
theorem booked_setAlias {addr dest mask : IpAddr} {s t : Device × Process Host}
    (hs : NoRoute (book s)) (h : setAlias ipnet addr dest mask s = (.ok (), t)) :
    (book t).Booked := by
  unfold setAlias at h
  split at h
  · obtain ⟨⟨⟩, u, hcontrol, hcatch⟩ := Call.bind_eq_ok.1 h
    have hu : NoRoute (book u) := keeps_control (fun _ _ ↦ rfl) s () u hs hcontrol
    have hkept (route : Route) : (book (setRoute ipnet route u).2).Booked :=
      ((kept_setRoute_iff ipnet hu.booked).2 (.inl hu.cached)).booked
    rcases Call.catching_eq_ok.1 hcatch with ⟨a, v, hset, hpure⟩ | ⟨e, v, hset, hpure⟩
    all_goals
      obtain ⟨-, rfl⟩ := Call.pure_eq_ok.1 hpure
      exact (congrArg (fun r ↦ (book r.2).Booked) hset).mp (hkept _)
  · cases h

/-- The routing table of a host has no route of the device. -/
def NoEntry (h : Host) : Prop := h.routes.table = []

theorem keeps_ioctl {α : Type} {effect : Host → α × Host}
    (heffect : ∀ h, (effect h).2.routes = h.routes) : (Host.ioctl effect).Keeps NoEntry := by
  intro h a t hs hok
  cases href : h.refusals.head?.join with
  | none =>
      rw [Host.ioctl_of_granted _ href] at hok
      cases hok
      rw [NoEntry, heffect]
      exact hs
  | some e =>
      rw [Host.ioctl_of_refused _ href] at hok
      cases hok

theorem keeps_socket (which : Host → RawFd) : (Host.socket which).Keeps NoEntry := by
  intro h a t hs hok
  cases hok
  exact hs

theorem keeps_utunId (name : Option Name) : (utunId name).Keeps NoEntry := by
  unfold utunId
  split
  · exact .pure _
  · split_ifs
    · exact .fail _
    · split
      · exact .fail _
      · intro h a t hs hok
        dsimp only at hok
        split_ifs at hok
        · cases hok
        · cases hok
          exact hs
    · exact .fail _

theorem keeps_newFd (fd : RawFd) (close : Bool) :
    (newFd fd close).Keeps fun s ↦ NoEntry s.host := by
  rw [newFd]
  split
  · exact .pure _
  · intro _ _ _ _ h
    cases h

/-- Opening the device and its control socket adds no route. -/
theorem keeps_openUtun (id : UInt32) : (openUtun id).Keeps fun s ↦ NoEntry s.host :=
  .bind (Process.keeps_ofHost (keeps_socket _)) fun _ ↦
  .bind (keeps_newFd _ _) fun _ ↦ .guarded <|
  .bind (Process.keeps_ofHost (keeps_ioctl fun _ ↦ rfl)) fun _ ↦
  .bind (Process.keeps_ofHost (keeps_ioctl fun _ ↦ rfl)) fun _ ↦
  .bind (Process.keeps_ofHost (keeps_ioctl fun _ ↦ rfl)) fun _ ↦
  .bind (Process.keeps_ofHost (keeps_socket _)) fun _ ↦
  .bind (Process.keeps_ofExcept _) fun _ ↦ .pure _

/-- The book of a device that was created, but not set up, is empty. -/
theorem noRoute_create {config : Configuration PlatformConfig} {s t : Process Host} {dev : Device}
    (hs : NoEntry s.host) (h : create config s = (.ok dev, t)) : NoRoute (book (dev, t)) := by
  obtain ⟨id, s₁, hid, h₁⟩ := Call.bind_eq_ok.1 h
  have hs₁ := Process.keeps_ofHost (keeps_utunId _) s id s₁ hs hid
  split_ifs at h₁
  · cases h₁
  · cases h₁
  · obtain ⟨⟨name, fd, ctl⟩, s₂, hopen, h₂⟩ := Call.bind_eq_ok.1 h₁
    have hs₂ := keeps_openUtun id s₁ _ s₂ hs₁ hopen
    obtain ⟨tun, s₃, htun, h₃⟩ := Call.bind_eq_ok.1 h₂
    have hs₃ := Process.keeps_newTun fd _ _ s₂ tun s₃ hs₂ htun
    obtain ⟨rfl, rfl⟩ := Call.pure_eq_ok.1 h₃
    exact ⟨rfl, hs₃⟩

/-- The book of a device over a raw descriptor is empty. -/
theorem noRoute_ofRawFd {config : Configuration PlatformConfig} {fd : RawFd} {s t : Process Host}
    {dev : Device} (hs : NoEntry s.host) (h : ofRawFd config fd s = (.ok dev, t)) :
    NoRoute (book (dev, t)) := by
  obtain ⟨fd, s₁, hfd, h₁⟩ := Call.bind_eq_ok.1 h
  have hs₁ := keeps_newFd _ _ s fd s₁ hs hfd
  obtain ⟨tun, s₂, htun, h₂⟩ := Call.bind_eq_ok.1 h₁
  have hs₂ := Process.keeps_newTun fd _ _ s₁ tun s₂ hs₁ htun
  obtain ⟨rfl, rfl⟩ := Call.pure_eq_ok.1 h₂
  exact ⟨rfl, hs₂⟩

/-- **A new device has the route it has cached.** -/
theorem booked_new {config : Configuration PlatformConfig} {s t : Process Host} {dev : Device}
    (hs : NoEntry s.host) (h : new ipnet config s = (.ok dev, t)) : (book (dev, t)).Booked := by
  cases hraw : config.rawFd with
  | some fd =>
      simp only [new, hraw] at h
      exact (noRoute_ofRawFd hs h).booked
  | none =>
      simp only [new, hraw] at h
      obtain ⟨dev₀, s₀, hcreate, hfinish⟩ := Call.bind_eq_ok.1 h
      obtain ⟨⟨⟩, s₁, hconfigure, halias⟩ := Call.bind_eq_ok.1 (orDrop_eq_ok.1 hfinish)
      exact booked_setAlias ipnet
        (keeps_configure ipnet config _ _ _ (noRoute_create hs hcreate) hconfigure) halias

end Device

/-! ## Sequences of setters -/

/-- Devices from `Device::new` on a host without a route of theirs, and calls of the
setters, however they end. -/
def bookkeeping (ipnet : Ipnet) : System (Device × Process Host) (Component × Ipv4Addr) where
  init s := ∃ config proc, Device.NoEntry proc.host ∧ Device.new ipnet config proc = (.ok s.1, s.2)
  step s x t := t = (Device.setter ipnet x.1 (.v4 x.2) s).2

/-- The promise of one call: the table has the cached route, and a call that failed
changed neither. -/
def KeepsBook (ipnet : Ipnet) (s : Device × Process Host) (x : Component × Ipv4Addr)
    (t : Device × Process Host) : Prop :=
  RouteBook.Kept (Device.book s) ((Device.setter ipnet x.1 (.v4 x.2) s).1, Device.book t)

/-- **The routing table has the cached route exactly while no replacement stops half
way.**  It does after `Device::new`, and a sequence of setters keeps it so, with every
failed call changing nothing, exactly if in every call whose request is granted the
command that deletes fails, or the new mask is that of a network and the command that
adds succeeds. -/
theorem keepsBook_iff (ipnet : Ipnet) (s : Device × Process Host)
    (l : List ((Component × Ipv4Addr) × Device × Process Host))
    (hinit : (bookkeeping ipnet).init s) (hrun : (bookkeeping ipnet).Run s l) :
    (Device.book s).Booked ∧
      (AllSteps (KeepsBook ipnet) s l ↔
        AllSteps (fun s x _ ↦ Device.Settable s x.1 x.2) s l) := by
  obtain ⟨config, proc, hentry, hnew⟩ := hinit
  have hs : (Device.book s).Booked := Device.booked_new ipnet hentry hnew
  refine ⟨hs, hrun.allSteps_iff (I := fun s ↦ (Device.book s).Booked) ?_ ?_ hs⟩
  · rintro s x t hs rfl
    exact Device.kept_setter_iff ipnet hs x.1 x.2
  · intro _ _ _ _ _ h
    exact h.booked

/-- A process on a host that grants every request, on which every command succeeds. -/
def startProcess : Process Host where
  world := .initial
  host :=
    { systemSocket := 3, inetSocket := 4, errno := 0, unit := none
      nameOf := fun _ ↦ Device.utun ++ [51], flags := 0, refusals := []
      routes := { table := [], failures := [] }, overflowChecks := false }

/-- Setting the address of a new device replaces its route. -/
theorem keepsBook_set_address :
    ∃ s t, Device.new .std { platformConfig := {} } startProcess = (.ok (Prod.fst s), s.2) ∧
      t = (Device.setAddress .std (.v4 (.new 10 9 9 9)) s).2 ∧
      KeepsBook .std s (.address, .new 10 9 9 9) t := by
  refine ⟨(_, _), _, rfl, rfl, ?_⟩
  have h := keepsBook_iff .std (_, _) [((.address, .new 10 9 9 9), _)]
    ⟨{ platformConfig := {} }, startProcess, rfl, rfl⟩ (.cons rfl (.nil _))
  refine (h.2.2 ⟨fun _ r hr ↦ ?_, trivial⟩).1
  cases hr
  exact .inr (.inr ⟨by decide, by decide⟩)

/-- A netmask that is not that of a network is refused after the old route was deleted:
the device still has it cached, and setting the address fails for it from then on. -/
theorem set_netmask_deletes_route :
    ∃ s t u, Device.new .std { platformConfig := {} } startProcess = (.ok (Prod.fst s), s.2) ∧
      Device.setNetmask .std (.v4 (.new 255 0 255 0)) s = (.error (.err .invalidConfig), t) ∧
      (Device.book s).routes.table = [⟨.new 10 0 0 0, 24, .new 10 0 0 255⟩] ∧
      Device.book t =
        ⟨some ⟨.new 10 0 0 1, .new 255 255 255 0, .new 10 0 0 255⟩, ⟨[], []⟩⟩ ∧
      Device.setAddress .std (.v4 (.new 10 9 9 9)) t =
        (.error (.err (.io (.new .other "route failed with: \"not in table\""))), u) :=
  ⟨(_, _), _, _, rfl, rfl, rfl, rfl, rfl⟩

end RustTun.MacOs

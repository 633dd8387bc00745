import ScannerButton.App.Channel
import ScannerButton.Bjnp.Identity

/-
  The discovery driver (`src/scan.rs`). `scan` starts one `broadcast_scan` task for every local
  interface with an address. The task binds a socket to that address, broadcasts a `Discover`
  command, and then publishes one item for every `recv_from`: its failure, or the checks of
  `Channel::recv` on the datagram, which the task's closure repeats (`publish`). The tasks'
  receivers are collected into a `StreamMap` keyed by the interface's name and IP, and the main
  loop takes items from it in whatever order the runtime makes them ready, spawning
  `inquire_device` for every discover response that decoded and logging every failure, until the
  deadline.

  The network and the runtime are the environment (`ScanEnv`): the interfaces
  `NetworkInterface::show` lists, whether each task's socket is set up and the network takes its
  broadcast, the `n`-th `recv_from` on each socket, what an inquiry's channel answers, and the
  build. The order in which the loop takes items before the deadline is a schedule, a list of
  keys (`scanLoop`). A stream on its own is a cursor over its task's items (`Cursor.next`); a
  panicking decode unwinds the task, which tokio catches, and its dropped sender ends the
  stream.

  Proved here, for every environment and every schedule: one turn of the loop touches only the
  stream it takes from (`scanStep_of_ne`), so the loop restricted to a stream is that stream run
  on its own, whatever the interleaving (`scanRun_devicesOf`). The devices inquired from a stream
  are exactly its replies that decode, among those taken, in the order they arrived, up to the
  first panicking decode: none is lost and none is inquired twice; a stream whose task failed to
  set up, or whose key a later interface took over, gives none (`scanLoop_devicesOf`).
-/

namespace ScannerButton

open Bjnp

/-! ## Interfaces and addresses -/

/-- `BJNP_PORT`. -/
def BJNP_PORT : UInt16 := 8612

/-- `network_interface::Addr`: an IPv4 address with the directed broadcast the system reports,
    if any, or an IPv6 address. -/
inductive IfAddr where
  | v4 (ip : Discover.Ipv4Addr) (broadcast : Option Discover.Ipv4Addr)
  | v6 (ip : Discover.Ipv6Addr)
  deriving DecidableEq

/-- `Addr::ip`. -/
def IfAddr.ip : IfAddr → Discover.IpAddr
  | .v4 ip _ => .v4 ip
  | .v6 ip => .v6 ip

/-- `NetworkInterface`, as far as `scan` reads it. -/
structure NetworkInterface where
  name : String
  addr : Option IfAddr
  deriving DecidableEq

/-- `SocketAddr`. -/
structure SocketAddr where
  ip : Discover.IpAddr
  port : UInt16
  deriving DecidableEq

/-- `IPV4_BROADCAST`, `255.255.255.255`. -/
def IPV4_BROADCAST : Discover.Ipv4Addr := ⟨[255, 255, 255, 255], rfl⟩

/-- `IPV6_LINKLOCAL_MULTICAST`, `ff02::1`. -/
def IPV6_LINKLOCAL_MULTICAST : Discover.Ipv6Addr :=
  ⟨[0xFF, 0x02, 0, 0, 0, 0, 0, 0, 0, 0, 0, 0, 0, 0, 0, 1], rfl⟩

/-- Where `broadcast_scan` sends its discover command, on the BJNP port: the interface's
    directed broadcast, or `255.255.255.255` when the system reports none, for IPv4; the
    link-local all-nodes group for IPv6. -/
def broadcastAddr : IfAddr → SocketAddr
  | .v4 _ broadcast => ⟨.v4 (broadcast.getD IPV4_BROADCAST), BJNP_PORT⟩
  | .v6 _ => ⟨.v6 IPV6_LINKLOCAL_MULTICAST, BJNP_PORT⟩

/-- The interfaces `scan` starts a task for, those with an address, as `(name, address)`. -/
def usable (interfaces : List NetworkInterface) : List (String × IfAddr) :=
  interfaces.filterMap fun i => i.addr.map (i.name, ·)

/-- A stream's key in the `StreamMap`: the interface's name and IP. -/
def streamKey (iface : String × IfAddr) : String × Discover.IpAddr := (iface.1, iface.2.ip)

/-- The task whose stream the `StreamMap` holds under key `κ`. `collect` inserts the receivers
    in interface order, and inserting a key already present replaces its stream, so it is the
    last usable interface with that key. -/
def streamOf (interfaces : List NetworkInterface) (κ : String × Discover.IpAddr) :
    Option (String × IfAddr) :=
  (usable interfaces).reverse.find? fun i => streamKey i = κ

/-! ## The tasks -/

/-- The command `broadcast_scan` broadcasts: a scanner command of payload type `Discover` with
    the builder's defaults, around `Empty`. -/
def discoverCommand : Packet Bjnp.Empty :=
  (PacketBuilder.new .scannerCommand .discover).build ⟨⟩

/-- The discover command is the 16-byte header alone: payload type `Discover`, sequence 0,
    payload size 0. -/
example : serializeToVec discoverCommand =
    some [0x42, 0x4A, 0x4E, 0x50, 0x02, 0x01, 0, 0, 0, 0, 0, 0, 0, 0, 0, 0] := by
  decide

/-- The item a `broadcast_scan` task publishes for one `recv_from`: its failure, or the checks
    of `Channel::recv` on the datagram, which the task's closure repeats. -/
def publish (target : Target) : Reply → Outcome ListenError Discover.Response
  | .ok datagram => Channel.decode target datagram
  | .fail => .err .io

/-- The world a scan runs in: the interfaces `NetworkInterface::show` lists (`none` when it
    fails); whether the socket of an interface's task binds, takes the broadcast flag (IPv4)
    and reports its local address; whether the network takes the bytes the task sends to an
    address; the `n`-th `recv_from` on that socket; what the channel of an inquiry answers to
    its setup (`none` when `Channel::new` fails), its send and its receive; and the build. -/
structure ScanEnv where
  interfaces : Option (List NetworkInterface)
  bind : String × IfAddr → Bool
  sendTo : String × IfAddr → SocketAddr → Bytes → Bool
  received : String × IfAddr → Nat → Reply
  inquiry : Discover.Response → Option (Reply × Reply)
  target : Target

/-- Whether the task of `iface` gets to listen: its socket is set up, and the network takes the
    discover command it sends to the interface's broadcast address. Otherwise the task returns
    `Err` and drops its sender. -/
def ScanEnv.listening (env : ScanEnv) (iface : String × IfAddr) : Bool :=
  env.bind iface && match serializeToVec discoverCommand with
    | some bytes => env.sendTo iface (broadcastAddr iface.2) bytes
    | none => false

/-- The items the task of `iface` publishes, by `recv_from`. -/
def ScanEnv.items (env : ScanEnv) (iface : String × IfAddr) (j : Nat) :
    Outcome ListenError Discover.Response :=
  publish env.target (env.received iface j)

/-- The items of the stream under key `κ`, when it can yield any: `none` for a key without a
    stream, or whose task did not get to listen. -/
def ScanEnv.stream (env : ScanEnv) (interfaces : List NetworkInterface)
    (κ : String × Discover.IpAddr) : Option (Nat → Outcome ListenError Discover.Response) :=
  (streamOf interfaces κ).bind fun iface =>
    if env.listening iface then some (env.items iface) else none

/-! ## The loop -/

/-- The loop's view of one stream: how many items its task has published, and whether the
    stream has ended. -/
structure Cursor where
  taken : Nat
  ended : Bool
  deriving DecidableEq

/-- One item taken from a stream whose task publishes `item j` for its `j`-th `recv_from`: the
    device of a decoded discover response, which the loop hands to `inquire_device`, or nothing
    for a failure, which it logs. A panicking decode unwinds the task, its sender is dropped,
    and the stream ends. -/
def Cursor.next (item : Nat → Outcome ListenError Discover.Response) (c : Cursor) :
    Cursor × Option Discover.Response :=
  if c.ended then (c, none)
  else match item c.taken with
    | .ok device => (⟨c.taken + 1, false⟩, some device)
    | .err _ => (⟨c.taken + 1, false⟩, none)
    | .panic => (⟨c.taken, true⟩, none)

/-- The state of `scan`'s loop: the cursor of every key, and the devices handed to
    `inquire_device`, each with the key of its stream, in the order the loop spawned them. -/
structure ScanState where
  cursor : String × Discover.IpAddr → Cursor
  inquired : List ((String × Discover.IpAddr) × Discover.Response)

/-- No item taken yet. -/
def ScanState.initial : ScanState := ⟨fun _ => ⟨0, false⟩, []⟩

/-- The devices inquired from the stream under key `κ`, in order. -/
def ScanState.devicesOf (st : ScanState) (κ : String × Discover.IpAddr) :
    List Discover.Response :=
  (st.inquired.filter fun x => x.1 = κ).map (·.2)

/-- One turn of the `select!` loop that takes the next item of the stream under `κ`. -/
def scanStep (env : ScanEnv) (interfaces : List NetworkInterface) (st : ScanState)
    (κ : String × Discover.IpAddr) : ScanState :=
  match env.stream interfaces κ with
  | some item =>
    ⟨Function.update st.cursor κ ((st.cursor κ).next item).1,
      st.inquired ++ ((st.cursor κ).next item).2.toList.map (κ, ·)⟩
  | none => st

/-- The loop of `scan` until the deadline, taking items in the order of `picks`. -/
def scanLoop (env : ScanEnv) (interfaces : List NetworkInterface)
    (picks : List (String × Discover.IpAddr)) : ScanState :=
  picks.foldl (scanStep env interfaces) .initial

/-- `scan`: the devices it spawns `inquire_device` for before the deadline, with the key of
    their stream, or `none` for the `Err` of `NetworkInterface::show`. -/
def scan (env : ScanEnv) (picks : List (String × Discover.IpAddr)) :
    Option (List ((String × Discover.IpAddr) × Discover.Response)) :=
  env.interfaces.map fun interfaces => (scanLoop env interfaces picks).inquired

/-! ## Inquiries -/

/-- `Ord for str`, byte by byte, a prefix first. -/
def bytesLe : Bytes → Bytes → Bool
  | [], _ => true
  | _ :: _, [] => false
  | a :: as, b :: bs => a < b || (a == b && bytesLe as bs)

/-- `Ord for (&String, &String)`: the key, then the value. -/
def entryLe (a b : Bytes × Bytes) : Bool :=
  if a.1 = b.1 then bytesLe a.2 b.2 else bytesLe a.1 b.1

/-- `inquire_device`: a fresh channel to the device's IP on the BJNP port, the `GetId` command
    with sequence 0 and an empty payload, and the identity the device answers, decoded as
    `Channel::recv` does. It prints the device's addresses, then the identity's entries sorted;
    the result is those entries. -/
def inquireDevice (env : ScanEnv) (device : Discover.Response) :
    Outcome ListenError (List (Bytes × Bytes)) :=
  match env.inquiry device with
  | none => .err .io
  | some (.fail, _) => .err .io
  | some (.ok _, .fail) => .err .io
  | some (.ok _, .ok datagram) => do
    let identity ← (Channel.decode env.target datagram : Outcome ListenError Identity.Response)
    pure ((identity.map.entries.map fun kv => (kv.1, kv.2)).mergeSort entryLe)

/-! ## One stream on its own -/

/-- `n` items taken from one stream on its own: the cursor after them, and the devices they
    gave, in order. -/
def Cursor.run (item : Nat → Outcome ListenError Discover.Response) (c : Cursor) :
    Nat → Cursor × List Discover.Response
  | 0 => (c, [])
  | n + 1 =>
    (((c.next item).1.run item n).1, (c.next item).2.toList ++ ((c.next item).1.run item n).2)

/-- The device of an item, as the loop's `Ok(resp)` arm takes it. -/
def deviceOf : Outcome ListenError Discover.Response → Option Discover.Response
  | .ok device => some device
  | _ => none

/-- An ended stream gives nothing more. -/
theorem Cursor.run_ended (item : Nat → Outcome ListenError Discover.Response) (taken : Nat) :
    ∀ n, (Cursor.run item ⟨taken, true⟩ n).2 = []
  | 0 => rfl
  | n + 1 => by simp [Cursor.run, Cursor.next, Cursor.run_ended item taken n]

/-- A stream gives the devices of its items in arrival order, up to the first panicking decode,
    which ends it. -/
theorem Cursor.run_devices (item : Nat → Outcome ListenError Discover.Response) :
    ∀ j n, (Cursor.run item ⟨j, false⟩ n).2 =
      ((List.range' j n).takeWhile fun k => item k ≠ .panic).filterMap fun k => deviceOf (item k)
  | _, 0 => rfl
  | j, n + 1 => by
    rw [List.range'_succ]
    rcases h : item j with device | e | _ <;>
      simp [Cursor.run, Cursor.next, h, deviceOf, Cursor.run_devices item (j + 1) n,
        Cursor.run_ended]

/-! ## The interleaving -/

section Loop

variable (env : ScanEnv) (interfaces : List NetworkInterface)

/-- A turn that takes from one stream leaves every other stream's cursor and devices as they
    were. -/
theorem scanStep_of_ne (st : ScanState) {κ κ' : String × Discover.IpAddr} (h : κ' ≠ κ) :
    (scanStep env interfaces st κ').cursor κ = st.cursor κ ∧
      (scanStep env interfaces st κ').devicesOf κ = st.devicesOf κ := by
  unfold scanStep
  split
  · simp [Function.update_noteq (Ne.symm h), ScanState.devicesOf, List.filter_append,
      Option.toList, h]
  · exact ⟨rfl, rfl⟩

/-- A turn that takes from stream `κ` moves its cursor one item on and adds the device of that
    item, if any. -/
theorem scanStep_self (st : ScanState) (κ : String × Discover.IpAddr)
    (item : Nat → Outcome ListenError Discover.Response) (h : env.stream interfaces κ = some item) :
    (scanStep env interfaces st κ).cursor κ = ((st.cursor κ).next item).1 ∧
      (scanStep env interfaces st κ).devicesOf κ =
        st.devicesOf κ ++ ((st.cursor κ).next item).2.toList := by
  simp only [scanStep, h, Function.update_same, ScanState.devicesOf, List.filter_append,
    List.map_append, true_and]
  cases ((st.cursor κ).next item).2 <;> simp

/-- Whatever the interleaving, the loop restricted to one stream is that stream taken on its
    own, as many times as the schedule picks it. -/
theorem scanRun_devicesOf (picks : List (String × Discover.IpAddr)) (st : ScanState)
    (κ : String × Discover.IpAddr) :
    (picks.foldl (scanStep env interfaces) st).devicesOf κ =
      st.devicesOf κ ++ match env.stream interfaces κ with
        | some item => ((st.cursor κ).run item (picks.count κ)).2
        | none => [] := by
  induction picks generalizing st with
  | nil => cases env.stream interfaces κ <;> simp [Cursor.run]
  | cons κ' picks ih =>
    rw [List.foldl_cons, ih]
    by_cases h : κ' = κ
    · subst h
      rcases hs : env.stream interfaces κ' with _ | item
      · simp [scanStep, hs]
      · obtain ⟨hc, hd⟩ := scanStep_self env interfaces st κ' item hs
        simp [hc, hd, List.count_cons, Cursor.run]
    · obtain ⟨hc, hd⟩ := scanStep_of_ne env interfaces st h
      rw [hc, hd, List.count_cons_of_ne (Ne.symm h)]

/-- For every environment and every order in which the loop takes items before the deadline,
    the devices inquired from a stream are exactly the replies of its task that decode, among
    those taken, in the order they arrived, up to the first panicking decode: none is lost and
    none is inquired twice. A key without a live stream gives none. -/
theorem scanLoop_devicesOf (picks : List (String × Discover.IpAddr))
    (κ : String × Discover.IpAddr) :
    (scanLoop env interfaces picks).devicesOf κ =
      match env.stream interfaces κ with
      | some item => ((List.range (picks.count κ)).takeWhile fun j => item j ≠ .panic).filterMap
          fun j => deviceOf (item j)
      | none => [] := by
  rw [scanLoop, scanRun_devicesOf]
  cases env.stream interfaces κ with
  | none => rfl
  | some item => exact (List.nil_append _).trans ((Cursor.run_devices item 0 _).trans
      (by rw [List.range_eq_range']))

end Loop

end ScannerButton

import ScannerButton.Bjnp.Serdes

/-
  The response to a discover command (`bjnp/src/discover.rs`): the fixed preamble
  `00 01 08 00`, the MAC length (6 or 8), the IP length (4 or 16), then the MAC and the IP.
  Addresses are byte arrays of their fixed width, carried as a length field of the
  structure. The sized readers (`Eui48::deserialize_exact` and the `Ipv*Addr` ones) index
  `buffer[..SIZE]`; the blanket decoder only calls them on buffers at least that long, and the
  model keeps the index panic for the other case.

  Proved here: every response serializes, to `size()` bytes (`serialize_response`). The codec
  round-trips both ways (`deserialize_serialize_response`): the bytes of a response, followed
  by anything, decode to it and its `size()`; a decoded response encodes to the preamble and
  then the bytes it was read from. The decoder is taken apart one step at a time: the header
  (`RawResponseHeader.deserialize_preamble`), then what the MAC and IP steps read when decoding
  goes on past them (`macStep_eq_ok`, `ipStep_eq_ok`).

  The errors: the decoder is the header, the MAC step and the IP step (`Response.deserialize_eq`),
  each address step one instance of `readSized` (`readSized_cases`). It fails exactly with the
  buffer's first defect in the order of these checks (`Response.deserialize_eq_err_iff`) and
  never panics (`Response.deserialize_ne_panic`). A truncated address is reported with
  `expected` counted from the start of the buffer and `actual` from the start of the address,
  since `offset_by` rebases only `expected`.
-/

namespace Bjnp.Discover

/-! ## Addresses -/

/-- `Eui48`, `[u8; 6]`. -/
structure Eui48 where
  octets : Bytes
  length_eq : octets.length = 6
  deriving DecidableEq

/-- `Eui64`, `[u8; 8]`. -/
structure Eui64 where
  octets : Bytes
  length_eq : octets.length = 8
  deriving DecidableEq

/-- `MacAddr`. -/
inductive MacAddr where
  | eui48 (addr : Eui48)
  | eui64 (addr : Eui64)
  deriving DecidableEq

/-- `Ipv4Addr`, its four octets. -/
structure Ipv4Addr where
  octets : Bytes
  length_eq : octets.length = 4
  deriving DecidableEq

/-- `Ipv6Addr`, its sixteen octets. -/
structure Ipv6Addr where
  octets : Bytes
  length_eq : octets.length = 16
  deriving DecidableEq

/-- `IpAddr`. -/
inductive IpAddr where
  | v4 (addr : Ipv4Addr)
  | v6 (addr : Ipv6Addr)
  deriving DecidableEq

/-- `buffer[..n].try_into().unwrap()` for an `[u8; n]`: the first `n` bytes, or the index
    panic on a shorter buffer. -/
def takeExact (n : Nat) (buffer : Bytes) : Outcome FormatError {b : Bytes // b.length = n} :=
  if h : n ≤ buffer.length then .ok ⟨buffer.take n, by simp [h]⟩ else .panic

instance : Serialize Eui48 := ⟨fun a => .ok a.octets, fun _ => 6⟩
instance : Serialize Eui64 := ⟨fun a => .ok a.octets, fun _ => 8⟩
instance : Serialize Ipv4Addr := ⟨fun a => .ok a.octets, fun _ => 4⟩
instance : Serialize Ipv6Addr := ⟨fun a => .ok a.octets, fun _ => 16⟩

instance : Deserialize Eui48 :=
  ⟨sizedDeserialize 6 fun b => (takeExact 6 b).map fun o => ⟨o.1, o.2⟩⟩
instance : Deserialize Eui64 :=
  ⟨sizedDeserialize 8 fun b => (takeExact 8 b).map fun o => ⟨o.1, o.2⟩⟩
instance : Deserialize Ipv4Addr :=
  ⟨sizedDeserialize 4 fun b => (takeExact 4 b).map fun o => ⟨o.1, o.2⟩⟩
instance : Deserialize Ipv6Addr :=
  ⟨sizedDeserialize 16 fun b => (takeExact 16 b).map fun o => ⟨o.1, o.2⟩⟩

/-- `Serialize for MacAddr`. -/
instance : Serialize MacAddr where
  serialize
    | .eui48 addr => Serialize.serialize addr
    | .eui64 addr => Serialize.serialize addr
  size
    | .eui48 addr => Serialize.size addr
    | .eui64 addr => Serialize.size addr

/-- `Serialize for IpAddr`. -/
instance : Serialize IpAddr where
  serialize
    | .v4 addr => Serialize.serialize addr
    | .v6 addr => Serialize.serialize addr
  size
    | .v4 addr => Serialize.size addr
    | .v6 addr => Serialize.size addr

@[simp] theorem MacAddr.serialize_eui48 (a : Eui48) :
    Serialize.serialize (MacAddr.eui48 a) = .ok a.octets := rfl

@[simp] theorem MacAddr.serialize_eui64 (a : Eui64) :
    Serialize.serialize (MacAddr.eui64 a) = .ok a.octets := rfl

@[simp] theorem IpAddr.serialize_v4 (a : Ipv4Addr) : Serialize.serialize (IpAddr.v4 a) = .ok a.octets :=
  rfl

@[simp] theorem IpAddr.serialize_v6 (a : Ipv6Addr) : Serialize.serialize (IpAddr.v6 a) = .ok a.octets :=
  rfl

@[simp] theorem MacAddr.size_eui48 (a : Eui48) : Serialize.size (MacAddr.eui48 a) = 6 := rfl

@[simp] theorem MacAddr.size_eui64 (a : Eui64) : Serialize.size (MacAddr.eui64 a) = 8 := rfl

@[simp] theorem IpAddr.size_v4 (a : Ipv4Addr) : Serialize.size (IpAddr.v4 a) = 4 := rfl

@[simp] theorem IpAddr.size_v6 (a : Ipv6Addr) : Serialize.size (IpAddr.v6 a) = 16 := rfl

/-! ## The response -/

/-- `discover::Response`. -/
structure Response where
  macAddr : MacAddr
  ipAddr : IpAddr
  deriving DecidableEq

/-- `RawResponseHeader`, `#[repr(C, packed)]`: `unk_1: [u8; 4]`, `mac_len`, `ip_len`. -/
structure RawResponseHeader where
  unk1 : Bytes
  macLen : UInt8
  ipLen : UInt8
  deriving DecidableEq

/-- `size_of::<RawResponseHeader>()`. -/
def RawResponseHeader.SIZE : Nat := 6

/-- The packed bytes of a `RawResponseHeader`. -/
def RawResponseHeader.toBytes (r : RawResponseHeader) : Bytes := r.unk1 ++ [r.macLen, r.ipLen]

/-- A `RawResponseHeader` read from the front of a buffer. -/
def RawResponseHeader.ofBytes (b : Bytes) : RawResponseHeader :=
  ⟨b.take 4, b.getD 4 0, b.getD 5 0⟩

/-- `Serialize::serialize for Response`. -/
def Response.serialize (r : Response) : Outcome IoError Bytes := do
  let rawHeader : RawResponseHeader :=
    ⟨[0x00, 0x01, 0x08, 0x00], UInt8.ofNat (Serialize.size r.macAddr),
      UInt8.ofNat (Serialize.size r.ipAddr)⟩
  let mac ← Serialize.serialize r.macAddr
  let ip ← Serialize.serialize r.ipAddr
  pure (rawHeader.toBytes ++ mac ++ ip)

instance : Serialize Response where
  serialize := Response.serialize
  size r := RawResponseHeader.SIZE + Serialize.size r.macAddr + Serialize.size r.ipAddr

@[simp] theorem Response.size_eq (r : Response) :
    Serialize.size r = 6 + Serialize.size r.macAddr + Serialize.size r.ipAddr := rfl

/-- One step of `Deserialize for Response`: decode a `T` from the rest of the buffer, with its
    errors rebased by the bytes consumed before it (`map_err(|e| e.offset_by(size))`). -/
def nested {α β : Type} [Deserialize α] (wrap : α → β) (rest : Bytes) (size : Nat) :
    Outcome ParseError (β × Nat) :=
  ((Deserialize.deserialize rest : Outcome ParseError (α × Nat)).offsetBy size).map
    fun (addr, n) => (wrap addr, n)

/-- `Deserialize for Response`. -/
def Response.deserialize (buffer : Bytes) : Outcome ParseError (Response × Nat) := do
  let (rawHeader, size) ← sizedDeserialize RawResponseHeader.SIZE
    (fun b => .ok (RawResponseHeader.ofBytes b)) buffer
  let rest := buffer.drop size
  let (macAddr, next) ←
    if rawHeader.macLen = 6 then nested MacAddr.eui48 rest size
    else if rawHeader.macLen = 8 then nested MacAddr.eui64 rest size
    else .err (.invalidFormat (.invalidByte rawHeader.macLen 4
      "invalid MAC address size, can only be 6 or 8"))
  let size := size + next
  let rest := rest.drop next
  let (ipAddr, next) ←
    if rawHeader.ipLen = 4 then nested IpAddr.v4 rest size
    else if rawHeader.ipLen = 16 then nested IpAddr.v6 rest size
    else .err (.invalidFormat (.invalidByte rawHeader.ipLen 5
      "invalid IP address size, can only be 4 or 16"))
  pure (⟨macAddr, ipAddr⟩, size + next)

instance : Deserialize Response := ⟨Response.deserialize⟩

/-! ## Size law -/

theorem serialize_macAddr (m : MacAddr) :
    ∃ b, Serialize.serialize m = .ok b ∧ b.length = Serialize.size m := by
  cases m with
  | eui48 a => exact ⟨a.octets, rfl, a.length_eq⟩
  | eui64 a => exact ⟨a.octets, rfl, a.length_eq⟩

theorem serialize_ipAddr (i : IpAddr) :
    ∃ b, Serialize.serialize i = .ok b ∧ b.length = Serialize.size i := by
  cases i with
  | v4 a => exact ⟨a.octets, rfl, a.length_eq⟩
  | v6 a => exact ⟨a.octets, rfl, a.length_eq⟩

/-- Every discover response serializes, to exactly `size()` bytes. -/
theorem serialize_response (r : Response) :
    ∃ b, Serialize.serialize r = .ok b ∧ b.length = Serialize.size r := by
  obtain ⟨m, hm, hml⟩ := serialize_macAddr r.macAddr
  obtain ⟨i, hi, hil⟩ := serialize_ipAddr r.ipAddr
  refine ⟨_, show Response.serialize r = _ by simp only [Response.serialize, hm, hi]; rfl, ?_⟩
  simp only [RawResponseHeader.toBytes, List.length_append, hml, hil]
  rfl

/-! ## Round trip -/

/-- A sized address reader on the bytes of an address, followed by anything. -/
theorem sizedDeserialize_takeExact_append {α : Type} {n : Nat}
    (mk : {b : Bytes // b.length = n} → α) (o t : Bytes) (h : o.length = n) :
    sizedDeserialize n (fun b => (takeExact n b).map mk) (o ++ t) = .ok (mk ⟨o, h⟩, n) := by
  subst h
  simp [sizedDeserialize_long, takeExact]

/-- What a sized address reader read: the first `n` bytes. -/
theorem sizedDeserialize_takeExact_eq_ok {α : Type} {n : Nat}
    {mk : {b : Bytes // b.length = n} → α} {buffer : Bytes} {a : α} {k : Nat}
    (h : sizedDeserialize n (fun b => (takeExact n b).map mk) buffer = .ok (a, k)) :
    k = n ∧ ∃ hb : (buffer.take n).length = n, a = mk ⟨buffer.take n, hb⟩ := by
  obtain ⟨rfl, hle, hx⟩ := sizedDeserialize_eq_ok h
  simp only [takeExact, hle, dif_pos, Outcome.map_ok, Outcome.ok.injEq] at hx
  exact ⟨rfl, _, hx.symm⟩

theorem Eui48.deserialize_append (a : Eui48) (t : Bytes) :
    (Deserialize.deserialize (a.octets ++ t) : Outcome ParseError (Eui48 × Nat)) = .ok (a, 6) :=
  sizedDeserialize_takeExact_append _ _ t a.length_eq

theorem Eui64.deserialize_append (a : Eui64) (t : Bytes) :
    (Deserialize.deserialize (a.octets ++ t) : Outcome ParseError (Eui64 × Nat)) = .ok (a, 8) :=
  sizedDeserialize_takeExact_append _ _ t a.length_eq

theorem Ipv4Addr.deserialize_append (a : Ipv4Addr) (t : Bytes) :
    (Deserialize.deserialize (a.octets ++ t) : Outcome ParseError (Ipv4Addr × Nat)) = .ok (a, 4) :=
  sizedDeserialize_takeExact_append _ _ t a.length_eq

theorem Ipv6Addr.deserialize_append (a : Ipv6Addr) (t : Bytes) :
    (Deserialize.deserialize (a.octets ++ t) : Outcome ParseError (Ipv6Addr × Nat)) = .ok (a, 16) :=
  sizedDeserialize_takeExact_append _ _ t a.length_eq

theorem nested_of_deserialize {α β : Type} [Deserialize α] (wrap : α → β) {rest : Bytes}
    (size : Nat) {a : α} {k : Nat}
    (h : (Deserialize.deserialize rest : Outcome ParseError (α × Nat)) = .ok (a, k)) :
    nested wrap rest size = .ok (wrap a, k) := by
  simp [nested, h]

theorem nested_eq_ok {α β : Type} [Deserialize α] {wrap : α → β} {rest : Bytes} {size : Nat}
    {x : β} {k : Nat} (h : nested wrap rest size = .ok (x, k)) :
    ∃ a, (Deserialize.deserialize rest : Outcome ParseError (α × Nat)) = .ok (a, k) ∧ x = wrap a := by
  obtain ⟨⟨a, k'⟩, ha, he⟩ := Outcome.map_eq_ok.mp h
  simp only [Prod.mk.injEq] at he
  obtain ⟨rfl, rfl⟩ := he
  exact ⟨a, offsetBy_eq_ok.mp ha, rfl⟩

/-- The header reader on a response's preamble and length bytes, followed by anything. -/
theorem RawResponseHeader.deserialize_preamble (macLen ipLen : UInt8) (t : Bytes) :
    sizedDeserialize RawResponseHeader.SIZE (fun b => .ok (RawResponseHeader.ofBytes b))
      (0x00 :: 0x01 :: 0x08 :: 0x00 :: macLen :: ipLen :: t) =
      .ok (⟨[0x00, 0x01, 0x08, 0x00], macLen, ipLen⟩, 6) := by
  simp [sizedDeserialize, RawResponseHeader.SIZE, RawResponseHeader.ofBytes]

theorem takeTwo_drop_four {b : Bytes} (h : 6 ≤ b.length) :
    (b.drop 4).take 2 = [b.getD 4 0, b.getD 5 0] := by
  match b, h with
  | _ :: _ :: _ :: _ :: _ :: _ :: _, _ => rfl

/-- A response serializes as its preamble, then the two length bytes and the address bytes
    that a buffer holds after its own first four bytes. -/
theorem serializeToVec_of_read {b : Bytes} {m : MacAddr} {i : IpAddr} {n : Nat}
    (hlen : 6 ≤ b.length) (hn : n = 6 + Serialize.size m + Serialize.size i)
    (hml : b.getD 4 0 = UInt8.ofNat (Serialize.size m))
    (hil : b.getD 5 0 = UInt8.ofNat (Serialize.size i))
    (hm : Serialize.serialize m = .ok ((b.drop 6).take (Serialize.size m)))
    (hi : Serialize.serialize i = .ok (((b.drop 6).drop (Serialize.size m)).take
      (Serialize.size i))) :
    serializeToVec (⟨m, i⟩ : Response) = some ([0x00, 0x01, 0x08, 0x00] ++ (b.drop 4).take (n - 4)) := by
  have hs : n - 4 = 2 + Serialize.size m + Serialize.size i := by omega
  rw [serializeToVec_eq (show Response.serialize ⟨m, i⟩ = _ by simp only [Response.serialize, hm, hi]; rfl),
    hs, List.take_add, List.take_add, takeTwo_drop_four hlen, List.drop_drop, List.drop_drop,
    List.drop_drop, hml, hil]
  simp [RawResponseHeader.toBytes, ← Nat.add_assoc]

/-- What the MAC address step of the decoder read, when decoding went on past it. -/
theorem macStep_eq_ok {γ : Type} {len : UInt8} {rest : Bytes} {size : Nat} {e : ParseError}
    {jp : MacAddr × Nat → Outcome ParseError γ} {x : γ}
    (h : (if len = 6 then nested MacAddr.eui48 rest size >>= jp
      else if len = 8 then nested MacAddr.eui64 rest size >>= jp else .err e >>= jp) = .ok x) :
    ∃ m, len = UInt8.ofNat (Serialize.size m) ∧
      Serialize.serialize m = .ok (rest.take (Serialize.size m)) ∧ jp (m, Serialize.size m) = .ok x := by
  split_ifs at h with h6 h8
  rotate_right
  · simp at h
  all_goals
    obtain ⟨⟨m, k⟩, hm, h⟩ := Outcome.bind_eq_ok.mp h
    obtain ⟨a, ha, rfl⟩ := nested_eq_ok hm
    obtain ⟨rfl, _, rfl⟩ := sizedDeserialize_takeExact_eq_ok ha
    exact ⟨_, ‹_›, rfl, h⟩

/-- What the IP address step of the decoder read, when decoding went on past it. -/
theorem ipStep_eq_ok {γ : Type} {len : UInt8} {rest : Bytes} {size : Nat} {e : ParseError}
    {jp : IpAddr × Nat → Outcome ParseError γ} {x : γ}
    (h : (if len = 4 then nested IpAddr.v4 rest size >>= jp
      else if len = 16 then nested IpAddr.v6 rest size >>= jp else .err e >>= jp) = .ok x) :
    ∃ i, len = UInt8.ofNat (Serialize.size i) ∧
      Serialize.serialize i = .ok (rest.take (Serialize.size i)) ∧ jp (i, Serialize.size i) = .ok x := by
  split_ifs at h with h4 h16
  rotate_right
  · simp at h
  all_goals
    obtain ⟨⟨i, k⟩, hi, h⟩ := Outcome.bind_eq_ok.mp h
    obtain ⟨a, ha, rfl⟩ := nested_eq_ok hi
    obtain ⟨rfl, _, rfl⟩ := sizedDeserialize_takeExact_eq_ok ha
    exact ⟨_, ‹_›, rfl, h⟩

/-- The discover response codec round-trips. Every response encodes, and its bytes, followed by
    anything, decode to the response and its `size()`; a decoded response encodes to the
    preamble `00 01 08 00` and then the bytes it was read from after the buffer's first four. -/
theorem deserialize_serialize_response :
    (∀ (r : Response) (t : Bytes), ∃ bytes, serializeToVec r = some bytes ∧
      Response.deserialize (bytes ++ t) = .ok (r, Serialize.size r)) ∧
    (∀ (b : Bytes) (r : Response) (n : Nat), Response.deserialize b = .ok (r, n) →
      serializeToVec r = some ([0x00, 0x01, 0x08, 0x00] ++ (b.drop 4).take (n - 4))) := by
  refine ⟨fun r t => ?_, fun b r n h => ?_⟩
  · obtain ⟨m | m, i | i⟩ := r <;> refine ⟨_, rfl, ?_⟩ <;>
      simp [Response.deserialize, RawResponseHeader.toBytes, RawResponseHeader.deserialize_preamble,
        List.drop_left' m.length_eq,
        nested_of_deserialize _ _ (Eui48.deserialize_append _ _),
        nested_of_deserialize _ _ (Eui64.deserialize_append _ _),
        nested_of_deserialize _ _ (Ipv4Addr.deserialize_append _ _),
        nested_of_deserialize _ _ (Ipv6Addr.deserialize_append _ _)]
  · obtain ⟨⟨header, size⟩, hh, h⟩ := Outcome.bind_eq_ok.mp h
    obtain ⟨rfl, hlen, hheader⟩ := sizedDeserialize_eq_ok hh
    cases hheader
    obtain ⟨m, hml, hm, h⟩ := macStep_eq_ok h
    obtain ⟨i, hil, hi, h⟩ := ipStep_eq_ok h
    cases h
    exact serializeToVec_of_read hlen rfl hml hil hm hi

/-! ## Errors -/

/-- A sized address step on the rest of the buffer: `UnexpectedEnd` when the rest is shorter
    than the address, its `expected` rebased by the bytes before and its `actual` the length of
    the rest; otherwise the address. -/
theorem nested_sized (α : Type) {β : Type} [Deserialize α] {n : Nat}
    {mk : {b : Bytes // b.length = n} → α}
    (hd : ∀ rest, (Deserialize.deserialize rest : Outcome ParseError (α × Nat)) =
      sizedDeserialize n (fun b => (takeExact n b).map mk) rest)
    (wrap : α → β) (rest : Bytes) (size : Nat) :
    (rest.length < n ∧ nested wrap rest size = .err (.unexpectedEnd (n + size) rest.length)) ∨
      (n ≤ rest.length ∧ ∃ a, nested wrap rest size = .ok (wrap a, n)) := by
  unfold nested
  rw [hd]
  by_cases h : rest.length < n
  · exact .inl ⟨h, by rw [sizedDeserialize_short h]; rfl⟩
  · have hle := Nat.not_lt.mp h
    exact .inr ⟨hle, mk ⟨rest.take n, List.length_take_of_le hle⟩, by
      simp [sizedDeserialize_long hle, takeExact, hle]⟩

/-- A step of `Deserialize for Response` that reads an address of one of two widths, chosen by
    a length byte of the header, and otherwise reports that byte at its offset. -/
def readSized {α₁ α₂ β : Type} [Deserialize α₁] [Deserialize α₂] (c₁ c₂ : UInt8)
    (wrap₁ : α₁ → β) (wrap₂ : α₂ → β) (offset : Nat) (message : String) (len : UInt8)
    (rest : Bytes) (size : Nat) : Outcome ParseError (β × Nat) :=
  if len = c₁ then nested wrap₁ rest size
  else if len = c₂ then nested wrap₂ rest size
  else .err (.invalidFormat (.invalidByte len offset message))

/-- The MAC address step: `match raw_header.mac_len`. -/
def Response.readMac : UInt8 → Bytes → Nat → Outcome ParseError (MacAddr × Nat) :=
  readSized 6 8 MacAddr.eui48 MacAddr.eui64 4 "invalid MAC address size, can only be 6 or 8"

/-- The IP address step: `match raw_header.ip_len`. -/
def Response.readIp : UInt8 → Bytes → Nat → Outcome ParseError (IpAddr × Nat) :=
  readSized 4 16 IpAddr.v4 IpAddr.v6 5 "invalid IP address size, can only be 4 or 16"

/-- The decoder is the header, then the MAC step, then the IP step. -/
theorem Response.deserialize_eq (b : Bytes) :
    Response.deserialize b = (do
      let (rawHeader, size) ← sizedDeserialize RawResponseHeader.SIZE
        (fun b => .ok (RawResponseHeader.ofBytes b)) b
      let (macAddr, next) ← Response.readMac rawHeader.macLen (b.drop size) size
      let (ipAddr, next') ← Response.readIp rawHeader.ipLen ((b.drop size).drop next) (size + next)
      pure (⟨macAddr, ipAddr⟩, size + next + next')) := by
  simp only [Response.readMac, Response.readIp, readSized, Outcome.ite_bind]
  rfl

/-- What an address step does: it reports its length byte, or a rest too short for the
    address, or reads the address. -/
theorem readSized_cases {α₁ α₂ β : Type} [Deserialize α₁] [Deserialize α₂] (c₁ c₂ : UInt8)
    (wrap₁ : α₁ → β) (wrap₂ : α₂ → β)
    {mk₁ : {b : Bytes // b.length = c₁.toNat} → α₁} {mk₂ : {b : Bytes // b.length = c₂.toNat} → α₂}
    (hd₁ : ∀ rest, (Deserialize.deserialize rest : Outcome ParseError (α₁ × Nat)) =
      sizedDeserialize c₁.toNat (fun b => (takeExact c₁.toNat b).map mk₁) rest)
    (hd₂ : ∀ rest, (Deserialize.deserialize rest : Outcome ParseError (α₂ × Nat)) =
      sizedDeserialize c₂.toNat (fun b => (takeExact c₂.toNat b).map mk₂) rest)
    (offset : Nat) (message : String) (len : UInt8) (rest : Bytes) (size : Nat) :
    (len ≠ c₁ ∧ len ≠ c₂ ∧ readSized c₁ c₂ wrap₁ wrap₂ offset message len rest size =
      .err (.invalidFormat (.invalidByte len offset message))) ∨
    ((len = c₁ ∨ len = c₂) ∧ rest.length < len.toNat ∧
      readSized c₁ c₂ wrap₁ wrap₂ offset message len rest size =
        .err (.unexpectedEnd (len.toNat + size) rest.length)) ∨
    ((len = c₁ ∨ len = c₂) ∧ len.toNat ≤ rest.length ∧
      ∃ x, readSized c₁ c₂ wrap₁ wrap₂ offset message len rest size = .ok (x, len.toNat)) := by
  unfold readSized
  by_cases h₁ : len = c₁
  · subst h₁
    rcases nested_sized α₁ hd₁ wrap₁ rest size with ⟨h, he⟩ | ⟨h, a, he⟩
    · exact .inr (.inl ⟨.inl rfl, h, by rw [if_pos rfl, he]⟩)
    · exact .inr (.inr ⟨.inl rfl, h, _, by rw [if_pos rfl, he]⟩)
  by_cases h₂ : len = c₂
  · subst h₂
    rcases nested_sized α₂ hd₂ wrap₂ rest size with ⟨h, he⟩ | ⟨h, a, he⟩
    · exact .inr (.inl ⟨.inr rfl, h, by rw [if_neg h₁, if_pos rfl, he]⟩)
    · exact .inr (.inr ⟨.inr rfl, h, _, by rw [if_neg h₁, if_pos rfl, he]⟩)
  exact .inl ⟨h₁, h₂, by rw [if_neg h₁, if_neg h₂]⟩

/-- The first defect of a buffer, in the order the decoder checks: the header's length, the
    MAC length byte, the MAC's bytes, the IP length byte, the IP's bytes. An `UnexpectedEnd`
    for an address counts `expected` from the start of the buffer (the address's width plus
    its offset, as `offset_by` adds it) and `actual` from the start of the address. -/
def Response.defect (b : Bytes) : Option ParseError :=
  let macLen := b.getD 4 0
  let ipLen := b.getD 5 0
  if b.length < 6 then some (.unexpectedEnd 6 b.length)
  else if macLen ≠ 6 ∧ macLen ≠ 8 then
    some (.invalidFormat (.invalidByte macLen 4 "invalid MAC address size, can only be 6 or 8"))
  else if b.length < 6 + macLen.toNat then
    some (.unexpectedEnd (macLen.toNat + 6) (b.length - 6))
  else if ipLen ≠ 4 ∧ ipLen ≠ 16 then
    some (.invalidFormat (.invalidByte ipLen 5 "invalid IP address size, can only be 4 or 16"))
  else if b.length < 6 + macLen.toNat + ipLen.toNat then
    some (.unexpectedEnd (ipLen.toNat + (6 + macLen.toNat)) (b.length - 6 - macLen.toNat))
  else none

/-- The decoder fails with the buffer's first defect, and decodes a buffer that has none. -/
theorem Response.deserialize_defect (b : Bytes) :
    (∃ e, Response.defect b = some e ∧ Response.deserialize b = .err e) ∨
      (Response.defect b = none ∧ ∃ r n, Response.deserialize b = .ok (r, n)) := by
  rw [Response.deserialize_eq]
  unfold Response.defect
  by_cases h6 : b.length < 6
  · refine .inl ⟨_, if_pos h6, ?_⟩
    rw [sizedDeserialize_short (show b.length < RawResponseHeader.SIZE from h6)]
    rfl
  rw [sizedDeserialize_long (show RawResponseHeader.SIZE ≤ b.length by
    simp only [RawResponseHeader.SIZE]; omega)]
  simp only [Outcome.mapErr_ok, Outcome.ok_bind, Outcome.pure_eq, RawResponseHeader.ofBytes,
    RawResponseHeader.SIZE, if_neg h6]
  generalize b.getD 4 0 = m, b.getD 5 0 = i
  -- the MAC address step
  rcases readSized_cases 6 8 MacAddr.eui48 MacAddr.eui64 (fun _ => rfl) (fun _ => rfl) 4
    "invalid MAC address size, can only be 6 or 8" m (b.drop 6) 6 with
    ⟨hm6, hm8, hmac⟩ | ⟨hm, hshort, hmac⟩ | ⟨hm, hlong, mac, hmac⟩
  · exact .inl ⟨_, if_pos ⟨hm6, hm8⟩, by rw [show Response.readMac _ _ _ = _ from hmac]; rfl⟩
  · simp only [List.length_drop] at hshort hmac
    have hm' : ¬ (m ≠ 6 ∧ m ≠ 8) := fun ⟨h6, h8⟩ => hm.elim h6 h8
    refine .inl ⟨_, ?_, by rw [show Response.readMac _ _ _ = _ from hmac]; rfl⟩
    rw [if_neg hm', if_pos (show b.length < 6 + m.toNat by omega)]
  simp only [List.length_drop] at hlong
  have hm' : ¬ (m ≠ 6 ∧ m ≠ 8) := fun ⟨h6, h8⟩ => hm.elim h6 h8
  rw [if_neg hm', if_neg (show ¬ b.length < 6 + m.toNat by omega),
    show Response.readMac _ _ _ = _ from hmac, Outcome.ok_bind]
  dsimp only
  -- the IP address step
  rcases readSized_cases 4 16 IpAddr.v4 IpAddr.v6 (fun _ => rfl) (fun _ => rfl) 5
    "invalid IP address size, can only be 4 or 16" i ((b.drop 6).drop m.toNat) (6 + m.toNat) with
    ⟨hi4, hi16, hip⟩ | ⟨hi, hshort, hip⟩ | ⟨hi, hlong, ip, hip⟩
  · exact .inl ⟨_, if_pos ⟨hi4, hi16⟩, by rw [show Response.readIp _ _ _ = _ from hip]; rfl⟩
  · simp only [List.length_drop] at hshort hip
    have hi' : ¬ (i ≠ 4 ∧ i ≠ 16) := fun ⟨h4, h16⟩ => hi.elim h4 h16
    refine .inl ⟨_, ?_, by rw [show Response.readIp _ _ _ = _ from hip]; rfl⟩
    rw [if_neg hi', if_pos (show b.length < 6 + m.toNat + i.toNat by omega)]
  · simp only [List.length_drop] at hlong
    have hi' : ¬ (i ≠ 4 ∧ i ≠ 16) := fun ⟨h4, h16⟩ => hi.elim h4 h16
    refine .inr ⟨?_, _, _, by rw [show Response.readIp _ _ _ = _ from hip]; rfl⟩
    rw [if_neg hi', if_neg (show ¬ b.length < 6 + m.toNat + i.toNat by omega)]

/-- The decoder fails exactly with the buffer's first defect. -/
theorem Response.deserialize_eq_err_iff (b : Bytes) (e : ParseError) :
    Response.deserialize b = .err e ↔ Response.defect b = some e := by
  rcases Response.deserialize_defect b with ⟨e', hd, hdes⟩ | ⟨hd, r, n, hdes⟩ <;> simp [hd, hdes]

/-- A ten-byte buffer announcing a MAC-48 address holds four of its bytes: the error expects 12
    bytes and reports the 4 found after the header. -/
example : Response.deserialize [0x00, 0x01, 0x08, 0x00, 6, 4, 1, 2, 3, 4] =
    .err (.unexpectedEnd 12 4) := by decide

/-- The decoder never panics: the index panics of the sized readers are unreachable. -/
theorem Response.deserialize_ne_panic (b : Bytes) : Response.deserialize b ≠ .panic := by
  rcases Response.deserialize_defect b with ⟨e', hd, hdes⟩ | ⟨hd, r, n, hdes⟩ <;> simp [hdes]

end Bjnp.Discover

import ScannerButton.Bjnp.Header

/-
  A BJNP packet (`bjnp/src/packet.rs`): a header and a payload. `PacketBuilder.build` fills
  the header's defaults and sets `payload_size` to `payload.size() as u32`;
  `PacketHeaderOnly.parse` decodes the header and slices the declared payload without
  decoding it, and `Packet.tryFrom` then decodes the slice with the payload's own decoder,
  discarding how many bytes that decoder consumed.

  Proved here: a built packet serializes to its header's bytes followed by the payload's
  (`serialize_build`), and `parse` of those bytes, followed by anything, gives back the
  builder's header and exactly the payload's bytes (`parse_serializeToVec_build`). A decoded
  packet keeps the declared `payload_size`, which is the length of the slice its payload was
  decoded from (`tryFrom_parse_payloadSize`); the payload decoder need not consume all of it
  (`tryFrom_parse_trailing`). An unknown packet type is reported at offset 0, where the magic
  is, and not at its own offset 4 (`parse_unknown_packetType`).

  `parse` computes `offset + payload_size` in `usize`. `parseAt` takes the width of `usize` and
  whether the build checks overflow: with 33 bits or more it is `parse` (`parseAt_wide`); with
  32 a declared size of `2^32 - 16` or more wraps the sum below 16, so a release build reports
  `UnexpectedEnd` with the wrapped sum and a debug build panics (`parseAt_of_deserialize`,
  `parseAt_wrappingHeader`). On every target the program builds for, what `parseAt` returns is
  what `parse` returns (`parseAt_eq_ok`), and it panics only in that case
  (`parseAt_eq_panic`).
-/

namespace Bjnp

/-- `Packet<T>`. -/
structure Packet (α : Type) where
  header : Header
  payload : α
  deriving DecidableEq, Repr

/-- `Serialize for Packet<T>`: the header, then the payload. -/
instance {α : Type} [Serialize α] : Serialize (Packet α) where
  serialize p := do
    let h ← Serialize.serialize p.header
    let b ← Serialize.serialize p.payload
    pure (h ++ b)
  size p := Serialize.size p.header + Serialize.size p.payload

/-- `PacketBuilder`. -/
structure PacketBuilder where
  packetType : PacketType
  payloadType : PayloadType
  error : Option UInt8
  sequence : Option UInt16
  jobId : Option NonZeroU16
  deriving DecidableEq, Repr

namespace PacketBuilder

/-- `PacketBuilder::new`. -/
def new (packetType : PacketType) (payloadType : PayloadType) : PacketBuilder :=
  ⟨packetType, payloadType, none, none, none⟩

/-- `PacketBuilder::sequence`. -/
def setSequence (b : PacketBuilder) (sequence : UInt16) : PacketBuilder :=
  { b with sequence := some sequence }

/-- The header `build` writes for a payload of `size` bytes. -/
def header (b : PacketBuilder) (size : Nat) : Header where
  packetType := b.packetType
  payloadType := b.payloadType
  error := b.error.getD 0
  sequence := b.sequence.getD 0
  jobId := b.jobId
  payloadSize := UInt32.ofNat size

/-- `PacketBuilder::build`. -/
def build {α : Type} [Serialize α] (b : PacketBuilder) (payload : α) : Packet α :=
  ⟨b.header (Serialize.size payload), payload⟩

end PacketBuilder

/-- `PacketHeaderOnly<'buf>`: a decoded header and the payload slice it declares. -/
structure PacketHeaderOnly where
  header : Header
  payload : Bytes
  deriving DecidableEq, Repr

/-- `PacketHeaderOnly::parse`. -/
def PacketHeaderOnly.parse (buffer : Bytes) : Outcome ParseError PacketHeaderOnly := do
  let (header, offset) ← (Deserialize.deserialize buffer : Outcome ParseError (Header × Nat))
  let payloadSize := header.payloadSize.toNat
  let payload ← Outcome.okOr (sliceGet buffer offset (offset + payloadSize))
    (.unexpectedEnd (offset + payloadSize) buffer.length)
  pure ⟨header, payload⟩

/-- `TryFrom<PacketHeaderOnly> for Packet<T>`. -/
def Packet.tryFrom {α : Type} [Deserialize α] (packet : PacketHeaderOnly) :
    Outcome ParseError (Packet α) := do
  let (payload, _) ← (Deserialize.deserialize packet.payload : Outcome ParseError (α × Nat))
  pure ⟨packet.header, payload⟩

/-! ## Building and framing -/

section Framing

variable {α : Type} [Serialize α]

theorem serialize_build (b : PacketBuilder) (x : α) (bytes : Bytes)
    (hx : Serialize.serialize x = .ok bytes) :
    Serialize.serialize (b.build x) =
      .ok ((RawHeader.ofHeader (b.header (Serialize.size x))).toBytes ++ bytes) := by
  simp [Serialize.serialize, PacketBuilder.build, hx]

@[simp] theorem header_payloadSize (b : PacketBuilder) (n : Nat) :
    (b.header n).payloadSize.toNat = n % 4294967296 := by
  simp [PacketBuilder.header]

/-- `parse` of a header followed by a payload of the declared size, and anything else. -/
theorem parse_toBytes_append (header : Header) (payload t : Bytes)
    (h : payload.length = header.payloadSize.toNat) :
    PacketHeaderOnly.parse ((RawHeader.ofHeader header).toBytes ++ payload ++ t) =
      .ok ⟨header, payload⟩ := by
  simp only [PacketHeaderOnly.parse, List.append_assoc, deserialize_serialize_header,
    Outcome.ok_bind]
  rw [sliceGet_eq_some (by omega) (by simp; omega)]
  simp [← h]

/-- The framing law: `parse` of a built packet's bytes, followed by anything, returns the
    builder's header and exactly the bytes the payload serializer wrote. -/
theorem parse_serializeToVec_build (b : PacketBuilder) (x : α) (bytes t : Bytes)
    (hx : Serialize.serialize x = .ok bytes) (hlen : bytes.length = Serialize.size x)
    (hsize : Serialize.size x < 4294967296) :
    ∃ v, serializeToVec (b.build x) = some v ∧
      PacketHeaderOnly.parse (v ++ t) = .ok ⟨b.header (Serialize.size x), bytes⟩ :=
  ⟨_, serializeToVec_eq (serialize_build b x bytes hx),
    parse_toBytes_append _ _ _ (by simp [hlen, Nat.mod_eq_of_lt hsize])⟩

end Framing

/-! ## Decoded packets -/

section Decoding

variable {α : Type} [Deserialize α]

/-- What `parse` returns: the decoded header, and the declared payload slice after it. -/
theorem parse_eq_ok {buffer : Bytes} {p : PacketHeaderOnly}
    (h : PacketHeaderOnly.parse buffer = .ok p) :
    (Deserialize.deserialize buffer : Outcome ParseError (Header × Nat)) = .ok (p.header, 16) ∧
      16 + p.header.payloadSize.toNat ≤ buffer.length ∧
      p.payload = (buffer.drop 16).take p.header.payloadSize.toNat := by
  obtain ⟨⟨header, n⟩, hd, h⟩ := Outcome.bind_eq_ok.mp h
  obtain ⟨rfl, -, -⟩ := sizedDeserialize_eq_ok hd
  simp only at h
  unfold sliceGet at h
  split at h
  · next hs => cases h; exact ⟨hd, hs.2, by simp [RawHeader.SIZE]⟩
  · cases h

/-- A decoded packet keeps the declared `payload_size`: it is the length of the slice the
    payload was decoded from, and the payload is what `T`'s decoder returned on that slice. -/
theorem tryFrom_parse_payloadSize {buffer : Bytes} {h : PacketHeaderOnly} {p : Packet α}
    (hp : PacketHeaderOnly.parse buffer = .ok h) (ht : Packet.tryFrom h = .ok p) :
    p.header = h.header ∧ h.payload.length = p.header.payloadSize.toNat ∧
      ∃ n, (Deserialize.deserialize h.payload : Outcome ParseError (α × Nat)) =
        .ok (p.payload, n) := by
  obtain ⟨-, hlen, hpay⟩ := parse_eq_ok hp
  obtain ⟨⟨x, n⟩, hd, ht⟩ := Outcome.bind_eq_ok.mp ht
  cases ht
  refine ⟨rfl, ?_, n, hd⟩
  simp only [hpay, List.length_take, List.length_drop]
  omega

/-- `parse` never panics: the header's conversions do not, and the payload slice is taken with
    `get`. -/
theorem PacketHeaderOnly.parse_ne_panic (buffer : Bytes) : PacketHeaderOnly.parse buffer ≠ .panic := by
  intro h
  rcases Outcome.bind_eq_panic.mp h with h | ⟨_, -, h⟩
  · exact Header.deserialize_ne_panic buffer h
  · simp [Outcome.bind_eq_panic] at h

/-- A packet whose payload decoder never panics converts without panicking. -/
theorem Packet.tryFrom_ne_panic (hα : ∀ b, (Deserialize.deserialize b : Outcome ParseError (α × Nat)) ≠ .panic)
    (packet : PacketHeaderOnly) : (Packet.tryFrom packet : Outcome ParseError (Packet α)) ≠ .panic := by
  intro h
  rcases Outcome.bind_eq_panic.mp h with h | ⟨_, -, h⟩
  · exact hα _ h
  · cases h

end Decoding

/-- An unknown packet type is reported at offset 0 of the datagram, which holds the magic's
    `B`, rather than at offset 4, which holds the byte. -/
theorem parse_unknown_packetType :
    PacketHeaderOnly.parse [0x42, 0x4A, 0x4E, 0x50, 0x00, 0x01, 0, 0, 0, 0, 0, 0, 0, 0, 0, 0] =
      .err (.invalidFormat (.invalidByte 0x00 0 "unknown packet type")) ∧
    ([0x42, 0x4A, 0x4E, 0x50, 0x00, 0x01, 0, 0, 0, 0, 0, 0, 0, 0, 0, 0] : Bytes).getD 0 0 ≠ 0x00 := by
  decide

/-! ## The payload-size law -/

/-- Built packets record `size() as u32`; a packet decoded in two phases records the declared
    `payload_size`, which is the length of the slice its payload was decoded from, whatever
    number of bytes the payload decoder consumed. -/
theorem packet_payloadSize_law {α β : Type} [Serialize α] [Deserialize β] :
    (∀ (b : PacketBuilder) (x : α),
      (b.build x).header.payloadSize.toNat = Serialize.size x % 4294967296) ∧
    (∀ (buffer : Bytes) (h : PacketHeaderOnly) (p : Packet β),
      PacketHeaderOnly.parse buffer = .ok h → Packet.tryFrom h = .ok p →
      p.header = h.header ∧ h.payload = (buffer.drop 16).take p.header.payloadSize.toNat ∧
      h.payload.length = p.header.payloadSize.toNat ∧
      ∃ n, (Deserialize.deserialize h.payload : Outcome ParseError (β × Nat)) = .ok (p.payload, n)) := by
  refine ⟨fun b x => header_payloadSize b _, fun buffer h p hp ht => ?_⟩
  obtain ⟨he, hlen, hd⟩ := tryFrom_parse_payloadSize hp ht
  exact ⟨he, he ▸ (parse_eq_ok hp).2.2, hlen, hd⟩

theorem packet_payloadSize_law_one_byte :
    PacketHeaderOnly.parse [0x42, 0x4A, 0x4E, 0x50, 0x82, 0x01, 0, 0, 0, 0, 0, 0, 0, 0, 0, 1, 0] =
      .ok ⟨⟨.scannerResponse, .discover, 0, 0, none, 1⟩, [0]⟩ ∧
    (Packet.tryFrom ⟨⟨.scannerResponse, .discover, 0, 0, none, 1⟩, [0]⟩ : Outcome _ (Packet Empty)) =
      .ok ⟨⟨.scannerResponse, .discover, 0, 0, none, 1⟩, ⟨⟩⟩ ∧
    ((⟨⟨.scannerResponse, .discover, 0, 0, none, 1⟩, ⟨⟩⟩ : Packet Empty).header =
        ⟨.scannerResponse, .discover, 0, 0, none, 1⟩ ∧
      [(0 : UInt8)] = (([0x42, 0x4A, 0x4E, 0x50, 0x82, 0x01, 0, 0, 0, 0, 0, 0, 0, 0, 0, 1, 0] :
        Bytes).drop 16).take (1 : UInt32).toNat ∧
      [(0 : UInt8)].length = (1 : UInt32).toNat ∧
      ∃ n, (Deserialize.deserialize [0] : Outcome ParseError (Empty × Nat)) = .ok (⟨⟩, n)) :=
  have h1 : PacketHeaderOnly.parse
      [0x42, 0x4A, 0x4E, 0x50, 0x82, 0x01, 0, 0, 0, 0, 0, 0, 0, 0, 0, 1, 0] =
      .ok ⟨⟨.scannerResponse, .discover, 0, 0, none, 1⟩, [0]⟩ := by decide
  ⟨h1, rfl, (@packet_payloadSize_law Empty Empty _ _).2 _ _ _ h1 rfl⟩

/-- A decoded `Packet<Empty>` whose declared payload is one byte long: its `payload_size()` is
    1 while `payload_ref().size()` is 0. -/
theorem tryFrom_parse_trailing :
    ∃ h p, PacketHeaderOnly.parse
        [0x42, 0x4A, 0x4E, 0x50, 0x82, 0x01, 0, 0, 0, 0, 0, 0, 0, 0, 0, 1, 0] = .ok h ∧
      (Packet.tryFrom h : Outcome _ (Packet Empty)) = .ok p ∧
      p.header.payloadSize.toNat ≠ Serialize.size p.payload :=
  ⟨⟨⟨.scannerResponse, .discover, 0, 0, none, 1⟩, [0]⟩,
    ⟨⟨.scannerResponse, .discover, 0, 0, none, 1⟩, ⟨⟩⟩, by decide, rfl, by decide⟩

/-! ## The width of `usize` -/

/-- `a + b` on a `usize` of `usizeBits` bits: the sum when it fits; otherwise a panic when the
    build has overflow checks (debug), and the sum modulo `2 ^ usizeBits` when it has not
    (release). -/
def usizeAdd {ε : Type} (usizeBits : Nat) (overflowChecks : Bool) (a b : Nat) : Outcome ε Nat :=
  if a + b < 2 ^ usizeBits then .ok (a + b)
  else if overflowChecks then .panic
  else .ok ((a + b) % 2 ^ usizeBits)

/-- `PacketHeaderOnly::parse` on a target whose `usize` has `usizeBits` bits, built with or
    without overflow checks. `header.payload_size as usize` keeps the low `usizeBits` bits, and
    the `offset + payload_size` of the error is the sum already computed for the slice, so
    `stop` stands for both. -/
def PacketHeaderOnly.parseAt (usizeBits : Nat) (overflowChecks : Bool) (buffer : Bytes) :
    Outcome ParseError PacketHeaderOnly := do
  let (header, offset) ← (Deserialize.deserialize buffer : Outcome ParseError (Header × Nat))
  let payloadSize := header.payloadSize.toNat % 2 ^ usizeBits
  let stop ← usizeAdd usizeBits overflowChecks offset payloadSize
  let payload ← Outcome.okOr (sliceGet buffer offset stop) (.unexpectedEnd stop buffer.length)
  pure ⟨header, payload⟩

/-- A header alone, declaring a payload of `0xFFFFFFF0` bytes. -/
def wrappingHeader : Bytes :=
  [0x42, 0x4A, 0x4E, 0x50, 0x82, 0x01, 0, 0, 0, 0, 0, 0, 0xFF, 0xFF, 0xFF, 0xF0]

/-- Where `usize` has at least 33 bits, `16 + payload_size` cannot overflow, and `parse` is
    the exact arithmetic of `PacketHeaderOnly.parse`; on 64-bit targets in particular. -/
theorem PacketHeaderOnly.parseAt_wide {usizeBits : Nat} (hbits : 33 ≤ usizeBits)
    (overflowChecks : Bool) (buffer : Bytes) :
    PacketHeaderOnly.parseAt usizeBits overflowChecks buffer = PacketHeaderOnly.parse buffer := by
  unfold parseAt parse
  rcases hd : (Deserialize.deserialize buffer : Outcome ParseError (Header × Nat)) with
    ⟨header, n⟩ | e | _
  · obtain ⟨rfl, -, -⟩ := sizedDeserialize_eq_ok hd
    have hps : header.payloadSize.toNat < 2 ^ 32 := header.payloadSize.toNat_lt_size
    have hpow : 2 ^ 33 ≤ 2 ^ usizeBits := Nat.pow_le_pow_right (by decide) hbits
    simp only [Outcome.ok_bind, Nat.mod_eq_of_lt (show header.payloadSize.toNat < 2 ^ usizeBits
      by omega), usizeAdd, if_pos (show RawHeader.SIZE + header.payloadSize.toNat < 2 ^ usizeBits
      by simp only [RawHeader.SIZE]; omega)]
  · rfl
  · rfl

theorem PacketHeaderOnly.parseAt_wide_64 :
    33 ≤ 64 ∧ PacketHeaderOnly.parseAt 64 true MAGIC = PacketHeaderOnly.parse MAGIC :=
  ⟨by decide, PacketHeaderOnly.parseAt_wide (by decide) true MAGIC⟩

/-- On a target whose `usize` has 32 bits or more, `parse` is exact while `16 + payload_size`
    fits in a `usize`. Past that the sum wraps to below 16: a build without overflow checks
    reports `UnexpectedEnd` with the wrapped sum as `expected`, and a build with them panics. -/
theorem PacketHeaderOnly.parseAt_of_deserialize {usizeBits : Nat} (hbits : 32 ≤ usizeBits)
    (overflowChecks : Bool) {buffer : Bytes} {header : Header}
    (h : (Deserialize.deserialize buffer : Outcome ParseError (Header × Nat)) = .ok (header, 16)) :
    PacketHeaderOnly.parseAt usizeBits overflowChecks buffer =
      if 16 + header.payloadSize.toNat < 2 ^ usizeBits then PacketHeaderOnly.parse buffer
      else if overflowChecks then .panic
      else .err (.unexpectedEnd (16 + header.payloadSize.toNat - 2 ^ usizeBits) buffer.length) := by
  have hps : header.payloadSize.toNat < 2 ^ 32 := header.payloadSize.toNat_lt_size
  have hpow : 2 ^ 32 ≤ 2 ^ usizeBits := Nat.pow_le_pow_right (by decide) hbits
  simp only [parseAt, parse, h, Outcome.ok_bind, Nat.mod_eq_of_lt (lt_of_lt_of_le hps hpow),
    usizeAdd]
  split_ifs with hfit
  · rfl
  · rfl
  · -- the wrapped sum is below the 16-byte offset, so the slice is refused
    have hwrap : (16 + header.payloadSize.toNat) % 2 ^ usizeBits =
        16 + header.payloadSize.toNat - 2 ^ usizeBits := by
      rw [Nat.mod_eq_sub_mod (by omega), Nat.mod_eq_of_lt (by omega)]
    rw [Outcome.ok_bind, hwrap, sliceGet, if_neg (by omega)]
    rfl

theorem PacketHeaderOnly.parseAt_of_deserialize_wrappingHeader :
    32 ≤ 32 ∧ (Deserialize.deserialize wrappingHeader : Outcome ParseError (Header × Nat)) =
        .ok (⟨.scannerResponse, .discover, 0, 0, none, 0xFFFFFFF0⟩, 16) ∧
      PacketHeaderOnly.parseAt 32 true wrappingHeader =
        if 16 + (0xFFFFFFF0 : UInt32).toNat < 2 ^ 32 then PacketHeaderOnly.parse wrappingHeader
        else if true then .panic
        else .err (.unexpectedEnd (16 + (0xFFFFFFF0 : UInt32).toNat - 2 ^ 32)
          wrappingHeader.length) :=
  have h : (Deserialize.deserialize wrappingHeader : Outcome ParseError (Header × Nat)) =
      .ok (⟨.scannerResponse, .discover, 0, 0, none, 0xFFFFFFF0⟩, 16) := by decide
  ⟨le_rfl, h, PacketHeaderOnly.parseAt_of_deserialize le_rfl true h⟩

/-- On a target of 32 bits or more, what `parse` returns is what the exact arithmetic
    returns. -/
theorem PacketHeaderOnly.parseAt_eq_ok {usizeBits : Nat} (hbits : 32 ≤ usizeBits)
    {overflowChecks : Bool} {buffer : Bytes} {p : PacketHeaderOnly}
    (h : PacketHeaderOnly.parseAt usizeBits overflowChecks buffer = .ok p) :
    PacketHeaderOnly.parse buffer = .ok p := by
  rcases hd : (Deserialize.deserialize buffer : Outcome ParseError (Header × Nat)) with
    ⟨header, n⟩ | e | _
  · obtain ⟨rfl, -, -⟩ := sizedDeserialize_eq_ok hd
    rw [parseAt_of_deserialize hbits overflowChecks hd] at h
    split_ifs at h
    exact h
  · simp [parseAt, hd] at h
  · simp [parseAt, hd] at h

/-- On a target of 32 bits or more, `parse` panics exactly in a build with overflow checks, on a
    header that decodes and declares a size whose sum with 16 does not fit in a `usize`. -/
theorem PacketHeaderOnly.parseAt_eq_panic {usizeBits : Nat} (hbits : 32 ≤ usizeBits)
    (overflowChecks : Bool) (buffer : Bytes) :
    PacketHeaderOnly.parseAt usizeBits overflowChecks buffer = .panic ↔
      overflowChecks = true ∧ ∃ header : Header,
        (Deserialize.deserialize buffer : Outcome ParseError (Header × Nat)) = .ok (header, 16) ∧
        2 ^ usizeBits ≤ 16 + header.payloadSize.toNat := by
  rcases hd : (Deserialize.deserialize buffer : Outcome ParseError (Header × Nat)) with
    ⟨header, n⟩ | e | _
  · obtain ⟨rfl, -, -⟩ := sizedDeserialize_eq_ok hd
    rw [parseAt_of_deserialize hbits overflowChecks hd]
    simp only [RawHeader.SIZE, Outcome.ok.injEq, Prod.mk.injEq, and_true, exists_eq_left']
    split_ifs with hfit hchecks
    · exact iff_of_false (parse_ne_panic buffer) fun ⟨_, hw⟩ => by omega
    · exact iff_of_true rfl ⟨hchecks, by omega⟩
    · simp [hchecks]
  · simp [parseAt, hd]
  · exact absurd hd (Header.deserialize_ne_panic buffer)

/-- On a 64-bit target `parse` of `wrappingHeader` expects `16 + 0xFFFFFFF0 = 2^32` bytes; on
    a 32-bit one the sum wraps to 0, so a release build reports `expected: 0` and a debug build
    panics. -/
theorem parseAt_wrappingHeader :
    PacketHeaderOnly.parseAt 64 false wrappingHeader = .err (.unexpectedEnd 4294967296 16) ∧
      PacketHeaderOnly.parseAt 32 false wrappingHeader = .err (.unexpectedEnd 0 16) ∧
      PacketHeaderOnly.parseAt 32 true wrappingHeader = .panic := by
  decide

end Bjnp

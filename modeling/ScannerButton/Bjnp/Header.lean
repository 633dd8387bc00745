import ScannerButton.Bjnp.Serdes

/-
  The 16-byte BJNP frame header (`bjnp/src/header.rs`). `RawHeader` is the packed wire
  layout; `RawHeader.toBytes` lays its fields out in declaration order and `RawHeader.ofBytes`
  reads them back from the front of a buffer, which is what the pointer cast of
  `deserialize_exact` does. `RawHeader.ofHeader` and `Header.tryFrom` are the `From` and
  `TryFrom` conversions the blanket codec is built from.

  Proved here: the header codec round-trips through any trailing bytes
  (`deserialize_serialize_header`); a decode error is the magic (`InvalidSlice 0..4`), or an
  unknown packet type reported at offset 0, or an unknown payload type reported at offset 5
  (`Header.tryFrom_eq_err`).
-/

namespace Bjnp

/-! ## Packet and payload types -/

/-- `PacketType`. -/
inductive PacketType where
  | printerCommand
  | scannerCommand
  | printerResponse
  | scannerResponse
  deriving DecidableEq, Repr

/-- `packet_type as u8`. -/
def PacketType.code : PacketType → UInt8
  | printerCommand => 0x01
  | scannerCommand => 0x02
  | printerResponse => 0x81
  | scannerResponse => 0x82

instance : U8Field PacketType where
  fieldName := "packet type"
  variants := [.printerCommand, .scannerCommand, .printerResponse, .scannerResponse]
  code := PacketType.code
  mem_variants v := by cases v <;> decide
  code_injective a b h := by cases a <;> cases b <;> first | rfl | exact absurd h (by decide)

/-- `PayloadType`. -/
inductive PayloadType where
  | discover
  | startScan
  | jobDetails
  | close
  | read
  | write
  | getId
  | poll
  deriving DecidableEq, Repr

/-- `payload_type as u8`. -/
def PayloadType.code : PayloadType → UInt8
  | discover => 0x01
  | startScan => 0x02
  | jobDetails => 0x10
  | close => 0x11
  | read => 0x20
  | write => 0x21
  | getId => 0x30
  | poll => 0x32

instance : U8Field PayloadType where
  fieldName := "payload type"
  variants := [.discover, .startScan, .jobDetails, .close, .read, .write, .getId, .poll]
  code := PayloadType.code
  mem_variants v := by cases v <;> decide
  code_injective a b h := by cases a <;> cases b <;> first | rfl | exact absurd h (by decide)

/-! ## The header and its raw layout -/

/-- `NonZeroU16`. -/
abbrev NonZeroU16 := {x : UInt16 // x ≠ 0}

/-- `NonZeroU16::new`. -/
def NonZeroU16.new (x : UInt16) : Option NonZeroU16 :=
  if h : x = 0 then none else some ⟨x, h⟩

/-- `NonZeroU16::new` inverts `map(NonZeroU16::get).unwrap_or(0)` (`map Subtype.val` is
    `unattach` in simp normal form). -/
@[simp] theorem NonZeroU16.new_getD (j : Option NonZeroU16) :
    NonZeroU16.new (j.unattach.getD 0) = j := by
  rcases j with _ | ⟨x, hx⟩ <;> simp [NonZeroU16.new, *]

/-- `Header`. -/
structure Header where
  packetType : PacketType
  payloadType : PayloadType
  error : UInt8
  sequence : UInt16
  jobId : Option NonZeroU16
  payloadSize : UInt32
  deriving DecidableEq, Repr

/-- `RawHeader`, `#[repr(C, packed)]`; the arrays are `[u8; 4]`, `[u8; 2]`, `[u8; 2]`,
    `[u8; 4]`. -/
structure RawHeader where
  magic : Bytes
  packetType : UInt8
  payloadType : UInt8
  error : UInt8
  unk1 : UInt8
  sequence : Bytes
  jobId : Bytes
  len : Bytes
  deriving DecidableEq, Repr

/-- `size_of::<RawHeader>()`. -/
def RawHeader.SIZE : Nat := 16

/-- `offset_of!(RawHeader, payload_type)`. -/
def RawHeader.payloadTypeOffset : Nat := 5

/-- The packed bytes of a `RawHeader`. -/
def RawHeader.toBytes (r : RawHeader) : Bytes :=
  r.magic ++ [r.packetType, r.payloadType, r.error, r.unk1] ++ r.sequence ++ r.jobId ++ r.len

/-- A `RawHeader` read from the front of a buffer. -/
def RawHeader.ofBytes (b : Bytes) : RawHeader where
  magic := b.take 4
  packetType := b.getD 4 0
  payloadType := b.getD 5 0
  error := b.getD 6 0
  unk1 := b.getD 7 0
  sequence := (b.drop 8).take 2
  jobId := (b.drop 10).take 2
  len := (b.drop 12).take 4

/-- `MAGIC`, `b"BJNP"`. -/
def MAGIC : Bytes := [0x42, 0x4A, 0x4E, 0x50]

/-- `From<&Header> for RawHeader`. -/
def RawHeader.ofHeader (header : Header) : RawHeader where
  magic := MAGIC
  packetType := U8Field.code header.packetType
  payloadType := U8Field.code header.payloadType
  error := header.error
  unk1 := 0
  sequence := u16ToBeBytes header.sequence
  jobId := u16ToBeBytes ((header.jobId.map Subtype.val).getD 0)
  len := u32ToBeBytes header.payloadSize

/-- `TryFrom<&RawHeader> for Header`. -/
def Header.tryFrom (raw : RawHeader) : Outcome FormatError Header :=
  if raw.magic ≠ MAGIC then .err (.invalidSlice 0 4 "magic bytes is not b'BJNP'")
  else do
    let packetType ← U8Field.tryFrom raw.packetType
    let payloadType ← (U8Field.tryFrom raw.payloadType).offsetBy RawHeader.payloadTypeOffset
    let sequence := u16FromBeBytes raw.sequence
    let jobId := NonZeroU16.new (u16FromBeBytes raw.jobId)
    let len := u32FromBeBytes raw.len
    pure { packetType, payloadType, error := raw.error, sequence, jobId, payloadSize := len }

instance : Serialize Header where
  serialize header := .ok (RawHeader.ofHeader header).toBytes
  size _ := RawHeader.SIZE

instance : Deserialize Header where
  deserialize := sizedDeserialize RawHeader.SIZE fun b => Header.tryFrom (RawHeader.ofBytes b)

/-! ## Round trip -/

theorem serialize_header (header : Header) :
    Serialize.serialize header = .ok (RawHeader.ofHeader header).toBytes := rfl

@[simp] theorem size_header (header : Header) : Serialize.size header = 16 := rfl

@[simp] theorem toBytes_ofHeader_length (header : Header) :
    (RawHeader.ofHeader header).toBytes.length = 16 := rfl

theorem RawHeader.ofBytes_toBytes_append (header : Header) (t : Bytes) :
    RawHeader.ofBytes ((RawHeader.ofHeader header).toBytes ++ t) = RawHeader.ofHeader header := by
  simp [RawHeader.ofBytes, RawHeader.ofHeader, RawHeader.toBytes, MAGIC, u16ToBeBytes,
    u32ToBeBytes]

@[simp] theorem Header.tryFrom_ofHeader (header : Header) :
    Header.tryFrom (RawHeader.ofHeader header) = .ok header := by
  simp [Header.tryFrom, RawHeader.ofHeader]

/-- The header decoder reads back what the encoder wrote, whatever follows it. -/
theorem deserialize_serialize_header (header : Header) (t : Bytes) :
    (Deserialize.deserialize ((RawHeader.ofHeader header).toBytes ++ t) :
      Outcome ParseError (Header × Nat)) = .ok (header, 16) := by
  show sizedDeserialize 16 _ _ = _
  rw [sizedDeserialize_long (by simp), RawHeader.ofBytes_toBytes_append, Header.tryFrom_ofHeader]
  rfl

/-! ## Decode errors -/

/-- The only `InvalidByte` errors of the header conversion: an unknown packet type at
    offset 0, or an unknown payload type at offset 5. -/
theorem Header.tryFrom_eq_err {raw : RawHeader} {e : FormatError}
    (h : Header.tryFrom raw = .err e) :
    e = .invalidSlice 0 4 "magic bytes is not b'BJNP'" ∨
      (∃ message, e = .invalidByte raw.packetType 0 message) ∨
      (∃ message, e = .invalidByte raw.payloadType 5 message) := by
  unfold Header.tryFrom at h
  split at h
  · cases h; exact .inl rfl
  · rcases Outcome.bind_eq_err.mp h with h1 | ⟨_, -, h2⟩
    · exact .inr (.inl (U8Field.tryFrom_eq_err h1))
    · rcases Outcome.bind_eq_err.mp h2 with h3 | ⟨_, -, h4⟩
      · rcases hp : (U8Field.tryFrom raw.payloadType : Outcome _ PayloadType) with _ | e' | _ <;>
          simp [hp, Outcome.offsetBy] at h3
        obtain ⟨m, rfl⟩ := U8Field.tryFrom_eq_err hp
        exact .inr (.inr ⟨m, by rw [← h3]; rfl⟩)
      · cases h4

theorem Header.tryFrom_ne_panic (raw : RawHeader) : Header.tryFrom raw ≠ .panic := by
  unfold Header.tryFrom
  split
  · simp
  · intro h
    rcases Outcome.bind_eq_panic.mp h with h1 | ⟨_, -, h2⟩
    · exact U8Field.tryFrom_ne_panic _ h1
    · rcases Outcome.bind_eq_panic.mp h2 with h3 | ⟨_, -, h4⟩
      · rcases hp : (U8Field.tryFrom raw.payloadType : Outcome _ PayloadType) with _ | _ | _ <;>
          simp [hp, Outcome.offsetBy] at h3
        exact U8Field.tryFrom_ne_panic _ hp
      · cases h4

theorem Header.deserialize_ne_panic (buffer : Bytes) :
    (Deserialize.deserialize buffer : Outcome ParseError (Header × Nat)) ≠ .panic :=
  sizedDeserialize_ne_panic fun _ => Header.tryFrom_ne_panic _

end Bjnp

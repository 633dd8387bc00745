import ScannerButton.Bjnp.Serdes

/-
  The response to a poll command (`bjnp/src/poll/response.rs`): a big-endian status, a
  session id, `00 00 00 14`, an action id, and a 20-byte interrupt descriptor. When bit
  `0x00008000` of the status is set, the response is an interrupt: it has an action id and a
  decoded descriptor and no session id; otherwise it has a session id only. The descriptor's
  fields are `make_u8_field!` enumerations; the feeder type and orientation are absent when
  their byte is 0.

  The interrupt's decode errors are those of the field conversions, at offset 0, and the
  response's conversion passes them on unchanged: the decoder fails exactly with the first
  byte it refuses in its order of conversion, the two feeder bytes before the others, reported
  at offset 0 wherever it sits in the buffer (`Response.deserialize_eq_err_iff_defect`).

  Proved here: the two kinds of response (`Response.tryFrom_interrupt`,
  `Response.tryFrom_session`, and together `Response.tryFrom_ok`), and that an interrupt's
  encoder is inverted by its decoder (`Interrupt.deserialize_serialize`). The decoder follows
  the field table: which buffers it accepts (`Interrupt.exists_tryFrom_eq_ok`,
  `Response.exists_tryFrom_eq_ok`) and what it reads from each byte
  (`Interrupt.tryFrom_eq_ok`), at the offsets of the buffer (`deserialize_response_fields`).
-/

namespace Bjnp.Poll

/-! ## Descriptor fields -/

/-- `ColorMode`. -/
inductive ColorMode where
  | color
  | mono
  deriving DecidableEq, Repr

/-- `Size`. -/
inductive Size where
  | a4
  | letter
  | size10x15
  | size13x18
  | auto
  deriving DecidableEq, Repr

/-- `Format`. -/
inductive Format where
  | jpeg
  | tiff
  | pdf
  | kompaktPdf
  deriving DecidableEq, Repr

/-- `DPI`. -/
inductive DPI where
  | dpi75
  | dpi150
  | dpi300
  | dpi600
  deriving DecidableEq, Repr

/-- `Source`. -/
inductive Source where
  | flatbed
  | autoDocumentFeeder
  deriving DecidableEq, Repr

/-- `FeederType`. -/
inductive FeederType where
  | simplex
  | duplex
  deriving DecidableEq, Repr

/-- `FeederOrientation`. -/
inductive FeederOrientation where
  | portrait
  | landscape
  deriving DecidableEq, Repr

instance : U8Field ColorMode where
  fieldName := "color mode"
  variants := [.color, .mono]
  code | .color => 0x01 | .mono => 0x02
  mem_variants v := by cases v <;> decide
  code_injective a b h := by cases a <;> cases b <;> first | rfl | exact absurd h (by decide)

instance : U8Field Size where
  fieldName := "page size"
  variants := [.a4, .letter, .size10x15, .size13x18, .auto]
  code | .a4 => 0x01 | .letter => 0x02 | .size10x15 => 0x08 | .size13x18 => 0x09 | .auto => 0x0b
  mem_variants v := by cases v <;> decide
  code_injective a b h := by cases a <;> cases b <;> first | rfl | exact absurd h (by decide)

instance : U8Field Format where
  fieldName := "format"
  variants := [.jpeg, .tiff, .pdf, .kompaktPdf]
  code | .jpeg => 0x01 | .tiff => 0x02 | .pdf => 0x03 | .kompaktPdf => 0x04
  mem_variants v := by cases v <;> decide
  code_injective a b h := by cases a <;> cases b <;> first | rfl | exact absurd h (by decide)

instance : U8Field DPI where
  fieldName := "DPI"
  variants := [.dpi75, .dpi150, .dpi300, .dpi600]
  code | .dpi75 => 0x01 | .dpi150 => 0x02 | .dpi300 => 0x03 | .dpi600 => 0x04
  mem_variants v := by cases v <;> decide
  code_injective a b h := by cases a <;> cases b <;> first | rfl | exact absurd h (by decide)

instance : U8Field Source where
  fieldName := "source"
  variants := [.flatbed, .autoDocumentFeeder]
  code | .flatbed => 0x01 | .autoDocumentFeeder => 0x02
  mem_variants v := by cases v <;> decide
  code_injective a b h := by cases a <;> cases b <;> first | rfl | exact absurd h (by decide)

instance : U8Field FeederType where
  fieldName := "feeder type"
  variants := [.simplex, .duplex]
  code | .simplex => 0x01 | .duplex => 0x02
  mem_variants v := by cases v <;> decide
  code_injective a b h := by cases a <;> cases b <;> first | rfl | exact absurd h (by decide)

instance : U8Field FeederOrientation where
  fieldName := "feeder orientation"
  variants := [.portrait, .landscape]
  code | .portrait => 0x01 | .landscape => 0x02
  mem_variants v := by cases v <;> decide
  code_injective a b h := by cases a <;> cases b <;> first | rfl | exact absurd h (by decide)

/-! ## The interrupt descriptor -/

/-- `Interrupt`. -/
structure Interrupt where
  colorMode : ColorMode
  size : Size
  format : Format
  dpi : DPI
  source : Source
  feederType : Option FeederType
  feederOrientation : Option FeederOrientation
  deriving DecidableEq, Repr

/-- `RawInterrupt`, `#[repr(C, packed)]`: `unk_1: [u8; 7]`, the seven field bytes at 7, 8, 9,
    10, 11, 12 and 16, `unk_4: [u8; 3]`, `unk_5: [u8; 3]`. -/
structure RawInterrupt where
  unk1 : Bytes
  colorMode : UInt8
  source : UInt8
  feederType : UInt8
  size : UInt8
  format : UInt8
  dpi : UInt8
  unk4 : Bytes
  feederOrientation : UInt8
  unk5 : Bytes
  deriving DecidableEq, Repr

/-- `size_of::<RawInterrupt>()`. -/
def RawInterrupt.SIZE : Nat := 20

/-- The packed bytes of a `RawInterrupt`. -/
def RawInterrupt.toBytes (r : RawInterrupt) : Bytes :=
  r.unk1 ++ [r.colorMode, r.source, r.feederType, r.size, r.format, r.dpi] ++ r.unk4 ++
    [r.feederOrientation] ++ r.unk5

/-- A `RawInterrupt` read from the front of a buffer. -/
def RawInterrupt.ofBytes (b : Bytes) : RawInterrupt where
  unk1 := b.take 7
  colorMode := b.getD 7 0
  source := b.getD 8 0
  feederType := b.getD 9 0
  size := b.getD 10 0
  format := b.getD 11 0
  dpi := b.getD 12 0
  unk4 := (b.drop 13).take 3
  feederOrientation := b.getD 16 0
  unk5 := (b.drop 17).take 3

/-- `From<&Interrupt> for RawInterrupt`: an absent feeder field is written as 0. -/
def RawInterrupt.ofInterrupt (interrupt : Interrupt) : RawInterrupt where
  unk1 := List.replicate 7 0
  colorMode := U8Field.code interrupt.colorMode
  source := U8Field.code interrupt.source
  feederType := (interrupt.feederType.map U8Field.code).getD 0
  size := U8Field.code interrupt.size
  format := U8Field.code interrupt.format
  dpi := U8Field.code interrupt.dpi
  unk4 := List.replicate 3 0
  feederOrientation := (interrupt.feederOrientation.map U8Field.code).getD 0
  unk5 := List.replicate 3 0

/-- An optional field: absent when its byte is 0, otherwise decoded. -/
def optionalField {α : Type} [U8Field α] (value : UInt8) : Outcome FormatError (Option α) :=
  if value ≠ 0 then (U8Field.tryFrom value).map some else .ok none

/-- `TryFrom<&RawInterrupt> for Interrupt`, its fields in the order the source converts
    them. -/
def Interrupt.tryFrom (raw : RawInterrupt) : Outcome FormatError Interrupt := do
  let feederType ← optionalField raw.feederType
  let feederOrientation ← optionalField raw.feederOrientation
  let colorMode ← U8Field.tryFrom raw.colorMode
  let source ← U8Field.tryFrom raw.source
  let size ← U8Field.tryFrom raw.size
  let format ← U8Field.tryFrom raw.format
  let dpi ← U8Field.tryFrom raw.dpi
  pure ⟨colorMode, size, format, dpi, source, feederType, feederOrientation⟩

instance : Serialize Interrupt :=
  ⟨fun i => .ok (RawInterrupt.ofInterrupt i).toBytes, fun _ => RawInterrupt.SIZE⟩

instance : Deserialize Interrupt :=
  ⟨sizedDeserialize RawInterrupt.SIZE fun b => Interrupt.tryFrom (RawInterrupt.ofBytes b)⟩

/-! ## The response -/

/-- `poll::Response`. -/
structure Response where
  status : UInt32
  sessionId : Option UInt32
  actionId : Option UInt32
  interrupt : Option Interrupt
  deriving DecidableEq, Repr

/-- `RawResponse`, `#[repr(C, packed)]`: `status`, `session_id`, `unk_1`, `action_id`, each
    `[u8; 4]`, then the `RawInterrupt`. -/
structure RawResponse where
  status : Bytes
  sessionId : Bytes
  unk1 : Bytes
  actionId : Bytes
  interrupt : RawInterrupt
  deriving DecidableEq, Repr

/-- `size_of::<RawResponse>()`. -/
def RawResponse.SIZE : Nat := 36

/-- A `RawResponse` read from the front of a buffer. -/
def RawResponse.ofBytes (b : Bytes) : RawResponse :=
  ⟨b.take 4, (b.drop 4).take 4, (b.drop 8).take 4, (b.drop 12).take 4,
    RawInterrupt.ofBytes (b.drop 16)⟩

/-- `TryFrom<&RawResponse> for Response`: an interrupt when bit `0x00008000` of the status is
    set. -/
def Response.tryFrom (raw : RawResponse) : Outcome FormatError Response :=
  let status := u32FromBeBytes raw.status
  if status &&& 0x00008000 ≠ 0 then do
    let actionId := u32FromBeBytes raw.actionId
    let interrupt ← Interrupt.tryFrom raw.interrupt
    pure ⟨status, none, some actionId, some interrupt⟩
  else
    let sessionId := u32FromBeBytes raw.sessionId
    .ok ⟨status, some sessionId, none, none⟩

instance : Deserialize Response :=
  ⟨sizedDeserialize RawResponse.SIZE fun b => Response.tryFrom (RawResponse.ofBytes b)⟩

/-! ## The two kinds of response -/

theorem Response.tryFrom_interrupt {raw : RawResponse} {r : Response}
    (h : Response.tryFrom raw = .ok r) (hbit : u32FromBeBytes raw.status &&& 0x00008000 ≠ 0) :
    r.status = u32FromBeBytes raw.status ∧ r.sessionId = none ∧
      r.actionId = some (u32FromBeBytes raw.actionId) ∧
      ∃ i, Interrupt.tryFrom raw.interrupt = .ok i ∧ r.interrupt = some i := by
  unfold Response.tryFrom at h
  rw [if_pos hbit] at h
  obtain ⟨i, hi, h⟩ := Outcome.bind_eq_ok.mp h
  cases h
  exact ⟨rfl, rfl, rfl, i, hi, rfl⟩

theorem Response.tryFrom_session {raw : RawResponse} {r : Response}
    (h : Response.tryFrom raw = .ok r) (hbit : u32FromBeBytes raw.status &&& 0x00008000 = 0) :
    r = ⟨u32FromBeBytes raw.status, some (u32FromBeBytes raw.sessionId), none, none⟩ := by
  unfold Response.tryFrom at h
  rw [if_neg (not_not.mpr hbit)] at h
  cases h
  rfl

/-- A response as the decoder returns them: an interrupt, with an action id and a descriptor,
    exactly when bit `0x8000` of its status is set, and otherwise a session id. -/
def Response.Classified (r : Response) : Prop :=
  (r.status &&& 0x00008000 ≠ 0 ∧ r.sessionId = none ∧ r.actionId.isSome ∧ r.interrupt.isSome) ∨
    (r.status &&& 0x00008000 = 0 ∧ r.sessionId.isSome ∧ r.actionId = none ∧ r.interrupt = none)

/-- Every decoded response is classified by bit `0x8000` of its status. -/
theorem Response.tryFrom_ok {raw : RawResponse} {r : Response} (h : Response.tryFrom raw = .ok r) :
    r.Classified := by
  by_cases hbit : u32FromBeBytes raw.status &&& 0x00008000 = 0
  · obtain rfl := Response.tryFrom_session h hbit
    exact .inr ⟨hbit, rfl, rfl, rfl⟩
  · obtain ⟨hs, hn, ha, i, -, hi⟩ := Response.tryFrom_interrupt h hbit
    exact .inl ⟨hs ▸ hbit, hn, by simp [ha], by simp [hi]⟩

/-- What `Deserialize for Response` returns is classified. -/
theorem Response.deserialize_classified {buffer : Bytes} {r : Response} {n : Nat}
    (h : (Deserialize.deserialize buffer : Outcome ParseError (Response × Nat)) = .ok (r, n)) :
    r.Classified :=
  Response.tryFrom_ok (sizedDeserialize_eq_ok h).2.2

/-- A decoded response of status `0x8000` is an interrupt, with an action id. -/
theorem Response.Classified.interrupt_of_status {r : Response} (h : r.Classified)
    (hs : r.status = 0x8000) : ∃ i a, r.interrupt = some i ∧ r.actionId = some a := by
  rcases h with ⟨-, -, ha, hi⟩ | ⟨hbit, -⟩
  · exact ⟨_, _, (Option.some_get hi).symm, (Option.some_get ha).symm⟩
  · rw [hs] at hbit
    exact absurd hbit (by decide)

/-! ## The interrupt codec -/

theorem optionalField_code {α : Type} [U8Field α] (v : Option α)
    (hz : ∀ a : α, U8Field.code a ≠ 0) :
    optionalField ((v.map U8Field.code).getD 0) = .ok v := by
  cases v with
  | none => simp [optionalField]
  | some a => simp [optionalField, hz a]

@[simp] theorem Interrupt.tryFrom_ofInterrupt (i : Interrupt) :
    Interrupt.tryFrom (RawInterrupt.ofInterrupt i) = .ok i := by
  simp only [Interrupt.tryFrom, RawInterrupt.ofInterrupt,
    optionalField_code i.feederType (by intro a; cases a <;> decide),
    optionalField_code i.feederOrientation (by intro a; cases a <;> decide),
    U8Field.tryFrom_code, Outcome.ok_bind]
  rfl

/-- An interrupt's decoder inverts its encoder, whatever follows. -/
theorem Interrupt.deserialize_serialize (i : Interrupt) (t : Bytes) :
    (Deserialize.deserialize ((RawInterrupt.ofInterrupt i).toBytes ++ t) :
      Outcome ParseError (Interrupt × Nat)) = .ok (i, 20) := by
  show sizedDeserialize 20 _ _ = _
  rw [sizedDeserialize_long (by simp [RawInterrupt.toBytes, RawInterrupt.ofInterrupt])]
  have hraw : RawInterrupt.ofBytes ((RawInterrupt.ofInterrupt i).toBytes ++ t) =
      RawInterrupt.ofInterrupt i := by
    simp [RawInterrupt.ofBytes, RawInterrupt.toBytes, RawInterrupt.ofInterrupt]
  rw [hraw, Interrupt.tryFrom_ofInterrupt]
  rfl

/-! ## The field table -/

theorem optionalField_eq_ok {α : Type} [U8Field α] {value : UInt8} {o : Option α}
    (h : optionalField value = .ok o) : (o.map U8Field.code).getD 0 = value := by
  unfold optionalField at h
  split_ifs at h with hv
  · obtain ⟨v, hv', rfl⟩ := Outcome.map_eq_ok.mp h
    simpa using U8Field.tryFrom_eq_ok hv'
  · cases h
    simp [not_not.mp hv]

theorem exists_optionalField_eq_ok {α : Type} [U8Field α] (value : UInt8) :
    (∃ o : Option α, optionalField value = .ok o) ↔ value = 0 ∨ ∃ v : α, U8Field.code v = value := by
  by_cases hv : value = 0
  · simp [optionalField, hv]
  · simp [optionalField, hv, Option.exists, ← U8Field.exists_tryFrom_eq_ok]

/-- An optional field whose variants all have non-zero codes is absent exactly when its byte
    is 0. -/
theorem eq_none_iff_of_getD {α : Type} [U8Field α] {o : Option α} {value : UInt8}
    (h : (o.map U8Field.code).getD 0 = value) (hz : ∀ a : α, U8Field.code a ≠ 0) :
    o = none ↔ value = 0 := by
  subst h
  cases o <;> simp [hz]

/-- The descriptor decodes exactly when each of its five required bytes is a defined code and
    each feeder byte is 0 or a defined code. -/
theorem Interrupt.exists_tryFrom_eq_ok (raw : RawInterrupt) :
    (∃ i, Interrupt.tryFrom raw = .ok i) ↔
      (raw.feederType = 0 ∨ ∃ v : FeederType, U8Field.code v = raw.feederType) ∧
      (raw.feederOrientation = 0 ∨ ∃ v : FeederOrientation, U8Field.code v = raw.feederOrientation) ∧
      (∃ v : ColorMode, U8Field.code v = raw.colorMode) ∧ (∃ v : Source, U8Field.code v = raw.source) ∧
      (∃ v : Size, U8Field.code v = raw.size) ∧ (∃ v : Format, U8Field.code v = raw.format) ∧
      (∃ v : DPI, U8Field.code v = raw.dpi) := by
  simp only [Interrupt.tryFrom, Outcome.exists_bind_eq_ok, Outcome.pure_eq, Outcome.ok.injEq,
    exists_eq', and_true, exists_and_right, exists_optionalField_eq_ok, U8Field.exists_tryFrom_eq_ok]

/-- A decoded descriptor holds the variants whose codes are its bytes; an absent feeder field
    stands for a 0 byte. -/
theorem Interrupt.tryFrom_eq_ok {raw : RawInterrupt} {i : Interrupt}
    (h : Interrupt.tryFrom raw = .ok i) :
    U8Field.code i.colorMode = raw.colorMode ∧ U8Field.code i.source = raw.source ∧
      U8Field.code i.size = raw.size ∧ U8Field.code i.format = raw.format ∧
      U8Field.code i.dpi = raw.dpi ∧ (i.feederType.map U8Field.code).getD 0 = raw.feederType ∧
      (i.feederOrientation.map U8Field.code).getD 0 = raw.feederOrientation := by
  simp only [Interrupt.tryFrom, Outcome.bind_eq_ok] at h
  obtain ⟨ft, hft, fo, hfo, c, hc, s, hs, z, hz, f, hf, d, hd, h⟩ := h
  cases h
  exact ⟨U8Field.tryFrom_eq_ok hc, U8Field.tryFrom_eq_ok hs, U8Field.tryFrom_eq_ok hz,
    U8Field.tryFrom_eq_ok hf, U8Field.tryFrom_eq_ok hd, optionalField_eq_ok hft,
    optionalField_eq_ok hfo⟩

theorem Response.exists_tryFrom_eq_ok (raw : RawResponse) :
    (∃ r, Response.tryFrom raw = .ok r) ↔ u32FromBeBytes raw.status &&& 0x00008000 = 0 ∨
      (u32FromBeBytes raw.status &&& 0x00008000 ≠ 0 ∧ ∃ i, Interrupt.tryFrom raw.interrupt = .ok i) := by
  unfold Response.tryFrom
  by_cases hbit : u32FromBeBytes raw.status &&& 0x00008000 = 0
  · simp [hbit]
  · simp [hbit, Outcome.exists_bind_eq_ok]

theorem optionalField_ne_panic {α : Type} [U8Field α] (value : UInt8) :
    (optionalField value : Outcome FormatError (Option α)) ≠ .panic := by
  unfold optionalField
  split
  · simp [U8Field.tryFrom_ne_panic]
  · nofun

theorem Interrupt.tryFrom_ne_panic (raw : RawInterrupt) : Interrupt.tryFrom raw ≠ .panic := by
  simp [Interrupt.tryFrom, Outcome.bind_eq_panic, optionalField_ne_panic, U8Field.tryFrom_ne_panic]

/-- The poll response decoder never panics: every conversion it makes reports an unknown byte
    as an error. -/
theorem Response.deserialize_ne_panic (buffer : Bytes) :
    (Deserialize.deserialize buffer : Outcome ParseError (Response × Nat)) ≠ .panic := by
  refine sizedDeserialize_ne_panic fun b => ?_
  unfold Response.tryFrom
  dsimp only
  split
  · simp [Outcome.bind_eq_panic, Interrupt.tryFrom_ne_panic]
  · nofun

theorem getD_drop (b : Bytes) (n m : Nat) : (b.drop n).getD m 0 = b.getD (n + m) 0 := by
  simp [List.getD_eq_getElem?_getD]

/-- The descriptor of a response buffer, field by field, at its offsets in the buffer. -/
theorem RawResponse.ofBytes_interrupt (b : Bytes) :
    (RawResponse.ofBytes b).interrupt.colorMode = b.getD 23 0 ∧
      (RawResponse.ofBytes b).interrupt.source = b.getD 24 0 ∧
      (RawResponse.ofBytes b).interrupt.feederType = b.getD 25 0 ∧
      (RawResponse.ofBytes b).interrupt.size = b.getD 26 0 ∧
      (RawResponse.ofBytes b).interrupt.format = b.getD 27 0 ∧
      (RawResponse.ofBytes b).interrupt.dpi = b.getD 28 0 ∧
      (RawResponse.ofBytes b).interrupt.feederOrientation = b.getD 32 0 := by
  simp [RawResponse.ofBytes, RawInterrupt.ofBytes, getD_drop]

/-- The poll response decoder follows its field table. On a buffer of at least 36 bytes it
    succeeds, consuming 36 bytes, exactly when bit `0x8000` of the status is clear, or set with
    a defined code in each required descriptor byte and 0 or a defined code in each feeder
    byte. What it returns holds the status and the session id, or the action id and the
    descriptor's fields, an absent feeder field standing for a 0 byte. The interrupt encoder's
    bytes decode back to the interrupt. -/
theorem deserialize_response_fields :
    (∀ b : Bytes, 36 ≤ b.length →
      ((∃ r, (Deserialize.deserialize b : Outcome ParseError (Response × Nat)) = .ok (r, 36)) ↔
        u32FromBeBytes (b.take 4) &&& 0x00008000 = 0 ∨
        (u32FromBeBytes (b.take 4) &&& 0x00008000 ≠ 0 ∧
          (∃ v : ColorMode, U8Field.code v = b.getD 23 0) ∧
          (∃ v : Source, U8Field.code v = b.getD 24 0) ∧
          (∃ v : Size, U8Field.code v = b.getD 26 0) ∧
          (∃ v : Format, U8Field.code v = b.getD 27 0) ∧
          (∃ v : DPI, U8Field.code v = b.getD 28 0) ∧
          (b.getD 25 0 = 0 ∨ ∃ v : FeederType, U8Field.code v = b.getD 25 0) ∧
          (b.getD 32 0 = 0 ∨ ∃ v : FeederOrientation, U8Field.code v = b.getD 32 0)))) ∧
    (∀ (b : Bytes) (r : Response) (n : Nat),
      (Deserialize.deserialize b : Outcome ParseError (Response × Nat)) = .ok (r, n) →
      n = 36 ∧ r.status = u32FromBeBytes (b.take 4) ∧
      ((r.status &&& 0x00008000 = 0 ∧ r.sessionId = some (u32FromBeBytes ((b.drop 4).take 4)) ∧
          r.actionId = none ∧ r.interrupt = none) ∨
        (r.status &&& 0x00008000 ≠ 0 ∧ r.sessionId = none ∧
          r.actionId = some (u32FromBeBytes ((b.drop 12).take 4)) ∧
          ∃ i, r.interrupt = some i ∧ U8Field.code i.colorMode = b.getD 23 0 ∧
            U8Field.code i.source = b.getD 24 0 ∧ U8Field.code i.size = b.getD 26 0 ∧
            U8Field.code i.format = b.getD 27 0 ∧ U8Field.code i.dpi = b.getD 28 0 ∧
            (i.feederType.map U8Field.code).getD 0 = b.getD 25 0 ∧
            (i.feederType = none ↔ b.getD 25 0 = 0) ∧
            (i.feederOrientation.map U8Field.code).getD 0 = b.getD 32 0 ∧
            (i.feederOrientation = none ↔ b.getD 32 0 = 0)))) ∧
    (∀ i : Interrupt, ∃ bytes, serializeToVec i = some bytes ∧
      (Deserialize.deserialize bytes : Outcome ParseError (Interrupt × Nat)) = .ok (i, 20)) := by
  refine ⟨fun b hlen => ?_, fun b r n h => ?_, fun i => ⟨_, rfl, by
    simpa using Interrupt.deserialize_serialize i []⟩⟩
  · obtain ⟨h1, h2, h3, h4, h5, h6, h7⟩ := RawResponse.ofBytes_interrupt b
    have hd : (Deserialize.deserialize b : Outcome ParseError (Response × Nat)) =
        (Response.tryFrom (RawResponse.ofBytes b)).mapErr .invalidFormat >>= fun v => pure (v, 36) :=
      sizedDeserialize_long hlen
    rw [hd]
    simp only [Outcome.bind_eq_ok, Outcome.mapErr_eq_ok, Outcome.pure_eq, Outcome.ok.injEq,
      Prod.mk.injEq, and_true, exists_eq_right]
    rw [Response.exists_tryFrom_eq_ok, Interrupt.exists_tryFrom_eq_ok, h1, h2, h3, h4, h5, h6, h7]
    exact or_congr Iff.rfl (and_congr_right fun _ =>
      ⟨fun ⟨ft, fo, c, s, z, f, d⟩ => ⟨c, s, z, f, d, ft, fo⟩,
        fun ⟨c, s, z, f, d, ft, fo⟩ => ⟨ft, fo, c, s, z, f, d⟩⟩)
  · obtain ⟨rfl, -, hr⟩ := sizedDeserialize_eq_ok h
    refine ⟨rfl, ?_⟩
    by_cases hbit : u32FromBeBytes (RawResponse.ofBytes b).status &&& 0x00008000 = 0
    · obtain rfl := Response.tryFrom_session hr hbit
      exact ⟨rfl, .inl ⟨hbit, rfl, rfl, rfl⟩⟩
    · obtain ⟨hs, hn, ha, i, hi, hri⟩ := Response.tryFrom_interrupt hr hbit
      obtain ⟨h1, h2, h3, h4, h5, h6, h7⟩ := RawResponse.ofBytes_interrupt b
      obtain ⟨c1, c2, c3, c4, c5, c6, c7⟩ := Interrupt.tryFrom_eq_ok hi
      refine ⟨hs, .inr ⟨hs ▸ hbit, hn, ha, i, hri, c1.trans h1, c2.trans h2, c3.trans h4,
        c4.trans h5, c5.trans h6, c6.trans h3,
        eq_none_iff_of_getD (c6.trans h3) (by intro a; cases a <;> decide), c7.trans h7,
        eq_none_iff_of_getD (c7.trans h7) (by intro a; cases a <;> decide)⟩⟩

/-! ## Errors -/

theorem optionalField_of_isCode_false {α : Type} [U8Field α] {value : UInt8} (h0 : value ≠ 0)
    (h : U8Field.isCode α value = false) :
    (optionalField value : Outcome FormatError (Option α)) =
      .err (.invalidByte value 0 ("unknown " ++ @U8Field.fieldName α _)) := by
  rw [optionalField, if_pos h0, U8Field.tryFrom_of_isCode_false h]
  rfl

theorem exists_optionalField_of_not {α : Type} [U8Field α] {value : UInt8}
    (h : ¬(value ≠ 0 ∧ U8Field.isCode α value = false)) :
    ∃ o : Option α, optionalField value = .ok o := by
  refine (exists_optionalField_eq_ok value).mpr ?_
  by_cases h0 : value = 0
  · exact .inl h0
  · exact .inr (U8Field.isCode_iff.mp (Bool.not_eq_false _ ▸ fun hc => h ⟨h0, hc⟩))

theorem exists_tryFrom_of_not {α : Type} [U8Field α] {value : UInt8}
    (h : ¬U8Field.isCode α value = false) : ∃ v : α, U8Field.tryFrom value = .ok v :=
  (U8Field.exists_tryFrom_eq_ok value).mpr (U8Field.isCode_iff.mp (Bool.not_eq_false _ ▸ h))

/-- The first defect of a poll response buffer, in the order the decoder checks: a buffer
    shorter than the 36-byte record, or, when bit `0x8000` of the status is set, the first
    descriptor byte `TryFrom<&RawInterrupt>` refuses. It converts the feeder type (byte 25)
    and orientation (byte 32) first, each 0 or a code, then the colour mode (23), source (24),
    size (26), format (27) and dpi (28). Each is reported as itself at offset 0, not at its
    offset in the buffer. -/
def Response.defect (b : Bytes) : Option ParseError :=
  let unknown (offset : Nat) (message : String) : Option ParseError :=
    some (.invalidFormat (.invalidByte (b.getD offset 0) 0 message))
  if b.length < 36 then some (.unexpectedEnd 36 b.length)
  else if u32FromBeBytes (b.take 4) &&& 0x00008000 = 0 then none
  else if b.getD 25 0 ≠ 0 ∧ U8Field.isCode FeederType (b.getD 25 0) = false then
    unknown 25 "unknown feeder type"
  else if b.getD 32 0 ≠ 0 ∧ U8Field.isCode FeederOrientation (b.getD 32 0) = false then
    unknown 32 "unknown feeder orientation"
  else if U8Field.isCode ColorMode (b.getD 23 0) = false then unknown 23 "unknown color mode"
  else if U8Field.isCode Source (b.getD 24 0) = false then unknown 24 "unknown source"
  else if U8Field.isCode Size (b.getD 26 0) = false then unknown 26 "unknown page size"
  else if U8Field.isCode Format (b.getD 27 0) = false then unknown 27 "unknown format"
  else if U8Field.isCode DPI (b.getD 28 0) = false then unknown 28 "unknown DPI"
  else none

/-- The decoder returns its first defect as the error, or decodes the 36-byte record. -/
theorem Response.deserialize_defect (b : Bytes) :
    (∃ e, Response.defect b = some e ∧
      (Deserialize.deserialize b : Outcome ParseError (Response × Nat)) = .err e) ∨
    (Response.defect b = none ∧
      ∃ r, (Deserialize.deserialize b : Outcome ParseError (Response × Nat)) = .ok (r, 36)) := by
  by_cases hlen : b.length < 36
  · exact .inl ⟨_, if_pos hlen, sizedDeserialize_short hlen⟩
  have hd : (Deserialize.deserialize b : Outcome ParseError (Response × Nat)) =
      (Response.tryFrom (RawResponse.ofBytes b)).mapErr .invalidFormat >>= fun v => pure (v, 36) :=
    sizedDeserialize_long (Nat.not_lt.mp hlen)
  unfold Response.defect
  rw [if_neg hlen, hd]
  have hstatus : (RawResponse.ofBytes b).status = b.take 4 := rfl
  by_cases hbit : u32FromBeBytes (b.take 4) &&& 0x00008000 = 0
  · refine .inr ⟨if_pos hbit, ⟨u32FromBeBytes (b.take 4),
      some (u32FromBeBytes (RawResponse.ofBytes b).sessionId), none, none⟩, ?_⟩
    simp only [Response.tryFrom, hstatus, if_neg (not_not.mpr hbit)]
    rfl
  rw [if_neg hbit]
  simp only [Response.tryFrom, hstatus, if_pos hbit]
  obtain ⟨hc, hs, hft, hz, hf, hdpi, hfo⟩ := RawResponse.ofBytes_interrupt b
  generalize (RawResponse.ofBytes b).interrupt = raw at hc hs hft hz hf hdpi hfo ⊢
  -- each check in turn: a refused byte is the error, an accepted one is peeled off
  rw [Interrupt.tryFrom]
  by_cases h1 : b.getD 25 0 ≠ 0 ∧ U8Field.isCode FeederType (b.getD 25 0) = false
  · rw [if_pos h1, hft, optionalField_of_isCode_false h1.1 h1.2]
    exact .inl ⟨_, rfl, rfl⟩
  obtain ⟨o1, ho1⟩ := exists_optionalField_of_not (hft ▸ h1)
  rw [if_neg h1, ho1, Outcome.ok_bind]
  by_cases h2 : b.getD 32 0 ≠ 0 ∧ U8Field.isCode FeederOrientation (b.getD 32 0) = false
  · rw [if_pos h2, hfo, optionalField_of_isCode_false h2.1 h2.2]
    exact .inl ⟨_, rfl, rfl⟩
  obtain ⟨o2, ho2⟩ := exists_optionalField_of_not (hfo ▸ h2)
  rw [if_neg h2, ho2, Outcome.ok_bind]
  by_cases h3 : U8Field.isCode ColorMode (b.getD 23 0) = false
  · rw [if_pos h3, hc, U8Field.tryFrom_of_isCode_false h3]
    exact .inl ⟨_, rfl, rfl⟩
  obtain ⟨v3, hv3⟩ := exists_tryFrom_of_not (hc ▸ h3)
  rw [if_neg h3, hv3, Outcome.ok_bind]
  by_cases h4 : U8Field.isCode Source (b.getD 24 0) = false
  · rw [if_pos h4, hs, U8Field.tryFrom_of_isCode_false h4]
    exact .inl ⟨_, rfl, rfl⟩
  obtain ⟨v4, hv4⟩ := exists_tryFrom_of_not (hs ▸ h4)
  rw [if_neg h4, hv4, Outcome.ok_bind]
  by_cases h5 : U8Field.isCode Size (b.getD 26 0) = false
  · rw [if_pos h5, hz, U8Field.tryFrom_of_isCode_false h5]
    exact .inl ⟨_, rfl, rfl⟩
  obtain ⟨v5, hv5⟩ := exists_tryFrom_of_not (hz ▸ h5)
  rw [if_neg h5, hv5, Outcome.ok_bind]
  by_cases h6 : U8Field.isCode Format (b.getD 27 0) = false
  · rw [if_pos h6, hf, U8Field.tryFrom_of_isCode_false h6]
    exact .inl ⟨_, rfl, rfl⟩
  obtain ⟨v6, hv6⟩ := exists_tryFrom_of_not (hf ▸ h6)
  rw [if_neg h6, hv6, Outcome.ok_bind]
  by_cases h7 : U8Field.isCode DPI (b.getD 28 0) = false
  · rw [if_pos h7, hdpi, U8Field.tryFrom_of_isCode_false h7]
    exact .inl ⟨_, rfl, rfl⟩
  obtain ⟨v7, hv7⟩ := exists_tryFrom_of_not (hdpi ▸ h7)
  rw [if_neg h7, hv7, Outcome.ok_bind]
  exact .inr ⟨rfl, _, rfl⟩

/-- The poll response decoder fails exactly with the buffer's first defect: a short buffer, or
    the first descriptor byte it refuses in its order of conversion, at offset 0. -/
theorem Response.deserialize_eq_err_iff_defect (b : Bytes) (e : ParseError) :
    (Deserialize.deserialize b : Outcome ParseError (Response × Nat)) = .err e ↔
      Response.defect b = some e := by
  rcases Response.deserialize_defect b with ⟨e', hd, hdes⟩ | ⟨hd, r, hdes⟩ <;> simp [hd, hdes]

/-- An interrupt whose colour mode (byte 23) and feeder type (byte 25) are both unknown is
    refused for its feeder type, at offset 0. -/
example : Response.defect ([0, 0, 0x80, 0] ++ List.replicate 19 0 ++ [9, 1, 7] ++
    List.replicate 10 0) = some (.invalidFormat (.invalidByte 7 0 "unknown feeder type")) := by
  decide

end Bjnp.Poll

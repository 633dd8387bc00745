import ScannerButton.Bjnp.Poll.Host
import ScannerButton.Time.DateTime

/-
  The poll command (`bjnp/src/poll/command.rs`): a big-endian `u16` poll type, then the
  packed record of that type, each a blanket `HasRawRepr` codec:

    Empty     78 zero bytes
    HostOnly  6 zero bytes, the 64-byte host, 4 zero bytes
    Full      2 zero bytes, session id, host, `00 00 00 14`, 20 zero bytes, `00 00 00 10`,
              the 14-byte datetime `YYYYMMDDhhmmss`, 2 zero bytes
    Reset     2 zero bytes, session id, host, `00 00 00 14`, action id, 20 zero bytes

  The datetime goes through the `time` crate (`Time.formatIntoSlice`, `Time.Parsed`): its
  `format_into(..).unwrap()` panics when the text does not fit in 14 bytes, and the
  `try_into().unwrap()` after a successful `parse_items` panics when the day does not exist in
  its month or the second is 60. A raw record's `host` is a `[u8; 64]`, read with `arrayAt`.

  Proved here: a built command whose datetime, if any, has a year in `0..=9999` serializes to
  `size()` bytes and decodes back, followed by anything, with its datetime truncated to the
  second, and a decoded command re-serializes to the bytes it was read from with the padding
  and reserved bytes zeroed and the constants restored (`deserialize_serialize_command`,
  against `canonicalCommand`, which follows the specification's table). A buffer that ends
  inside the record reports `UnexpectedEnd` with the expected length rebased past the poll
  type, but the actual length of the record part alone (`deserialize_truncated_actual`).

  Panics: the decoder panics exactly on a full command whose datetime field reads as its six
  components without being a date-time (`Command.deserialize_eq_panic`), that is, with a day past
  the end of its month or with the leap second 60 on any date (`Parsed.tryInto_eq_none_iff`,
  `Command.deserialize_eq_panic_iff_calendar`), such as `20230230000000`
  (`deserialize_datetimeFeb30`) or `20230101000060`. The encoder panics exactly on a full
  command with a negative year, whose datetime takes 15 bytes (`Command.serialize_eq_panic`,
  `serialize_datetimeYearMinusOne`).
-/

namespace Bjnp.Poll

open Time

/-! ## Poll type -/

/-- `PollType`, a `u16` on the wire (`make_wider_field!`). -/
inductive PollType where
  | empty
  | hostOnly
  | full
  | reset
  deriving DecidableEq, Repr

/-- `poll_type as u16`. -/
def PollType.code : PollType → UInt16
  | empty => 0x00
  | hostOnly => 0x01
  | full => 0x02
  | reset => 0x05

/-- The `TryFrom<u16>` that `make_wider_field!` generates: an unknown value is reported on the
    field's `size_of::<u16>()` bytes. -/
def PollType.tryFrom (value : UInt16) : Outcome FormatError PollType :=
  if value = 0x00 then .ok .empty
  else if value = 0x01 then .ok .hostOnly
  else if value = 0x02 then .ok .full
  else if value = 0x05 then .ok .reset
  else .err (.invalidSlice 0 2 "unknown poll type")

@[simp] theorem PollType.tryFrom_code (p : PollType) : PollType.tryFrom p.code = .ok p := by
  cases p <;> rfl

theorem PollType.tryFrom_eq_ok {value : UInt16} {p : PollType}
    (h : PollType.tryFrom value = .ok p) : p.code = value := by
  unfold PollType.tryFrom at h
  repeat' split at h
  all_goals first | (cases h; subst_vars; rfl) | cases h

/-! ## Commands and their raw layouts -/

/-- A `[u8; n]` field at `offset` of a raw record. The blanket decoder reads a record only
    from a buffer at least its size long, where this is `buffer[offset..offset + n]`; the
    zero fill past the end is never reached. -/
def arrayAt (buffer : Bytes) (offset n : Nat) : {b : Bytes // b.length = n} :=
  ⟨((buffer.drop offset) ++ List.replicate n 0).take n, by simp⟩

theorem arrayAt_val {buffer : Bytes} {offset n : Nat} (h : offset + n ≤ buffer.length) :
    (arrayAt buffer offset n).1 = (buffer.drop offset).take n := by
  simp [arrayAt, List.take_append_eq_append_take]
  omega

/-- `EmptyCommand`. -/
structure EmptyCommand where
  deriving DecidableEq

/-- `HostOnlyCommand`. -/
structure HostOnlyCommand where
  host : Host
  deriving DecidableEq

/-- `FullCommand`. -/
structure FullCommand where
  sessionId : UInt32
  host : Host
  datetime : PrimitiveDateTime
  deriving DecidableEq

/-- `ResetCommand`. -/
structure ResetCommand where
  sessionId : UInt32
  host : Host
  actionId : UInt32
  deriving DecidableEq

/-- `RawEmptyCommand`, `#[repr(C, packed)]`: `empty: [u8; 78]`. -/
structure RawEmptyCommand where
  empty : Bytes

/-- `RawHostOnlyCommand`, `#[repr(C, packed)]`: `pad_1: [u8; 6]`, `host`, `unk_1: [u8; 4]`. -/
structure RawHostOnlyCommand where
  pad1 : Bytes
  host : {b : Bytes // b.length = 64}
  unk1 : Bytes

/-- `RawFullCommand`, `#[repr(C, packed)]`: `pad_1: [u8; 2]`, `session_id: [u8; 4]`, `host`,
    `unk_1: [u8; 4]`, `unk_2: [u8; 20]`, `unk_3: [u8; 4]`, `datetime: [u8; 14]`,
    `pad_2: [u8; 2]`. -/
structure RawFullCommand where
  pad1 : Bytes
  sessionId : Bytes
  host : {b : Bytes // b.length = 64}
  unk1 : Bytes
  unk2 : Bytes
  unk3 : Bytes
  datetime : Bytes
  pad2 : Bytes

/-- `RawResetCommand`, `#[repr(C, packed)]`: `pad_1: [u8; 2]`, `session_id: [u8; 4]`, `host`,
    `unk_1: [u8; 4]`, `action_id: [u8; 4]`, `unk_2: [u8; 20]`. -/
structure RawResetCommand where
  pad1 : Bytes
  sessionId : Bytes
  host : {b : Bytes // b.length = 64}
  unk1 : Bytes
  actionId : Bytes
  unk2 : Bytes

/-- `size_of::<RawEmptyCommand>()`. -/
def RawEmptyCommand.SIZE : Nat := 78

/-- `size_of::<RawHostOnlyCommand>()`. -/
def RawHostOnlyCommand.SIZE : Nat := 74

/-- `size_of::<RawFullCommand>()`. -/
def RawFullCommand.SIZE : Nat := 114

/-- `size_of::<RawResetCommand>()`. -/
def RawResetCommand.SIZE : Nat := 98

/-- The packed bytes of a `RawEmptyCommand`. -/
def RawEmptyCommand.toBytes (r : RawEmptyCommand) : Bytes := r.empty

/-- The packed bytes of a `RawHostOnlyCommand`. -/
def RawHostOnlyCommand.toBytes (r : RawHostOnlyCommand) : Bytes := r.pad1 ++ r.host.1 ++ r.unk1

/-- The packed bytes of a `RawFullCommand`. -/
def RawFullCommand.toBytes (r : RawFullCommand) : Bytes :=
  r.pad1 ++ r.sessionId ++ r.host.1 ++ r.unk1 ++ r.unk2 ++ r.unk3 ++ r.datetime ++ r.pad2

/-- The packed bytes of a `RawResetCommand`. -/
def RawResetCommand.toBytes (r : RawResetCommand) : Bytes :=
  r.pad1 ++ r.sessionId ++ r.host.1 ++ r.unk1 ++ r.actionId ++ r.unk2

/-- A `RawEmptyCommand` read from the front of a buffer. -/
def RawEmptyCommand.ofBytes (b : Bytes) : RawEmptyCommand := ⟨b.take 78⟩

/-- A `RawHostOnlyCommand` read from the front of a buffer. -/
def RawHostOnlyCommand.ofBytes (b : Bytes) : RawHostOnlyCommand :=
  ⟨b.take 6, arrayAt b 6 64, (b.drop 70).take 4⟩

/-- A `RawFullCommand` read from the front of a buffer. -/
def RawFullCommand.ofBytes (b : Bytes) : RawFullCommand :=
  ⟨b.take 2, (b.drop 2).take 4, arrayAt b 6 64, (b.drop 70).take 4, (b.drop 74).take 20,
    (b.drop 94).take 4, (b.drop 98).take 14, (b.drop 112).take 2⟩

/-- A `RawResetCommand` read from the front of a buffer. -/
def RawResetCommand.ofBytes (b : Bytes) : RawResetCommand :=
  ⟨b.take 2, (b.drop 2).take 4, arrayAt b 6 64, (b.drop 70).take 4, (b.drop 74).take 4,
    (b.drop 78).take 20⟩

/-- `RawFullCommand::DATETIME_FORMAT`, `[year][month][day][hour][minute][second]`. -/
def RawFullCommand.DATETIME_FORMAT : List Component :=
  [.year, .month, .day, .hour, .minute, .second]

/-- `From<&EmptyCommand> for RawEmptyCommand`. -/
def RawEmptyCommand.ofEmptyCommand (_ : EmptyCommand) : RawEmptyCommand := ⟨List.replicate 78 0⟩

/-- `From<&HostOnlyCommand> for RawHostOnlyCommand`. -/
def RawHostOnlyCommand.ofHostOnlyCommand (command : HostOnlyCommand) : RawHostOnlyCommand :=
  ⟨List.replicate 6 0, ⟨command.host.bytes, command.host.length_eq⟩, List.replicate 4 0⟩

/-- `From<&FullCommand> for RawFullCommand`, or `none` where `format_into(..).unwrap()`
    panics. -/
def RawFullCommand.ofFullCommand (command : FullCommand) : Option RawFullCommand := do
  let datetime ← formatIntoSlice 14 command.datetime RawFullCommand.DATETIME_FORMAT
  pure ⟨List.replicate 2 0, u32ToBeBytes command.sessionId,
    ⟨command.host.bytes, command.host.length_eq⟩, [0x00, 0x00, 0x00, 0x14], List.replicate 20 0,
    [0x00, 0x00, 0x00, 0x10], datetime, List.replicate 2 0⟩

/-- `From<&ResetCommand> for RawResetCommand`. -/
def RawResetCommand.ofResetCommand (command : ResetCommand) : RawResetCommand :=
  ⟨List.replicate 2 0, u32ToBeBytes command.sessionId,
    ⟨command.host.bytes, command.host.length_eq⟩, [0x00, 0x00, 0x00, 0x14],
    u32ToBeBytes command.actionId, List.replicate 20 0⟩

/-- `TryFrom<&RawEmptyCommand> for EmptyCommand`. -/
def EmptyCommand.tryFrom (_ : RawEmptyCommand) : Outcome FormatError EmptyCommand := .ok ⟨⟩

/-- `TryFrom<&RawHostOnlyCommand> for HostOnlyCommand`: the host is not checked. -/
def HostOnlyCommand.tryFrom (raw : RawHostOnlyCommand) : Outcome FormatError HostOnlyCommand :=
  .ok ⟨⟨raw.host.1, raw.host.2⟩⟩

/-- `span_of!(RawFullCommand, datetime)`. -/
def RawFullCommand.datetimeSpan : Nat × Nat := (98, 112)

/-- `TryFrom<&RawFullCommand> for FullCommand`: a datetime that does not parse is an
    `InvalidSlice` on its span, and one that parses but is not a date-time panics in
    `try_into().unwrap()`. -/
def FullCommand.tryFrom (raw : RawFullCommand) : Outcome FormatError FullCommand := do
  let (parser, _) ← Outcome.okOr (Parsed.new.parseItems raw.datetime RawFullCommand.DATETIME_FORMAT)
    (.invalidSlice RawFullCommand.datetimeSpan.1 RawFullCommand.datetimeSpan.2
      "invalid datetime string")
  let datetime ← Outcome.ofOption parser.tryInto
  pure ⟨u32FromBeBytes raw.sessionId, ⟨raw.host.1, raw.host.2⟩, datetime⟩

/-- `TryFrom<&RawResetCommand> for ResetCommand`. -/
def ResetCommand.tryFrom (raw : RawResetCommand) : Outcome FormatError ResetCommand :=
  .ok ⟨u32FromBeBytes raw.sessionId, ⟨raw.host.1, raw.host.2⟩, u32FromBeBytes raw.actionId⟩

instance : Serialize EmptyCommand :=
  ⟨fun c => .ok (RawEmptyCommand.ofEmptyCommand c).toBytes, fun _ => RawEmptyCommand.SIZE⟩

instance : Serialize HostOnlyCommand :=
  ⟨fun c => .ok (RawHostOnlyCommand.ofHostOnlyCommand c).toBytes, fun _ => RawHostOnlyCommand.SIZE⟩

instance : Serialize FullCommand :=
  ⟨fun c => (Outcome.ofOption (RawFullCommand.ofFullCommand c)).map RawFullCommand.toBytes,
    fun _ => RawFullCommand.SIZE⟩

instance : Serialize ResetCommand :=
  ⟨fun c => .ok (RawResetCommand.ofResetCommand c).toBytes, fun _ => RawResetCommand.SIZE⟩

instance : Deserialize EmptyCommand :=
  ⟨sizedDeserialize RawEmptyCommand.SIZE fun b => EmptyCommand.tryFrom (RawEmptyCommand.ofBytes b)⟩

instance : Deserialize HostOnlyCommand :=
  ⟨sizedDeserialize RawHostOnlyCommand.SIZE fun b =>
    HostOnlyCommand.tryFrom (RawHostOnlyCommand.ofBytes b)⟩

instance : Deserialize FullCommand :=
  ⟨sizedDeserialize RawFullCommand.SIZE fun b => FullCommand.tryFrom (RawFullCommand.ofBytes b)⟩

instance : Deserialize ResetCommand :=
  ⟨sizedDeserialize RawResetCommand.SIZE fun b => ResetCommand.tryFrom (RawResetCommand.ofBytes b)⟩

/-- `Command(InnerCommand)`. -/
inductive Command where
  | empty (command : EmptyCommand)
  | hostOnly (command : HostOnlyCommand)
  | full (command : FullCommand)
  | reset (command : ResetCommand)
  deriving DecidableEq

namespace Command

/-- `Command::poll_type`. -/
def pollType : Command → PollType
  | empty _ => .empty
  | hostOnly _ => .hostOnly
  | full _ => .full
  | reset _ => .reset

/-- `Command::session_id`. -/
def sessionId : Command → Option UInt32
  | full command => some command.sessionId
  | reset command => some command.sessionId
  | _ => none

/-- `Command::host`. -/
def host : Command → Option Host
  | empty _ => none
  | hostOnly command => some command.host
  | full command => some command.host
  | reset command => some command.host

/-- `Command::action_id`. -/
def actionId : Command → Option UInt32
  | reset command => some command.actionId
  | _ => none

/-- `Command::datetime`. -/
def datetime : Command → Option PrimitiveDateTime
  | full command => some command.datetime
  | _ => none

/-- `Serialize::serialize for Command`: the poll type, then the record. -/
def serialize (c : Command) : Outcome IoError Bytes := do
  let body ← match c with
    | empty command => Serialize.serialize command
    | hostOnly command => Serialize.serialize command
    | full command => Serialize.serialize command
    | reset command => Serialize.serialize command
  pure (u16ToBeBytes c.pollType.code ++ body)

/-- `Serialize::size for Command`. -/
def size : Command → Nat
  | empty command => 2 + Serialize.size command
  | hostOnly command => 2 + Serialize.size command
  | full command => 2 + Serialize.size command
  | reset command => 2 + Serialize.size command

/-- The `deserialize_result` of `Deserialize for Command`: the record of the poll type,
    decoded and converted with `deserialized_into`. -/
def deserializeRecord (pollType : PollType) (buffer : Bytes) : Outcome ParseError (Command × Nat) :=
  match pollType with
  | .empty => (Deserialize.deserialize buffer).map fun (c, n) => (empty c, n)
  | .hostOnly => (Deserialize.deserialize buffer).map fun (c, n) => (hostOnly c, n)
  | .full => (Deserialize.deserialize buffer).map fun (c, n) => (full c, n)
  | .reset => (Deserialize.deserialize buffer).map fun (c, n) => (reset c, n)

/-- `Deserialize for Command`: the poll type, then its record from the rest of the buffer, with
    the record's errors rebased by the two bytes before it. -/
def deserialize (buffer : Bytes) : Outcome ParseError (Command × Nat) := do
  let pollType ← Outcome.okOr (sliceGet buffer 0 2) (.unexpectedEnd 2 buffer.length)
  let pollType := u16FromBeBytes pollType
  let pollType ← (PollType.tryFrom pollType).mapErr .invalidFormat
  let buffer := buffer.drop 2
  let deserializeResult := deserializeRecord pollType buffer
  (deserializeResult.map fun (cmd, size) => (cmd, size + 2)).offsetBy 2

end Command

instance : Serialize Command := ⟨Command.serialize, Command.size⟩

instance : Deserialize Command := ⟨Command.deserialize⟩

/-- `CommandBuilder`. -/
structure CommandBuilder where
  pollType : PollType
  sessionId : Option UInt32
  host : Option Host
  actionId : Option UInt32
  datetime : Option PrimitiveDateTime
  deriving DecidableEq

namespace CommandBuilder

/-- `CommandBuilder::new`. -/
def new (pollType : PollType) : CommandBuilder := ⟨pollType, none, none, none, none⟩

/-- `CommandBuilder::session_id`. -/
def setSessionId (b : CommandBuilder) (sessionId : UInt32) : CommandBuilder :=
  { b with sessionId := some sessionId }

/-- `CommandBuilder::host`. -/
def setHost (b : CommandBuilder) (host : Host) : CommandBuilder := { b with host := some host }

/-- `CommandBuilder::action_id`. -/
def setActionId (b : CommandBuilder) (actionId : UInt32) : CommandBuilder :=
  { b with actionId := some actionId }

/-- `CommandBuilder::datetime`. -/
def setDatetime (b : CommandBuilder) (datetime : PrimitiveDateTime) : CommandBuilder :=
  { b with datetime := some datetime }

/-- `CommandBuilder::build`: `None` when a field the poll type needs is unset. -/
def build (b : CommandBuilder) : Option Command :=
  match b.pollType with
  | .empty => some (.empty ⟨⟩)
  | .hostOnly => do
    let host ← b.host
    pure (.hostOnly ⟨host⟩)
  | .full => do
    let sessionId ← b.sessionId
    let host ← b.host
    let datetime ← b.datetime
    pure (.full ⟨sessionId, host, datetime⟩)
  | .reset => do
    let sessionId ← b.sessionId
    let host ← b.host
    let actionId ← b.actionId
    pure (.reset ⟨sessionId, host, actionId⟩)

end CommandBuilder

/-! ## Raw layouts -/

theorem RawHostOnlyCommand.ofBytes_toBytes_append (r : RawHostOnlyCommand) (t : Bytes)
    (h1 : r.pad1.length = 6) (h2 : r.unk1.length = 4) :
    RawHostOnlyCommand.ofBytes (r.toBytes ++ t) = r := by
  obtain ⟨p1, ⟨h, hh⟩, u1⟩ := r
  simp only at h1 h2
  simp [ofBytes, toBytes, arrayAt, List.take_append_eq_append_take,
    List.drop_append_eq_append_drop, List.drop_eq_nil_of_le, h1, h2, hh]

theorem RawFullCommand.ofBytes_toBytes_append (r : RawFullCommand) (t : Bytes)
    (h1 : r.pad1.length = 2) (h2 : r.sessionId.length = 4) (h3 : r.unk1.length = 4)
    (h4 : r.unk2.length = 20) (h5 : r.unk3.length = 4) (h6 : r.datetime.length = 14)
    (h7 : r.pad2.length = 2) : RawFullCommand.ofBytes (r.toBytes ++ t) = r := by
  obtain ⟨p1, s, ⟨h, hh⟩, u1, u2, u3, d, p2⟩ := r
  simp only at h1 h2 h3 h4 h5 h6 h7
  simp [ofBytes, toBytes, arrayAt, List.take_append_eq_append_take,
    List.drop_append_eq_append_drop, List.drop_eq_nil_of_le, h1, h2, h3, h4, h5, h6, h7, hh]

theorem RawResetCommand.ofBytes_toBytes_append (r : RawResetCommand) (t : Bytes)
    (h1 : r.pad1.length = 2) (h2 : r.sessionId.length = 4) (h3 : r.unk1.length = 4)
    (h4 : r.actionId.length = 4) (h5 : r.unk2.length = 20) :
    RawResetCommand.ofBytes (r.toBytes ++ t) = r := by
  obtain ⟨p1, s, ⟨h, hh⟩, u1, a, u2⟩ := r
  simp only at h1 h2 h3 h4 h5
  simp [ofBytes, toBytes, arrayAt, List.take_append_eq_append_take,
    List.drop_append_eq_append_drop, List.drop_eq_nil_of_le, h1, h2, h3, h4, h5, hh]

/-! ## The datetime field -/

theorem format_datetime (dt : PrimitiveDateTime) (hyear : 0 ≤ dt.year) :
    format dt RawFullCommand.DATETIME_FORMAT =
      formatNumberPadZero 4 dt.year.natAbs ++ formatNumberPadZero 2 dt.month ++
        formatNumberPadZero 2 dt.day ++ formatNumberPadZero 2 dt.hour ++
        formatNumberPadZero 2 dt.minute ++ formatNumberPadZero 2 dt.second := by
  simp [format, RawFullCommand.DATETIME_FORMAT, formatComponent, show ¬ dt.year < 0 by omega]

theorem formatIntoSlice_datetime (dt : PrimitiveDateTime) (hyear : 0 ≤ dt.year) :
    formatIntoSlice 14 dt RawFullCommand.DATETIME_FORMAT =
      some (format dt RawFullCommand.DATETIME_FORMAT) := by
  simp [formatIntoSlice, format_datetime dt hyear]

theorem Parsed.tryInto_eq_some {parsed : Parsed} {dt : PrimitiveDateTime}
    (h : parsed.tryInto = some dt) :
    parsed.year = some dt.year ∧ parsed.month = some dt.month ∧ parsed.day = some dt.day ∧
      parsed.hour24 = some dt.hour ∧ parsed.minute = some dt.minute ∧
      parsed.second.getD 0 = dt.second ∧ dt.nanosecond = 0 := by
  unfold Parsed.tryInto at h
  split at h
  · next year month day hour minute hy hm hd hh hmi =>
    split at h
    · cases h; exact ⟨hy, hm, hd, hh, hmi, rfl, rfl⟩
    · cases h
  · cases h

theorem tryInto_store (dt : PrimitiveDateTime) :
    (RawFullCommand.DATETIME_FORMAT.foldl (fun p c => p.store dt c) Parsed.new).tryInto =
      some dt.truncateToSecond := by
  have := dt.year_range; have := dt.month_range; have := dt.day_range
  have := dt.hour_lt; have := dt.minute_lt; have := dt.second_lt
  simp only [RawFullCommand.DATETIME_FORMAT, List.foldl, Parsed.store, Parsed.new, Parsed.tryInto,
    Option.getD_some]
  rw [dif_pos ⟨by omega, by omega, by omega, by omega, by omega, by omega⟩]
  rfl

theorem parseItems_datetime_eq_some {input rest : Bytes} {parsed : Parsed}
    (hlen : input.length = 14)
    (h : Parsed.new.parseItems input RawFullCommand.DATETIME_FORMAT = some (parsed, rest)) :
    ∃ (year : Int) (month day hour minute second : Nat), 0 ≤ year ∧ rest = [] ∧
      parsed = ⟨some year, some month, some day, some hour, some minute, some second⟩ ∧
      input = formatNumberPadZero 4 year.natAbs ++ formatNumberPadZero 2 month ++
        formatNumberPadZero 2 day ++ formatNumberPadZero 2 hour ++
        formatNumberPadZero 2 minute ++ formatNumberPadZero 2 second ∧
      year ≤ 9999 ∧ (1 ≤ month ∧ month ≤ 12) ∧ (1 ≤ day ∧ day ≤ 31) ∧ hour ≤ 23 ∧ minute ≤ 59 ∧
        second ≤ 60 := by
  simp only [RawFullCommand.DATETIME_FORMAT, Parsed.parseItems] at h
  obtain ⟨⟨p1, r1⟩, h1, h⟩ := Option.bind_eq_some.mp h
  obtain ⟨⟨p2, r2⟩, h2, h⟩ := Option.bind_eq_some.mp h
  obtain ⟨⟨p3, r3⟩, h3, h⟩ := Option.bind_eq_some.mp h
  obtain ⟨⟨p4, r4⟩, h4, h⟩ := Option.bind_eq_some.mp h
  obtain ⟨⟨p5, r5⟩, h5, h⟩ := Option.bind_eq_some.mp h
  obtain ⟨⟨p6, r6⟩, h6, h⟩ := Option.bind_eq_some.mp h
  cases h
  simp only [Parsed.parseComponent] at h1 h2 h3 h4 h5 h6
  obtain ⟨⟨mo, _⟩, hmo, ⟨⟩⟩ := Option.map_eq_some'.mp h2
  obtain ⟨⟨d, _⟩, hd, ⟨⟩⟩ := Option.map_eq_some'.mp h3
  obtain ⟨⟨hr, _⟩, hh, ⟨⟩⟩ := Option.map_eq_some'.mp h4
  obtain ⟨⟨mi, _⟩, hmi, ⟨⟩⟩ := Option.map_eq_some'.mp h5
  obtain ⟨⟨sec, rs⟩, hs, ⟨⟩⟩ := Option.map_eq_some'.mp h6
  obtain ⟨rfl, hmo1, hmo2⟩ := parseRanged_eq_some hmo
  obtain ⟨rfl, hd1, hd2⟩ := parseRanged_eq_some hd
  obtain ⟨rfl, -, hhr⟩ := parseRanged_eq_some hh
  obtain ⟨rfl, -, hmir⟩ := parseRanged_eq_some hmi
  obtain ⟨rfl, -, hsr⟩ := parseRanged_eq_some hs
  obtain ⟨⟨y, ry⟩, hy, h1⟩ := Option.bind_eq_some.mp h1
  dsimp only at h1
  split_ifs at h1 with hyr
  cases h1
  rcases parseYear_eq_some hy with ⟨hy0, rfl⟩ | hl
  · obtain rfl : rs = [] := List.eq_nil_of_length_eq_zero (by simp at hlen; omega)
    exact ⟨y, mo, d, hr, mi, sec, hy0, rfl, rfl, by simp, hyr.2, ⟨hmo1, hmo2⟩, ⟨hd1, hd2⟩, hhr,
      hmir, hsr⟩
  · simp at hl; omega

/-- A datetime field read component by component is refused by `try_into` exactly when its day
    is past the end of its month or its second is the leap second 60: `parse_items` checks
    every other range itself. -/
theorem Parsed.tryInto_eq_none_iff {input rest : Bytes} {parsed : Parsed} (hlen : input.length = 14)
    (h : Parsed.new.parseItems input RawFullCommand.DATETIME_FORMAT = some (parsed, rest)) :
    parsed.tryInto = none ↔ ∃ year month day second, parsed.year = some year ∧
      parsed.month = some month ∧ parsed.day = some day ∧ parsed.second = some second ∧
      (daysInYearMonth year month < day ∨ second = 60) := by
  obtain ⟨y, mo, d, hr, mi, sec, hy0, -, rfl, -, hy, hmo, hd, hh, hmi, hs⟩ :=
    parseItems_datetime_eq_some hlen h
  simp only [Parsed.tryInto, Option.getD_some]
  split_ifs with hc
  · simp only [reduceCtorEq, false_iff, not_exists, not_and, Option.some.injEq]
    rintro _ _ _ _ rfl rfl rfl rfl
    omega
  · exact iff_of_true rfl ⟨y, mo, d, sec, rfl, rfl, rfl, rfl, by omega⟩

/-- A decoded datetime field was written by the encoder: formatting the date-time read gives
    back its 14 bytes. -/
theorem formatIntoSlice_of_parse {input rest : Bytes} {parsed : Parsed} {dt : PrimitiveDateTime}
    (hlen : input.length = 14)
    (h : Parsed.new.parseItems input RawFullCommand.DATETIME_FORMAT = some (parsed, rest))
    (hdt : parsed.tryInto = some dt) :
    formatIntoSlice 14 dt RawFullCommand.DATETIME_FORMAT = some input := by
  obtain ⟨y, mo, d, hr, mi, sec, hy0, -, rfl, rfl, -⟩ := parseItems_datetime_eq_some hlen h
  obtain ⟨h1, h2, h3, h4, h5, h6, -⟩ := Parsed.tryInto_eq_some hdt
  simp only [Option.some.injEq, Option.getD_some] at h1 h2 h3 h4 h5 h6
  subst h1 h2 h3 h4 h5 h6
  rw [formatIntoSlice_datetime dt hy0, format_datetime dt hy0]

/-- The datetime field of a date-time with a non-negative year decodes to the date-time
    truncated to the second. -/
theorem parse_format_datetime (dt : PrimitiveDateTime) (hyear : 0 ≤ dt.year) :
    ∃ parsed, Parsed.new.parseItems (format dt RawFullCommand.DATETIME_FORMAT)
        RawFullCommand.DATETIME_FORMAT = some (parsed, []) ∧
      parsed.tryInto = some dt.truncateToSecond :=
  ⟨_, by simpa using parseItems_format Parsed.new dt hyear RawFullCommand.DATETIME_FORMAT [],
    tryInto_store dt⟩

/-! ## Records: encoding then decoding -/

theorem EmptyCommand.deserialize_serialize (c : EmptyCommand) (t : Bytes) :
    (Deserialize.deserialize ((RawEmptyCommand.ofEmptyCommand c).toBytes ++ t) :
      Outcome ParseError (EmptyCommand × Nat)) = .ok (c, 78) := by
  show sizedDeserialize 78 _ _ = _
  rw [sizedDeserialize_long (by simp [RawEmptyCommand.toBytes, RawEmptyCommand.ofEmptyCommand])]
  rfl

theorem HostOnlyCommand.deserialize_serialize (c : HostOnlyCommand) (t : Bytes) :
    (Deserialize.deserialize ((RawHostOnlyCommand.ofHostOnlyCommand c).toBytes ++ t) :
      Outcome ParseError (HostOnlyCommand × Nat)) = .ok (c, 74) := by
  show sizedDeserialize 74 _ _ = _
  rw [sizedDeserialize_long (by simp [RawHostOnlyCommand.toBytes,
      RawHostOnlyCommand.ofHostOnlyCommand, c.host.length_eq]; omega),
    RawHostOnlyCommand.ofBytes_toBytes_append] <;> simp [RawHostOnlyCommand.ofHostOnlyCommand]
  rfl

theorem ResetCommand.deserialize_serialize (c : ResetCommand) (t : Bytes) :
    (Deserialize.deserialize ((RawResetCommand.ofResetCommand c).toBytes ++ t) :
      Outcome ParseError (ResetCommand × Nat)) = .ok (c, 98) := by
  have hlen : 98 ≤ ((RawResetCommand.ofResetCommand c).toBytes ++ t).length := by
    simp [RawResetCommand.toBytes, RawResetCommand.ofResetCommand, c.host.length_eq]; omega
  show sizedDeserialize 98 _ _ = _
  rw [sizedDeserialize_long hlen, RawResetCommand.ofBytes_toBytes_append] <;>
    simp [ResetCommand.tryFrom, RawResetCommand.ofResetCommand]

/-- A full command whose year is not negative encodes, and decodes back with its datetime
    truncated to the second. -/
theorem FullCommand.deserialize_serialize (c : FullCommand) (hyear : 0 ≤ c.datetime.year)
    (t : Bytes) :
    ∃ raw, RawFullCommand.ofFullCommand c = some raw ∧ raw.toBytes.length = 114 ∧
      (Deserialize.deserialize (raw.toBytes ++ t) : Outcome ParseError (FullCommand × Nat)) =
        .ok ({ c with datetime := c.datetime.truncateToSecond }, 114) := by
  obtain ⟨parsed, hp, hdt⟩ := parse_format_datetime c.datetime hyear
  have hlen : (format c.datetime RawFullCommand.DATETIME_FORMAT).length = 14 := by
    simp [format_datetime c.datetime hyear]
  refine ⟨⟨List.replicate 2 0, u32ToBeBytes c.sessionId, ⟨c.host.bytes, c.host.length_eq⟩,
    [0x00, 0x00, 0x00, 0x14], List.replicate 20 0, [0x00, 0x00, 0x00, 0x10],
    format c.datetime RawFullCommand.DATETIME_FORMAT, List.replicate 2 0⟩,
    by rw [RawFullCommand.ofFullCommand, formatIntoSlice_datetime _ hyear]; rfl,
    by simp [RawFullCommand.toBytes, hlen, c.host.length_eq], ?_⟩
  show sizedDeserialize 114 _ _ = _
  rw [sizedDeserialize_long (by simp [RawFullCommand.toBytes, hlen, c.host.length_eq]; omega),
    RawFullCommand.ofBytes_toBytes_append] <;> simp [FullCommand.tryFrom, hp, hdt, hlen]

/-! ## Commands: encoding then decoding -/

/-- The command with the datetime of a full command truncated to the second. -/
def Command.truncateToSecond : Command → Command
  | .full c => .full { c with datetime := c.datetime.truncateToSecond }
  | c => c

theorem Command.deserialize_append (p : PollType) (rest : Bytes) :
    Command.deserialize (u16ToBeBytes p.code ++ rest) =
      ((Command.deserializeRecord p rest).map fun (cmd, size) => (cmd, size + 2)).offsetBy 2 := by
  simp [Command.deserialize, sliceGet_eq_some (show 0 ≤ 2 by omega)
    (show 2 ≤ (u16ToBeBytes p.code ++ rest).length by simp)]

/-- Every command whose year, if any, is not negative encodes, as its poll type and a record
    of `size() - 2` bytes that decodes back, followed by anything. -/
theorem Command.serialize_deserializeRecord (c : Command)
    (hyear : ∀ dt, c.datetime = some dt → 0 ≤ dt.year) (t : Bytes) :
    ∃ body, Command.serialize c = .ok (u16ToBeBytes c.pollType.code ++ body) ∧
      2 + body.length = c.size ∧
      Command.deserializeRecord c.pollType (body ++ t) = .ok (c.truncateToSecond, body.length) := by
  cases c with
  | empty c =>
    refine ⟨_, rfl, rfl, ?_⟩
    simp [Command.deserializeRecord, EmptyCommand.deserialize_serialize]
    rfl
  | hostOnly c =>
    refine ⟨_, rfl, by simp [Command.size, Serialize.size, RawHostOnlyCommand.toBytes,
      RawHostOnlyCommand.ofHostOnlyCommand, c.host.length_eq]; rfl, ?_⟩
    show Command.deserializeRecord .hostOnly _ = _
    rw [Command.deserializeRecord, HostOnlyCommand.deserialize_serialize]
    simp [Command.truncateToSecond, RawHostOnlyCommand.toBytes,
      RawHostOnlyCommand.ofHostOnlyCommand, c.host.length_eq]
  | full c =>
    obtain ⟨raw, hraw, hlen, hd⟩ := FullCommand.deserialize_serialize c (hyear _ rfl) t
    refine ⟨raw.toBytes, ?_, ?_, ?_⟩
    · simp [Command.serialize, Serialize.serialize, hraw]
    · simp [hlen]; rfl
    · simp [Command.deserializeRecord, Command.pollType, hd, hlen, Command.truncateToSecond]
  | reset c =>
    refine ⟨_, rfl, by simp [Command.size, Serialize.size, RawResetCommand.toBytes,
      RawResetCommand.ofResetCommand, c.host.length_eq]; rfl, ?_⟩
    show Command.deserializeRecord .reset _ = _
    rw [Command.deserializeRecord, ResetCommand.deserialize_serialize]
    simp [Command.truncateToSecond, RawResetCommand.toBytes, RawResetCommand.ofResetCommand,
      c.host.length_eq]

/-! ## Commands: decoding then encoding -/

/-- A poll command record as the specification's table lays it out: its fields copied from
    `b`, the padding and reserved bytes 0, and the constants `00 00 00 14` and `00 00 00 10`
    in place. -/
def canonicalRecord (b : Bytes) : PollType → Bytes
  | .empty => List.replicate 78 0
  | .hostOnly => List.replicate 6 0 ++ (b.drop 6).take 64 ++ List.replicate 4 0
  | .full => List.replicate 2 0 ++ (b.drop 2).take 4 ++ (b.drop 6).take 64 ++
      [0x00, 0x00, 0x00, 0x14] ++ List.replicate 20 0 ++ [0x00, 0x00, 0x00, 0x10] ++
      (b.drop 98).take 14 ++ List.replicate 2 0
  | .reset => List.replicate 2 0 ++ (b.drop 2).take 4 ++ (b.drop 6).take 64 ++
      [0x00, 0x00, 0x00, 0x14] ++ (b.drop 74).take 4 ++ List.replicate 20 0

/-- A poll command as the specification's table lays it out: the poll type copied from `b`,
    then the record. -/
def canonicalCommand (b : Bytes) (pollType : PollType) : Bytes :=
  b.take 2 ++ canonicalRecord (b.drop 2) pollType

theorem EmptyCommand.serialize_of_deserialize {buffer : Bytes} {c : EmptyCommand} {n : Nat}
    (h : (Deserialize.deserialize buffer : Outcome ParseError (EmptyCommand × Nat)) = .ok (c, n)) :
    n = 78 ∧ Serialize.serialize c = .ok (canonicalRecord (buffer.take n) .empty) := by
  obtain ⟨rfl, -, -⟩ := sizedDeserialize_eq_ok h
  exact ⟨rfl, rfl⟩

theorem HostOnlyCommand.serialize_of_deserialize {buffer : Bytes} {c : HostOnlyCommand} {n : Nat}
    (h : (Deserialize.deserialize buffer : Outcome ParseError (HostOnlyCommand × Nat)) =
      .ok (c, n)) :
    n = 74 ∧ Serialize.serialize c = .ok (canonicalRecord (buffer.take n) .hostOnly) := by
  obtain ⟨rfl, hlen, hc⟩ := sizedDeserialize_eq_ok h
  cases hc
  refine ⟨rfl, ?_⟩
  have hhost : 6 + 64 ≤ buffer.length := by
    simp [RawHostOnlyCommand.SIZE] at hlen
    omega
  simp [Serialize.serialize, RawHostOnlyCommand.ofHostOnlyCommand, RawHostOnlyCommand.toBytes,
    RawHostOnlyCommand.ofBytes, canonicalRecord, RawHostOnlyCommand.SIZE, arrayAt_val hhost,
    List.drop_take, List.take_take]

theorem FullCommand.serialize_of_deserialize {buffer : Bytes} {c : FullCommand} {n : Nat}
    (h : (Deserialize.deserialize buffer : Outcome ParseError (FullCommand × Nat)) = .ok (c, n)) :
    n = 114 ∧ Serialize.serialize c = .ok (canonicalRecord (buffer.take n) .full) := by
  obtain ⟨rfl, hlen, hc⟩ := sizedDeserialize_eq_ok h
  simp only [RawFullCommand.SIZE] at hlen
  obtain ⟨⟨parsed, rest⟩, hp, hc⟩ := Outcome.bind_eq_ok.mp hc
  obtain ⟨dt, hdt, hc⟩ := Outcome.bind_eq_ok.mp hc
  cases hc
  rw [Outcome.okOr_eq_ok] at hp
  rw [Outcome.ofOption_eq_ok] at hdt
  have hfmt := formatIntoSlice_of_parse (by simp [RawFullCommand.ofBytes]; omega) hp hdt
  refine ⟨rfl, ?_⟩
  simp [Serialize.serialize, RawFullCommand.ofFullCommand, hfmt, RawFullCommand.toBytes,
    RawFullCommand.ofBytes, canonicalRecord, RawFullCommand.SIZE,
    arrayAt_val (show 6 + 64 ≤ buffer.length by omega),
    u32ToBeBytes_fromBeBytes _ (show ((buffer.drop 2).take 4).length = 4 by simp; omega),
    List.drop_take, List.take_take]

theorem ResetCommand.serialize_of_deserialize {buffer : Bytes} {c : ResetCommand} {n : Nat}
    (h : (Deserialize.deserialize buffer : Outcome ParseError (ResetCommand × Nat)) = .ok (c, n)) :
    n = 98 ∧ Serialize.serialize c = .ok (canonicalRecord (buffer.take n) .reset) := by
  obtain ⟨rfl, hlen, hc⟩ := sizedDeserialize_eq_ok h
  simp only [RawResetCommand.SIZE] at hlen
  cases hc
  refine ⟨rfl, ?_⟩
  simp [Serialize.serialize, RawResetCommand.ofResetCommand, RawResetCommand.toBytes,
    RawResetCommand.ofBytes, ResetCommand.tryFrom, canonicalRecord, RawResetCommand.SIZE,
    arrayAt_val (show 6 + 64 ≤ buffer.length by omega),
    u32ToBeBytes_fromBeBytes _ (show ((buffer.drop 2).take 4).length = 4 by simp; omega),
    u32ToBeBytes_fromBeBytes _ (show ((buffer.drop 74).take 4).length = 4 by simp; omega),
    List.drop_take, List.take_take]

theorem Command.deserializeRecord_eq_ok {p : PollType} {buffer : Bytes} {c : Command} {m : Nat}
    (h : Command.deserializeRecord p buffer = .ok (c, m)) :
    c.pollType = p ∧
      Command.serialize c = .ok (u16ToBeBytes p.code ++ canonicalRecord (buffer.take m) p) := by
  cases p <;> obtain ⟨⟨inner, k⟩, hd, he⟩ := Outcome.map_eq_ok.mp h <;>
    simp only [Prod.mk.injEq] at he <;> obtain ⟨rfl, rfl⟩ := he
  · obtain ⟨rfl, hs⟩ := EmptyCommand.serialize_of_deserialize hd
    exact ⟨rfl, by simp [Command.serialize, hs, Command.pollType]⟩
  · obtain ⟨rfl, hs⟩ := HostOnlyCommand.serialize_of_deserialize hd
    exact ⟨rfl, by simp [Command.serialize, hs, Command.pollType]⟩
  · obtain ⟨rfl, hs⟩ := FullCommand.serialize_of_deserialize hd
    exact ⟨rfl, by simp [Command.serialize, hs, Command.pollType]⟩
  · obtain ⟨rfl, hs⟩ := ResetCommand.serialize_of_deserialize hd
    exact ⟨rfl, by simp [Command.serialize, hs, Command.pollType]⟩

/-- What a successful decode read: a known poll type in the first two bytes, and its record
    after them. -/
theorem Command.deserialize_eq_ok {buffer : Bytes} {c : Command} {n : Nat}
    (h : Command.deserialize buffer = .ok (c, n)) :
    ∃ m p, n = m + 2 ∧ 2 ≤ buffer.length ∧
      PollType.tryFrom (u16FromBeBytes (buffer.take 2)) = .ok p ∧
      Command.deserializeRecord p (buffer.drop 2) = .ok (c, m) := by
  obtain ⟨pt, hpt, h⟩ := Outcome.bind_eq_ok.mp h
  rw [Outcome.okOr_eq_ok] at hpt
  unfold sliceGet at hpt
  split at hpt
  · next hlen =>
    cases hpt
    obtain ⟨p, hp, h⟩ := Outcome.bind_eq_ok.mp h
    rw [Outcome.mapErr_eq_ok] at hp
    rw [offsetBy_eq_ok, Outcome.map_eq_ok] at h
    obtain ⟨⟨c', m⟩, hd, he⟩ := h
    simp only [Prod.mk.injEq] at he
    obtain ⟨rfl, rfl⟩ := he
    exact ⟨m, p, rfl, hlen.2, by simpa using hp, hd⟩
  · cases hpt

/-! ## The round trip -/

/-- The poll command codec round-trips. A command whose datetime, if any, has a year in
    `0..=9999` encodes to `size()` bytes, which decode back, followed by anything, to a command
    with the same poll type, ids and host and the datetime truncated to the second. A decoded
    command encodes to the bytes it was read from with the padding and reserved bytes zeroed
    and the constants restored. -/
theorem deserialize_serialize_command (c : Command) (t : Bytes)
    (hyear : ∀ dt, c.datetime = some dt → 0 ≤ dt.year ∧ dt.year ≤ 9999) :
    (∃ bytes c', serializeToVec c = some bytes ∧ bytes.length = Serialize.size c ∧
      Command.deserialize (bytes ++ t) = .ok (c', Serialize.size c) ∧
      c'.pollType = c.pollType ∧ c'.sessionId = c.sessionId ∧ c'.actionId = c.actionId ∧
      c'.host = c.host ∧ c'.datetime = c.datetime.map PrimitiveDateTime.truncateToSecond) ∧
    (∀ buffer d n, Command.deserialize buffer = .ok (d, n) →
      serializeToVec d = some (canonicalCommand (buffer.take n) d.pollType)) := by
  refine ⟨?_, fun buffer d n h => ?_⟩
  · obtain ⟨body, hs, hlen, hd⟩ :=
      Command.serialize_deserializeRecord c (fun dt h => (hyear dt h).1) t
    refine ⟨_, c.truncateToSecond, serializeToVec_eq hs, ?_, ?_, ?_⟩
    · simp only [List.length_append, u16ToBeBytes_length]; exact hlen
    · rw [List.append_assoc, Command.deserialize_append, hd]
      simp only [Outcome.map_ok, offsetBy_ok]
      congr 2
      exact (Nat.add_comm _ _).trans hlen
    · cases c <;> simp [Command.truncateToSecond, Command.pollType, Command.sessionId,
        Command.actionId, Command.host, Command.datetime]
  · obtain ⟨m, p, rfl, hlen, hp, hd⟩ := Command.deserialize_eq_ok h
    obtain ⟨rfl, hs⟩ := Command.deserializeRecord_eq_ok hd
    rw [serializeToVec_eq hs, PollType.tryFrom_eq_ok hp,
      u16ToBeBytes_fromBeBytes _ (by simp; omega)]
    simp [canonicalCommand, List.drop_take, List.take_take]

/-- `2024-01-02 03:04:05`. -/
def datetime20240102 : PrimitiveDateTime :=
  ⟨2024, 1, 2, 3, 4, 5, 0, by decide, by decide, by decide, by decide, by decide, by decide,
    by decide⟩

/-- A full command with session id `0x01020304`, an all-zero host, and `datetime20240102`. -/
def fullCommand20240102 : Command :=
  .full ⟨0x01020304, ⟨List.replicate 64 0, rfl⟩, datetime20240102⟩

theorem deserialize_serialize_command_full :
    (∀ dt, fullCommand20240102.datetime = some dt → 0 ≤ dt.year ∧ dt.year ≤ 9999) ∧
    (∃ bytes c', serializeToVec fullCommand20240102 = some bytes ∧
      bytes.length = Serialize.size fullCommand20240102 ∧
      Command.deserialize (bytes ++ []) = .ok (c', Serialize.size fullCommand20240102) ∧
      c'.pollType = fullCommand20240102.pollType ∧ c'.sessionId = fullCommand20240102.sessionId ∧
      c'.actionId = fullCommand20240102.actionId ∧ c'.host = fullCommand20240102.host ∧
      c'.datetime = fullCommand20240102.datetime.map PrimitiveDateTime.truncateToSecond) ∧
    (∀ buffer d n, Command.deserialize buffer = .ok (d, n) →
      serializeToVec d = some (canonicalCommand (buffer.take n) d.pollType)) :=
  have h : ∀ dt, fullCommand20240102.datetime = some dt → 0 ≤ dt.year ∧ dt.year ≤ 9999 := by
    intro dt hdt
    cases hdt
    decide
  ⟨h, deserialize_serialize_command fullCommand20240102 [] h⟩

/-! ## Truncated commands -/

/-- A command cut inside its record: the empty command decodes from 80 zero bytes, but its
    first three bytes report `UnexpectedEnd` with `expected` rebased by the two poll-type bytes
    and `actual` the length of the record part alone, 1 rather than 3. -/
theorem deserialize_truncated_actual :
    Command.deserialize (List.replicate 80 0) = .ok (.empty ⟨⟩, 80) ∧
      (List.replicate 80 (0 : UInt8)).take 3 = [0, 0, 0] ∧
      Command.deserialize [0, 0, 0] = .err (.unexpectedEnd 80 1) := by
  decide

/-! ## Panics -/

theorem PollType.tryFrom_ne_panic (value : UInt16) : PollType.tryFrom value ≠ .panic := by
  unfold PollType.tryFrom
  split_ifs <;> nofun

theorem PollType.tryFrom_eq_ok_iff {value : UInt16} {p : PollType} :
    PollType.tryFrom value = .ok p ↔ value = p.code :=
  ⟨fun h => (PollType.tryFrom_eq_ok h).symm, fun h => h ▸ PollType.tryFrom_code p⟩

/-- Converting a full record panics exactly when its datetime field reads as its components
    but `try_into` refuses them. -/
theorem FullCommand.tryFrom_eq_panic (raw : RawFullCommand) :
    FullCommand.tryFrom raw = .panic ↔ ∃ parsed rest,
      Parsed.new.parseItems raw.datetime RawFullCommand.DATETIME_FORMAT = some (parsed, rest) ∧
        parsed.tryInto = none := by
  unfold FullCommand.tryFrom
  rcases Parsed.new.parseItems raw.datetime RawFullCommand.DATETIME_FORMAT with _ | ⟨parsed, rest⟩
  · simp
  · rcases h : parsed.tryInto with _ | dt <;> simp [h]

theorem Command.deserializeRecord_eq_panic (p : PollType) (buffer : Bytes) :
    Command.deserializeRecord p buffer = .panic ↔ p = .full ∧ RawFullCommand.SIZE ≤ buffer.length ∧
      FullCommand.tryFrom (RawFullCommand.ofBytes buffer) = .panic := by
  cases p <;> simp [Command.deserializeRecord, Deserialize.deserialize, sizedDeserialize_eq_panic,
    EmptyCommand.tryFrom, HostOnlyCommand.tryFrom, ResetCommand.tryFrom]

/-- The decoder's only panic is the `unwrap` of `try_into`: it panics exactly on a full
    command of at least 116 bytes whose datetime field, bytes 100 to 113, reads as its six
    components but is not a date-time. -/
theorem Command.deserialize_eq_panic (buffer : Bytes) :
    Command.deserialize buffer = .panic ↔
      u16FromBeBytes (buffer.take 2) = PollType.full.code ∧ 116 ≤ buffer.length ∧
      ∃ parsed rest, Parsed.new.parseItems ((buffer.drop 100).take 14)
        RawFullCommand.DATETIME_FORMAT = some (parsed, rest) ∧ parsed.tryInto = none := by
  by_cases hlen : 2 ≤ buffer.length
  · simp only [Command.deserialize, sliceGet_eq_some (Nat.zero_le 2) hlen, Outcome.okOr_some,
      Outcome.ok_bind, Outcome.bind_eq_panic, Outcome.mapErr_eq_panic, PollType.tryFrom_ne_panic,
      false_or, Outcome.mapErr_eq_ok, offsetBy_eq_panic, Outcome.map_eq_panic,
      Command.deserializeRecord_eq_panic, FullCommand.tryFrom_eq_panic, PollType.tryFrom_eq_ok_iff]
    simp only [RawFullCommand.ofBytes, RawFullCommand.SIZE, List.length_drop, List.drop_drop]
    constructor
    · rintro ⟨_, hp, rfl, hsize, hparse⟩
      exact ⟨hp, by omega, hparse⟩
    · rintro ⟨hp, hsize, hparse⟩
      exact ⟨_, hp, rfl, by omega, hparse⟩
  · simp [Command.deserialize, sliceGet, hlen]
    omega

/-- In calendar terms: the decoder panics exactly on a full command of at least 116 bytes whose
    datetime field reads as in-range components with a day past the end of its month, or with
    the leap second 60, which `parse_items` admits and a `PrimitiveDateTime` does not hold. -/
theorem Command.deserialize_eq_panic_iff_calendar (buffer : Bytes) :
    Command.deserialize buffer = .panic ↔
      u16FromBeBytes (buffer.take 2) = PollType.full.code ∧ 116 ≤ buffer.length ∧
      ∃ parsed rest year month day second, Parsed.new.parseItems ((buffer.drop 100).take 14)
        RawFullCommand.DATETIME_FORMAT = some (parsed, rest) ∧ parsed.year = some year ∧
        parsed.month = some month ∧ parsed.day = some day ∧ parsed.second = some second ∧
        (daysInYearMonth year month < day ∨ second = 60) := by
  rw [Command.deserialize_eq_panic]
  refine and_congr_right fun _ => and_congr_right fun hlen => ?_
  have h14 : ((buffer.drop 100).take 14).length = 14 := by simp; omega
  constructor
  · rintro ⟨parsed, rest, hp, hn⟩
    obtain ⟨y, m, d, sec, h1, h2, h3, h4, h5⟩ := (Parsed.tryInto_eq_none_iff h14 hp).mp hn
    exact ⟨parsed, rest, y, m, d, sec, hp, h1, h2, h3, h4, h5⟩
  · rintro ⟨parsed, rest, y, m, d, sec, hp, h1, h2, h3, h4, h5⟩
    exact ⟨parsed, rest, hp,
      (Parsed.tryInto_eq_none_iff h14 hp).mpr ⟨y, m, d, sec, h1, h2, h3, h4, h5⟩⟩

/-- `2023-01-01 00:00:60`: a valid date with the leap second, which `parse_items` stores and
    `try_into` refuses, so the decoder panics. -/
example : Command.deserialize (u16ToBeBytes PollType.full.code ++ List.replicate 98 0 ++
    [0x32, 0x30, 0x32, 0x33, 0x30, 0x31, 0x30, 0x31, 0x30, 0x30, 0x30, 0x30, 0x36, 0x30] ++
      [0, 0]) = .panic := by
  decide

/-- The datetime field `20230230000000`. -/
def datetimeFeb30 : Bytes :=
  [0x32, 0x30, 0x32, 0x33, 0x30, 0x32, 0x33, 0x30, 0x30, 0x30, 0x30, 0x30, 0x30, 0x30]

/-- A full command whose datetime field reads `2023-02-30 00:00:00`: each component parses in
    its range, but February 2023 has 28 days, so `try_into` fails and its `unwrap` panics. -/
theorem deserialize_datetimeFeb30 :
    Parsed.new.parseItems datetimeFeb30 RawFullCommand.DATETIME_FORMAT =
        some (⟨some 2023, some 2, some 30, some 0, some 0, some 0⟩, []) ∧
      Parsed.tryInto ⟨some 2023, some 2, some 30, some 0, some 0, some 0⟩ = none ∧
      Command.deserialize (u16ToBeBytes PollType.full.code ++ List.replicate 98 0 ++
        datetimeFeb30 ++ [0, 0]) = .panic := by
  decide

/-- A negative year does not fit the field: `format_into` writes `-` and four digits, 15 bytes
    for the 14 of `[u8; 14]`. -/
theorem formatIntoSlice_datetime_neg (dt : PrimitiveDateTime) (hyear : dt.year < 0) :
    formatIntoSlice 14 dt RawFullCommand.DATETIME_FORMAT = none := by
  simp [formatIntoSlice, format, RawFullCommand.DATETIME_FORMAT, formatComponent, hyear]

/-- The encoder's only panic is the `unwrap` of `format_into`: it panics exactly on a full
    command with a negative year. -/
theorem Command.serialize_eq_panic (c : Command) :
    Command.serialize c = .panic ↔ ∃ dt, c.datetime = some dt ∧ dt.year < 0 := by
  cases c with
  | full c =>
    by_cases hyear : c.datetime.year < 0
    · simp [Command.serialize, Serialize.serialize, RawFullCommand.ofFullCommand,
        formatIntoSlice_datetime_neg _ hyear, Command.datetime, hyear]
    · simp [Command.serialize, Serialize.serialize, RawFullCommand.ofFullCommand,
        formatIntoSlice_datetime _ (Int.not_lt.mp hyear), Command.datetime, hyear]
  | empty => simp [Command.serialize, Serialize.serialize, Command.datetime]
  | hostOnly => simp [Command.serialize, Serialize.serialize, Command.datetime]
  | reset => simp [Command.serialize, Serialize.serialize, Command.datetime]

/-- `-0001-01-01 00:00:00`, a date-time the `time` crate admits. -/
def datetimeYearMinusOne : PrimitiveDateTime :=
  ⟨-1, 1, 1, 0, 0, 0, 0, by decide, by decide, by decide, by decide, by decide, by decide,
    by decide⟩

/-- The builder accepts a full command dated `-0001-01-01`; its datetime formats to 15 bytes,
    and encoding it panics. -/
theorem serialize_datetimeYearMinusOne :
    ((((CommandBuilder.new .full).setSessionId 0).setHost ⟨List.replicate 64 0, rfl⟩).setDatetime
        datetimeYearMinusOne).build =
      some (.full ⟨0, ⟨List.replicate 64 0, rfl⟩, datetimeYearMinusOne⟩) ∧
    (format datetimeYearMinusOne RawFullCommand.DATETIME_FORMAT).length = 15 ∧
    Command.serialize (.full ⟨0, ⟨List.replicate 64 0, rfl⟩, datetimeYearMinusOne⟩) = .panic := by
  decide

end Bjnp.Poll

import ScannerButton.Bjnp.Packet
import ScannerButton.Bjnp.Discover
import ScannerButton.Bjnp.Identity
import ScannerButton.Bjnp.Poll.Command

/-
  The framing law over the crate's payload types. A packet built around a payload serializes,
  and `PacketHeaderOnly::parse` of its bytes, whatever follows them, returns the builder's
  header fields, `payload_size = size()`, and as payload slice exactly the bytes the payload
  serializer wrote (`FramesBack`). It holds for every payload whose serializer writes `size()`
  bytes and whose size fits in a `u32` (`framesBack_of_serialize`), which is every empty
  payload, every discover response, every identity response of at most `u16::MAX` bytes, and
  every poll command whose year is in `0..=9999` (`packet_framing`).
-/

namespace Bjnp

open Poll

/-- The framing law for a payload `x` built with `b` and followed by `t`. -/
def FramesBack {α : Type} [Serialize α] (b : PacketBuilder) (x : α) (t : Bytes) : Prop :=
  ∃ v h bytes, serializeToVec (b.build x) = some v ∧ PacketHeaderOnly.parse (v ++ t) = .ok h ∧
    Serialize.serialize x = .ok bytes ∧
    h.header.packetType = b.packetType ∧ h.header.payloadType = b.payloadType ∧
    h.header.error = b.error.getD 0 ∧ h.header.sequence = b.sequence.getD 0 ∧
    h.header.jobId = b.jobId ∧ h.header.payloadSize.toNat = Serialize.size x ∧
    h.payload = bytes ∧ bytes.length = Serialize.size x

/-- A payload that serializes to `size()` bytes, fewer than `2^32`, frames back. -/
theorem framesBack_of_serialize {α : Type} [Serialize α] (b : PacketBuilder) (x : α) (t : Bytes)
    {bytes : Bytes} (hx : Serialize.serialize x = .ok bytes)
    (hlen : bytes.length = Serialize.size x) (hsize : Serialize.size x < 4294967296) : FramesBack b x t := by
  obtain ⟨v, hv, hp⟩ := parse_serializeToVec_build b x bytes t hx hlen hsize
  exact ⟨v, _, bytes, hv, hp, hx, rfl, rfl, rfl, rfl, rfl, by simp [Nat.mod_eq_of_lt hsize], rfl,
    hlen⟩

theorem framesBack_empty (b : PacketBuilder) (x : Empty) (t : Bytes) : FramesBack b x t :=
  framesBack_of_serialize b x t rfl rfl (show 0 < 4294967296 by decide)

theorem framesBack_discover (b : PacketBuilder) (x : Discover.Response) (t : Bytes) :
    FramesBack b x t := by
  obtain ⟨bytes, hx, hlen⟩ := Discover.serialize_response x
  refine framesBack_of_serialize b x t hx hlen ?_
  show Discover.RawResponseHeader.SIZE + Serialize.size x.macAddr + Serialize.size x.ipAddr <
    4294967296
  rcases x with ⟨m | m, i | i⟩ <;> simp [Serialize.size, Discover.RawResponseHeader.SIZE]

theorem framesBack_identity (b : PacketBuilder) (x : Identity.Response) (t : Bytes)
    (h : 2 + x.asStrLen ≤ 65535) : FramesBack b x t := by
  obtain ⟨hx, hlen⟩ := Identity.serialize_identity x (by omega)
  exact framesBack_of_serialize b x t hx hlen (show 2 + x.asStrLen < 4294967296 by omega)

theorem framesBack_command (b : PacketBuilder) (x : Command) (t : Bytes)
    (h : ∀ dt, x.datetime = some dt → 0 ≤ dt.year) : FramesBack b x t := by
  obtain ⟨body, hs, hlen, -⟩ := Command.serialize_deserializeRecord x h []
  refine framesBack_of_serialize b x t hs (by simpa [Nat.add_comm] using hlen) ?_
  show x.size < 4294967296
  cases x <;> simp [Command.size, Serialize.size, RawEmptyCommand.SIZE, RawHostOnlyCommand.SIZE,
    RawFullCommand.SIZE, RawResetCommand.SIZE]

/-- The framing law holds for every payload type of the crate: every empty payload and
    discover response, every identity response of at most `u16::MAX` bytes, and every poll
    command whose datetime, if any, has a year in `0..=9999`. -/
theorem packet_framing (b : PacketBuilder) (t : Bytes) :
    (∀ x : Empty, FramesBack b x t) ∧
    (∀ x : Discover.Response, FramesBack b x t) ∧
    (∀ x : Identity.Response, 2 + x.asStrLen ≤ 65535 → FramesBack b x t) ∧
    (∀ x : Command, (∀ dt, x.datetime = some dt → 0 ≤ dt.year ∧ dt.year ≤ 9999) →
      FramesBack b x t) :=
  ⟨fun x => framesBack_empty b x t, fun x => framesBack_discover b x t,
    fun x => framesBack_identity b x t,
    fun x h => framesBack_command b x t fun dt hdt => (h dt hdt).1⟩

theorem packet_framing_getId_poll :
    (2 + (Identity.collect [([0x41], [0x42])]).asStrLen ≤ 65535 ∧
      FramesBack (PacketBuilder.new .scannerResponse .getId) (Identity.collect [([0x41], [0x42])]) []) ∧
    ((∀ dt, fullCommand20240102.datetime = some dt → 0 ≤ dt.year ∧ dt.year ≤ 9999) ∧
      FramesBack (PacketBuilder.new .scannerCommand .poll) fullCommand20240102 []) :=
  have hid : 2 + (Identity.collect [([0x41], [0x42])]).asStrLen ≤ 65535 := by decide
  have hyear : ∀ dt, fullCommand20240102.datetime = some dt → 0 ≤ dt.year ∧ dt.year ≤ 9999 := by
    intro dt hdt
    cases hdt
    decide
  ⟨⟨hid, (packet_framing _ _).2.2.1 _ hid⟩, ⟨hyear, (packet_framing _ _).2.2.2 _ hyear⟩⟩

end Bjnp

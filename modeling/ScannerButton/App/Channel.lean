import ScannerButton.App.Runtime

/-
  The program's channel to the scanner (`src/channel.rs`). `send` builds a scanner-command
  packet around the payload with the channel's sequence, serializes it and sends it; the
  sequence advances, wrapping, only once the datagram is out. `recv` reads a datagram into a
  64 KiB buffer, parses the header with the `usize` arithmetic of the build it runs as
  (`PacketHeaderOnly.parseAt`), refuses a reply that reports an error and carries no payload,
  and decodes the payload. Each is run inside `timeout(..)` by the listener and
  consumes one answer of the environment.
-/

namespace ScannerButton

open Bjnp Bjnp.Poll

namespace Channel

/-- `Channel::reset_sequence`. -/
def resetSequence : Io Unit := fun l =>
  (.ok (), { l with channel := ⟨0⟩, trace := l.trace ++ [.resetSequence] })

/-- The packet `Channel::send` builds: a scanner command of `payloadType` with the sequence
    `sequence`. -/
def packet (payloadType : PayloadType) (sequence : UInt16) (payload : Outbound) : Packet Outbound :=
  ((PacketBuilder.new .scannerCommand payloadType).setSequence sequence).build payload

@[simp] theorem packet_sequence (payloadType : PayloadType) (sequence : UInt16)
    (payload : Outbound) : (packet payloadType sequence payload).header.sequence = sequence := rfl

@[simp] theorem packet_payloadType (payloadType : PayloadType) (sequence : UInt16)
    (payload : Outbound) :
    (packet payloadType sequence payload).header.payloadType = payloadType := rfl

@[simp] theorem packet_payload (payloadType : PayloadType) (sequence : UInt16)
    (payload : Outbound) : (packet payloadType sequence payload).payload = payload := rfl

/-- `Channel::send`: `serialize_to_vec` panics where the payload does not serialize; a packet
    the socket takes is recorded and advances the sequence. -/
def send (env : Env) (payloadType : PayloadType) (payload : Outbound) : Io Unit := fun l =>
  let command := packet payloadType l.channel.sequence payload
  match serializeToVec command with
  | none => (.panic, l)
  | some _ =>
    match env.reply l.ops with
    | .ok _ =>
      (.ok (), { l with
        channel := ⟨l.channel.sequence + 1⟩
        ops := l.ops + 1
        trace := l.trace ++ [.sent command] })
    | .fail => (.err .io, { l with ops := l.ops + 1 })

/-- The checks of `Channel::recv` on a received datagram, as built for `target`: the header,
    the remote error code (an error is accepted only with a payload), and the payload's
    decoder. -/
def decode {α : Type} [Deserialize α] (target : Target) (datagram : Bytes) :
    Outcome ListenError α := do
  let buffer := datagram.take 65536
  let packet ←
    (PacketHeaderOnly.parseAt target.usizeBits target.overflowChecks buffer).mapErr .parse
  if packet.header.error = 0 ∨ packet.header.payloadSize.toNat > 0 then do
    let packet ← (Packet.tryFrom packet : Outcome ParseError (Packet α)).mapErr .parse
    pure packet.payload
  else .err (.remote packet.header.error)

/-- `Channel::recv`; the decoded payload is recorded, as `wrap` shows it. -/
def recv {α : Type} [Deserialize α] (env : Env) (wrap : α → Inbound) : Io α := fun l =>
  let l' := { l with ops := l.ops + 1 }
  match env.reply l.ops with
  | .fail => (.err .io, l')
  | .ok datagram =>
    match (decode env.target datagram : Outcome ListenError α) with
    | .ok payload => (.ok payload, { l' with trace := l'.trace ++ [.received (wrap payload)] })
    | .err e => (.err e, l')
    | .panic => (.panic, l')

end Channel

end ScannerButton

import ScannerButton.App.Listener

/-
  Where the listener panics (`src/poll.rs`, `src/channel.rs`). A panic ends the program, since
  `listen` only catches the `Err` of a turn.

  The receiving side panics only in the header parser's `offset + payload_size`, on a build that
  checks overflow and whose `usize` cannot hold the sum. On every other build
  (`Target.NoOverflowPanic`) the header parser, the discover and poll response decoders and
  `Packet::try_from` report every defect as an error, so `Channel::recv` fails or returns
  (`Channel.decode_ne_panic`). On the sending side, `serialize_to_vec(..)` panics only on a full
  poll whose datetime has a negative year (`serializeToVec_packet_eq_none`), and the builders'
  `unwrap`s always find their fields set.

  On a build without the receiving panic, `try_init` and the acknowledgement of an interrupt
  never panic (`tryInit_noPanic`, `cancelJob_noPanic`), a poll round panics exactly when the
  local time it reads has a negative year (`pollRound_eq_panic`), and so a turn of the listener
  panics exactly in `Poll`, at such a time (`next_eq_panic`): such a turn ends the run, and any
  other lets it go on from the listener it leaves (`listen_succ_eq`). On a build with it, such as
  a 32-bit debug build, one datagram ends the run from any state: a turn whose first receive
  gets a header declaring `2^32 - 16` bytes or more panics (`next_eq_panic_of_wrapping`).
-/

namespace ScannerButton

open Bjnp Bjnp.Poll Time Io

/-! ## The channel's codecs -/

/-- On a build that wraps, or whose `usize` holds every `16 + payload_size`, the header parser
    does not panic. -/
theorem Target.NoOverflowPanic.parseAt_ne_panic {target : Target} (ht : target.NoOverflowPanic)
    (buffer : Bytes) :
    PacketHeaderOnly.parseAt target.usizeBits target.overflowChecks buffer ≠ .panic := by
  intro h
  obtain ⟨hchecks, header, -, hwrap⟩ := (PacketHeaderOnly.parseAt_eq_panic target.wide _ _).mp h
  have hps : header.payloadSize.toNat < 2 ^ 32 := header.payloadSize.toNat_lt_size
  rcases ht with hoff | hbits
  · rw [hoff] at hchecks
    cases hchecks
  · have hpow : 2 ^ 33 ≤ 2 ^ target.usizeBits := Nat.pow_le_pow_right (by decide) hbits
    omega

namespace Channel

/-- The checks of `recv` never panic on such a build when the payload's decoder does not. -/
theorem decode_ne_panic {α : Type} [Deserialize α] {target : Target} (ht : target.NoOverflowPanic)
    (hα : ∀ b, (Deserialize.deserialize b : Outcome ParseError (α × Nat)) ≠ .panic)
    (datagram : Bytes) : (decode target datagram : Outcome ListenError α) ≠ .panic := by
  unfold decode
  intro h
  rcases Outcome.bind_eq_panic.mp h with h | ⟨packet, -, h⟩
  · exact ht.parseAt_ne_panic _ (Outcome.mapErr_eq_panic.mp h)
  · split at h
    · rcases Outcome.bind_eq_panic.mp h with h | ⟨_, -, h⟩
      · exact Packet.tryFrom_ne_panic hα _ (Outcome.mapErr_eq_panic.mp h)
      · cases h
    · cases h

/-- The checks of `recv` panic, whatever the payload, on a header whose declared size does not
    fit in `usize` once added to 16, on a build that checks overflow. -/
theorem decode_eq_panic {α : Type} [Deserialize α] {target : Target} {datagram : Bytes}
    {header : Header}
    (hheader : (Deserialize.deserialize (datagram.take 65536) :
      Outcome ParseError (Header × Nat)) = .ok (header, 16))
    (hchecks : target.overflowChecks = true)
    (hwrap : 2 ^ target.usizeBits ≤ 16 + header.payloadSize.toNat) :
    (decode target datagram : Outcome ListenError α) = .panic := by
  have h := (PacketHeaderOnly.parseAt_eq_panic target.wide target.overflowChecks _).mpr
    ⟨hchecks, header, hheader, hwrap⟩
  simp only [decode, h, Outcome.mapErr_panic, Outcome.panic_bind]

end Channel

/-- `serialize_to_vec` of a scanner command fails, and `send` panics, exactly on a full poll
    whose datetime has a negative year. -/
theorem serializeToVec_packet_eq_none (payloadType : PayloadType) (sequence : UInt16)
    (payload : Outbound) :
    serializeToVec (Channel.packet payloadType sequence payload) = none ↔
      ∃ c dt, payload = .command c ∧ c.datetime = some dt ∧ dt.year < 0 := by
  have hser : ∀ bytes, Serialize.serialize payload = .ok bytes →
      serializeToVec (Channel.packet payloadType sequence payload) ≠ none := fun bytes h =>
    by rw [Channel.packet, serializeToVec_eq (serialize_build _ _ bytes h)]; nofun
  cases payload with
  | empty e => exact iff_of_false (hser [] rfl) fun ⟨_, _, h, _⟩ => Outbound.noConfusion h
  | command c =>
    by_cases hyear : ∃ dt, c.datetime = some dt ∧ dt.year < 0
    · obtain ⟨dt, hdt, hneg⟩ := hyear
      refine iff_of_true ?_ ⟨c, dt, rfl, hdt, hneg⟩
      have hpanic : Command.serialize c = .panic := (Command.serialize_eq_panic c).mpr ⟨dt, hdt, hneg⟩
      simp [serializeToVec, Serialize.serialize, Channel.packet, PacketBuilder.build, hpanic]
    · obtain ⟨body, hbody, -⟩ := Command.serialize_deserializeRecord c
        (fun dt hdt => Int.not_lt.mp fun hneg => hyear ⟨dt, hdt, hneg⟩) []
      refine iff_of_false (hser _ hbody) fun ⟨c', dt, hc, hdt, hneg⟩ => hyear ?_
      cases hc
      exact ⟨dt, hdt, hneg⟩

/-! ## Computations that do not panic -/

/-- `x` returns or fails, from every listener, and never panics. -/
def NoPanic {α : Type} (x : Io α) : Prop := ∀ l, (x l).1 ≠ .panic

namespace NoPanic

variable {α β : Type}

theorem pure (a : α) : NoPanic (Pure.pure a : Io α) := fun _ => nofun

theorem bind {x : Io α} {f : α → Io β} (hx : NoPanic x) (hf : ∀ a, NoPanic (f a)) :
    NoPanic (x >>= f) := by
  intro l
  have h := hx l
  rw [bind_apply]
  revert h
  rcases x l with ⟨_ | _ | _, l'⟩ <;> intro h
  · exact hf _ l'
  · nofun
  · exact absurd rfl h

theorem throw (e : ListenError) : NoPanic (Io.throw e : Io α) := fun _ => nofun

theorem unwrap_some_bind {a : α} {f : α → Io β} (h : NoPanic (f a)) :
    NoPanic (Io.unwrap (some a) >>= f) := h

theorem ite {c : Prop} [Decidable c] {x y : Io α} (hx : NoPanic x) (hy : NoPanic y) :
    NoPanic (if c then x else y) := by
  split <;> assumption

theorem send {env : Env} {payloadType : PayloadType} {payload : Outbound}
    (h : ∀ c, payload = .command c → ∀ dt, c.datetime = some dt → 0 ≤ dt.year) :
    NoPanic (Channel.send env payloadType payload) := by
  intro l
  simp only [Channel.send]
  split
  · next hnone =>
    obtain ⟨c, dt, hc, hdt, hneg⟩ := (serializeToVec_packet_eq_none _ _ _).mp hnone
    exact absurd (h c hc dt hdt) (Int.not_le.mpr hneg)
  · split <;> nofun

theorem recv {env : Env} [Deserialize α] {wrap : α → Inbound} (ht : env.target.NoOverflowPanic)
    (hα : ∀ b, (Deserialize.deserialize b : Outcome ParseError (α × Nat)) ≠ .panic) :
    NoPanic (Channel.recv env wrap) := by
  intro l
  simp only [Channel.recv]
  split
  · nofun
  · next datagram _ =>
    have h := Channel.decode_ne_panic ht hα datagram
    revert h
    rcases (Channel.decode env.target datagram : Outcome ListenError α) with _ | _ | _ <;>
      intro h
    · nofun
    · nofun
    · exact absurd rfl h

end NoPanic

/-! ## The turns -/

section Turns

variable (cfg : ListenConfig) (env : Env)

theorem tryInit_noPanic (ht : env.target.NoOverflowPanic) : NoPanic (Listener.tryInit cfg env) := by
  refine .bind (fun _ => nofun) fun _ => .bind (.send fun _ h => nomatch h) fun _ =>
    .bind (.recv ht Discover.Response.deserialize_ne_panic) fun _ => .unwrap_some_bind <|
    .bind (.send fun _ h _ hdt => by cases h; cases hdt) fun _ =>
    .bind (.recv ht Response.deserialize_ne_panic) fun resp => ?_
  cases resp.sessionId
  · exact .throw _
  · exact fun _ => nofun

theorem cancelJob_noPanic (ht : env.target.NoOverflowPanic) (resp : Response) :
    NoPanic (Listener.cancelJob cfg env resp) := by
  refine .bind ?_ fun _ => .bind (fun _ => nofun) fun _ => .unwrap_some_bind <|
    .bind (.send fun _ h _ hdt => by cases h; cases hdt) fun _ =>
    .bind (.recv ht Response.deserialize_ne_panic) fun _ => .pure _
  cases resp.interrupt
  · exact .pure _
  · exact fun _ => nofun

/-- On such a build, a poll round panics exactly when the local time it reads has a negative
    year: the full poll then does not encode. -/
theorem pollRound_eq_panic (ht : env.target.NoOverflowPanic) (l : Listener) :
    (Listener.pollRound cfg env l).1 = .panic ↔ (env.clock l.ops).year < 0 := by
  -- the round reads the clock and the session id, then builds its full poll
  have hread : ∀ {β : Type} (f : PrimitiveDateTime → UInt32 → Io β),
      (Listener.now env >>= fun now => Listener.getSessionId >>= f now) l =
        f (env.clock l.ops) l.sessionId l := fun _ => rfl
  unfold Listener.pollRound
  rw [hread]
  by_cases hyear : (env.clock l.ops).year < 0
  · refine iff_of_true ?_ hyear
    have hnone := (serializeToVec_packet_eq_none .poll l.channel.sequence
      (.command (.full ⟨l.sessionId, cfg.hostname, env.clock l.ops⟩))).mpr ⟨_, _, rfl, rfl, hyear⟩
    have hsend : Channel.send env .poll (.command (.full ⟨l.sessionId, cfg.hostname,
        env.clock l.ops⟩)) l = (.panic, l) := by
      simp only [Channel.send, hnone]
    show ((Channel.send env .poll _ >>= _) l).1 = _
    rw [bind_apply, hsend]
  · refine iff_of_false (NoPanic.unwrap_some_bind (.bind (.send ?_) fun _ =>
      .bind (.recv ht Response.deserialize_ne_panic) fun resp =>
        .bind ?_ fun _ => .ite (cancelJob_noPanic cfg env ht resp) (.pure _)) l) hyear
    · intro c hc dt hdt
      cases hc
      cases hdt
      exact Int.not_lt.mp hyear
    · cases resp.sessionId
      · exact .pure _
      · exact fun _ => nofun

/-- A turn panics exactly when its round does. -/
theorem bind_poll_eq_panic (x : Io Unit) (l : Listener) :
    ((x >>= fun _ => Pure.pure State.poll) l).1 = .panic ↔ (x l).1 = .panic := by
  rw [bind_apply]
  rcases x l with ⟨_ | _ | _, l'⟩ <;> simp

/-- On such a build, a turn of the listener panics exactly in `Poll`, when the local time it
    reads has a negative year. -/
theorem next_eq_panic (ht : env.target.NoOverflowPanic) (state : State) (l : Listener) :
    (Listener.next cfg env state l).1 = .panic ↔ state = .poll ∧ (env.clock l.ops).year < 0 := by
  cases state with
  | poll =>
    exact (bind_poll_eq_panic _ l).trans
      ((pollRound_eq_panic cfg env ht l).trans (and_iff_right rfl).symm)
  | init | backoff _ =>
    exact iff_of_false ((bind_poll_eq_panic _ l).not.mpr (tryInit_noPanic cfg env ht l)) nofun

/-- On a build without the receiving panic, a turn ends the run exactly when it panics, in
    `Poll` at a negative year; otherwise the run goes on from the listener the turn leaves. -/
theorem listen_succ_eq (ht : env.target.NoOverflowPanic) (n : Nat) (l : Listener) :
    listen cfg env (n + 1) l =
      if l.state = .poll ∧ (env.clock l.ops).year < 0 then listen cfg env 1 l
      else listen cfg env n (listen cfg env 1 l) := by
  have hnext := next_eq_panic cfg env ht l.state l
  simp only [listen]
  revert hnext
  rcases Listener.next cfg env l.state l with ⟨_ | _ | _, l'⟩ <;> intro hnext
  · rw [if_neg (hnext.not.mp nofun)]
  · rw [if_neg (hnext.not.mp nofun)]
  · rw [if_pos (hnext.mp rfl)]

theorem listen_succ_eq_debug64 :
    Target.debug64.NoOverflowPanic ∧
      listen ⟨⟨List.replicate 64 0, rfl⟩, 10, fun d => 2 * d, 60⟩
          ⟨fun _ => .fail, fun _ => datetime20240102, Target.debug64⟩ 3 Listener.new =
        if Listener.new.state = .poll ∧ datetime20240102.year < 0 then
          listen ⟨⟨List.replicate 64 0, rfl⟩, 10, fun d => 2 * d, 60⟩
            ⟨fun _ => .fail, fun _ => datetime20240102, Target.debug64⟩ 1 Listener.new
        else listen ⟨⟨List.replicate 64 0, rfl⟩, 10, fun d => 2 * d, 60⟩
          ⟨fun _ => .fail, fun _ => datetime20240102, Target.debug64⟩ 2
          (listen ⟨⟨List.replicate 64 0, rfl⟩, 10, fun d => 2 * d, 60⟩
            ⟨fun _ => .fail, fun _ => datetime20240102, Target.debug64⟩ 1 Listener.new) :=
  ⟨by decide, listen_succ_eq _ _ (by decide) 2 _⟩

/-- A send the scanner takes, then a receive of a datagram on which the decoder panics: the
    computation panics there. -/
theorem send_recv_eq_panic {α β : Type} [Deserialize α] {payloadType : PayloadType}
    {payload : Outbound} {wrap : α → Inbound} {f : α → Io β} {l : Listener} {datagram : Bytes}
    (hsend : env.reply l.ops ≠ .fail) (hrecv : env.reply (l.ops + 1) = .ok datagram)
    (hdecode : (Channel.decode env.target datagram : Outcome ListenError α) = .panic) :
    ((Channel.send env payloadType payload >>= fun _ => Channel.recv env wrap >>= f) l).1 =
      .panic := by
  rw [bind_apply]
  rcases hser : serializeToVec (Channel.packet payloadType l.channel.sequence payload) with _ | _
  · simp only [Channel.send, hser]
  · rcases hr : env.reply l.ops with _ | _
    · simp only [Channel.send, hser, hr, bind_apply, Channel.recv, hrecv, hdecode]
    · exact absurd hr hsend

/-- On a build that checks overflow, a turn panics in every state when the scanner takes its
    first send and answers its first receive with a header declaring a size that does not fit
    in `usize` once added to 16. -/
theorem next_eq_panic_of_wrapping (state : State) (l : Listener) {datagram : Bytes}
    {header : Header} (hsend : env.reply l.ops ≠ .fail)
    (hrecv : env.reply (l.ops + 1) = .ok datagram)
    (hheader : (Deserialize.deserialize (datagram.take 65536) :
      Outcome ParseError (Header × Nat)) = .ok (header, 16))
    (hchecks : env.target.overflowChecks = true)
    (hwrap : 2 ^ env.target.usizeBits ≤ 16 + header.payloadSize.toNat) :
    (Listener.next cfg env state l).1 = .panic := by
  have hdecode : ∀ {α : Type} [Deserialize α],
      (Channel.decode env.target datagram : Outcome ListenError α) = .panic :=
    Channel.decode_eq_panic hheader hchecks hwrap
  cases state with
  | poll =>
    refine (bind_poll_eq_panic _ l).mpr ?_
    show ((Channel.send env .poll _ >>= _) l).1 = _
    exact send_recv_eq_panic env hsend hrecv hdecode
  | init | backoff _ =>
    exact (bind_poll_eq_panic _ l).mpr (send_recv_eq_panic env
      (l := { l with channel := ⟨0⟩, trace := l.trace ++ [.resetSequence] }) hsend hrecv hdecode)

/-- On a build that checks overflow and whose `usize` cannot hold every `16 + payload_size`,
    one datagram ends the run from any state: once the scanner takes the turn's first send and
    answers its first receive with a header declaring such a size, no later turn runs. -/
theorem listen_stops_of_wrapping (n : Nat) (l : Listener) {datagram : Bytes} {header : Header}
    (hsend : env.reply l.ops ≠ .fail) (hrecv : env.reply (l.ops + 1) = .ok datagram)
    (hheader : (Deserialize.deserialize (datagram.take 65536) :
      Outcome ParseError (Header × Nat)) = .ok (header, 16))
    (hchecks : env.target.overflowChecks = true)
    (hwrap : 2 ^ env.target.usizeBits ≤ 16 + header.payloadSize.toNat) :
    listen cfg env (n + 1) l = (Listener.next cfg env l.state l).2 := by
  have hnext := next_eq_panic_of_wrapping cfg env l.state l hsend hrecv hheader hchecks hwrap
  simp only [listen]
  revert hnext
  rcases Listener.next cfg env l.state l with ⟨_ | _ | _, l'⟩ <;> intro hnext
  · cases hnext
  · cases hnext
  · rfl

end Turns

/-- A scanner that answers the first receive with `wrappingHeader`, to a 32-bit debug build. -/
def wrappingScanner : Env :=
  ⟨fun n => if n = 1 then .ok wrappingHeader else .ok [], fun _ => datetime20240102,
    ⟨32, true, le_rfl⟩⟩

theorem listen_stops_of_wrapping_init :
    (wrappingScanner.reply Listener.new.ops ≠ .fail ∧
      wrappingScanner.reply (Listener.new.ops + 1) = .ok wrappingHeader ∧
      (Deserialize.deserialize (wrappingHeader.take 65536) : Outcome ParseError (Header × Nat)) =
        .ok (⟨.scannerResponse, .discover, 0, 0, none, 0xFFFFFFF0⟩, 16) ∧
      wrappingScanner.target.overflowChecks = true ∧
      2 ^ wrappingScanner.target.usizeBits ≤ 16 + (0xFFFFFFF0 : UInt32).toNat) ∧
    listen ⟨⟨List.replicate 64 0, rfl⟩, 10, fun d => 2 * d, 60⟩ wrappingScanner 5 Listener.new =
      (Listener.next ⟨⟨List.replicate 64 0, rfl⟩, 10, fun d => 2 * d, 60⟩ wrappingScanner
        Listener.new.state Listener.new).2 :=
  have h : wrappingScanner.reply Listener.new.ops ≠ .fail ∧
      wrappingScanner.reply (Listener.new.ops + 1) = .ok wrappingHeader ∧
      (Deserialize.deserialize (wrappingHeader.take 65536) : Outcome ParseError (Header × Nat)) =
        .ok (⟨.scannerResponse, .discover, 0, 0, none, 0xFFFFFFF0⟩, 16) ∧
      wrappingScanner.target.overflowChecks = true ∧
      2 ^ wrappingScanner.target.usizeBits ≤ 16 + (0xFFFFFFF0 : UInt32).toNat := by decide
  ⟨h, listen_stops_of_wrapping _ _ 4 _ h.1 h.2.1 h.2.2.1 h.2.2.2.1 h.2.2.2.2⟩

end ScannerButton

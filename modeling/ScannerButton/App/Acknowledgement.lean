import ScannerButton.App.Conformance

/-
  The acknowledgement of scan-button interrupts (`src/poll.rs`, `State::Poll`). A poll round
  reacts to the answer of its full poll when the status is exactly `0x8000`: it launches the
  interrupt and acknowledges the action id with a reset poll. The decoder classifies a
  response as an interrupt by bit `0x8000` of the status alone.

  Proved here: in the session automaton, the events after the answer to a full poll, up to a
  settled end, acknowledge it exactly when its status is `0x8000` (`SessionState.run_afterFull`).
  Every run of the listener ends settled, so in every run an answer of status `0x8000` to a
  full poll is an interrupt, launched at once, and the next packet out is the reset poll
  carrying its action id, unless that send failed and the listener started a new session; an
  answer of any other status is not launched, and the next packet is a full poll or a new
  session (`listen_interrupt_acknowledged`). So an answer with the bit set and another status bit as
  well is decoded as an interrupt and left unanswered (`listen_interrupt_bit_ignored`).
-/

namespace ScannerButton

open Bjnp Bjnp.Poll Time

/-- The answer `r` is acknowledged by the events `post` that follow it: it is an interrupt with
    an action id, launched at once, and the next event is the reset poll carrying that action
    id, or a sequence reset starting a new session, or none yet. -/
def Acknowledged (r : Response) (post : List Event) : Prop :=
  ∃ i a vars rest, r.interrupt = some i ∧ r.actionId = some a ∧
    post = .launched i vars :: rest ∧
    (rest.head? = none ∨ rest.head? = some .resetSequence ∨
      ∃ q c, rest.head? = some (.sent q) ∧ q.payload = .command (.reset c) ∧ c.actionId = a)

/-- The events `post` after an answer leave it unacknowledged: nothing is launched, and the next
    event is a full poll, a sequence reset starting a new session, or none yet. -/
def Unacknowledged (post : List Event) : Prop :=
  post.head? = none ∨ post.head? = some .resetSequence ∨
    ∃ q c, post.head? = some (.sent q) ∧ q.payload = .command (.full c)

/-- In the automaton, the events after the answer to a full poll, up to a settled end,
    acknowledge it exactly when its status is `0x8000`. -/
theorem SessionState.run_afterFull {s t : SessionState} {sessionId : UInt32} {r : Response}
    {post : List Event} (hs : s.phase = Phase.afterFull sessionId r) (hr : r.Classified)
    (hrun : s.run post = some t) (ht : t.phase.Settled) :
    (r.status = 0x8000 → Acknowledged r post) ∧ (r.status ≠ 0x8000 → Unacknowledged post) := by
  refine ⟨fun hstatus => ?_, fun hstatus => ?_⟩
  · obtain ⟨i, a, hi, ha⟩ := hr.interrupt_of_status hstatus
    have hpending : s.phase = .interrupted (r.sessionId.getD sessionId) a (some i) := by
      simp [hs, Phase.afterFull, hstatus, hi, ha]
    cases post with
    | nil =>
      cases hrun
      simp [Phase.Settled, Phase.pending, hpending] at ht
    | cons e rest =>
      obtain ⟨s2, h2, hrun⟩ := Option.bind_eq_some.mp hrun
      obtain ⟨vars, rfl, rfl⟩ := step_pending hpending h2
      refine ⟨i, a, vars, rest, hi, ha, rfl, ?_⟩
      cases rest with
      | nil => exact .inl rfl
      | cons e rest =>
        obtain ⟨s3, h3, -⟩ := Option.bind_eq_some.mp hrun
        rcases step_launched rfl h3 with rfl | ⟨q, c, rfl, hq, -, hc⟩
        · exact .inr (.inl rfl)
        · exact .inr (.inr ⟨q, c, rfl, hq, hc⟩)
  · have hpolling : s.phase = .polling (r.sessionId.getD sessionId) := by
      simp [hs, Phase.afterFull, hstatus]
    cases post with
    | nil => exact .inl rfl
    | cons e rest =>
      obtain ⟨s2, h2, -⟩ := Option.bind_eq_some.mp hrun
      rcases step_polling hpolling h2 with rfl | ⟨q, c, rfl, hq, -⟩
      · exact .inr (.inl rfl)
      · exact .inr (.inr ⟨q, c, rfl, hq⟩)

theorem listen_interrupt_acknowledged (cfg : ListenConfig) (env : Env) (n : Nat)
    {pre post : List Event} {p : Packet Outbound} {c : FullCommand} {r : Response}
    (htrace : (listen cfg env n Listener.new).trace = pre ++ .received (.poll r) :: post)
    (hlast : lastSend pre = some (.sent p)) (hfull : p.payload = .command (.full c)) :
    (r.status = 0x8000 → Acknowledged r post) ∧ (r.status ≠ 0x8000 → Unacknowledged post) := by
  obtain ⟨_, hp, ⟨t, ht, rfl, -⟩, hcls, -⟩ :=
    listen_settled cfg env n new_settled fun h => nomatch h
  rw [htrace, SessionState.run_append] at ht
  obtain ⟨s0, h0, ht⟩ := Option.bind_eq_some.mp ht
  obtain ⟨s1, h1, ht⟩ := Option.bind_eq_some.mp ht
  obtain ⟨sid, hsid⟩ := received_after_full h0 hlast hfull h1
  exact SessionState.run_afterFull (receive_full hsid h1) (hcls r (by simp [htrace])) ht hp

/-! ## A scanner that interrupts -/

/-- A datagram of the scanner: a scanner-response header of `payloadType` around `payload`. -/
def scannerReply (payloadType : PayloadType) (payload : Bytes) : Bytes :=
  (RawHeader.ofHeader ⟨.scannerResponse, payloadType, 0, 0, none,
    UInt32.ofNat payload.length⟩).toBytes ++ payload

/-- The payload of a poll response. -/
def pollPayload (status sessionId actionId : UInt32) (interrupt : Bytes) : Bytes :=
  u32ToBeBytes status ++ u32ToBeBytes sessionId ++ [0, 0, 0, 0x14] ++ u32ToBeBytes actionId ++
    interrupt

/-- A discover response: a MAC-48 address and an IPv4 address. -/
def discoverPayload : Bytes := [0, 1, 8, 0, 6, 4, 1, 2, 3, 4, 5, 6, 192, 168, 0, 2]

/-- A colour A4 JPEG scan at 300 dpi from the flatbed. -/
def flatbedInterrupt : Interrupt := ⟨.color, .a4, .jpeg, .dpi300, .flatbed, none, none⟩

/-- A listener configured with an all-zero host name. -/
def zeroHostConfig : ListenConfig := ⟨⟨List.replicate 64 0, rfl⟩, 10, fun d => 2 * d, 60⟩

/-- A scanner that answers the discovery and the host-only poll (session 1), answers the first
    full poll with `status`, action id 7 and a flatbed interrupt, and loses the next answer; the
    program is a 64-bit debug build. -/
def interruptingScanner (status : UInt32) : Env where
  reply
    | 1 => .ok (scannerReply .discover discoverPayload)
    | 3 => .ok (scannerReply .poll (pollPayload 0 1 0 (List.replicate 20 0)))
    | 5 => .ok (scannerReply .poll (pollPayload status 0 7
      (RawInterrupt.ofInterrupt flatbedInterrupt).toBytes))
    | 7 => .fail
    | _ => .ok []
  clock _ := datetime20240102
  target := Target.debug64

/-- Three turns of the listener against `interruptingScanner status`. -/
def interruptRun (status : UInt32) : List Event :=
  (listen zeroHostConfig (interruptingScanner status) 3 Listener.new).trace

/-- The full poll of session 1 with sequence number `sequence`. -/
def fullPoll (sequence : UInt16) : Packet Outbound :=
  Channel.packet .poll sequence
    (.command (.full ⟨1, zeroHostConfig.hostname, datetime20240102⟩))

/-- The answer of `interruptingScanner status` to the first full poll, decoded. -/
def interruptResponse (status : UInt32) : Response :=
  ⟨status, none, some 7, some flatbedInterrupt⟩

theorem listen_interrupt_acknowledged_run :
    (interruptRun 0x8000 = (interruptRun 0x8000).take 6 ++
        .received (.poll (interruptResponse 0x8000)) :: (interruptRun 0x8000).drop 7 ∧
      lastSend ((interruptRun 0x8000).take 6) = some (.sent (fullPoll 2)) ∧
      (fullPoll 2).payload = .command (.full ⟨1, zeroHostConfig.hostname, datetime20240102⟩)) ∧
    ((interruptResponse 0x8000).status = 0x8000 →
        Acknowledged (interruptResponse 0x8000) ((interruptRun 0x8000).drop 7)) ∧
      ((interruptResponse 0x8000).status ≠ 0x8000 →
        Unacknowledged ((interruptRun 0x8000).drop 7)) := by
  refine (fun h => ⟨h, listen_interrupt_acknowledged zeroHostConfig (interruptingScanner 0x8000)
    3 h.1 h.2.1 h.2.2⟩) ?_
  decide

/-- With status `0x00018000` the answer is decoded as an interrupt, and the listener sends the
    next full poll without launching it or acknowledging it. -/
theorem listen_interrupt_bit_ignored :
    lastSend ((interruptRun 0x00018000).take 6) = some (.sent (fullPoll 2)) ∧
      (interruptRun 0x00018000).drop 6 =
        [.received (.poll (interruptResponse 0x00018000)), .sent (fullPoll 3)] ∧
      (0x00018000 : UInt32) &&& 0x00008000 ≠ 0 := by
  decide

end ScannerButton

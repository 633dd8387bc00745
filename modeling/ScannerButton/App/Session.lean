import ScannerButton.App.Runtime

/-
  The session protocol between the listener and the scanner, as an automaton over the
  listener's events: what the poll protocol allows, independently of how the listener is
  written.

  A session starts when the channel's sequence is reset, and every packet sent carries the
  next sequence number, wrapping at `2^16`. Its packets are a discover command, then a
  host-only poll once the discover response decoded, then full polls once the host-only
  response gave a session id, each full poll followed by a reset poll exactly when its
  response had status `0x8000`. The interrupt of such a response is launched before the reset
  is sent, and the reset carries the response's action id (0 when it has none). Full and reset
  polls carry the session id of the latest host-only or full response of the session that had
  one. Nothing else is sent until the next reset.

  Proved here: in an accepted trace each packet carries the count of packets sent before it
  since the last reset, modulo `2^16` (`Conforms.sequence`); a decoded poll response right
  after a full poll finds the automaton waiting for the answer to that poll
  (`received_after_full`), and a pending interrupt admits only its own launch
  (`step_pending`).
-/

namespace ScannerButton

open Bjnp Bjnp.Poll

/-- Where a session stands. -/
inductive Phase where
  /-- The sequence was reset; a discover command comes next. -/
  | start
  | discoverSent
  /-- The scanner answered the discover command. -/
  | discovered
  | hostOnlySent
  /-- A session is established with this id. -/
  | polling (sessionId : UInt32)
  | fullSent (sessionId : UInt32)
  /-- The answer to a full poll had status `0x8000`: its interrupt, if not launched yet, and
      then the reset acknowledging `actionId`. -/
  | interrupted (sessionId actionId : UInt32) (pending : Option Interrupt)
  | resetSent (sessionId : UInt32)
  /-- Nothing is sent until the next reset. -/
  | stalled
  deriving DecidableEq

namespace Phase

/-- The packets a phase allows, by payload type and payload, and the phase after each. -/
def send : Phase → PayloadType → Outbound → Option Phase
  | start, .discover, .empty _ => some discoverSent
  | discovered, .poll, .command (.hostOnly _) => some hostOnlySent
  | polling sessionId, .poll, .command (.full c) =>
    if c.sessionId = sessionId then some (fullSent sessionId) else none
  | interrupted sessionId actionId none, .poll, .command (.reset c) =>
    if c.sessionId = sessionId ∧ c.actionId = actionId then some (resetSent sessionId) else none
  | _, _, _ => none

/-- The phase after the answer `r` to a full poll of session `sessionId`. -/
def afterFull (sessionId : UInt32) (r : Response) : Phase :=
  let sessionId := r.sessionId.getD sessionId
  if r.status = 0x8000 then interrupted sessionId (r.actionId.getD 0) r.interrupt
  else polling sessionId

/-- The answers a phase awaits, and the phase after each. -/
def receive : Phase → Inbound → Option Phase
  | discoverSent, .discover _ => some discovered
  | hostOnlySent, .poll r => some (match r.sessionId with
    | some sessionId => polling sessionId
    | none => stalled)
  | fullSent sessionId, .poll r => some (afterFull sessionId r)
  | resetSent sessionId, .poll _ => some (polling sessionId)
  | _, _ => none

/-- The launch of the pending interrupt. -/
def launch : Phase → Interrupt → Option Phase
  | interrupted sessionId actionId (some pending), i =>
    if i = pending then some (interrupted sessionId actionId none) else none
  | _, _ => none

/-- The interrupt waiting to be launched. -/
def pending : Phase → Option Interrupt
  | interrupted _ _ pending => pending
  | _ => none

/-- No interrupt is waiting to be launched. -/
def Settled (phase : Phase) : Prop := phase.pending = none

instance (phase : Phase) : Decidable phase.Settled := inferInstanceAs (Decidable (_ = _))

/-- Every packet a phase allows, with its guard and the phase after it. -/
theorem send_eq_some {phase phase' : Phase} {payloadType : PayloadType} {x : Outbound}
    (h : phase.send payloadType x = some phase') :
    (phase = start ∧ phase' = discoverSent ∧ ∃ e, x = .empty e) ∨
    (phase = discovered ∧ phase' = hostOnlySent ∧ ∃ c, x = .command (.hostOnly c)) ∨
    (∃ sessionId c, phase = polling sessionId ∧ phase' = fullSent sessionId ∧
      x = .command (.full c) ∧ c.sessionId = sessionId) ∨
    (∃ sessionId actionId c, phase = interrupted sessionId actionId none ∧
      phase' = resetSent sessionId ∧ x = .command (.reset c) ∧ c.sessionId = sessionId ∧
      c.actionId = actionId) := by
  unfold send at h
  split at h
  · cases h
    exact .inl ⟨rfl, rfl, _, rfl⟩
  · cases h
    exact .inr (.inl ⟨rfl, rfl, _, rfl⟩)
  · split at h
    · cases h
      exact .inr (.inr (.inl ⟨_, _, rfl, rfl, rfl, ‹_›⟩))
    · cases h
  · split at h
    · cases h
      rename_i hc
      exact .inr (.inr (.inr ⟨_, _, _, rfl, rfl, rfl, hc.1, hc.2⟩))
    · cases h
  · cases h

end Phase

/-- The automaton's state: the phase, and the sequence number the next packet carries. -/
structure SessionState where
  phase : Phase
  sequence : UInt16
  deriving DecidableEq

namespace SessionState

/-- Before the first reset nothing may be sent. -/
def initial : SessionState := ⟨.stalled, 0⟩

/-- One event. A reset restarts the session, once a pending interrupt is launched. -/
def step (s : SessionState) : Event → Option SessionState
  | .resetSequence => if s.phase.Settled then some ⟨.start, 0⟩ else none
  | .sent p =>
    if p.header.sequence = s.sequence then
      (s.phase.send p.header.payloadType p.payload).map fun phase => ⟨phase, s.sequence + 1⟩
    else none
  | .received r => (s.phase.receive r).map fun phase => ⟨phase, s.sequence⟩
  | .launched i _ => (s.phase.launch i).map fun phase => ⟨phase, s.sequence⟩

/-- The events in turn, or `none` once one is refused. -/
def run (s : SessionState) : List Event → Option SessionState
  | [] => some s
  | e :: es => (s.step e).bind fun s' => s'.run es

theorem run_append (s : SessionState) (es es' : List Event) :
    s.run (es ++ es') = (s.run es).bind fun s' => s'.run es' := by
  induction es generalizing s with
  | nil => rfl
  | cons e es ih =>
    simp only [List.cons_append, run]
    cases s.step e <;> simp [ih]

theorem run_concat {s t : SessionState} {es : List Event} (h : s.run es = some t) (e : Event) :
    s.run (es ++ [e]) = t.step e := by
  rw [run_append, h]
  simp only [Option.some_bind, run]
  cases t.step e <;> rfl

theorem step_sent (s : SessionState) (p : Packet Outbound) :
    s.step (.sent p) = if p.header.sequence = s.sequence then
      (s.phase.send p.header.payloadType p.payload).map fun phase => ⟨phase, s.sequence + 1⟩
    else none := rfl

/-- A packet is taken when it carries the expected sequence number and the phase allows it. -/
theorem step_sent_eq_some {s t : SessionState} {p : Packet Outbound}
    (h : s.step (.sent p) = some t) :
    p.header.sequence = s.sequence ∧ ∃ phase,
      s.phase.send p.header.payloadType p.payload = some phase ∧ t = ⟨phase, s.sequence + 1⟩ := by
  rw [step_sent, Option.ite_none_right_eq_some] at h
  obtain ⟨phase, hsend, rfl⟩ := Option.map_eq_some'.mp h.2
  exact ⟨h.1, phase, hsend, rfl⟩

theorem step_resetSequence {s : SessionState} (h : s.phase.Settled) :
    s.step .resetSequence = some ⟨.start, 0⟩ := if_pos h

end SessionState

/-- A trace the protocol allows. -/
def Conforms (trace : List Event) : Prop := (SessionState.initial.run trace).isSome

/-! ## Sequence numbers -/

/-- One event's effect on the count of packets sent since the last reset, modulo `2^16`. -/
def countSent (n : UInt16) : Event → UInt16
  | .resetSequence => 0
  | .sent _ => n + 1
  | _ => n

theorem SessionState.step_sequence {s t : SessionState} {e : Event} (h : s.step e = some t) :
    t.sequence = countSent s.sequence e := by
  cases e with
  | resetSequence =>
    simp only [SessionState.step, Option.ite_none_right_eq_some, Option.some.injEq] at h
    rw [← h.2]
    rfl
  | sent p =>
    obtain ⟨-, _, -, rfl⟩ := SessionState.step_sent_eq_some h
    rfl
  | received x => obtain ⟨_, -, rfl⟩ := Option.map_eq_some'.mp h; rfl
  | launched i vars => obtain ⟨_, -, rfl⟩ := Option.map_eq_some'.mp h; rfl

theorem SessionState.run_sequence {s t : SessionState} {es : List Event}
    (h : s.run es = some t) : t.sequence = es.foldl countSent s.sequence := by
  induction es generalizing s with
  | nil => cases h; rfl
  | cons e es ih =>
    obtain ⟨s', h1, h2⟩ := Option.bind_eq_some.mp h
    rw [List.foldl_cons, ← SessionState.step_sequence h1]
    exact ih h2

/-- In a trace the protocol allows, each packet carries the number of packets sent before it
    since the last reset, modulo `2^16`: 0, 1, 2, … with no gap and no repeat. -/
theorem Conforms.sequence {pre post : List Event} {p : Packet Outbound}
    (h : Conforms (pre ++ .sent p :: post)) : p.header.sequence = pre.foldl countSent 0 := by
  obtain ⟨t, ht⟩ := Option.isSome_iff_exists.mp h
  rw [SessionState.run_append] at ht
  obtain ⟨s, hs, ht⟩ := Option.bind_eq_some.mp ht
  obtain ⟨s', h1, -⟩ := Option.bind_eq_some.mp ht
  rw [(SessionState.step_sent_eq_some h1).1, SessionState.run_sequence hs]
  rfl

/-! ## The answer to a full poll -/

/-- A send or a reset. -/
def Event.isSend : Event → Bool
  | .sent _ => true
  | .resetSequence => true
  | _ => false

/-- The last send or reset of a trace. -/
def lastSend (trace : List Event) : Option Event := trace.reverse.find? Event.isSend

/-- After the answer to a full poll and before the next send, no answer is awaited. -/
def Phase.Answered : Phase → Prop
  | .polling _ => True
  | .interrupted _ _ _ => True
  | _ => False

theorem Phase.receive_answered {phase : Phase} (h : phase.Answered) (x : Inbound) :
    phase.receive x = none := by
  cases phase <;> cases x <;> first | rfl | exact h.elim

theorem Phase.launch_answered {phase phase' : Phase} {i : Interrupt} (h : phase.Answered)
    (hl : phase.launch i = some phase') : phase'.Answered := by
  rcases phase with _ | _ | _ | _ | _ | _ | ⟨_, _, _ | _⟩ | _ | _ <;>
    simp only [Phase.launch, reduceCtorEq] at hl
  split at hl
  · cases hl; trivial
  · cases hl

/-- Receives and launches keep the automaton in a phase that awaits no answer. -/
theorem SessionState.run_answered {s t : SessionState} {es : List Event} (hs : s.phase.Answered)
    (hes : ∀ e ∈ es, e.isSend = false) (h : s.run es = some t) : t.phase.Answered := by
  induction es generalizing s with
  | nil => cases h; exact hs
  | cons e es ih =>
    obtain ⟨s', h1, h2⟩ := Option.bind_eq_some.mp h
    refine ih ?_ (fun e' he' => hes e' (List.mem_cons_of_mem _ he')) h2
    have he := hes e (List.mem_cons_self _ _)
    cases e with
    | resetSequence => simp [Event.isSend] at he
    | sent p => simp [Event.isSend] at he
    | received x => simp [SessionState.step, Phase.receive_answered hs] at h1
    | launched i vars =>
      obtain ⟨phase, hl, rfl⟩ := Option.map_eq_some'.mp h1
      exact Phase.launch_answered hs hl

/-- The last send of a trace, and the events after it, none of them a send. -/
theorem lastSend_eq_some {trace : List Event} {e : Event} (h : lastSend trace = some e) :
    ∃ before mid, trace = before ++ e :: mid ∧ ∀ e' ∈ mid, e'.isSend = false := by
  obtain ⟨-, mid, before, hrev, hmid⟩ := List.find?_eq_some.mp h
  refine ⟨before.reverse, mid.reverse, ?_, fun e' he' => ?_⟩
  · rw [← List.reverse_reverse trace, hrev]
    simp
  · simpa using hmid e' (List.mem_reverse.mp he')

theorem SessionState.step_sent_full {s t : SessionState} {p : Packet Outbound} {c : FullCommand}
    (hfull : p.payload = .command (.full c)) (h : s.step (.sent p) = some t) :
    ∃ sessionId, t.phase = .fullSent sessionId := by
  obtain ⟨-, phase, hsend, rfl⟩ := SessionState.step_sent_eq_some h
  rw [hfull] at hsend
  rcases Phase.send_eq_some hsend with ⟨-, -, _, hx⟩ | ⟨-, -, _, hx⟩ | ⟨sid, _, -, rfl, -⟩ |
    ⟨_, _, _, -, -, hx, -⟩
  · cases hx
  · cases hx
  · exact ⟨sid, rfl⟩
  · cases hx

/-- After a full poll and no send, the automaton still awaits its answer, or has had it. -/
theorem SessionState.run_fullSent {s t : SessionState} {es : List Event} {sessionId : UInt32}
    (hs : s.phase = .fullSent sessionId) (hes : ∀ e ∈ es, e.isSend = false)
    (h : s.run es = some t) : t.phase = .fullSent sessionId ∨ t.phase.Answered := by
  cases es with
  | nil => cases h; exact .inl hs
  | cons e es =>
    obtain ⟨s', h1, h2⟩ := Option.bind_eq_some.mp h
    refine .inr (SessionState.run_answered ?_
      (fun e' he' => hes e' (List.mem_cons_of_mem _ he')) h2)
    have he := hes e (List.mem_cons_self _ _)
    cases e with
    | resetSequence => simp [Event.isSend] at he
    | sent p => simp [Event.isSend] at he
    | received x =>
      obtain ⟨phase, hr, rfl⟩ := Option.map_eq_some'.mp h1
      rw [hs] at hr
      cases x with
      | discover d => cases hr
      | poll r =>
        cases hr
        simp only [Phase.afterFull]
        split <;> trivial
    | launched i vars => simp [SessionState.step, hs, Phase.launch] at h1

/-- A decoded poll response right after a full poll, with nothing sent in between, finds the
    automaton waiting for the answer to that full poll. -/
theorem received_after_full {pre : List Event} {s s' : SessionState} {p : Packet Outbound}
    {c : FullCommand} {r : Response}
    (hrun : SessionState.initial.run pre = some s)
    (hlast : lastSend pre = some (.sent p)) (hfull : p.payload = .command (.full c))
    (hstep : s.step (.received (.poll r)) = some s') :
    ∃ sessionId, s.phase = .fullSent sessionId := by
  obtain ⟨before, mid, rfl, hmid⟩ := lastSend_eq_some hlast
  rw [SessionState.run_append] at hrun
  obtain ⟨s0, -, hrun⟩ := Option.bind_eq_some.mp hrun
  obtain ⟨s1, h1, hrun⟩ := Option.bind_eq_some.mp hrun
  obtain ⟨sid, hsid⟩ := SessionState.step_sent_full hfull h1
  refine (SessionState.run_fullSent hsid hmid hrun).elim (fun h => ⟨sid, h⟩) fun hans => ?_
  simp [SessionState.step, Phase.receive_answered hans] at hstep

/-- The answer to a full poll moves the automaton to `Phase.afterFull`. -/
theorem receive_full {s s' : SessionState} {sessionId : UInt32} {r : Response}
    (hs : s.phase = .fullSent sessionId) (h : s.step (.received (.poll r)) = some s') :
    s'.phase = Phase.afterFull sessionId r := by
  simp only [SessionState.step, hs, Phase.receive, Option.map_some', Option.some.injEq] at h
  rw [← h]

/-- A pending interrupt admits only its own launch, which settles it. -/
theorem step_pending {s t : SessionState} {sessionId actionId : UInt32} {i : Interrupt}
    {e : Event} (hs : s.phase = .interrupted sessionId actionId (some i)) (h : s.step e = some t) :
    ∃ vars, e = .launched i vars ∧ t = ⟨.interrupted sessionId actionId none, s.sequence⟩ := by
  cases e with
  | resetSequence =>
    simp [SessionState.step, Phase.Settled, Phase.pending, hs] at h
  | sent p =>
    obtain ⟨-, phase, hsend, -⟩ := SessionState.step_sent_eq_some h
    rw [hs] at hsend
    rcases Phase.send_eq_some hsend with ⟨h1, -⟩ | ⟨h1, -⟩ | ⟨_, _, h1, -⟩ | ⟨_, _, _, h1, -⟩ <;>
      cases h1
  | received x => cases x <;> simp [SessionState.step, hs, Phase.receive] at h
  | launched j vars =>
    simp only [SessionState.step, hs, Phase.launch] at h
    by_cases hj : j = i
    · subst hj
      simp at h
      exact ⟨vars, rfl, h.symm⟩
    · simp [hj] at h

/-- After the launch, the next event is a reset or the acknowledging reset poll. -/
theorem step_launched {s t : SessionState} {sessionId actionId : UInt32} {e : Event}
    (hs : s.phase = .interrupted sessionId actionId none) (h : s.step e = some t) :
    e = .resetSequence ∨ ∃ p c, e = .sent p ∧ p.payload = .command (.reset c) ∧
      c.sessionId = sessionId ∧ c.actionId = actionId := by
  cases e with
  | resetSequence => exact .inl rfl
  | sent p =>
    obtain ⟨-, phase, hsend, -⟩ := SessionState.step_sent_eq_some h
    rw [hs] at hsend
    rcases Phase.send_eq_some hsend with ⟨h1, -⟩ | ⟨h1, -⟩ | ⟨_, _, h1, -⟩ |
      ⟨_, _, c, h1, -, hx, hc⟩
    · cases h1
    · cases h1
    · cases h1
    · cases h1
      exact .inr ⟨p, c, rfl, hx, hc⟩
  | received x => cases x <;> simp [SessionState.step, hs, Phase.receive] at h
  | launched j vars => simp [SessionState.step, hs, Phase.launch] at h

/-- In an established session, the next event is a reset or a full poll of the session. -/
theorem step_polling {s t : SessionState} {sessionId : UInt32} {e : Event}
    (hs : s.phase = .polling sessionId) (h : s.step e = some t) :
    e = .resetSequence ∨ ∃ p c, e = .sent p ∧ p.payload = .command (.full c) ∧
      c.sessionId = sessionId := by
  cases e with
  | resetSequence => exact .inl rfl
  | sent p =>
    obtain ⟨-, phase, hsend, -⟩ := SessionState.step_sent_eq_some h
    rw [hs] at hsend
    rcases Phase.send_eq_some hsend with ⟨h1, -⟩ | ⟨h1, -⟩ | ⟨_, c, h1, -, hx, hc⟩ |
      ⟨_, _, _, h1, -⟩
    · cases h1
    · cases h1
    · cases h1
      exact .inr ⟨p, c, rfl, hx, hc⟩
    · cases h1
  | received x => cases x <;> simp [SessionState.step, hs, Phase.receive] at h
  | launched j vars => simp [SessionState.step, hs, Phase.launch] at h

/-! ## The handshake -/

theorem Phase.send_start {payloadType : PayloadType} {x : Outbound} {phase : Phase}
    (h : Phase.start.send payloadType x = some phase) :
    payloadType = .discover ∧ (∃ e, x = .empty e) ∧ phase = .discoverSent := by
  cases payloadType <;> cases x <;> simp only [Phase.send, reduceCtorEq] at h
  exact ⟨rfl, ⟨_, rfl⟩, (Option.some.inj h).symm⟩

theorem Phase.send_discovered {payloadType : PayloadType} {x : Outbound} {phase : Phase}
    (h : Phase.discovered.send payloadType x = some phase) :
    payloadType = .poll ∧ (∃ c, x = .command (.hostOnly c)) ∧ phase = .hostOnlySent := by
  cases payloadType <;> rcases x with _ | (_ | _ | _ | _) <;> simp [Phase.send] at h ⊢
  exact h.symm

/-- A full poll is sent only in an established session. -/
theorem Phase.send_full {phase phase' : Phase} {payloadType : PayloadType} {c : FullCommand}
    (h : phase.send payloadType (.command (.full c)) = some phase') :
    ∃ sessionId, phase = .polling sessionId := by
  rcases Phase.send_eq_some h with ⟨-, -, _, hx⟩ | ⟨-, -, _, hx⟩ | ⟨sessionId, _, hp, -⟩ |
    ⟨_, _, _, -, -, hx, -⟩
  · cases hx
  · cases hx
  · exact ⟨sessionId, hp⟩
  · cases hx

/-- Before a session is established or after it stalled, and between the steps of the
    handshake, the one event other than a reset each phase allows. -/
theorem step_start {s t : SessionState} {e : Event} (hs : s.phase = .start)
    (h : s.step e = some t) (he : e ≠ .resetSequence) :
    ∃ q x, e = .sent q ∧ q.header.payloadType = .discover ∧ q.payload = .empty x ∧
      t.phase = .discoverSent := by
  cases e with
  | resetSequence => exact absurd rfl he
  | sent q =>
    obtain ⟨-, phase, hsend, rfl⟩ := SessionState.step_sent_eq_some h
    rw [hs] at hsend
    obtain ⟨hpt, ⟨x, hx⟩, rfl⟩ := Phase.send_start hsend
    exact ⟨q, x, rfl, hpt, hx, rfl⟩
  | received x => cases x <;> simp [SessionState.step, hs, Phase.receive] at h
  | launched i vars => simp [SessionState.step, hs, Phase.launch] at h

theorem step_discoverSent {s t : SessionState} {e : Event} (hs : s.phase = .discoverSent)
    (h : s.step e = some t) (he : e ≠ .resetSequence) :
    ∃ d, e = .received (.discover d) ∧ t.phase = .discovered := by
  cases e with
  | resetSequence => exact absurd rfl he
  | sent q =>
    obtain ⟨-, phase, hsend, -⟩ := SessionState.step_sent_eq_some h
    rw [hs] at hsend
    rcases Phase.send_eq_some hsend with ⟨h1, -⟩ | ⟨h1, -⟩ | ⟨_, _, h1, -⟩ | ⟨_, _, _, h1, -⟩ <;>
      cases h1
  | received x =>
    cases x with
    | discover d =>
      obtain ⟨phase, hrecv, rfl⟩ := Option.map_eq_some'.mp h
      simp only [hs, Phase.receive, Option.some.injEq] at hrecv
      exact ⟨d, rfl, hrecv.symm⟩
    | poll r => simp [SessionState.step, hs, Phase.receive] at h
  | launched i vars => simp [SessionState.step, hs, Phase.launch] at h

theorem step_discovered {s t : SessionState} {e : Event} (hs : s.phase = .discovered)
    (h : s.step e = some t) (he : e ≠ .resetSequence) :
    ∃ q c, e = .sent q ∧ q.header.payloadType = .poll ∧ q.payload = .command (.hostOnly c) ∧
      t.phase = .hostOnlySent := by
  cases e with
  | resetSequence => exact absurd rfl he
  | sent q =>
    obtain ⟨-, phase, hsend, rfl⟩ := SessionState.step_sent_eq_some h
    rw [hs] at hsend
    obtain ⟨hpt, ⟨c, hc⟩, rfl⟩ := Phase.send_discovered hsend
    exact ⟨q, c, rfl, hpt, hc, rfl⟩
  | received x => cases x <;> simp [SessionState.step, hs, Phase.receive] at h
  | launched i vars => simp [SessionState.step, hs, Phase.launch] at h

theorem step_hostOnlySent {s t : SessionState} {e : Event} (hs : s.phase = .hostOnlySent)
    (h : s.step e = some t) (he : e ≠ .resetSequence) :
    ∃ r, e = .received (.poll r) ∧ t.phase = match r.sessionId with
      | some sessionId => .polling sessionId
      | none => .stalled := by
  cases e with
  | resetSequence => exact absurd rfl he
  | sent q =>
    obtain ⟨-, phase, hsend, -⟩ := SessionState.step_sent_eq_some h
    rw [hs] at hsend
    rcases Phase.send_eq_some hsend with ⟨h1, -⟩ | ⟨h1, -⟩ | ⟨_, _, h1, -⟩ | ⟨_, _, _, h1, -⟩ <;>
      cases h1
  | received x =>
    cases x with
    | discover d => simp [SessionState.step, hs, Phase.receive] at h
    | poll r =>
      obtain ⟨phase, hrecv, rfl⟩ := Option.map_eq_some'.mp h
      simp only [hs, Phase.receive, Option.some.injEq] at hrecv
      exact ⟨r, rfl, hrecv.symm⟩
  | launched i vars => simp [SessionState.step, hs, Phase.launch] at h

theorem step_stalled {s t : SessionState} {e : Event} (hs : s.phase = .stalled)
    (h : s.step e = some t) : e = .resetSequence := by
  cases e with
  | resetSequence => rfl
  | sent q =>
    obtain ⟨-, phase, hsend, -⟩ := SessionState.step_sent_eq_some h
    rw [hs] at hsend
    rcases Phase.send_eq_some hsend with ⟨h1, -⟩ | ⟨h1, -⟩ | ⟨_, _, h1, -⟩ | ⟨_, _, _, h1, -⟩ <;>
      cases h1
  | received x => cases x <;> simp [SessionState.step, hs, Phase.receive] at h
  | launched i vars => simp [SessionState.step, hs, Phase.launch] at h

/-- From the start of a session, a run with no reset that ends established began with the
    handshake: the discover command, its answer, the host-only poll, and an answer with a
    session id. -/
theorem SessionState.run_handshake {s t : SessionState} {seg : List Event} {sessionId : UInt32}
    (hs : s.phase = .start) (h : s.run seg = some t) (hseg : .resetSequence ∉ seg)
    (ht : t.phase = .polling sessionId) :
    ∃ q1 x d q2 c r rest, seg = .sent q1 :: .received (.discover d) :: .sent q2 ::
        .received (.poll r) :: rest ∧
      q1.header.payloadType = .discover ∧ q1.payload = .empty x ∧
      q2.header.payloadType = .poll ∧ q2.payload = .command (.hostOnly c) ∧
      r.sessionId.isSome := by
  have head : ∀ {e : Event} {es : List Event}, .resetSequence ∉ e :: es → e ≠ .resetSequence :=
    fun h he => h (he ▸ List.mem_cons_self _ _)
  have tail : ∀ {e : Event} {es : List Event}, .resetSequence ∉ e :: es → .resetSequence ∉ es :=
    fun h hm => h (List.mem_cons_of_mem _ hm)
  rcases seg with _ | ⟨e1, seg⟩
  · cases h; rw [hs] at ht; cases ht
  replace h := Option.bind_eq_some.mp h
  obtain ⟨s1, h1, h⟩ := h
  obtain ⟨q1, x, rfl, hq1, hx, hs1⟩ := step_start hs h1 (head hseg)
  replace hseg := tail hseg
  rcases seg with _ | ⟨e2, seg⟩
  · cases h; rw [hs1] at ht; cases ht
  replace h := Option.bind_eq_some.mp h
  obtain ⟨s2, h2, h⟩ := h
  obtain ⟨d, rfl, hs2⟩ := step_discoverSent hs1 h2 (head hseg)
  replace hseg := tail hseg
  rcases seg with _ | ⟨e3, seg⟩
  · cases h; rw [hs2] at ht; cases ht
  replace h := Option.bind_eq_some.mp h
  obtain ⟨s3, h3, h⟩ := h
  obtain ⟨q2, c, rfl, hq2, hc, hs3⟩ := step_discovered hs2 h3 (head hseg)
  replace hseg := tail hseg
  rcases seg with _ | ⟨e4, seg⟩
  · cases h; rw [hs3] at ht; cases ht
  replace h := Option.bind_eq_some.mp h
  obtain ⟨s4, h4, h⟩ := h
  obtain ⟨r, rfl, hs4⟩ := step_hostOnlySent hs3 h4 (head hseg)
  replace hseg := tail hseg
  refine ⟨q1, x, d, q2, c, r, seg, rfl, hq1, hx, hq2, hc, ?_⟩
  -- an answer without a session id stalls the session, and a stalled one takes only a reset
  cases hr : r.sessionId with
  | some _ => rfl
  | none =>
    rw [hr] at hs4
    rcases seg with _ | ⟨e5, seg⟩
    · cases h; rw [hs4] at ht; cases ht
    · obtain ⟨s5, h5, -⟩ := Option.bind_eq_some.mp h
      exact absurd (step_stalled hs4 h5) (head hseg)

/-- Only the answer of status `0x8000` to a full poll leaves an interrupt pending: its own. -/
theorem step_to_pending {s t : SessionState} {sessionId actionId : UInt32} {i : Interrupt}
    {e : Event} (h : s.step e = some t) (ht : t.phase = .interrupted sessionId actionId (some i)) :
    ∃ r, e = .received (.poll r) ∧ r.status = 0x8000 ∧ r.interrupt = some i := by
  cases e with
  | resetSequence =>
    simp only [SessionState.step, Option.ite_none_right_eq_some, Option.some.injEq] at h
    rw [← h.2] at ht
    cases ht
  | sent p =>
    obtain ⟨-, phase, hsend, rfl⟩ := SessionState.step_sent_eq_some h
    rcases Phase.send_eq_some hsend with ⟨-, h1, -⟩ | ⟨-, h1, -⟩ | ⟨_, _, -, h1, -⟩ |
      ⟨_, _, _, -, h1, -⟩ <;> rw [h1] at ht <;> cases ht
  | received x =>
    obtain ⟨phase, hrecv, rfl⟩ := Option.map_eq_some'.mp h
    unfold Phase.receive at hrecv
    split at hrecv <;> cases hrecv
    · cases ht
    · split at ht <;> cases ht
    · next r _ =>
      unfold Phase.afterFull at ht
      split at ht
      · exact ⟨r, rfl, ‹_›, (Phase.interrupted.inj ht).2.2⟩
      · cases ht
    · cases ht
  | launched j vars =>
    obtain ⟨phase, hl, rfl⟩ := Option.map_eq_some'.mp h
    unfold Phase.launch at hl
    split at hl
    · split at hl <;> cases hl
      cases ht
    · cases hl

/-- A launch is taken only with its interrupt pending. -/
theorem step_launch_pending {s t : SessionState} {i : Interrupt} {vars : List (String × String)}
    (h : s.step (.launched i vars) = some t) :
    ∃ sessionId actionId, s.phase = .interrupted sessionId actionId (some i) := by
  obtain ⟨phase, hl, -⟩ := Option.map_eq_some'.mp h
  rcases hs : s.phase with _ | _ | _ | _ | _ | _ | ⟨sessionId, actionId, _ | pending⟩ | _ | _ <;>
    rw [hs] at hl <;> simp only [Phase.launch, reduceCtorEq] at hl
  split at hl
  · next hi => exact ⟨sessionId, actionId, by rw [hi]⟩
  · cases hl

/-- In an accepted trace that leaves an interrupt pending, the last event is the answer of
    status `0x8000` carrying it. -/
theorem SessionState.run_pending {es : List Event} {t : SessionState} {sessionId actionId : UInt32}
    {i : Interrupt} (h : SessionState.initial.run es = some t)
    (ht : t.phase = .interrupted sessionId actionId (some i)) :
    ∃ pre r, es = pre ++ [.received (.poll r)] ∧ r.status = 0x8000 ∧ r.interrupt = some i := by
  rcases List.eq_nil_or_concat es with rfl | ⟨pre, e, rfl⟩
  · cases h
    cases ht
  · rw [List.concat_eq_append, SessionState.run_append] at h
    obtain ⟨s, -, h⟩ := Option.bind_eq_some.mp h
    obtain ⟨t', h1, h2⟩ := Option.bind_eq_some.mp h
    cases h2
    obtain ⟨r, rfl, hr⟩ := step_to_pending h1 ht
    exact ⟨pre, r, List.concat_eq_append _ _, hr⟩

end ScannerButton

import ScannerButton.App.Listener
import ScannerButton.App.Session

/-
  The listener refines the session automaton. `At phase sessionId` says that the listener's
  trace is accepted by the automaton, ending in `phase` with the channel's sequence the one
  the automaton expects, that every poll response in the trace is one the decoder returns,
  and that the listener holds `sessionId`. Each primitive of the listener moves `At` along one
  transition of the automaton (`send_triple`, `recv_triple`, `launch_triple`,
  `resetSequence_triple`), and a failure leaves it where it was. Composed along the code,
  `try_init` ends polling on the session id it stored (`tryInit_triple`), and so does a poll
  round (`pollRound_triple`), while a failure anywhere leaves the automaton with no interrupt
  pending (`Listener.Settled`). By induction over the turns of `listen`, every run keeps its
  trace accepted and settled (`listen_settled`): every trace of the listener is one the
  protocol allows, its packets numbered from each reset on (`listen_conforms`).
-/

namespace ScannerButton

open Bjnp Bjnp.Poll Time Io

/-! ## The invariant -/

/-- The trace is accepted, in `phase`, with the channel's sequence next; its poll responses
    are the decoder's; the listener holds `sessionId`. -/
def At (phase : Phase) (sessionId : UInt32) (l : Listener) : Prop :=
  (∃ s, SessionState.initial.run l.trace = some s ∧ s.phase = phase ∧
    s.sequence = l.channel.sequence) ∧
  (∀ r, .received (.poll r) ∈ l.trace → r.Classified) ∧ l.sessionId = sessionId

/-- The trace is accepted, with no interrupt pending. -/
def Listener.Settled (l : Listener) : Prop := ∃ phase, phase.Settled ∧ At phase l.sessionId l

theorem At.settled {phase : Phase} {sessionId : UInt32} {l : Listener} (h : At phase sessionId l)
    (hp : phase.Settled) : l.Settled :=
  ⟨phase, hp, h.1, h.2.1, rfl⟩

/-- A session is established, on the session id the listener holds. -/
def Listener.Polling (l : Listener) : Prop := At (.polling l.sessionId) l.sessionId l

theorem At.polling {sessionId : UInt32} {l : Listener} (h : At (.polling sessionId) sessionId l) :
    l.Polling := by
  rw [Listener.Polling, h.2.2]
  exact h

theorem Listener.Polling.settled {l : Listener} (h : l.Polling) : l.Settled :=
  At.settled h rfl

/-- Sequencing with the failure postcondition of the first part weakened. -/
theorem Triple.seq {α β : Type} {P : Listener → Prop} {x : Io α} {f : α → Io β}
    {Q : α → Listener → Prop} {R : β → Listener → Prop} {E E' : Listener → Prop}
    (hx : Triple P x Q E') (hE : ∀ l, E' l → E l) (hf : ∀ a, Triple (Q a) (f a) R E) :
    Triple P (x >>= f) R E :=
  Triple.bind (hx.mono (fun _ h => h) (fun _ _ h => h) hE) hf

/-- Sequencing after a step that, when it fails, leaves the automaton in a settled phase. -/
theorem Triple.seq_settled {α β : Type} {P : Listener → Prop} {x : Io α} {f : α → Io β}
    {Q : α → Listener → Prop} {R : β → Listener → Prop} {phase : Phase} {sessionId : UInt32}
    (hx : Triple P x Q (At phase sessionId)) (hp : phase.Settled)
    (hf : ∀ a, Triple (Q a) (f a) R Listener.Settled) : Triple P (x >>= f) R Listener.Settled :=
  Triple.seq hx (fun _ h => h.settled hp) hf

/-- `unwrap` of a value that is there. -/
theorem Triple.unwrap_some {α β : Type} {P : Listener → Prop} {o : Option α} {a : α}
    {f : α → Io β} {R : β → Listener → Prop} {E : Listener → Prop} (ho : o = some a)
    (h : Triple P (f a) R E) : Triple P (Io.unwrap o >>= f) R E := by
  subst ho
  exact h

/-- An event the automaton takes from `phase` to `phase'`, appended to the trace, moves `At`
    along; the sequence the automaton expects next is the channel's. -/
theorem At.snoc {phase phase' : Phase} {sessionId : UInt32} {l l' : Listener} {e : Event}
    (h : At phase sessionId l) (htrace : l'.trace = l.trace ++ [e])
    (hstep : ∀ s : SessionState, s.phase = phase → s.sequence = l.channel.sequence →
      s.step e = some ⟨phase', l'.channel.sequence⟩)
    (hcls : ∀ r, e = .received (.poll r) → r.Classified) (hsid : l'.sessionId = l.sessionId) :
    At phase' sessionId l' := by
  obtain ⟨⟨s, hs, hp, hq⟩, hcls', hsid'⟩ := h
  refine ⟨⟨⟨phase', l'.channel.sequence⟩, ?_, rfl, rfl⟩, fun r hr => ?_, hsid.trans hsid'⟩
  · rw [htrace, SessionState.run_concat hs, hstep s hp hq]
  · rw [htrace, List.mem_append, List.mem_singleton] at hr
    exact hr.elim (hcls' r) fun he => hcls r he.symm

/-! ## The primitives -/

section Primitives

variable (env : Env) {phase : Phase} {sessionId : UInt32}

theorem resetSequence_triple (hp : phase.Settled) :
    Triple (At phase sessionId) Channel.resetSequence (fun _ => At .start sessionId)
      (fun _ => False) := fun _ hl =>
  hl.snoc rfl (fun _ hs _ => SessionState.step_resetSequence (hs ▸ hp)) (fun _ h => nomatch h) rfl

theorem send_triple (phase' : Phase) {payloadType : PayloadType} {payload : Outbound}
    (h : phase.send payloadType payload = some phase') :
    Triple (At phase sessionId) (Channel.send env payloadType payload)
      (fun _ => At phase' sessionId) (At phase sessionId) := by
  intro l hl
  simp only [Channel.send]
  cases serializeToVec (Channel.packet payloadType l.channel.sequence payload) with
  | none => exact hl
  | some bytes =>
    cases env.reply l.ops with
    | ok datagram =>
      refine hl.snoc rfl (fun s hs hq => ?_) (fun _ h => nomatch h) rfl
      rw [SessionState.step_sent]
      simp [hq, hs, h]
    | fail => exact hl

/-- What `recv` decodes as a poll response is classified. -/
theorem decode_classified {target : Target} {datagram : Bytes} {r : Response}
    (h : (Channel.decode target datagram : Outcome ListenError Response) = .ok r) :
    r.Classified := by
  obtain ⟨packet, -, h⟩ := Outcome.bind_eq_ok.mp h
  split at h
  · obtain ⟨p, hp, h⟩ := Outcome.bind_eq_ok.mp h
    cases h
    obtain ⟨⟨x, n⟩, hd, hx⟩ := Outcome.bind_eq_ok.mp (Outcome.mapErr_eq_ok.mp hp)
    cases hx
    exact Response.deserialize_classified hd
  · cases h

theorem recv_triple {α : Type} [Deserialize α] {wrap : α → Inbound} (next : α → Phase)
    (h : ∀ a, phase.receive (wrap a) = some (next a))
    (hcls : ∀ datagram a r, (Channel.decode env.target datagram : Outcome ListenError α) = .ok a →
      wrap a = .poll r → r.Classified) :
    Triple (At phase sessionId) (Channel.recv env wrap) (fun a => At (next a) sessionId)
      (At phase sessionId) := by
  intro l hl
  simp only [Channel.recv]
  cases env.reply l.ops with
  | fail => exact hl
  | ok datagram =>
    dsimp only
    cases hd : (Channel.decode env.target datagram : Outcome ListenError α) with
    | ok a =>
      exact hl.snoc rfl (fun s hs hq => by simp [SessionState.step, hs, hq, h])
        (fun r he => hcls datagram a r hd (Event.received.inj he)) rfl
    | err e => exact hl
    | panic => exact hl

theorem recvPoll_triple (next : Response → Phase)
    (h : ∀ r, phase.receive (.poll r) = some (next r)) :
    Triple (At phase sessionId) (Channel.recv env .poll) (fun r => At (next r) sessionId)
      (At phase sessionId) :=
  recv_triple env next h fun _ _ _ hd hw => by
    cases hw
    exact decode_classified hd

theorem launch_triple {phase' : Phase} {i : Interrupt} {E : Listener → Prop}
    (h : phase.launch i = some phase') :
    Triple (At phase sessionId) (Listener.launch i) (fun _ => At phase' sessionId) E :=
  fun _ hl => hl.snoc rfl (fun _ hs hq => by simp [SessionState.step, hs, hq, h])
    (fun _ h => nomatch h) rfl

/-- `get_session_id` reads the session id `At` records. -/
theorem getSessionId_bind {β : Type} {f : UInt32 → Io β} {R : β → Listener → Prop}
    {E : Listener → Prop} (h : Triple (At phase sessionId) (f sessionId) R E) :
    Triple (At phase sessionId) (Listener.getSessionId >>= f) R E := by
  intro l hl
  have hsid := hl.2.2
  subst hsid
  exact h l hl

theorem setSessionId_triple {sessionId' : UInt32} {E : Listener → Prop} :
    Triple (At phase sessionId) (Listener.setSessionId sessionId')
      (fun _ => At phase sessionId') E :=
  fun _ hl => ⟨hl.1, hl.2.1, rfl⟩

theorem now_triple {E : Listener → Prop} :
    Triple (At phase sessionId) (Listener.now env) (fun _ => At phase sessionId) E :=
  fun _ hl => hl

end Primitives

/-! ## The listener's turns -/

section Turns

variable (cfg : ListenConfig) (env : Env) {phase : Phase} {sessionId : UInt32}

theorem tryInit_triple (hp : phase.Settled) :
    Triple (At phase sessionId) (Listener.tryInit cfg env) (fun _ => Listener.Polling)
      Listener.Settled := by
  refine Triple.seq (resetSequence_triple hp) (fun _ h => h.elim) fun _ => ?_
  refine Triple.seq_settled (send_triple env _ (by rfl)) rfl fun _ => ?_
  refine Triple.seq_settled (recv_triple env (fun _ => .discovered) (fun _ => rfl)
    fun _ _ _ _ h => nomatch h) rfl fun _ => ?_
  refine Triple.unwrap_some rfl ?_
  refine Triple.seq_settled (send_triple env _ (by rfl)) rfl fun _ => ?_
  refine Triple.seq_settled (recvPoll_triple env _ fun _ => rfl) rfl fun resp => ?_
  cases resp.sessionId with
  | some sessionId' =>
    exact setSessionId_triple.mono (fun _ h => h) (fun _ _ h => h.polling) fun _ h => h
  | none => exact Triple.throw fun _ h => h.settled rfl

theorem cancelJob_triple (sessionId : UInt32) {resp : Response} :
    Triple (At (.interrupted sessionId (resp.actionId.getD 0) resp.interrupt) sessionId)
      (Listener.cancelJob cfg env resp) (fun _ => Listener.Polling) Listener.Settled := by
  refine Triple.seq (Q := fun _ => At (.interrupted sessionId (resp.actionId.getD 0) none)
    sessionId) ?_ (fun _ h => h) fun _ => ?_
  · cases resp.interrupt with
    | some i => exact launch_triple (by simp [Phase.launch])
    | none => exact Triple.pure fun _ h => h
  refine getSessionId_bind (Triple.unwrap_some rfl ?_)
  refine Triple.seq_settled (send_triple env (.resetSent sessionId) (by simp [Phase.send])) rfl
    fun _ => ?_
  refine Triple.seq_settled (recvPoll_triple env (fun _ => .polling sessionId) fun _ => rfl) rfl
    fun _ => ?_
  exact Triple.pure fun _ h => h.polling

theorem pollRound_triple (sessionId : UInt32) :
    Triple (At (.polling sessionId) sessionId) (Listener.pollRound cfg env)
      (fun _ => Listener.Polling) Listener.Settled := by
  refine Triple.seq (now_triple env) (fun _ h => h) fun now => ?_
  refine getSessionId_bind (Triple.unwrap_some rfl ?_)
  refine Triple.seq_settled (send_triple env (.fullSent sessionId) (by simp [Phase.send])) rfl
    fun _ => ?_
  refine Triple.seq_settled (recvPoll_triple env (Phase.afterFull sessionId) fun _ => rfl) rfl
    fun resp => ?_
  refine Triple.seq (Q := fun _ => At (Phase.afterFull sessionId resp)
    (resp.sessionId.getD sessionId)) ?_ (fun _ h => h) fun _ => ?_
  · cases resp.sessionId with
    | some sessionId' => exact setSessionId_triple
    | none => exact Triple.pure fun _ h => h
  refine Triple.ite (fun h => ?_) fun h => ?_
  · refine (cancelJob_triple cfg env (resp.sessionId.getD sessionId)).mono (fun l hl => ?_)
      (fun _ _ h => h) fun _ h => h
    rwa [Phase.afterFull, if_pos h] at hl
  · refine Triple.pure fun l hl => ?_
    rw [Phase.afterFull, if_neg h] at hl
    exact hl.polling

theorem next_triple (state : State) :
    Triple (fun l => l.Settled ∧ (state = .poll → l.Polling)) (Listener.next cfg env state)
      (fun state' l => state' = .poll ∧ l.Polling) Listener.Settled := by
  have tryInit_poll : Triple Listener.Settled (do Listener.tryInit cfg env; Pure.pure State.poll)
      (fun state' l => state' = .poll ∧ l.Polling) Listener.Settled := fun l ⟨_, hp, hl⟩ =>
    Triple.seq (tryInit_triple cfg env hp) (fun _ h => h)
      (fun _ => Triple.pure fun _ h => ⟨rfl, h⟩) l hl
  cases state with
  | init => exact tryInit_poll.mono (fun _ h => h.1) (fun _ _ h => h) fun _ h => h
  | poll =>
    exact fun l hl => Triple.seq (pollRound_triple cfg env l.sessionId)
      (fun _ h => h) (fun _ => Triple.pure fun _ h => ⟨rfl, h⟩) l (hl.2 rfl)
  | backoff _ => exact tryInit_poll.mono (fun _ h => h.1) (fun _ _ h => h) fun _ h => h

theorem transitErr_ne_poll (state : State) : Listener.transitErr cfg state ≠ .poll := by
  cases state <;> simp [Listener.transitErr]

end Turns

/-! ## Runs of the listener -/

/-- Every turn of `listen` from a settled listener, established whenever it is in `Poll`,
    leaves it settled; a panic ends the run there. -/
theorem listen_settled (cfg : ListenConfig) (env : Env) (n : Nat) {l : Listener}
    (hl : l.Settled) (hpoll : l.state = .poll → l.Polling) : (listen cfg env n l).Settled := by
  induction n generalizing l with
  | zero => exact hl
  | succ n ih =>
    have hnext := next_triple cfg env l.state l ⟨hl, hpoll⟩
    simp only [listen]
    revert hnext
    rcases Listener.next cfg env l.state l with ⟨_ | _ | _, l'⟩ <;> intro hnext
    · exact ih hnext.2.settled fun _ => hnext.2
    · exact ih hnext fun h => absurd h (transitErr_ne_poll cfg l.state)
    · exact hnext

theorem new_settled : Listener.new.Settled :=
  ⟨.stalled, rfl, ⟨SessionState.initial, rfl, rfl, rfl⟩, fun _ h => absurd h (List.not_mem_nil _),
    rfl⟩

theorem listen_conforms (cfg : ListenConfig) (env : Env) (n : Nat) :
    Conforms (listen cfg env n Listener.new).trace ∧
      ∀ pre p post, (listen cfg env n Listener.new).trace = pre ++ .sent p :: post →
        p.header.sequence = pre.foldl countSent 0 := by
  have h : Conforms (listen cfg env n Listener.new).trace := by
    obtain ⟨_, -, ⟨s, hs, -⟩, -⟩ := listen_settled cfg env n new_settled fun h => nomatch h
    simp [Conforms, hs]
  exact ⟨h, fun pre p post htrace => Conforms.sequence (htrace ▸ h)⟩

end ScannerButton

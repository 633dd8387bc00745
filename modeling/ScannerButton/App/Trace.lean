import ScannerButton.App.Acknowledgement

/-
  The listener's trace over whole runs (`src/poll.rs`, `src/channel.rs`). The primitives of a
  turn each append one event, or none: a reset, a sent packet, a decoded answer, or a launch
  with the variables `Listener::launch` sets (`Recordable`). Composed along the code, a turn only
  extends the trace by such events (`Appends`), and `transit_err` does not touch it, so neither
  does a run (`listen_extends`).

  So every launch in a run carries the `SCANNER_*` variables of its own interrupt
  (`listen_launchVars`). With the session automaton of `Conformance`, two facts about where
  events sit in a run follow. The external program is never launched without cause: every
  launch is of the interrupt of the poll response just before it, an answer of status `0x8000`
  (`listen_launched`). Every full poll is sent in a session that began with the handshake, a
  discover exchange and then a host-only poll answered with a session id
  (`listen_handshake`).
-/

namespace ScannerButton

open Bjnp Bjnp.Poll Time Io

/-! ## Traces that only grow -/

/-- `t'` is `t` followed by events satisfying `P`. -/
def Extends (P : Event → Prop) (t t' : List Event) : Prop :=
  ∃ es, t' = t ++ es ∧ ∀ e ∈ es, P e

namespace Extends

variable {P : Event → Prop} {t t' t'' : List Event}

theorem refl (t : List Event) : Extends P t t :=
  ⟨[], (List.append_nil t).symm, fun _ h => absurd h (List.not_mem_nil _)⟩

theorem trans (h1 : Extends P t t') (h2 : Extends P t' t'') : Extends P t t'' := by
  obtain ⟨es, rfl, hes⟩ := h1
  obtain ⟨es', rfl, hes'⟩ := h2
  exact ⟨es ++ es', List.append_assoc _ _ _,
    fun e he => (List.mem_append.mp he).elim (hes e) (hes' e)⟩

theorem single {e : Event} (h : P e) : Extends P t (t ++ [e]) :=
  ⟨[e], rfl, fun _ he => List.eq_of_mem_singleton he ▸ h⟩

theorem isPrefix (h : Extends P t t') : t <+: t' := by
  obtain ⟨es, rfl, -⟩ := h
  exact List.prefix_append _ _

end Extends

/-- `P` holds of every event a primitive of the listener records. -/
def Recordable (P : Event → Prop) : Prop :=
  P .resetSequence ∧ (∀ p, P (.sent p)) ∧ (∀ x, P (.received x)) ∧
    ∀ i, P (.launched i (Listener.launchVars i))

/-- `x` only extends the trace, by events satisfying `P`. -/
def Appends (P : Event → Prop) {α : Type} (x : Io α) : Prop :=
  ∀ l, Extends P l.trace (x l).2.trace

namespace Appends

variable {P : Event → Prop} {α β : Type}

theorem of_trace {x : Io α} (h : ∀ l, (x l).2.trace = l.trace) : Appends P x :=
  fun l => h l ▸ .refl _

theorem pure (a : α) : Appends P (Pure.pure a : Io α) := of_trace fun _ => rfl

theorem bind {x : Io α} {f : α → Io β} (hx : Appends P x) (hf : ∀ a, Appends P (f a)) :
    Appends P (x >>= f) := by
  intro l
  have h := hx l
  rw [bind_apply]
  revert h
  rcases x l with ⟨_ | _ | _, l'⟩ <;> intro h
  · exact h.trans (hf _ l')
  · exact h
  · exact h

theorem throw (e : ListenError) : Appends P (Io.throw e : Io α) := of_trace fun _ => rfl

theorem unwrap (o : Option α) : Appends P (Io.unwrap o) := by
  cases o <;> exact of_trace fun _ => rfl

theorem ite {c : Prop} [Decidable c] {x y : Io α} (hx : Appends P x) (hy : Appends P y) :
    Appends P (if c then x else y) := by
  split <;> assumption

variable (hP : Recordable P)
include hP

theorem resetSequence : Appends P Channel.resetSequence := fun _ => .single hP.1

theorem send (env : Env) (payloadType : PayloadType) (payload : Outbound) :
    Appends P (Channel.send env payloadType payload) := by
  intro l
  simp only [Channel.send]
  split
  · exact .refl _
  · split
    · exact .single (hP.2.1 _)
    · exact .refl _

theorem recv [Deserialize α] (env : Env) (wrap : α → Inbound) :
    Appends P (Channel.recv env wrap) := by
  intro l
  simp only [Channel.recv]
  split
  · exact .refl _
  · split
    · exact .single (hP.2.2.1 _)
    · exact .refl _
    · exact .refl _

theorem tryInit (cfg : ListenConfig) (env : Env) : Appends P (Listener.tryInit cfg env) := by
  refine bind (resetSequence hP) fun _ => bind (send hP _ _ _) fun _ => bind (recv hP _ _)
    fun _ => bind (unwrap _) fun _ => bind (send hP _ _ _) fun _ => bind (recv hP _ _)
    fun resp => ?_
  cases resp.sessionId
  · exact throw _
  · exact of_trace fun _ => rfl

theorem cancelJob (cfg : ListenConfig) (env : Env) (resp : Response) :
    Appends P (Listener.cancelJob cfg env resp) := by
  refine bind ?_ fun _ => bind (of_trace fun _ => rfl) fun _ => bind (unwrap _) fun _ =>
    bind (send hP _ _ _) fun _ => bind (recv hP _ _) fun _ => pure _
  cases resp.interrupt
  · exact pure _
  · exact fun _ => .single (hP.2.2.2 _)

theorem pollRound (cfg : ListenConfig) (env : Env) : Appends P (Listener.pollRound cfg env) := by
  refine bind (of_trace fun _ => rfl) fun _ => bind (of_trace fun _ => rfl) fun _ =>
    bind (unwrap _) fun _ => bind (send hP _ _ _) fun _ => bind (recv hP _ _) fun resp =>
    bind ?_ fun _ => ite (cancelJob hP _ _ _) (pure _)
  cases resp.sessionId
  · exact pure _
  · exact of_trace fun _ => rfl

theorem next (cfg : ListenConfig) (env : Env) (state : State) :
    Appends P (Listener.next cfg env state) := by
  cases state with
  | poll => exact bind (pollRound hP cfg env) fun _ => pure _
  | init | backoff _ => exact bind (tryInit hP cfg env) fun _ => pure _

end Appends

/-- Every run only extends the trace, by events every primitive may record. -/
theorem listen_extends {P : Event → Prop} (hP : Recordable P) (cfg : ListenConfig) (env : Env)
    (n : Nat) (l : Listener) : Extends P l.trace (listen cfg env n l).trace := by
  induction n generalizing l with
  | zero => exact .refl _
  | succ n ih =>
    have hnext := Appends.next hP cfg env l.state l
    simp only [listen]
    revert hnext
    rcases Listener.next cfg env l.state l with ⟨_ | _ | _, l'⟩ <;> intro hnext
    · exact hnext.trans (ih _)
    · exact hnext.trans (ih _)
    · exact hnext

/-! ## Launches -/

/-- A launch carries the variables `Listener::launch` sets for its interrupt. -/
def Event.LaunchVarsOk : Event → Prop
  | .launched i vars => vars = Listener.launchVars i
  | _ => True

/-- Every launch in a run carries the variables `Listener::launch` sets for its interrupt. -/
theorem listen_launchVars (cfg : ListenConfig) (env : Env) (n : Nat) {pre post : List Event}
    {i : Interrupt} {vars : List (String × String)}
    (h : (listen cfg env n Listener.new).trace = pre ++ .launched i vars :: post) :
    vars = Listener.launchVars i := by
  obtain ⟨es, hes, hvars⟩ := listen_extends (P := Event.LaunchVarsOk)
    ⟨trivial, fun _ => trivial, fun _ => trivial, fun _ => rfl⟩ cfg env n Listener.new
  have hes' : es = pre ++ .launched i vars :: post :=
    (List.nil_append es).symm.trans (hes.symm.trans h)
  exact hvars _ (hes' ▸ List.mem_append_right _ (List.mem_cons_self _ _))

/-- Every launch of the external program in a run is of the interrupt of the poll response
    just before it, whose status is `0x8000`. -/
theorem listen_launched (cfg : ListenConfig) (env : Env) (n : Nat) {pre post : List Event}
    {i : Interrupt} {vars : List (String × String)}
    (h : (listen cfg env n Listener.new).trace = pre ++ .launched i vars :: post) :
    ∃ pre' r, pre = pre' ++ [.received (.poll r)] ∧ r.status = 0x8000 ∧
      r.interrupt = some i := by
  obtain ⟨_, -, ⟨t, ht, -, -⟩, -, -⟩ := listen_settled cfg env n new_settled fun h => nomatch h
  rw [h, SessionState.run_append] at ht
  obtain ⟨s, hs, ht⟩ := Option.bind_eq_some.mp ht
  obtain ⟨s', hstep, -⟩ := Option.bind_eq_some.mp ht
  obtain ⟨_, _, hpending⟩ := step_launch_pending hstep
  exact SessionState.run_pending hs hpending

theorem listen_launched_flatbed :
    interruptRun 0x8000 = (interruptRun 0x8000).take 7 ++
        .launched flatbedInterrupt (Listener.launchVars flatbedInterrupt) ::
          (interruptRun 0x8000).drop 8 ∧
      ∃ pre' r, (interruptRun 0x8000).take 7 = pre' ++ [.received (.poll r)] ∧
        r.status = 0x8000 ∧ r.interrupt = some flatbedInterrupt := by
  refine (fun h => ⟨h, listen_launched zeroHostConfig (interruptingScanner 0x8000) 3 h⟩) ?_
  decide

/-! ## Sessions -/

/-- Every full poll of a run is sent in a session that began with the handshake: since the last
    sequence reset before it, the listener sent the discover command, had its answer, sent the
    host-only poll, and had an answer carrying a session id, in this order and first. -/
theorem listen_handshake (cfg : ListenConfig) (env : Env) (n : Nat)
    {pre seg post : List Event} {p : Packet Outbound} {c : FullCommand}
    (h : (listen cfg env n Listener.new).trace = pre ++ .resetSequence :: (seg ++ .sent p :: post))
    (hseg : .resetSequence ∉ seg) (hp : p.payload = .command (.full c)) :
    ∃ q1 x d q2 hc r rest, seg = .sent q1 :: .received (.discover d) :: .sent q2 ::
        .received (.poll r) :: rest ∧
      q1.header.payloadType = .discover ∧ q1.payload = .empty x ∧
      q2.header.payloadType = .poll ∧ q2.payload = .command (.hostOnly hc) ∧
      r.sessionId.isSome := by
  obtain ⟨_, -, ⟨t, ht, -, -⟩, -, -⟩ := listen_settled cfg env n new_settled fun h => nomatch h
  rw [h, SessionState.run_append] at ht
  obtain ⟨s0, -, ht⟩ := Option.bind_eq_some.mp ht
  obtain ⟨s1, h1, ht⟩ := Option.bind_eq_some.mp ht
  have hs1 : s1.phase = .start := by
    simp only [SessionState.step, Option.ite_none_right_eq_some, Option.some.injEq] at h1
    rw [← h1.2]
  rw [SessionState.run_append] at ht
  obtain ⟨s2, h2, ht⟩ := Option.bind_eq_some.mp ht
  obtain ⟨s3, h3, -⟩ := Option.bind_eq_some.mp ht
  obtain ⟨-, phase, hsend, -⟩ := SessionState.step_sent_eq_some h3
  rw [hp] at hsend
  obtain ⟨sessionId, hsid⟩ := Phase.send_full hsend
  exact SessionState.run_handshake hs1 h2 hseg hsid

theorem listen_handshake_first :
    (interruptRun 0x8000 = [] ++ .resetSequence :: (((interruptRun 0x8000).drop 1).take 4 ++
        .sent (fullPoll 2) :: (interruptRun 0x8000).drop 6) ∧
      .resetSequence ∉ ((interruptRun 0x8000).drop 1).take 4 ∧
      (fullPoll 2).payload = .command (.full ⟨1, zeroHostConfig.hostname, datetime20240102⟩)) ∧
    ∃ q1 x d q2 hc r rest, ((interruptRun 0x8000).drop 1).take 4 = .sent q1 ::
        .received (.discover d) :: .sent q2 :: .received (.poll r) :: rest ∧
      q1.header.payloadType = .discover ∧ q1.payload = .empty x ∧
      q2.header.payloadType = .poll ∧ q2.payload = .command (.hostOnly hc) ∧
      r.sessionId.isSome := by
  refine (fun h => ⟨h, listen_handshake zeroHostConfig (interruptingScanner 0x8000) 3 h.1 h.2.1
    h.2.2⟩) ?_
  decide

end ScannerButton

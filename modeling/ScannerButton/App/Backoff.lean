import ScannerButton.App.Listener

/-
  The listener's state over a run (`src/poll.rs`: `Listener::next`, `transit_err`, `listen`).
  Only the loop of `listen` writes the state: no computation of a turn touches it
  (`KeepsState`, composed along the code from its primitives), and `next` returns `Poll`
  whenever it returns. So each turn moves the state along one edge of `StateStep`, to `Poll`
  after a success and by `transit_err` after a failure, and a panic ends the run where it was
  (`listen_stateSteps`).

  The back-off durations follow from that alone. `backoffAfter cfg k` is the duration after
  `k + 1` failures in a row from `Init`: `initial_max_waiting`, then each time
  `min(backoff_maximum, (secs as f32 * factor) as u64)`. A run of the listener is in
  `Backoff(dur)` only for such a duration (`listen_backoff_scheduled`), and a scanner that never
  answers drives it through every one of them (`listen_silentScanner`), so these are exactly
  the back-offs the listener takes (`listen_backoff_iff`). Every one after the first is at most
  `backoff_maximum`, and the first is `initial_max_waiting` even when that is larger
  (`backoffAfter_le`), so no run waits longer than the larger of the two (`listen_backoff_le`).
  With a factor that does not shorten and an initial wait within the maximum, the durations
  never decrease (`backoffAfter_mono`).
-/

namespace ScannerButton

open Bjnp Bjnp.Poll Time Io

/-! ## Only the loop writes the state -/

/-- `x` leaves the listener's state as it is, whatever it returns. -/
def KeepsState {α : Type} (x : Io α) : Prop := ∀ l, (x l).2.state = l.state

namespace KeepsState

variable {α β : Type}

theorem pure (a : α) : KeepsState (Pure.pure a : Io α) := fun _ => rfl

theorem bind {x : Io α} {f : α → Io β} (hx : KeepsState x) (hf : ∀ a, KeepsState (f a)) :
    KeepsState (x >>= f) := by
  intro l
  have h := hx l
  rw [bind_apply]
  revert h
  rcases x l with ⟨_ | _ | _, l'⟩ <;> intro h
  · exact (hf _ l').trans h
  · exact h
  · exact h

theorem throw (e : ListenError) : KeepsState (Io.throw e : Io α) := fun _ => rfl

theorem unwrap (o : Option α) : KeepsState (Io.unwrap o) := by
  cases o <;> exact fun _ => rfl

theorem ite {c : Prop} [Decidable c] {x y : Io α} (hx : KeepsState x) (hy : KeepsState y) :
    KeepsState (if c then x else y) := by
  split <;> assumption

theorem resetSequence : KeepsState Channel.resetSequence := fun _ => rfl

theorem send (env : Env) (payloadType : PayloadType) (payload : Outbound) :
    KeepsState (Channel.send env payloadType payload) := by
  intro l
  simp only [Channel.send]
  split
  · rfl
  · split <;> rfl

theorem recv [Deserialize α] (env : Env) (wrap : α → Inbound) :
    KeepsState (Channel.recv env wrap) := by
  intro l
  simp only [Channel.recv]
  split
  · rfl
  · split <;> rfl

theorem tryInit (cfg : ListenConfig) (env : Env) : KeepsState (Listener.tryInit cfg env) := by
  refine bind resetSequence fun _ => bind (send _ _ _) fun _ => bind (recv _ _) fun _ =>
    bind (unwrap _) fun _ => bind (send _ _ _) fun _ => bind (recv _ _) fun resp => ?_
  cases resp.sessionId
  · exact throw _
  · exact fun _ => rfl

theorem cancelJob (cfg : ListenConfig) (env : Env) (resp : Response) :
    KeepsState (Listener.cancelJob cfg env resp) := by
  refine bind ?_ fun _ => bind (fun _ => rfl) fun _ => bind (unwrap _) fun _ =>
    bind (send _ _ _) fun _ => bind (recv _ _) fun _ => pure _
  cases resp.interrupt
  · exact pure _
  · exact fun _ => rfl

theorem pollRound (cfg : ListenConfig) (env : Env) : KeepsState (Listener.pollRound cfg env) := by
  refine bind (fun _ => rfl) fun _ => bind (fun _ => rfl) fun _ => bind (unwrap _) fun _ =>
    bind (send _ _ _) fun _ => bind (recv _ _) fun resp => bind ?_ fun _ => ite (cancelJob _ _ _) (pure _)
  cases resp.sessionId
  · exact pure _
  · exact fun _ => rfl

end KeepsState

namespace Listener

variable (cfg : ListenConfig) (env : Env)

/-- A turn's `next` leaves the state to the loop, and returns `Poll` when it returns. -/
theorem next_spec (state : State) (l : Listener) :
    (next cfg env state l).2.state = l.state ∧
      ∀ state', (next cfg env state l).1 = .ok state' → state' = .poll := by
  have then_poll : ∀ x : Io Unit, KeepsState x →
      ((x >>= fun _ => Pure.pure State.poll) l).2.state = l.state ∧
        ∀ state', ((x >>= fun _ => Pure.pure State.poll) l).1 = .ok state' → state' = .poll := by
    intro x hx
    have h := hx l
    rw [bind_apply]
    revert h
    rcases x l with ⟨_ | _ | _, l'⟩ <;> intro h <;> exact ⟨h, by simp⟩
  cases state with
  | poll => exact then_poll _ (KeepsState.pollRound cfg env)
  | init | backoff _ => exact then_poll _ (KeepsState.tryInit cfg env)

end Listener

/-! ## The state machine of the loop -/

/-- One turn of `listen` on the state: `Poll` after `next` returns, `transit_err` after it
    fails. -/
inductive StateStep (cfg : ListenConfig) : State → State → Prop
  | ok (state : State) : StateStep cfg state .poll
  | err (state : State) : StateStep cfg state (Listener.transitErr cfg state)

/-- Every run of `listen` moves the state along `StateStep`, one edge a turn, until it ends or
    panics. -/
theorem listen_stateSteps (cfg : ListenConfig) (env : Env) (n : Nat) (l : Listener) :
    Relation.ReflTransGen (StateStep cfg) l.state (listen cfg env n l).state := by
  induction n generalizing l with
  | zero => exact .refl
  | succ n ih =>
    obtain ⟨hkeep, hpoll⟩ := Listener.next_spec cfg env l.state l
    simp only [listen]
    revert hkeep hpoll
    rcases Listener.next cfg env l.state l with ⟨_ | _ | _, l'⟩ <;> intro hkeep hpoll
    · exact .head (hpoll _ rfl ▸ .ok _) (ih _)
    · exact .head (.err _) (ih { l' with state := Listener.transitErr cfg l.state })
    · exact hkeep ▸ .refl

/-! ## The back-off schedule -/

/-- The back-off after `k + 1` failures in a row from `Init`: `initial_max_waiting`, then
    lengthened by `transit_err` each time. -/
def backoffAfter (cfg : ListenConfig) : Nat → Nat
  | 0 => cfg.initialMaxWaiting
  | k + 1 => min cfg.backoffMaximum (cfg.backoffScale (backoffAfter cfg k))

/-- The state is `Backoff(dur)` only for a duration of the schedule. -/
def State.OnSchedule (cfg : ListenConfig) : State → Prop
  | .backoff dur => ∃ k, dur = backoffAfter cfg k
  | _ => True

theorem StateStep.onSchedule {cfg : ListenConfig} {state state' : State}
    (h : StateStep cfg state state') (hs : state.OnSchedule cfg) : state'.OnSchedule cfg := by
  cases h with
  | ok => trivial
  | err =>
    cases state with
    | init => exact ⟨0, rfl⟩
    | poll => trivial
    | backoff dur =>
      obtain ⟨k, rfl⟩ := hs
      exact ⟨k + 1, rfl⟩

theorem State.OnSchedule.of_steps {cfg : ListenConfig} {state state' : State}
    (h : Relation.ReflTransGen (StateStep cfg) state state') (hs : state.OnSchedule cfg) :
    state'.OnSchedule cfg := by
  induction h with
  | refl => exact hs
  | tail _ hstep ih => exact hstep.onSchedule ih

theorem listen_backoff_scheduled (cfg : ListenConfig) (env : Env) (n : Nat) {dur : Nat}
    (h : (listen cfg env n Listener.new).state = .backoff dur) : ∃ k, dur = backoffAfter cfg k := by
  have hs := State.OnSchedule.of_steps (listen_stateSteps cfg env n Listener.new) trivial
  rwa [h] at hs

/-- Every back-off after the first is at most `backoff_maximum`; the first is
    `initial_max_waiting`, which may exceed it. -/
theorem backoffAfter_le (cfg : ListenConfig) (k : Nat) :
    backoffAfter cfg (k + 1) ≤ cfg.backoffMaximum ∧
      backoffAfter cfg k ≤ max cfg.initialMaxWaiting cfg.backoffMaximum := by
  have hsucc : ∀ k, backoffAfter cfg (k + 1) ≤ cfg.backoffMaximum := fun _ => min_le_left _ _
  refine ⟨hsucc k, ?_⟩
  cases k with
  | zero => exact le_max_left _ _
  | succ k => exact (hsucc k).trans (le_max_right _ _)

/-- With a factor that does not shorten a duration and an initial wait within the maximum,
    the back-off never shortens. -/
theorem backoffAfter_mono {cfg : ListenConfig} (hscale : ∀ dur, dur ≤ cfg.backoffScale dur)
    (hinit : cfg.initialMaxWaiting ≤ cfg.backoffMaximum) : Monotone (backoffAfter cfg) := by
  refine monotone_nat_of_le_succ fun k => le_min ?_ (hscale _)
  cases k with
  | zero => exact hinit
  | succ k => exact (backoffAfter_le cfg k).1

theorem backoffAfter_mono_double :
    (∀ dur, dur ≤ 2 * dur) ∧ 10 ≤ 60 ∧
      Monotone (backoffAfter ⟨⟨List.replicate 64 0, rfl⟩, 10, fun d => 2 * d, 60⟩) :=
  ⟨fun _ => by omega, by decide, backoffAfter_mono (fun _ => by dsimp only; omega) (by decide)⟩

/-! ## A scanner that never answers -/

/-- A scanner that never answers: every send and receive fails or passes its deadline. -/
def silentScanner (clock : Nat → PrimitiveDateTime) (target : Target) : Env :=
  ⟨fun _ => .fail, clock, target⟩

section Silent

variable (cfg : ListenConfig) (clock : Nat → PrimitiveDateTime) (target : Target)

/-- From `Init` or `Backoff`, `try_init` fails at its first send: the discover command
    encodes, and the scanner does not take it. -/
theorem next_silentScanner {state : State} (hstate : state ≠ .poll) (l : Listener) :
    (Listener.next cfg (silentScanner clock target) state l).1 = .err .io := by
  cases state with
  | init | backoff _ => rfl
  | poll => exact absurd rfl hstate

/-- A turn against the silent scanner from `Init` or `Backoff` applies `transit_err`. -/
theorem listen_silentScanner_succ (n : Nat) {l : Listener} (hstate : l.state ≠ .poll) :
    ∃ l', listen cfg (silentScanner clock target) (n + 1) l =
        listen cfg (silentScanner clock target) n l' ∧
      l'.state = Listener.transitErr cfg l.state := by
  have hnext := next_silentScanner cfg clock target hstate l
  simp only [listen]
  revert hnext
  rcases Listener.next cfg (silentScanner clock target) l.state l with ⟨_ | _ | _, l'⟩ <;>
    intro hnext
  · cases hnext
  · exact ⟨_, rfl, rfl⟩
  · cases hnext

/-- Against a scanner that never answers, the listener backs off after its first turn and
    lengthens the back-off at every turn after it: it goes through the whole schedule. -/
theorem listen_silentScanner (k : Nat) :
    (listen cfg (silentScanner clock target) (k + 1) Listener.new).state =
      .backoff (backoffAfter cfg k) := by
  have hrun : ∀ k j (l : Listener), l.state = .backoff (backoffAfter cfg j) →
      (listen cfg (silentScanner clock target) k l).state =
        .backoff (backoffAfter cfg (j + k)) := by
    intro k
    induction k with
    | zero => exact fun _ _ h => h
    | succ k ih =>
      intro j l h
      obtain ⟨l', hturn, hl'⟩ := listen_silentScanner_succ cfg clock target k (by rw [h]; nofun)
      rw [hturn, ih (j + 1) l' (by rw [hl', h]; rfl), Nat.add_right_comm]
      rfl
  obtain ⟨l, hturn, hl⟩ := listen_silentScanner_succ cfg clock target k
    (show Listener.new.state ≠ .poll from nofun)
  rw [hturn, hrun k 0 l hl, Nat.zero_add]

end Silent

/-- The back-offs a run of the listener can be in, against any scanner, are exactly the
    durations of the schedule, whatever the clock and the build. -/
theorem listen_backoff_iff (cfg : ListenConfig) (clock : Nat → PrimitiveDateTime)
    (target : Target) (dur : Nat) :
    (∃ reply n, (listen cfg ⟨reply, clock, target⟩ n Listener.new).state = .backoff dur) ↔
      ∃ k, dur = backoffAfter cfg k := by
  constructor
  · rintro ⟨reply, n, h⟩
    exact listen_backoff_scheduled cfg ⟨reply, clock, target⟩ n h
  · rintro ⟨k, rfl⟩
    exact ⟨fun _ => .fail, k + 1, listen_silentScanner cfg clock target k⟩

end ScannerButton

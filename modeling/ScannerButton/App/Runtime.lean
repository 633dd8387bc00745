import ScannerButton.Bjnp.Packet
import ScannerButton.Bjnp.Discover
import ScannerButton.Bjnp.Poll.Command
import ScannerButton.Bjnp.Poll.Response

/-
  The world the scanner-button program's listener (`src/poll.rs`, `src/channel.rs`) runs in,
  and the monad its code is written in.

  The socket, the timers, the clock and the build are the environment (`Env`): the answer to
  the `n`-th send or receive, the local time read after `n` of them, and the target the program
  was built for (`Target`: the width of `usize` and whether overflow panics). A send or receive
  wrapped in `timeout(..)` either completes or fails, and a failure and an expired deadline lead
  to the same `Err`. The listener is deterministic, so a scanner that reacts to what it receives
  is covered by the sequence of answers it gives in that run.

  What the listener does is recorded as events (`Event`): a reset of the channel's sequence,
  a packet sent, a payload received and decoded, an interrupt handed to the external program.

  `Io` is the listener's code: from the listener it runs on, it returns, fails or panics, and
  in every case leaves the listener with what it changed before, as `&mut self` does.
  `Io.Triple` is its Hoare logic, with one postcondition for the value returned and one for a
  failure or a panic.
-/

namespace ScannerButton

open Bjnp Bjnp.Poll Time

/-! ## The environment -/

/-- The answer to one send or receive: it completes, a receive returning `datagram` (a send
    ignores it), or it fails or passes its deadline. -/
inductive Reply where
  | ok (datagram : Bytes)
  | fail
  deriving DecidableEq, Repr

/-- The build the program runs as: the width of `usize`, and whether an arithmetic overflow
    panics (a build with overflow checks, such as a debug build) or wraps (a release build).
    `Channel::recv` reads into a `[0; 65536]` buffer, whose length does not fit in a 16-bit
    `usize`, so the program builds only for targets of 32 bits or more. -/
structure Target where
  usizeBits : Nat
  overflowChecks : Bool
  wide : 32 ≤ usizeBits

/-- No `u32` payload size added to the 16-byte header offset panics: the build wraps, or its
    `usize` holds every such sum. -/
def Target.NoOverflowPanic (target : Target) : Prop :=
  target.overflowChecks = false ∨ 33 ≤ target.usizeBits

instance (target : Target) : Decidable target.NoOverflowPanic :=
  inferInstanceAs (Decidable (_ ∨ _))

/-- A 64-bit build with overflow checks. -/
def Target.debug64 : Target := ⟨64, true, by decide⟩

/-- The environment of a run: the scanner's answers, the clock, and the build. -/
structure Env where
  reply : Nat → Reply
  clock : Nat → PrimitiveDateTime
  target : Target

/-! ## Events -/

/-- A payload the listener sends: the empty discover payload, or a poll command. -/
inductive Outbound where
  | empty (payload : Bjnp.Empty)
  | command (payload : Command)
  deriving DecidableEq

instance : Serialize Outbound where
  serialize
    | .empty payload => Serialize.serialize payload
    | .command payload => Serialize.serialize payload
  size
    | .empty payload => Serialize.size payload
    | .command payload => Serialize.size payload

/-- A payload the listener receives: a discover response or a poll response. -/
inductive Inbound where
  | discover (response : Discover.Response)
  | poll (response : Response)
  deriving DecidableEq

/-- What the listener does. -/
inductive Event where
  | resetSequence
  | sent (packet : Packet Outbound)
  | received (payload : Inbound)
  | launched (interrupt : Interrupt) (vars : List (String × String))
  deriving DecidableEq

/-! ## The listener -/

/-- `Channel`: the socket belongs to the environment; the channel keeps its sequence. -/
structure Channel where
  sequence : UInt16
  deriving DecidableEq, Repr

/-- `State`; a back-off duration is its whole seconds. -/
inductive State where
  | init
  | poll
  | backoff (dur : Nat)
  deriving DecidableEq, Repr

/-- `Listener` (its configuration is passed alongside), with the progress of its run: the
    sends and receives made so far and the events so far, oldest first. -/
structure Listener where
  channel : Channel
  state : State
  sessionId : UInt32
  ops : Nat
  trace : List Event

/-- `Listener::new`: a fresh channel, in `Init`, with session id 0. -/
def Listener.new : Listener := ⟨⟨0⟩, .init, 0, 0, []⟩

/-- Why `Listener::next` returns `Err`: a send or receive failed or timed out, a datagram did
    not decode, the scanner reported an error, or the first poll was answered by an
    interrupt. -/
inductive ListenError where
  | io
  | parse (e : ParseError)
  | remote (code : UInt8)
  | interruptDuringFirstPoll
  deriving DecidableEq, Repr

/-! ## The listener's code -/

/-- A computation of the listener. -/
def Io (α : Type) : Type := Listener → Outcome ListenError α × Listener

namespace Io

variable {α β : Type}

/-- Return a value, changing nothing. -/
def pure (a : α) : Io α := fun l => (.ok a, l)

/-- Run `x`, then `f` on its value; a failure or a panic stops there. -/
def bind (x : Io α) (f : α → Io β) : Io β := fun l =>
  match x l with
  | (.ok a, l') => f a l'
  | (.err e, l') => (.err e, l')
  | (.panic, l') => (.panic, l')

instance : Monad Io where
  pure := Io.pure
  bind := Io.bind

/-- Return `Err e`. -/
def throw (e : ListenError) : Io α := fun l => (.err e, l)

/-- `Option::unwrap`. -/
def unwrap : Option α → Io α
  | some a => Io.pure a
  | none => fun l => (.panic, l)

@[simp] theorem pure_apply (a : α) (l : Listener) : (Pure.pure a : Io α) l = (.ok a, l) := rfl

theorem bind_apply (x : Io α) (f : α → Io β) (l : Listener) :
    (x >>= f) l = match x l with
      | (.ok a, l') => f a l'
      | (.err e, l') => (.err e, l')
      | (.panic, l') => (.panic, l') := rfl

/-! ## Hoare triples -/

/-- From a listener satisfying `P`, `x` returns a value and a listener satisfying `Q`, or
    fails or panics leaving one satisfying `E`. -/
def Triple (P : Listener → Prop) (x : Io α) (Q : α → Listener → Prop) (E : Listener → Prop) :
    Prop :=
  ∀ l, P l → match x l with
    | (.ok a, l') => Q a l'
    | (.err _, l') => E l'
    | (.panic, l') => E l'

variable {P P' : Listener → Prop} {Q Q' : α → Listener → Prop} {R : β → Listener → Prop}
  {E E' : Listener → Prop}

theorem Triple.pure {a : α} (h : ∀ l, P l → Q a l) : Triple P (Pure.pure a) Q E :=
  fun l hl => h l hl

theorem Triple.bind {x : Io α} {f : α → Io β} (hx : Triple P x Q E)
    (hf : ∀ a, Triple (Q a) (f a) R E) : Triple P (x >>= f) R E := by
  intro l hl
  have := hx l hl
  rw [bind_apply]
  revert this
  rcases x l with ⟨_ | _ | _, l'⟩ <;> intro this
  · exact hf _ l' this
  · exact this
  · exact this

theorem Triple.mono {x : Io α} (h : Triple P x Q E) (hP : ∀ l, P' l → P l)
    (hQ : ∀ a l, Q a l → Q' a l) (hE : ∀ l, E l → E' l) : Triple P' x Q' E' := by
  intro l hl
  have := h l (hP l hl)
  revert this
  rcases x l with ⟨_ | _ | _, l'⟩ <;> intro this
  · exact hQ _ _ this
  · exact hE _ this
  · exact hE _ this

theorem Triple.throw {e : ListenError} (h : ∀ l, P l → E l) : Triple P (Io.throw e : Io α) Q E :=
  fun l hl => h l hl

theorem Triple.unwrap {o : Option α} (h : ∀ a, o = some a → ∀ l, P l → Q a l)
    (hE : o = none → ∀ l, P l → E l) : Triple P (Io.unwrap o) Q E := by
  cases o with
  | some a => exact fun l hl => h a rfl l hl
  | none => exact fun l hl => hE rfl l hl

theorem Triple.ite {c : Prop} [Decidable c] {x y : Io α} (hx : c → Triple P x Q E)
    (hy : ¬ c → Triple P y Q E) : Triple P (if c then x else y) Q E := by
  by_cases hc : c
  · rw [if_pos hc]; exact hx hc
  · rw [if_neg hc]; exact hy hc

end Io

end ScannerButton

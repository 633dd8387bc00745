import ScannerButton.App.Channel

/-
  The poll listener (`src/poll.rs`). From `Init` and from `Backoff`, `try_init` resets the
  channel's sequence, sends a discover command and awaits the response, sends a host-only poll
  and stores the session id of its response, and the listener moves to `Poll`. In `Poll`, a
  round sends a full poll with the session id and the local time, takes the session id of the
  response if it has one, and when the status is exactly `0x8000` hands the interrupt to the
  external program and sends a reset poll acknowledging the action id. Any error moves `Init`
  to `Backoff`, `Poll` to `Init`, and lengthens a back-off (`transit_err`). `listen` repeats
  this; a panic ends the program.
-/

namespace ScannerButton

open Bjnp Bjnp.Poll Time

/-- `ListenConfig`, as far as the listener's protocol reads it: the scanner address and the
    program to launch are the environment's. The back-off grows by
    `(secs as f32 * backoff_factor) as u64`, given here as the function it computes. -/
structure ListenConfig where
  hostname : Host
  initialMaxWaiting : Nat
  backoffScale : Nat → Nat
  backoffMaximum : Nat

namespace Listener

/-- Read the listener's session id. -/
def getSessionId : Io UInt32 := fun l => (.ok l.sessionId, l)

/-- `self.session_id = session_id`. -/
def setSessionId (sessionId : UInt32) : Io Unit := fun l => (.ok (), { l with sessionId })

/-- `OffsetDateTime::now_local()`, or UTC, as a `PrimitiveDateTime`. -/
def now (env : Env) : Io PrimitiveDateTime := fun l => (.ok (env.clock l.ops), l)

/-- The environment `Listener::launch` gives the external program. An absent feeder type or
    orientation, as on a flatbed scan, gives the empty string, a value the `listen` command's
    help text does not list. -/
def launchVars (interrupt : Interrupt) : List (String × String) :=
  let colorMode := match interrupt.colorMode with
    | .color => "COLOR"
    | .mono => "MONO"
  let size := match interrupt.size with
    | .a4 => "A4"
    | .letter => "LETTER"
    | .size10x15 => "10x15"
    | .size13x18 => "13x18"
    | .auto => "AUTO"
  let format := match interrupt.format with
    | .jpeg => "JPEG"
    | .tiff => "TIFF"
    | .pdf => "PDF"
    | .kompaktPdf => "KOMPAKT_PDF"
  let dpi := match interrupt.dpi with
    | .dpi75 => "75"
    | .dpi150 => "150"
    | .dpi300 => "300"
    | .dpi600 => "600"
  let source := match interrupt.source with
    | .flatbed => "FLATBED"
    | .autoDocumentFeeder => "FEEDER"
  let feederType := match interrupt.feederType with
    | some .simplex => "SIMPLEX"
    | some .duplex => "DUPLEX"
    | none => ""
  let feederOrientation := match interrupt.feederOrientation with
    | some .portrait => "PORTRAIT"
    | some .landscape => "LANDSCAPE"
    | none => ""
  [("SCANNER_COLOR_MODE", colorMode), ("SCANNER_PAGE", size), ("SCANNER_FORMAT", format),
    ("SCANNER_DPI", dpi), ("SCANNER_SOURCE", source), ("SCANNER_ADF_TYPE", feederType),
    ("SCANNER_ADF_ORIENT", feederOrientation)]

/-- `ignore_err(self.launch(interrupt))`: the program is spawned and not awaited, and a failure
    to spawn it is ignored. -/
def launch (interrupt : Interrupt) : Io Unit := fun l =>
  (.ok (), { l with trace := l.trace ++ [.launched interrupt (launchVars interrupt)] })

/-- `Listener::try_init`. -/
def tryInit (cfg : ListenConfig) (env : Env) : Io Unit := do
  Channel.resetSequence
  Channel.send env .discover (.empty ⟨⟩)
  let _ ← (Channel.recv env .discover : Io Discover.Response)
  let command ← Io.unwrap ((CommandBuilder.new .hostOnly).setHost cfg.hostname).build
  Channel.send env .poll (.command command)
  let resp ← (Channel.recv env .poll : Io Response)
  match resp.sessionId with
  | some sessionId => setSessionId sessionId
  | none => Io.throw .interruptDuringFirstPoll

/-- The acknowledgement of an interrupt in a poll round: the reset poll, and its response,
    discarded. -/
def cancelJob (cfg : ListenConfig) (env : Env) (resp : Response) : Io Unit := do
  (if let some interrupt := resp.interrupt then launch interrupt else pure ())
  let sessionId ← getSessionId
  let command ← Io.unwrap (((((CommandBuilder.new .reset).setHost cfg.hostname).setSessionId
    sessionId).setActionId (resp.actionId.getD 0)).build)
  Channel.send env .poll (.command command)
  let _ ← (Channel.recv env .poll : Io Response)

/-- One round of `State::Poll` in `Listener::next`. -/
def pollRound (cfg : ListenConfig) (env : Env) : Io Unit := do
  let now ← now env
  let sessionId ← getSessionId
  let command ← Io.unwrap ((((CommandBuilder.new .full).setHost cfg.hostname).setSessionId
    sessionId).setDatetime now).build
  Channel.send env .poll (.command command)
  let resp ← (Channel.recv env .poll : Io Response)
  (if let some sessionId := resp.sessionId then setSessionId sessionId else pure ())
  if resp.status = 0x8000 then cancelJob cfg env resp

/-- `Listener::next`: the state the listener moves to. -/
def next (cfg : ListenConfig) (env : Env) : State → Io State
  | .init => do
    tryInit cfg env
    pure .poll
  | .poll => do
    pollRound cfg env
    pure .poll
  | .backoff _ => do
    tryInit cfg env
    pure .poll

/-- `Listener::transit_err`. -/
def transitErr (cfg : ListenConfig) : State → State
  | .init => .backoff cfg.initialMaxWaiting
  | .poll => .init
  | .backoff dur => .backoff (min cfg.backoffMaximum (cfg.backoffScale dur))

end Listener

/-- `listen`, for `n` turns of its loop: the state `next` returns, or `transit_err` after an
    error. A panic ends the program where it happened. -/
def listen (cfg : ListenConfig) (env : Env) : Nat → Listener → Listener
  | 0, l => l
  | n + 1, l =>
    match Listener.next cfg env l.state l with
    | (.ok state, l') => listen cfg env n { l' with state }
    | (.err _, l') => listen cfg env n { l' with state := Listener.transitErr cfg l.state }
    | (.panic, l') => l'

end ScannerButton

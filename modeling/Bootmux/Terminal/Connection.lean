/-
Bootmux.Terminal.Connection — the iPhone's terminal and a session of the
Companion with the WebSocket between them.

The iPhone's end is one of its transports, the Companion's end is the
session that was made for it. Messages are encoded, travel in order and
are decoded, each way. Everything else that can happen to either end
happens at any time, messages of other transports included.
-/
import Bootmux.Lib.Link
import Bootmux.Companion.Session
import Bootmux.Companion.Unmarshal
import Bootmux.Iphone.GenerationTheorems

namespace Bootmux.Terminal

open Bootmux.Lib
open Bootmux.Companion (Bytes ascii)

/-! ## The iPhone's end -/

/-- The messages of the terminal that go over the transport. -/
def sentOver (socket : Nat) (effects : List Iphone.TerminalEffect) : List Iphone.ClientMessage :=
  effects.filterMap fun
    | .sent k message => if k = socket then some message else none
    | .closed _ _ => none

/-- The call number `i` waits for a message of the transport. -/
def waitsFor (socket : Nat) (s : Iphone.TerminalSession) (i : Nat) : Bool :=
  match Iphone.callAt s.suspended i with
  | some (.receiving k _) => k == socket
  | _ => false

/-- The terminal, with its transport number `socket`. The strings of the
user interface are strings of Swift, which are text. -/
def phone (socket : Nat) :
    Party Iphone.TerminalSession Iphone.TerminalEvent Iphone.TerminalEffect Bytes Bytes Nat where
  machine := Iphone.terminalMachine
  emits effect := (sentOver socket [effect]).map Iphone.encode
  admits := waitsFor socket
  hears i data := some (.resume i (.message data))
  own s
    | .resume i (.message _) => !waitsFor socket s i
    | .sendInput text => Utf8.valid text
    | .sendCodexPrompt prompt _ => Utf8.valid prompt
    | _ => true

/-! ## The Companion's end -/

/-- The settings of a session of `NewServer`. -/
def settings (random : Vector UInt8 16) : Companion.Config :=
  Companion.defaultConfig (Companion.newSessionID random) Companion.unmarshal

/-- The session; `readClient` reads one message after the other. -/
def companion (random : Vector UInt8 16) :
    Party Companion.Session Companion.SessionEvent Companion.Effect Bytes Bytes Unit where
  machine := Companion.sessionMachine (settings random)
  emits
    | .wrote message => [Companion.encode message]
    | _ => []
  admits s _ := s.clientReader = .reading
  hears _ data := some (.clientRead (.data data))
  own _
    | .clientRead (.data _) => false
    | _ => true

/-- The WebSocket loses nothing until it ends, and after that brings
nothing more. -/
def connection (socket : Nat) (random : Vector UInt8 16) :
    Lib.Link Iphone.TerminalSession Iphone.TerminalEvent Iphone.TerminalEffect Nat
      Companion.Session Companion.SessionEvent Companion.Effect Unit Bytes Bytes where
  left := phone socket
  right := companion random
  fails := false

abbrev ConnectionEvent : Type :=
  LinkEvent Iphone.TerminalEvent Companion.SessionEvent Nat Unit

end Bootmux.Terminal

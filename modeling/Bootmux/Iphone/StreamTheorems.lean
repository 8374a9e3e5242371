/-
Bootmux.Iphone.StreamTheorems — the output of the terminal and of Codex in
one session (`TerminalSession.swift`).

Both go through the sanitizer of the session. What a message adds to the
buffer is what its stream alone would add, as long as both streams have left
the sanitizer at the same place whenever the other one comes; three short
texts tell all of its states apart (`state_of_probes`), so that anything less
lets one stream change what becomes of the other.
-/
import Bootmux.Lib.SharedStream
import Bootmux.Iphone.BufferTheorems
import Bootmux.Iphone.TerminalSession

namespace Bootmux.Iphone

open Bootmux.Bmx1 (Bytes ascii)
open Bootmux.Lib
open Bootmux.Lib.SharedStream (InStep Undisturbed separate shared sharedState)

/-! ## Messages -/

inductive OutputStream where
  | pty
  | codex
  deriving DecidableEq, Repr

/-- What a message brings; an `output` has no request. -/
structure Output where
  requestID : Bytes
  text : SwiftString

def decodedMessage (sessionID : Bytes) : OutputStream × Output → ServerMessage
  | (.pty, output) => .output sessionID output.text.1
  | (.codex, output) => .codexOutput sessionID output.requestID output.text.1

/-- `sanitizer.consume(text)`. -/
def sanitize (s : ANSISanitizer) (output : Output) : ANSISanitizer × Bytes :=
  s.consume output.text.1

/-- `handle` for one message after the other. -/
def handleAll (s : TerminalSession) (messageGeneration : Nat) (messages : List ServerMessage) :
    Except ProtocolError TerminalSession :=
  messages.foldlM (fun s message =>
    (s.handleDecoded messageGeneration message).map TerminalSession.Handled.session) s

/-! ## States -/

/-- Texts that the states of the sanitizer answer in different ways. -/
def probes : List Bytes := [ascii "[xx", ascii "\\x", [0x07, 0x78]]

def sanitizerStates : List ANSISanitizer :=
  [.normal, .escape, .csi, .osc, .oscEscape].flatMap fun state => [⟨state, false⟩, ⟨state, true⟩]

/-- The list has every state. -/
theorem mem_sanitizerStates (s : ANSISanitizer) : s ∈ sanitizerStates := by
  obtain ⟨state, pendingCR⟩ := s
  cases state <;> cases pendingCR <;> decide

/-- States that answer the probes alike are the same. -/
theorem state_of_probes {s t : ANSISanitizer}
    (h : ∀ probe ∈ probes, (s.consume probe).2 = (t.consume probe).2) : s = t := by
  have hall : ∀ s ∈ sanitizerStates, ∀ t ∈ sanitizerStates,
      (∀ probe ∈ probes, (s.consume probe).2 = (t.consume probe).2) → s = t := by
    decide +kernel
  exact hall s (mem_sanitizerStates s) t (mem_sanitizerStates t) h

theorem probes_valid : ∀ probe ∈ probes, Utf8.valid probe = true := by decide

/-- States that answer every text in the same way are the same. -/
theorem sanitizer_separated (s t : ANSISanitizer)
    (h : ∀ output, (sanitize s output).2 = (sanitize t output).2) : s = t :=
  state_of_probes fun probe hprobe => h ⟨[], ⟨probe, probes_valid probe hprobe⟩⟩

/-! ## The session -/

/-- What a session keeps when it schedules a publication. -/
theorem schedulePublish_keeps (s : TerminalSession) (generation : Nat) :
    (s.schedulePublish generation).state = s.state ∧
      (s.schedulePublish generation).sanitizer = s.sanitizer ∧
        (s.schedulePublish generation).buffer = s.buffer := by
  unfold TerminalSession.schedulePublish
  cases s.publishTask <;> exact ⟨rfl, rfl, rfl⟩

/-- An output message is shown as its sanitizer leaves it. -/
theorem handle_output {s : TerminalSession} {sessionID : Bytes}
    (hs : s.state = .connected sessionID) (generation : Nat) (m : OutputStream × Output) :
    ∃ t, (s.handleDecoded generation (decodedMessage sessionID m)).map
          TerminalSession.Handled.session = .ok t ∧
      t.state = s.state ∧ t.sanitizer = (sanitize s.sanitizer m.2).1 ∧
        t.buffer = s.buffer.append (sanitize s.sanitizer m.2).2 := by
  obtain ⟨hstate, hsanitizer, hbuffer⟩ :=
    schedulePublish_keeps (s.appendOutput m.2.text.1) generation
  refine ⟨(s.appendOutput m.2.text.1).schedulePublish generation, ?_, hstate, hsanitizer, hbuffer⟩
  obtain ⟨stream, output⟩ := m
  cases stream with
  | pty =>
      show (s.ofSession sessionID _).map _ = _
      rw [TerminalSession.ofSession, if_pos hs]
      rfl
  | codex =>
      show (s.ofSession sessionID _).map _ = _
      rw [TerminalSession.ofSession, if_pos hs]
      rfl

/-- What the messages of a session add to its buffer. -/
theorem handleAll_buffer {s : TerminalSession} {sessionID : Bytes}
    (hs : s.state = .connected sessionID) (generation : Nat)
    (messages : List (OutputStream × Output)) :
    ∃ t, handleAll s generation (messages.map (decodedMessage sessionID)) = .ok t ∧
      t.buffer = (shared sanitize s.sanitizer messages).foldl TerminalBuffer.append s.buffer := by
  induction messages generalizing s with
  | nil => exact ⟨s, rfl, rfl⟩
  | cons m messages ih =>
      obtain ⟨t, hhandle, hstate, hsanitizer, hbuffer⟩ := handle_output hs generation m
      obtain ⟨u, hall, hfinal⟩ := ih (hstate.trans hs)
      refine ⟨u, ?_, ?_⟩
      · rw [List.map_cons, handleAll, List.foldlM_cons, hhandle]
        exact hall
      · rw [hfinal, hbuffer, hsanitizer, shared, List.foldl_cons]

/-- A session right after its hello. -/
def TerminalSession.greeted (s : TerminalSession) (sessionID : Bytes) : TerminalSession :=
  { s with state := .connected sessionID, sanitizer := {} }

/-- **The streams of a session.** The first part is what its messages add to
the buffer. The two streams are in step iff no message, whatever its text,
becomes something else than in its stream alone; and then the texts added are
those of the streams alone. -/
theorem streams_in_step_iff (s : TerminalSession) (sessionID : Bytes) (generation : Nat)
    (messages : List (OutputStream × Output)) :
    (∃ t, handleAll (s.greeted sessionID) generation
        (messages.map (decodedMessage sessionID)) = .ok t ∧
      t.buffer = (shared sanitize {} messages).foldl TerminalBuffer.append s.buffer) ∧
    (Undisturbed sanitize {} messages ↔ InStep sanitize {} messages) ∧
    (InStep sanitize {} messages →
      shared sanitize {} messages = separate sanitize (fun _ => {}) messages) :=
  ⟨handleAll_buffer (s := s.greeted sessionID) rfl generation messages,
    SharedStream.undisturbed_iff_inStep sanitizer_separated messages,
    SharedStream.shared_eq_separate⟩

/-! ## A sequence that the terminal leaves open -/

/-- ESC [ of a program, and Codex says hello. -/
def openMessages : List (OutputStream × Output) :=
  [(.pty, ⟨[], ⟨[0x1B, 0x5B], by decide⟩⟩), (.codex, ⟨ascii "r1", ⟨ascii "hello", by decide⟩⟩)]

/-- An output that is cut inside a sequence swallows the start of another. -/
theorem hello_swallowed :
    ¬∀ messages : List (OutputStream × Output),
      shared sanitize {} messages = separate sanitize (fun _ => {}) messages := by
  intro hall
  have hshared : shared sanitize {} openMessages = [[], ascii "ello"] := by decide
  have hseparate : separate sanitize (fun _ => {}) openMessages = [[], ascii "hello"] := by decide
  have heq := hall openMessages
  rw [hshared, hseparate] at heq
  exact absurd heq (by decide)

end Bootmux.Iphone

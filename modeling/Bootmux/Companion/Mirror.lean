/-
Bootmux.Companion.Mirror — the HID mirror (`mirror.go` and
`handleMirror` in `server.go`).

`readNew` looks at the file four times: `os.Stat`, `os.Open`, the read
of the prefix and the read of the new bytes. Each is a step of its own,
because the program that writes the file does not wait for the observer.
The file is changed in place, by appending or by writing it anew; its
removal while it is open is left out. A step the loop cannot take
changes nothing.

The bytes `io.ReadAll` returns are those at the offset when it meets the
end of the file or its limit, so one reading of the file stands for the
reads it is made of.

A connection to the mirror greets the client, sends what it reads in batches
and ends with an error message at most. The observer keeps the size, the
time and the first bytes of the file, which is all that it has to tell a
file that has grown from one that was written anew.
-/
import Bootmux.Lib.Machine
import Bootmux.Companion.Protocol

namespace Bootmux.Companion

open Bootmux.Lib

structure MirrorFile where
  content : Bytes
  modTime : Int
  deriving DecidableEq, Repr

/-- `mirrorObserver`, less the path. -/
structure MirrorObserver where
  offset : Nat
  batch : Nat
  modTime : Int
  prefixBytes : Bytes
  deriving DecidableEq, Repr

def defaultMirrorBatchBytes : Nat := 1024

def newMirrorObserver (batch : Nat) : MirrorObserver where
  offset := 0
  batch := if batch = 0 then defaultMirrorBatchBytes else batch
  modTime := 0
  prefixBytes := []

/-- The test after `os.Stat`: a file that shrank, or changed without
growing, is read from the start. -/
def MirrorObserver.stat (o : MirrorObserver) (size : Nat) (modTime : Int) : MirrorObserver :=
  if size < o.offset ∨ (size = o.offset ∧ modTime ≠ o.modTime) then { o with offset := 0 } else o

/-- The comparison of the first bytes, made when `os.Stat` found nothing
new. -/
def MirrorObserver.checkPrefix (o : MirrorObserver) (size : Nat) (content : Bytes) :
    MirrorObserver :=
  if size = o.offset ∧ 0 < o.prefixBytes.length ∧ o.prefixBytes.length ≤ content.length ∧
      content.take o.prefixBytes.length ≠ o.prefixBytes then { o with offset := 0 }
  else o

/-- The bytes `io.ReadAll(io.LimitReader(file, o.batch))` returns. -/
def MirrorObserver.newBytes (o : MirrorObserver) (content : Bytes) : Bytes :=
  (content.drop o.offset).take o.batch

/-- What `readNew` records of a read. -/
def MirrorObserver.record (o : MirrorObserver) (modTime : Int) (data : Bytes) : MirrorObserver where
  offset := o.offset + data.length
  batch := o.batch
  modTime := modTime
  prefixBytes := if o.prefixBytes = [] ∧ 0 < data.length then data else o.prefixBytes

/-! ## The loop -/

/-- Where `handleMirror` stands. In `readNew` it holds the size and time
`os.Stat` returned. -/
inductive MirrorPc where
  | hello
  | select
  | opening (size : Nat) (modTime : Int)
  | checking (size : Nat) (modTime : Int)
  | reading (modTime : Int)
  | returned
  deriving DecidableEq, Repr

structure Mirror where
  file : Option MirrorFile
  observer : MirrorObserver
  pc : MirrorPc
  deriving DecidableEq, Repr

/-- `ok` is whether `WriteJSON` succeeds, where the step writes. -/
inductive MirrorEvent where
  | append (data : Bytes) (modTime : Int)
  | rewrite (content : Bytes) (modTime : Int)
  | hello (ok : Bool)
  | stat (ok : Bool)
  | opened (ok : Bool)
  | check
  | read (ok : Bool)
  | clientMessage (ok : Bool)
  | clientError
  deriving DecidableEq, Repr

/-- `writeMirror`; the loop goes on at `next` if the message is written. -/
def Mirror.write (m : Mirror) (ok : Bool) (message : ServerMessage) (next : MirrorPc) :
    Mirror × List ServerMessage :=
  if ok then ({ m with pc := next }, [message]) else ({ m with pc := .returned }, [])

def mirrorHello (sessionID : Bytes) : ServerMessage :=
  { type := .mirrorHello, sessionID, stream := some .hidMirror }

def mirrorError (sessionID : Bytes) (code : Code) : ServerMessage :=
  { type := .mirrorError, sessionID, stream := some .hidMirror, error := some code }

def mirrorOutput (sessionID : Bytes) (text : Bytes) : ServerMessage :=
  { type := .mirrorOutput, sessionID, stream := some .hidMirror, text }

/-- `readNew` failed: one message, and the loop ends. -/
def Mirror.fail (m : Mirror) (sessionID : Bytes) (ok : Bool) : Mirror × List ServerMessage :=
  m.write ok (mirrorError sessionID .mirrorSourceUnavailable) .returned

def mirrorStep (sessionID : Bytes) (m : Mirror) : MirrorEvent → Mirror × List ServerMessage
  | .append data modTime =>
      match m.file with
      | none => (m, [])
      | some file => ({ m with file := some ⟨file.content ++ data, modTime⟩ }, [])
  | .rewrite content modTime => ({ m with file := some ⟨content, modTime⟩ }, [])
  | .hello ok =>
      match m.pc with
      | .hello => m.write ok (mirrorHello sessionID) .select
      | _ => (m, [])
  | .stat ok =>
      match m.pc, m.file with
      | .select, some file =>
          ({ m with
              observer := m.observer.stat file.content.length file.modTime
              pc := .opening file.content.length file.modTime }, [])
      | .select, none => m.fail sessionID ok
      | _, _ => (m, [])
  | .opened ok =>
      match m.pc, m.file with
      | .opening size modTime, some _ => ({ m with pc := .checking size modTime }, [])
      | .opening _ _, none => m.fail sessionID ok
      | _, _ => (m, [])
  | .check =>
      match m.pc, m.file with
      | .checking size modTime, some file =>
          ({ m with observer := m.observer.checkPrefix size file.content, pc := .reading modTime },
            [])
      | _, _ => (m, [])
  | .read ok =>
      match m.pc, m.file with
      | .reading modTime, some file =>
          let data := m.observer.newBytes file.content
          let m := { m with observer := m.observer.record modTime data, pc := .select }
          if data.length = 0 then (m, []) else m.write ok (mirrorOutput sessionID data) .select
      | _, _ => (m, [])
  | .clientMessage ok =>
      match m.pc with
      | .select => m.write ok (mirrorError sessionID .mirrorReadOnly) .select
      | _ => (m, [])
  | .clientError =>
      match m.pc with
      | .select => ({ m with pc := .returned }, [])
      | _ => (m, [])

/-- A connection to the mirror of a file. -/
def mirrorMachine (sessionID : Bytes) (file : Option MirrorFile) :
    Machine Mirror MirrorEvent ServerMessage where
  init := ⟨file, newMirrorObserver defaultMirrorBatchBytes, .hello⟩
  step := mirrorStep sessionID

end Bootmux.Companion

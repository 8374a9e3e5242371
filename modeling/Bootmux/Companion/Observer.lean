/-
Bootmux.Companion.Observer — `mirrorObserver` and the file it watches
(`mirror.go`).

The observer is the one of `Bootmux.Companion.Mirror`, without the
connection that polls it. The steps of `readNew` and the changes of the
file come in any order; `poll` is a `readNew` that nothing comes between.
A write of no bytes leaves a file as it is, its modification time
included.

Not in the source: the number of times the file was written anew, and
the position of the bytes a poll returns, which the batches carry for
the theorems.

The positions number the bytes of a generation of the file, so that two
equal bytes can be told apart. `watchMachine` interleaves the steps of a
poll with the changes of the file, `pollMachine` takes a poll at once; every
run of the second is one of the first.
-/
import Bootmux.Companion.Mirror

namespace Bootmux.Companion

open Bootmux.Lib

/-- Where `readNew` stands, with what `os.Stat` returned. -/
inductive ReadPc where
  | idle
  | opening (size : Nat) (modTime : Int)
  | checking (size : Nat) (modTime : Int)
  | reading (modTime : Int)
  deriving DecidableEq, Repr

structure Watched where
  file : MirrorFile
  generation : Nat
  observer : MirrorObserver
  pc : ReadPc
  deriving DecidableEq, Repr

/-- The bytes a poll returns and where they stand in the file. -/
structure Batch where
  generation : Nat
  offset : Nat
  data : Bytes
  deriving DecidableEq, Repr

inductive WatchEvent where
  | append (data : Bytes) (modTime : Int)
  | rewrite (content : Bytes) (modTime : Int)
  | stat
  | opened
  | check
  | read
  deriving DecidableEq, Repr

def watchStep (w : Watched) : WatchEvent → Watched × List Batch
  | .append data modTime =>
      if data = [] then (w, [])
      else ({ w with file := ⟨w.file.content ++ data, modTime⟩ }, [])
  | .rewrite content modTime =>
      ({ w with file := ⟨content, modTime⟩, generation := w.generation + 1 }, [])
  | .stat =>
      match w.pc with
      | .idle =>
          ({ w with
              observer := w.observer.stat w.file.content.length w.file.modTime
              pc := .opening w.file.content.length w.file.modTime }, [])
      | _ => (w, [])
  | .opened =>
      match w.pc with
      | .opening size modTime => ({ w with pc := .checking size modTime }, [])
      | _ => (w, [])
  | .check =>
      match w.pc with
      | .checking size modTime =>
          ({ w with
              observer := w.observer.checkPrefix size w.file.content
              pc := .reading modTime }, [])
      | _ => (w, [])
  | .read =>
      match w.pc with
      | .reading modTime =>
          let data := w.observer.newBytes w.file.content
          ({ w with observer := w.observer.record modTime data, pc := .idle },
            [⟨w.generation, w.observer.offset, data⟩])
      | _ => (w, [])

/-- An observer of a file that was not read before. -/
def watchMachine (file : MirrorFile) (batch : Nat) : Machine Watched WatchEvent Batch where
  init := ⟨file, 0, newMirrorObserver batch, .idle⟩
  step := watchStep

/-! ## A poll at once -/

/-- The steps of `readNew`. -/
def readNewSteps : List WatchEvent := [.stat, .opened, .check, .read]

/-- `readNew` on a file that nothing changes meanwhile: the bytes it
returns and the observer it leaves. -/
def MirrorObserver.readNew (o : MirrorObserver) (file : MirrorFile) : Bytes × MirrorObserver :=
  let o := (o.stat file.content.length file.modTime).checkPrefix file.content.length file.content
  (o.newBytes file.content, o.record file.modTime (o.newBytes file.content))

/-- Where a poll at once starts to read. -/
def MirrorObserver.start (o : MirrorObserver) (file : MirrorFile) : Nat :=
  ((o.stat file.content.length file.modTime).checkPrefix file.content.length file.content).offset

inductive PollEvent where
  | append (data : Bytes) (modTime : Int)
  | rewrite (content : Bytes) (modTime : Int)
  | poll
  deriving DecidableEq, Repr

def pollStep (w : Watched) : PollEvent → Watched × List Batch
  | .append data modTime => watchStep w (.append data modTime)
  | .rewrite content modTime => watchStep w (.rewrite content modTime)
  | .poll =>
      ({ w with observer := (w.observer.readNew w.file).2 },
        [⟨w.generation, w.observer.start w.file, (w.observer.readNew w.file).1⟩])

def pollMachine (file : MirrorFile) (batch : Nat) : Machine Watched PollEvent Batch where
  init := ⟨file, 0, newMirrorObserver batch, .idle⟩
  step := pollStep

end Bootmux.Companion

/-
Bootmux.SafeFlash.FlashJournal — the journal of the flash runner
(`bootmux-safe-flash-runner.py`), with restarts of its process and writes that
are cut short.

The session directory and the object are one state. A text is its bytes in
UTF-8; the file is the text that `read_text` makes of it, and a line of it is
read by `json.loads`. A float is the number that it is printed as.

Left out: data that is not JSON (`default=str`), and texts with a surrogate.

A new object reads nothing, so its numbers start again. `loadFile` raises
where a line is no entry, and a crash may leave such a line.
-/
import Bootmux.Lib.JsonAscii
import Bootmux.Lib.Machine
import Bootmux.Lib.PyText

namespace Bootmux.SafeFlash

open Bootmux.Lib
open Bootmux.Lib.Json (Value dumps wellFormed wellFormedMembers isNumberText natText)
open Bootmux.Lib.PyText (splitlines strip unlines)

def utf8 (s : String) : List UInt8 := s.toUTF8.data.toList

/-! ## Entries -/

/-- A text. -/
structure Text where
  bytes : List UInt8
  valid : Utf8.valid bytes = true

/-- A float as it is printed. -/
structure Stamp where
  text : List UInt8
  isNumber : isNumberText text = true

/-- A dictionary of JSON values. -/
structure Data where
  members : List (List UInt8 × Value)
  wellFormed : wellFormedMembers members = true

/-- The fields can be any values, since `load` takes what a line has. -/
structure JournalEntry where
  seq : Value
  ts : Value
  event : Value
  data : Value
  status : Value

/-- What `append` gets, and the time. -/
structure Note where
  ts : Stamp
  event : Text
  data : Option Data
  status : Text

/-- The entry of a note with its number. -/
def Note.entry (note : Note) (number : Nat) : JournalEntry where
  seq := .number (natText number)
  ts := .number note.ts.text
  event := .string note.event.bytes
  data := .object ((note.data.map Data.members).getD [])
  status := .string note.status.bytes

/-- `asdict`. -/
def JournalEntry.asDict (entry : JournalEntry) : Value :=
  .object [(utf8 "seq", entry.seq), (utf8 "ts", entry.ts), (utf8 "event", entry.event),
    (utf8 "data", entry.data), (utf8 "status", entry.status)]

def fieldNames : List (List UInt8) := ["seq", "ts", "event", "data", "status"].map utf8

/-- The value of a key, the last one if it is there twice. -/
def lastOf (members : List (List UInt8 × Value)) (key : String) : Option Value :=
  members.reverse.lookup (utf8 key)

/-- `JournalEntry(**d)`; `none` raises. -/
def JournalEntry.ofDict : Value → Option JournalEntry
  | .object members =>
      if members.all fun member => fieldNames.contains member.1 then do
        some {
          seq := ← lastOf members "seq"
          ts := ← lastOf members "ts"
          event := ← lastOf members "event"
          data := (lastOf members "data").getD (.object [])
          status := (lastOf members "status").getD (.string (utf8 "OK")) }
      else none
  | _ => none

/-! ## The file -/

/-- A text in ASCII. -/
def asciiText (bytes : List UInt8) : List Char := bytes.map fun b => Char.ofNat b.toNat

/-- `json.loads`. -/
def loads (line : List Char) : Option Value :=
  Json.parse (line.flatMap fun c => Json.encodeRune c.toNat)

/-- The line of an entry, without its newline. -/
def lineOf (entry : JournalEntry) : List Char := asciiText (dumps entry.asDict)

/-- The loop of `load`. -/
def loadLines : List (List Char) → Option (List JournalEntry)
  | [] => some []
  | line :: lines =>
      if strip line = [] then loadLines lines
      else do
        let entry ← JournalEntry.ofDict (← loads (strip line))
        (loadLines lines).map (entry :: ·)

/-- `load`, of a file that may be missing; `none` raises. -/
def loadFile (file : Option (List Char)) : Option (List JournalEntry) :=
  match file with
  | none => some []
  | some text => loadLines (splitlines text)

/-! ## Operations -/

/-- The session directory, whether it is there and its file, and the number
of the object. -/
structure FlashJournal where
  sessionDir : Bool
  file : Option (List Char)
  seq : Nat

inductive Operation where
  /-- A new object. -/
  | new
  | init
  | append (note : Note)
  /-- The process ends inside of an append, after so many characters of the
  line are on the disk, or before the file is opened; a new object follows. -/
  | crash (note : Note) (written : Option Nat)
  | load

inductive Answer where
  | appended (entry : JournalEntry)
  | appendRaised
  | loaded (entries : Option (List JournalEntry))

/-- The file with a text at its end. -/
def FlashJournal.write (journal : FlashJournal) (text : List Char) : FlashJournal :=
  { journal with file := some (journal.file.getD [] ++ text) }

def FlashJournal.append (journal : FlashJournal) (note : Note) : FlashJournal × List Answer :=
  let entry := note.entry (journal.seq + 1)
  let journal := { journal with seq := journal.seq + 1 }
  if journal.sessionDir then (journal.write (lineOf entry ++ ['\n']), [.appended entry])
  else (journal, [.appendRaised])

/-- An append that a crash ends. -/
def FlashJournal.crash (journal : FlashJournal) (note : Note) (written : Option Nat) :
    FlashJournal :=
  let line := lineOf (note.entry (journal.seq + 1)) ++ ['\n']
  let journal := { journal with seq := 0 }
  match written with
  | none => journal
  | some n => if journal.sessionDir then journal.write (line.take n) else journal

def journalMachine : Machine FlashJournal Operation Answer where
  init := ⟨false, none, 0⟩
  step journal
    | .new => ({ journal with seq := 0 }, [])
    | .init => ({ journal with sessionDir := true }, [])
    | .append note => journal.append note
    | .crash note written => (journal.crash note written, [])
    | .load => (journal, [.loaded (loadFile journal.file)])

end Bootmux.SafeFlash

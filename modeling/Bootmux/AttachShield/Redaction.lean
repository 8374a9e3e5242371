/-
Bootmux.AttachShield.Redaction — what the shield takes out of a text before
it is logged, and the log of a session (`bootmux-attach-shield.py`).

`redact` replaces MAC addresses, dotted quads and home directories, in that
order. A matcher gives the first match that the pattern finds at a place, by
trying what `re` tries in the order it tries it.

`\w` is a parameter beyond ASCII. The line of a log is the JSON text of its
entry with the addresses taken out of the text. Left out: data that is not
JSON (`default=str`), and texts with a surrogate.
-/
import Bootmux.Lib.PySub
import Bootmux.Lib.Search
import Bootmux.SafeFlash.FlashJournalTheorems

namespace Bootmux.AttachShield

open Bootmux.Lib
open Bootmux.Lib.PyText (isDecimal isHexDigit isSpace)
open Bootmux.Lib.Search (upTo)
open Bootmux.SafeFlash (asciiText Text Stamp utf8)

/-! ## Patterns -/

/-- The characters of `\w`. -/
structure WordClass where
  isWord : Char → Bool
  ascii : ∀ c : Char, c.toNat < 0x80 → isWord c = (c.isAlphanum || c == '_')
  decimal : ∀ c : Char, isDecimal c = true → isWord c = true

/-- `REDACTED`. -/
def redacted : List Char := "<redacted>".toList

/-- `([0-9a-fA-F]{2}[:\-]){n}[0-9a-fA-F]{2}`. -/
def macPairs : Nat → List Char → Bool
  | 0, a :: b :: _ => isHexDigit a && isHexDigit b
  | n + 1, a :: b :: c :: rest =>
      isHexDigit a && isHexDigit b && (c == ':' || c == '-') && macPairs n rest
  | _, _ => false

/-- `_MAC_RE`. -/
def macAt : PySub.Matcher := fun _ cs => if macPairs 5 cs then some 17 else none

/-- What is left after `\d{1,3}`. -/
def octet : List Char → List (List Char)
  | [] => []
  | c :: cs => if isDecimal c then upTo isDecimal 2 cs else []

/-- What is left after `\.`. -/
def dot : List Char → List (List Char)
  | '.' :: cs => [cs]
  | _ => []

/-- What is left after `\d{1,3}\.\d{1,3}\.\d{1,3}\.\d{1,3}`. -/
def quadRests (cs : List Char) : List (List Char) :=
  (((((((octet cs).flatMap dot).flatMap octet).flatMap dot).flatMap octet).flatMap dot).flatMap
    octet)

section Words

variable (words : WordClass)

/-- `\b` between two characters, or at an end of the text. -/
def boundary (before after : Option Char) : Bool :=
  before.any words.isWord != after.any words.isWord

/-- `_IP_RE`. -/
def ipAt : PySub.Matcher := fun prev cs =>
  if boundary words prev cs.head? then
    ((quadRests cs).map fun rest => cs.length - rest.length).find? fun n =>
      boundary words (cs.take n).getLast? (cs.drop n).head?
  else none

/-- `_PATH_RE`. -/
def pathAt : PySub.Matcher := fun _ cs =>
  if "/Users/".toList.isPrefixOf cs then
    let name := (cs.drop 7).takeWhile fun c => c != '/' && !isSpace c
    if name = [] then none else some (7 + name.length)
  else none

def redact (text : List Char) : List Char :=
  PySub.subAll pathAt redacted
    (PySub.subAll (ipAt words) redacted (PySub.subAll macAt redacted text))

end Words

/-! ## The log -/

def maxLogBytes : Nat := 10 * 1024 * 1024

/-- What `log` gets, the time and the session. -/
structure LogEntry where
  ts : Stamp
  session : Text
  event : Text
  data : Json.Value
  wellFormed : Json.wellFormed data = true

def LogEntry.asDict (entry : LogEntry) : Json.Value :=
  .object [(utf8 "ts", .number entry.ts.text), (utf8 "session", .string entry.session.bytes),
    (utf8 "event", .string entry.event.bytes), (utf8 "data", entry.data)]

/-- `json.dumps(entry)`. -/
def LogEntry.json (entry : LogEntry) : List Char := asciiText (Json.dumps entry.asDict)

/-- The log file, which may be missing, and `_bytes_written`. -/
structure SessionLogger where
  logFile : Option (List Char)
  bytesWritten : Nat

/-- The line that `log` writes; none once the log is full. -/
def SessionLogger.line (words : WordClass) (logger : SessionLogger) (entry : LogEntry) :
    Option (List Char) :=
  let line := redact words entry.json
  if logger.bytesWritten + line.length > maxLogBytes then none else some line

def SessionLogger.log (words : WordClass) (logger : SessionLogger) (entry : LogEntry) :
    SessionLogger :=
  match logger.line words entry with
  | none => logger
  | some line =>
      { logFile := some (logger.logFile.getD [] ++ line ++ ['\n'])
        bytesWritten := logger.bytesWritten + line.length + 1 }

/-! ## The texts of an entry -/

/-- The characters of a text. -/
def textOf (bytes : List UInt8) : List Char :=
  (Utf8.pieces bytes).map fun u => Char.ofNat (Json.decodeRune u.sanitized)

mutual

/-- The strings of a value, keys too. -/
def stringsOf : Json.Value → List (List Char)
  | .string s => [textOf s]
  | .array elements => stringsOfElements elements
  | .object members => stringsOfMembers members
  | _ => []

def stringsOfElements : List Json.Value → List (List Char)
  | [] => []
  | v :: vs => stringsOf v ++ stringsOfElements vs

def stringsOfMembers : List (List UInt8 × Json.Value) → List (List Char)
  | [] => []
  | m :: ms => stringsOfMember m ++ stringsOfMembers ms

def stringsOfMember : List UInt8 × Json.Value → List (List Char)
  | (key, v) => textOf key :: stringsOf v

end

/-- The strings that are logged with an entry. -/
def LogEntry.strings (entry : LogEntry) : List (List Char) :=
  textOf entry.session.bytes :: textOf entry.event.bytes :: stringsOf entry.data

end Bootmux.AttachShield

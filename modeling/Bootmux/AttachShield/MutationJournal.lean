/-
Bootmux.AttachShield.MutationJournal — the file of the mutation journal and
its rollback (`bootmux-attach-shield.py`).

The file and the object that writes it are one state; a new object for the
same session takes over the file and reads its number from there. A text is
its bytes in UTF-8, a line of the file is read by `json.loads`, and a command
can be run with any JSON values as its words: what the host makes of them, and
whether it raises, is a parameter.

Left out: data that is not JSON (`default=str`), texts with a surrogate, and
numbers of a foreign file with a point in them.

The rollback is given twice in this development. Here it is the function of
the file, with the texts of its issues and with the words of each command as
the journal gives them; the other modules use it on entries that were read
back. `Bootmux.AttachShield.RollbackTheorems` says that the two agree.
-/
import Bootmux.AttachShield.JournalFile
import Bootmux.AttachShield.Redaction

namespace Bootmux.AttachShield

open Bootmux.Lib
open Bootmux.Lib.Json (Value dumps natText intText utf8Text isDigit)
open Bootmux.Lib.PyText (splitlines)
open Bootmux.SafeFlash (Text Stamp Data asciiText loads lastOf utf8)

/-! ## Records -/

/-- What `record` gets, and the time. -/
structure Mutation where
  ts : Stamp
  category : Text
  target : Text
  preValue : Option Data
  cmd : List Text
  exitCode : Int

/-- A dictionary, or `None`. -/
def optionalData (data : Option Data) : Value :=
  match data with
  | none => .null
  | some data => .object data.members

/-- The entry of a mutation with its number. -/
def Mutation.members (words : WordClass) (mutation : Mutation) (number : Nat) :
    List (List UInt8 × Value) :=
  [(utf8 "seq", .number (natText number)), (utf8 "ts", .number mutation.ts.text),
    (utf8 "category", .string mutation.category.bytes),
    (utf8 "target", .string mutation.target.bytes),
    (utf8 "pre_value", optionalData mutation.preValue),
    (utf8 "cmd", .array (mutation.cmd.map fun c =>
      .string (utf8Text (redact words (textOf c.bytes))))),
    (utf8 "exit_code", .number (intText mutation.exitCode))]

def Mutation.entry (words : WordClass) (mutation : Mutation) (number : Nat) : Value :=
  .object (mutation.members words number)

/-! ## The file -/

structure MutationJournal where
  file : Option (List Char)
  seq : Nat

/-- `max(seq, json.loads(line).get("seq", 0))`; `none` raises. -/
def recoverLine (seq : Nat) (line : List Char) : Option Nat :=
  match loads line with
  | some (.object members) =>
      (((lastOf members "seq").getD (.number (natText 0))).integer?).map fun n => max seq n.toNat
  | _ => some seq

/-- `__init__`; `none` raises. -/
def MutationJournal.new (file : Option (List Char)) : Option MutationJournal :=
  ((splitlines (file.getD [])).foldlM recoverLine 0).map fun seq => ⟨file, seq⟩

def MutationJournal.record (words : WordClass) (journal : MutationJournal) (mutation : Mutation) :
    MutationJournal :=
  let entry := mutation.entry words (journal.seq + 1)
  { file := some (journal.file.getD [] ++ asciiText (dumps entry) ++ ['\n'])
    seq := journal.seq + 1 }

def MutationJournal.entries (journal : MutationJournal) : List Value :=
  (splitlines (journal.file.getD [])).filterMap loads

inductive JournalOperation where
  /-- A new object for the session. -/
  | new
  | record (mutation : Mutation)

/-- The journal of a session that has none yet. A new object never raises on
such a file (`new_never_raises`), so that its default is never used. -/
def mutationMachine (words : WordClass) : Machine MutationJournal JournalOperation Unit where
  init := ⟨none, 0⟩
  step journal
    | .new => ((MutationJournal.new journal.file).getD journal, [])
    | .record mutation => (journal.record words mutation, [])

/-! ## Values -/

def str (s : String) : Value := .string (utf8 s)

/-- `value == 0`. -/
def isZero : Value → Bool
  | .bool b => !b
  | .number text =>
      (text.takeWhile fun b => b != 0x65 && b != 0x45).all fun b => !isDigit b || b == 0x30
  | _ => false

/-- `bool(value)`. -/
def isTrue : Value → Bool
  | .null => false
  | .bool b => b
  | .number text => !isZero (.number text)
  | .string s => s != []
  | .array elements => !elements.isEmpty
  | .object members => !members.isEmpty

/-- `value == text`. -/
def isText (value : Value) (s : String) : Bool := value.string? == some (utf8 s)

/-- `type(value).__name__`. -/
def typeName : Value → String
  | .null => "NoneType"
  | .bool _ => "bool"
  | .number text => if text.all fun b => isDigit b || b == 0x2D then "int" else "float"
  | .string _ => "str"
  | .array _ => "list"
  | .object _ => "dict"

/-- The text of an exception. -/
abbrev Raised := Except (List Char)

def noAttribute (value : Value) (name : String) : List Char :=
  ("'" ++ typeName value ++ "' object has no attribute '" ++ name ++ "'").toList

/-- `value.get(key, default)`. -/
def getOr (value : Value) (key : String) (default : Value) : Raised Value :=
  match value with
  | .object members => .ok ((lastOf members key).getD default)
  | value => .error (noAttribute value "get")

/-- `front + value`. -/
def concatenate (front : List Value) : Value → Raised (List Value)
  | .array elements => .ok (front ++ elements)
  | value =>
      .error ("can only concatenate list (not \"" ++ typeName value ++ "\") to list").toList

/-! ## Rollback -/

/-- The branch of `_rollback_one` that a category takes. -/
def branchOf (category : Value) : Option Category :=
  categories.find? fun known => isText category (categoryText known)

/-- The command of `_rollback_one`, if there is one. -/
def MutationJournal.rollbackOne (category : Category) (target pre : Value) :
    Raised (Option (List Value)) :=
  match category with
  | .serviceDisable => do
      if isTrue (← getOr pre "enabled" (.bool false)) then
        return some [str "networksetup", str "-setnetworkserviceenabled", target, str "on"]
      else return none
  | .serviceEnable => do
      if isTrue (← getOr pre "enabled" (.bool true)) then return none
      else return some [str "networksetup", str "-setnetworkserviceenabled", target, str "off"]
  | .routeAdd =>
      match target with
      | .string bytes =>
          match PyText.split (textOf bytes) with
          | family :: dest :: _ :: gw :: _ =>
              .ok (some [str "route", str "-n", str "delete",
                str (if family = "inet6".toList then "-inet6" else "-net"),
                .string (utf8Text dest), .string (utf8Text gw)])
          | _ => .ok none
      | target => .error (noAttribute target "split")
  | .routeDelete => do
      if isTrue (← getOr pre "existed" .null) then
        let gw ← getOr pre "gateway" (str "")
        let family ← getOr pre "family" (str "inet")
        return some [str "route", str "-n", str "add",
          str (if isText family "inet6" then "-inet6" else "-net"), target, gw]
      else return none
  | .dnsSet => do
      if isTrue (← getOr pre "automatic" (.bool true)) then
        return some [str "networksetup", str "-setdnsservers", target, str "Empty"]
      else
        let servers ← getOr pre "servers" (.array [])
        if isTrue servers then
          return some (← concatenate [str "networksetup", str "-setdnsservers", target] servers)
        else return none
  | .searchSet => do
      if isTrue (← getOr pre "automatic" (.bool true)) then
        return some [str "networksetup", str "-setsearchdomains", target, str "Empty"]
      else
        let domains ← getOr pre "domains" (.array [])
        if isTrue domains then
          return some (← concatenate [str "networksetup", str "-setsearchdomains", target] domains)
        else return none
  | .orderSet => do
      let order ← getOr pre "order" (.array [])
      if isTrue order then
        return some (← concatenate [str "networksetup", str "-ordernetworkservices"] order)
      else return none
  | .ipv4Set => do
      let mode ← getOr pre "mode" (str "DHCP")
      if isText mode "DHCP" then return some [str "networksetup", str "-setdhcp", target]
      else if isText mode "Manual" then
        let m ← getOr pre "manual" (.object [])
        if isTrue m then
          return some [str "networksetup", str "-setmanual", target, ← getOr m "ip" (str ""),
            ← getOr m "subnet" (str ""), ← getOr m "router" (str "")]
        else return none
      else return none
  | .ipv6Set => do
      if isText (← getOr pre "mode" (str "Automatic")) "Automatic" then
        return some [str "networksetup", str "-setv6automatic", target]
      else return none
  | .pfEnable => do
      if isTrue (← getOr pre "enabled" (.bool true)) then return none
      else return some [str "pfctl", str "-d"]
  | .pfAnchorLoad => .ok (some [str "pfctl", str "-a", target, str "-F", str "all"])
  | .locationSwitch => do
      let loc ← getOr pre "location" (str "")
      if isTrue loc then return some [str "networksetup", str "-switchtolocation", loc]
      else return none
  | .locationCreate => do
      if isTrue (← getOr pre "existed" (.bool true)) then return none
      else return some [str "networksetup", str "-deletelocation", target]
  | .wifiPowerSet => do
      return some [str "networksetup", str "-setairportpower", target,
        str (if isTrue (← getOr pre "power" (.bool true)) then "on" else "off")]

/-- A value in a formatted text; `other` prints the values that are no texts. -/
def formatted (other : Value → List Char) : Value → List Char
  | .string bytes => textOf bytes
  | value => other value

def unknownPrestate (other : Value → List Char) (category target : Value) : List Char :=
  "INCOMPLETE_ROLLBACK_UNKNOWN_PRESTATE:".toList ++ formatted other category ++ ":".toList ++
    formatted other target

def rollbackError (other : Value → List Char) (category target : Value) (exc : List Char) :
    List Char :=
  "ROLLBACK_ERROR:".toList ++ formatted other category ++ ":".toList ++ formatted other target ++
    ":".toList ++ exc

section Rollback

-- `run` is `host.run`, with the text of what it raises.
variable {σ : Type} (run : σ → List Value → σ × Option (List Char)) (other : Value → List Char)

/-- `_rollback_one`, with the text of what it raises. -/
def tryRollback (s : σ) (category target pre : Value) : σ × Option (List Char) :=
  match branchOf category with
  | none => (s, none)
  | some known =>
      match MutationJournal.rollbackOne known target pre with
      | .error exc => (s, some exc)
      | .ok none => (s, none)
      | .ok (some command) => run s command

/-- The loop of `rollback` for one entry; `none` where it raises. -/
def MutationJournal.rollbackEntry (done : σ × List (List Char)) (entry : Value) :
    Option (σ × List (List Char)) :=
  match entry with
  | .object members =>
      if !isZero ((lastOf members "exit_code").getD (.number (natText 1))) then some done
      else
        let category := (lastOf members "category").getD (str "")
        let target := (lastOf members "target").getD (str "")
        match (lastOf members "pre_value").getD .null with
        | .null => some (done.1, done.2 ++ [unknownPrestate other category target])
        | pre =>
            match tryRollback run done.1 category target pre with
            | (s, none) => some (s, done.2)
            | (s, some exc) => some (s, done.2 ++ [rollbackError other category target exc])
  | _ => none

/-- `rollback`: the state after it, whether all is well, and the issues. -/
def MutationJournal.rollback (journal : MutationJournal) (s : σ) :
    Option (σ × Bool × List (List Char)) :=
  (journal.entries.reverse.foldlM (MutationJournal.rollbackEntry run other) (s, [])).map fun done =>
    (done.1, done.2.isEmpty, done.2)

end Rollback

end Bootmux.AttachShield

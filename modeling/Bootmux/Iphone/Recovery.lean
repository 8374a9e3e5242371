/-
Bootmux.Iphone.Recovery — the URL and the device code that the iPhone takes
out of the output (`TerminalProtocol.swift`, `TerminalSession.swift`).

A text is its Unicode scalars. A pattern lists what it can leave of a text, in
the order in which the engine tries it, and `matches` goes on behind each
match. What Foundation and the division of a text into characters decide is a
parameter.

The patterns are those of the source with the options that it gives them.
`acceptURL` and `extractDeviceCode` are the checks that follow a match, and
the last match that passes them is the artefact.
-/
import Bootmux.Lib.JsonAscii
import Bootmux.Lib.Search

namespace Bootmux.Iphone

open Bootmux.Lib
open Bootmux.Lib.Search (upTo)

/-- What the app uses of Foundation and of the tables of Unicode. -/
structure Foundation where
  URL : Type
  /-- `URL(string:)`. -/
  url : List Char → Option URL
  scheme : URL → Option (List Char)
  host : URL → Option (List Char)
  user : URL → Option (List Char)
  password : URL → Option (List Char)
  /-- The characters of a string, each a list of scalars. -/
  characters : List Char → List (List Char)
  /-- `Range(_:in:)`: the scalars from a place on, so many, are a range. -/
  isRange : List Char → Nat → Nat → Bool
  /-- A scalar before which `\b` does not end a word. -/
  continuesWord : Char → Bool

namespace CodexRecoveryArtifacts

def maxURLBytes : Nat := 2 * 1024
def maxDeviceCodeBytes : Nat := 128

/-! ## Patterns -/

/-- `\s`. -/
def isSpace (c : Char) : Bool :=
  let n := c.toNat
  n == 9 || n == 10 || n == 12 || n == 13 || n == 0x20 || n == 0xa0 || n == 0x1680 ||
    (0x2000 ≤ n && n ≤ 0x200a) || n == 0x2028 || n == 0x2029 || n == 0x202f || n == 0x205f ||
    n == 0x3000

/-- `[^\s<>\"']`. -/
def isURLScalar (c : Char) : Bool :=
  !isSpace c && c != '<' && c != '>' && c != '"' && c != '\''

/-- `[A-Z0-9]` without regard to case: the long s and the Kelvin sign are of
the case of S and K. -/
def isCodeScalar (c : Char) : Bool := c.isAlphanum || c == '\u017f' || c == '\u212a'

/-- What `p*` leaves. -/
def star (p : Char → Bool) : List Char → List (List Char)
  | [] => [[]]
  | c :: cs => (if p c then star p cs else []) ++ [c :: cs]

/-- What `p+` leaves. -/
def plus (p : Char → Bool) : List Char → List (List Char)
  | [] => []
  | c :: cs => if p c then star p cs else []

/-- What a word leaves, without regard to case. -/
def caseless (word : String) (cs : List Char) : List (List Char) :=
  if word.toList.isPrefixOf (cs.map Char.toLower) then [cs.drop word.toList.length] else []

/-- What `[A-Z0-9]{4,8}` leaves. -/
def codePart (cs : List Char) : List (List Char) :=
  if (cs.take 4).length = 4 ∧ (cs.take 4).all isCodeScalar then upTo isCodeScalar 4 (cs.drop 4)
  else []

/-- What `(?:-[A-Z0-9]{4,8}){1,n}` leaves. -/
def hyphenParts : Nat → List Char → List (List Char)
  | n + 1, '-' :: cs => (codePart cs).flatMap fun rest => hyphenParts n rest ++ [rest]
  | _, _ => []

/-- What `(?:device\s+code|code)\s*[:=]?\s*` leaves. -/
def label (cs : List Char) : List (List Char) :=
  let words := ((caseless "device" cs).flatMap (plus isSpace)).flatMap (caseless "code") ++
    caseless "code" cs
  ((words.flatMap (star isSpace)).flatMap (upTo (fun c => c == ':' || c == '=') 1)).flatMap
    (star isSpace)

/-! ## Matches -/

/-- A match: where its group is, how long it is, and the text of the group. -/
structure Found where
  start : Nat
  text : List Char
  deriving DecidableEq, Repr

/-- A matcher gives the length of the match at a place, and its group with
the distance from there. -/
abbrev Matcher := List Char → Option (Nat × Nat × List Char)

/-- `matches(in:range:)`; `place` is the number of scalars before, and `skip`
how many of the last match are still to come. -/
def matchesFrom (m : Matcher) : Nat → Nat → List Char → List Found
  | _, _, [] => []
  | skip + 1, place, _ :: cs => matchesFrom m skip (place + 1) cs
  | 0, place, c :: cs =>
      match m (c :: cs) with
      | some (length, distance, text) =>
          ⟨place + distance, text⟩ :: matchesFrom m (length - 1) (place + 1) cs
      | none => matchesFrom m 0 (place + 1) cs

def allMatches (m : Matcher) (text : List Char) : List Found := matchesFrom m 0 0 text

/-- `https://[^\s<>\"']+`; the group is the match. -/
def urlAt : Matcher := fun cs =>
  if "https://".toList.isPrefixOf cs then
    let rest := (cs.drop 8).takeWhile isURLScalar
    if rest = [] then none else some (8 + rest.length, 0, "https://".toList ++ rest)
  else none

variable (F : Foundation)

/-- `(?i)(?:device\s+code|code)\s*[:=]?\s*([A-Z0-9]{4,8}(?:-[A-Z0-9]{4,8}){1,3})\b`. -/
def codeAt : Matcher := fun cs =>
  ((label cs).flatMap fun start =>
    (((codePart start).flatMap (hyphenParts 3)).filter fun rest =>
      !rest.head?.any F.continuesWord).map fun rest =>
        (cs.length - rest.length, cs.length - start.length,
          start.take (start.length - rest.length))).head?

/-- The loop that drops the last character while it is one of `.,);]`. -/
def trimmed (candidate : List Char) : List Char :=
  (((F.characters candidate).reverse.dropWhile fun character =>
    [['.'], [','], [')'], [';'], [']']].contains character).reverse).flatten

/-- The checks of a candidate, and its URL. -/
def acceptURL (candidate : List Char) : Option F.URL :=
  if (Json.utf8Text candidate).length ≤ maxURLBytes then
    (F.url candidate).filter fun url =>
      (F.scheme url).map (·.map Char.toLower) == some "https".toList && (F.host url).isSome &&
        (F.user url).isNone && (F.password url).isNone &&
        !candidate.any fun c => c.toNat < 0x20 || c.toNat == 0x7f
  else none

def extractHTTPSURL (text : List Char) : Option F.URL :=
  (allMatches urlAt text).reverse.findSome? fun found =>
    if F.isRange text found.start found.text.length then acceptURL F (trimmed F found.text)
    else none

/-- `uppercased`, of a code. -/
def uppercased (code : List Char) : List Char :=
  code.map fun c => if c = '\u017f' then 'S' else c.toUpper

def extractDeviceCode (text : List Char) : Option (List Char) :=
  (allMatches (codeAt F) text).reverse.findSome? fun found =>
    if F.isRange text found.start found.text.length then
      let code := uppercased found.text
      if (Json.utf8Text code).length ≤ maxDeviceCodeBytes then some code else none
    else none

end CodexRecoveryArtifacts

/-! ## The session -/

/-- What the session has found so far. -/
structure RecoveryArtifacts (F : Foundation) where
  latestAuthURL : Option F.URL
  latestDeviceCode : Option (List Char)

variable {F : Foundation}

/-- `recordRecoveryArtifacts`, for the text of one message. -/
def RecoveryArtifacts.record (artifacts : RecoveryArtifacts F) (text : List Char) :
    RecoveryArtifacts F where
  latestAuthURL := (CodexRecoveryArtifacts.extractHTTPSURL F text).or artifacts.latestAuthURL
  latestDeviceCode :=
    (CodexRecoveryArtifacts.extractDeviceCode F text).or artifacts.latestDeviceCode

/-- After the messages of a session. -/
def recorded (F : Foundation) (messages : List (List Char)) : RecoveryArtifacts F :=
  messages.foldl RecoveryArtifacts.record ⟨none, none⟩

end Bootmux.Iphone

/-
Bootmux.Companion.Output — cutting terminal output into texts
(`utf8Prefix` in `server.go`).

A Go string is a list of bytes here, and so is a `[]byte`. The decoder is
`Bootmux.Lib.Utf8`: `utf8.DecodeRune` returns `RuneError` with size 1
where `runeSize` is `none`, `utf8.FullRune` is `fullRune`, and
`strings.ToValidUTF8` with U+FFFD is `toValid`.

A read is cut where a character has begun and not ended. What is kept back
is sent with the next read or, replaced, at the end.
-/
import Bootmux.Lib.Utf8

namespace Bootmux.Companion

open Bootmux.Lib

abbrev Bytes := List UInt8

/-- The loop of `utf8Prefix`: the final `valid`, counted from a position
whose next `skip` bytes belong to a character already accepted. -/
def validFrom (final : Bool) : Nat → Bytes → Nat
  | _, [] => 0
  | skip + 1, _ :: rest => 1 + validFrom final skip rest
  | 0, b :: rest =>
      match Utf8.runeSize (b :: rest) with
      | none =>
          -- `break` on bytes that more input could still complete
          if !final && !Utf8.fullRune (b :: rest) then 0
          else 1 + validFrom final 0 rest
      | some size => 1 + validFrom final (size - 1) rest

def utf8Prefix (data : Bytes) (final : Bool) : Bytes × Bytes :=
  if data.length = 0 then ([], [])
  else
    let valid := validFrom final 0 data
    if valid = 0 then ([], data)
    else (Utf8.toValid (data.take valid), data.drop valid)

def containsNewline (b : Bytes) : Bool := b.contains 0x0A

/-- A schedule of appends and flushes: after each of `chunks` is appended
`utf8Prefix` is called with `final = false`, and after `last` once with
`final = true`. The texts, concatenated. -/
def flushes (pending : Bytes) : List Bytes → Bytes → Bytes
  | [], last => (utf8Prefix (pending ++ last) true).1
  | chunk :: chunks, last =>
      let r := utf8Prefix (pending ++ chunk) false
      r.1 ++ flushes r.2 chunks last

end Bootmux.Companion

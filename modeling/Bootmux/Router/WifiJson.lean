/-
Bootmux.Router.WifiJson — how the router reads the credentials out of a
Wi-Fi command (`decode_wifi_json` in `ble_wifi_runtime.c`).

The base64 decoder of mbedtls and the JSON parser cJSON are not part of
the repository. They are arguments, with what is relied on: they read
back what an encoder writes.
-/
import Bootmux.Lib.Base64
import Bootmux.Lib.JsonValue
import Bootmux.Bmx1.Wire

namespace Bootmux.Router

open Bootmux.Bmx1
open Bootmux.Lib

def bmxWifiDecodedMax : Nat := 192

/-- `mbedtls_base64_decode` and `cJSON_ParseWithLength`. A string of the
parser is a C string, so the members that are read back have no zero
byte. -/
structure Decoders where
  base64 : Bytes → Option Bytes
  json : Bytes → Option Json.Value
  base64_encode : ∀ data, base64 (Base64.encode data) = some data
  json_object : ∀ members : List (Bytes × Bytes), members ≠ [] →
    (∀ m ∈ members, Json.PlainKey m.1 ∧ (0 : UInt8) ∉ m.2) →
    json (Json.objectText (members.map fun m => (m.1, Json.quoteSlash m.2))) =
      some (.object (members.map fun m => (m.1, .string m.2)))

/-- The decoders of this development. -/
def decoders : Decoders where
  base64 := Base64.decode
  json := Json.parse
  base64_encode := Base64.decode_encode
  json_object members hne hmembers := by
    let ms : List Json.Member := members.map fun m => ⟨m.1, Json.quoteSlash m.2, .string m.2⟩
    have hgood : ∀ m ∈ ms, m.Good := by
      intro m hm
      obtain ⟨member, hmember, rfl⟩ := List.mem_map.mp hm
      exact ⟨(hmembers member hmember).1, Json.reads_quoteSlash member.2⟩
    have hread : Json.parse (Json.objectText (ms.map fun m => (m.key, m.literal)) ++ []) =
        some (.object (Json.values ms)) :=
      Json.parse_objectText (by simpa [ms] using hne) hgood rfl
    simpa [ms, Json.values, Function.comp_def] using hread

/-- `cJSON_GetObjectItemCaseSensitive`: the first member of the name. -/
def getObjectItem (key : Bytes) : Json.Value → Option Json.Value
  | .object members => (members.find? (·.1 == key)).map (·.2)
  | _ => none

/-- The string of a member, up to `limit` bytes, as `strnlen` counts
them. -/
def stringItem (root : Option Json.Value) (key : Bytes) (limit : Nat) : Option Bytes :=
  ((root.bind (getObjectItem key)).bind Json.Value.string?).map fun value =>
    (cString value).take limit

/-- `decode_wifi_json`, with buffers of 33 and 64 bytes for the
credentials. mbedtls refuses what does not fit into the buffer for the
text, which the length test after it says once more. -/
def decodeWifiJson (d : Decoders) (encoded : Bytes) : Option (Bytes × Bytes) :=
  match d.base64 encoded with
  | none => none
  | some decoded =>
      if decoded.length = 0 ∨ decoded.length > bmxWifiDecodedMax then none
      else
        match stringItem (d.json decoded) (ascii "ssid") (33 + 1),
          stringItem (d.json decoded) (ascii "password") (64 + 1) with
        | some ssid, some password =>
            if 0 < ssid.length ∧ ssid.length ≤ 32 ∧ password.length ≤ 63 ∧
                (password.length = 0 ∨ 8 ≤ password.length) then some (ssid, password)
            else none
        | _, _ => none

end Bootmux.Router

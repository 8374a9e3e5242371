/-
Bootmux.Iphone.WifiTheorems — what the iPhone client makes of Wi-Fi
credentials.

`wifiFrames_ok` says what `wifiFrames` returns: one frame for each chunk,
and the chunks are the payload. The search for the longest chunk may stop
anywhere; what is used of it is that the chunk it finds is not empty.
`length_wifiJson` is the length of the JSON text: an escape makes two
bytes of one, or six.
-/
import Bootmux.Iphone.ProtocolTheorems
import Bootmux.Iphone.Wifi

namespace Bootmux.Iphone

open Bootmux.Bmx1
open Bootmux.Lib

/-! ## Chunks -/

/-- A round takes at least one byte, so the fuel is enough. -/
theorem wifiChunks_flatten {maximum : Int} {session : Bytes} {sequence : UInt32} {fuel : Nat}
    {bytes : Bytes} {chunks : List Bytes}
    (h : wifiChunks maximum session sequence fuel bytes = .ok chunks)
    (hlen : bytes.length ≤ fuel) : chunks.flatten = bytes := by
  induction fuel generalizing bytes chunks with
  | zero =>
      obtain rfl : [] = chunks := Except.ok.inj h
      exact (List.length_eq_zero_iff.mp (Nat.le_zero.mp hlen)).symm
  | succ fuel ih =>
      rw [wifiChunks] at h
      split at h
      · rename_i hempty
        obtain rfl : [] = chunks := Except.ok.inj h
        exact (List.isEmpty_iff.mp hempty).symm
      · rename_i hempty
        dsimp only at h
        generalize searchBest _ _ _ _ _ = best at h
        split at h
        · cases h
        · rename_i hbest
          cases hrest : wifiChunks maximum session sequence fuel (bytes.drop best) with
          | error e => rw [hrest] at h; cases h
          | ok rest =>
              rw [hrest] at h
              obtain rfl : bytes.take best :: rest = chunks := Except.ok.inj h
              have hpos : 0 < bytes.length := List.length_pos_iff.mpr fun hnil =>
                hempty (List.isEmpty_iff.mpr hnil)
              rw [List.flatten_cons, ih hrest (by rw [List.length_drop]; omega),
                List.take_append_drop]

/-! ## Frames -/

/-- The frame of part `index` of the payload. -/
def wifiFrame (session : Bytes) (sequence : UInt32) (index total : Nat) (chunk : Bytes) : Bytes :=
  joinFields [ascii "BMX1", ascii "WIFI", session, decimal sequence.toNat, decimal index,
    decimal total, chunk]

/-- A part that is framed has its place and its chunk. -/
theorem wifiProvision_ok {session : Bytes} {sequence : UInt32} {part total : Nat}
    {payload bytes : Bytes} (h : wifiProvision session sequence part total payload = .ok bytes) :
    part < total ∧ total ≤ 16 ∧ pipe ∉ session ∧ backslash ∉ session ∧
      bytes.length ≤ maximumCommittedBytes ∧
      bytes = wifiFrame session sequence part total payload := by
  unfold wifiProvision at h
  split at h
  · cases h
  · rename_i hbounds
    simp only [Bool.not_eq_true', Bool.not_eq_false, Bool.and_eq_true,
      decide_eq_true_eq] at hbounds
    unfold validSession at h
    split at h
    · cases h
    · rename_i hsession
      simp only [Bool.or_eq_true, List.contains_iff_mem, not_or] at hsession
      simp only [bind, Except.bind, frame] at h
      split at h
      · cases h
      · rename_i hlen
        obtain rfl := Except.ok.inj h
        exact ⟨hbounds.1.2, hbounds.1.1.2, hsession.1.2, hsession.2, Nat.not_lt.mp hlen, rfl⟩

/-- **What `wifiFrames` returns.** -/
theorem wifiFrames_ok {maximum : Int} {session : Bytes} {sequence : UInt32} {payload : Bytes}
    {fs : List Bytes} (h : wifiFrames maximum session sequence payload = .ok fs) :
    ∃ chunks : List Bytes, chunks.flatten = payload ∧ chunks ≠ [] ∧ chunks.length ≤ 16 ∧
      pipe ∉ session ∧ backslash ∉ session ∧ fs.length = chunks.length ∧
      ∀ i chunk, chunks[i]? = some chunk →
        (wifiFrame session sequence i chunks.length chunk).length ≤ maximumCommittedBytes ∧
        fs[i]? = some (wifiFrame session sequence i chunks.length chunk) := by
  unfold wifiFrames at h
  split at h
  · cases h
  · rename_i hpayload
    cases hchunks : wifiChunks maximum session sequence payload.length payload with
    | error e => rw [hchunks] at h; cases h
    | ok chunks =>
        rw [hchunks] at h
        simp only [bind, Except.bind] at h
        split at h
        · cases h
        · rename_i hparts
          have hflatten := wifiChunks_flatten hchunks le_rfl
          have hne : chunks ≠ [] := by
            rintro rfl
            exact hpayload (List.isEmpty_iff.mpr hflatten.symm)
          obtain ⟨hcount, hget⟩ := mapM_ok h
          have hframe : ∀ i chunk, chunks[i]? = some chunk →
              ∃ y, fs[i]? = some y ∧
                wifiProvision session sequence i chunks.length chunk = .ok y := by
            intro i chunk hi
            exact hget i (chunk, i) (by simp [hi])
          obtain ⟨first, hfirst⟩ := List.exists_mem_of_ne_nil _ hne
          obtain ⟨i, hi⟩ := List.mem_iff_getElem?.mp hfirst
          obtain ⟨_, _, hy⟩ := hframe i first hi
          obtain ⟨_, _, hpipe, hback, _⟩ := wifiProvision_ok hy
          refine ⟨chunks, hflatten, hne, by omega, hpipe, hback, by simpa using hcount, ?_⟩
          intro i chunk hi
          obtain ⟨y, hy, hprovision⟩ := hframe i chunk hi
          obtain ⟨_, _, _, _, hlen, rfl⟩ := wifiProvision_ok hprovision
          exact ⟨hlen, hy⟩

/-! ## The JSON text -/

/-- How many bytes the JSON text has for a byte of a credential. -/
def escapedWidth (b : UInt8) : Nat :=
  if b = 0x22 ∨ b = 0x5C ∨ b = 0x2F ∨ b = 0x08 ∨ b = 0x09 ∨ b = 0x0A ∨ b = 0x0C ∨ b = 0x0D then 2
  else if b < 0x20 then 6
  else 1

def escapedBytes (data : Bytes) : Nat := (data.map escapedWidth).sum

theorem length_escapeSlashByte (b : UInt8) :
    (Json.escapeSlashByte b).length = escapedWidth b := by
  unfold Json.escapeSlashByte escapedWidth
  split_ifs <;> simp_all [Json.escapeHex]

/-- Escaping has the width that was counted. -/
theorem length_escapeSlash (data : Bytes) :
    (Json.escapeSlash data).length = escapedBytes data := by
  rw [Json.escapeSlash, List.length_flatMap, escapedBytes]
  exact congrArg List.sum (List.map_congr_left fun b _ => length_escapeSlashByte b)

/-- The payload has the size of both texts, escaped. -/
theorem length_wifiJson (ssid password : Bytes) :
    (wifiJson ssid password).length = 25 + escapedBytes ssid + escapedBytes password := by
  have hpassword : (ascii "password").length = 8 := by decide
  have hssid : (ascii "ssid").length = 4 := by decide
  simp only [wifiJson, Json.objectText, Json.membersText, Json.memberText, Json.quoteSlash,
    List.length_cons, List.length_append, List.length_nil, length_escapeSlash, hpassword, hssid]
  omega

/-- What `wifiPayload` accepts, and what it makes of it. -/
theorem wifiPayload_ok {ssid password payload : Bytes}
    (h : wifiPayload ssid password = .ok payload) :
    ssid.length ≠ 0 ∧ ssid.length ≤ 32 ∧ (0 : UInt8) ∉ ssid ∧ password.length ≤ 63 ∧
      (password.length = 0 ∨ 8 ≤ password.length) ∧ (0 : UInt8) ∉ password ∧
      payload = Base64.encode (wifiJson ssid password) := by
  unfold wifiPayload at h
  split at h
  · cases h
  · rename_i hvalid
    dsimp only at h
    split at h
    · cases h
    · obtain rfl := Except.ok.inj h
      simpa [validCredentials, and_assoc, or_iff_not_imp_left] using hvalid

end Bootmux.Iphone

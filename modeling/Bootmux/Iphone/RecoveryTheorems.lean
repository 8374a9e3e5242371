/-
Bootmux.Iphone.RecoveryTheorems — when the recovery artefacts of a session
do not depend on how its output is cut into messages.

A message of one scalar holds no artefact, so a text that comes scalar by
scalar leaves none. A part of the text that holds one can be a message of its
own. So the artefacts are those of the whole text, however it is cut, iff no
part of it holds one (`artefacts_batching_iff`).

Little is used of the patterns: what they find is a part of the text, and
one scalar is too short for either. A message without an artefact leaves
what was recorded, so what a session holds in the end is the artefact of the
last message that has one (`latest`).
-/
import Bootmux.Iphone.Recovery

namespace Bootmux.Iphone

open Bootmux.Lib
open CodexRecoveryArtifacts

/-! ## The last artefact -/

section Latest

variable {α : Type} {extract : List Char → Option α}

/-- The artefact of the last message that has one. -/
def latest (extract : List Char → Option α) (messages : List (List Char)) : Option α :=
  messages.foldl (fun found text => (extract text).or found) none

/-- The latest is that of the last message that has one. -/
theorem latest_concat (messages : List (List Char)) (text : List Char) :
    latest extract (messages ++ [text]) = (extract text).or (latest extract messages) := by
  rw [latest, List.foldl_append]
  rfl

theorem latest_eq_none {messages : List (List Char)} (h : ∀ text ∈ messages, extract text = none) :
    latest extract messages = none := by
  induction messages using List.reverseRecOn with
  | nil => rfl
  | append_singleton messages text ih =>
      rw [List.forall_mem_append, List.forall_mem_singleton] at h
      rw [latest_concat, h.2, ih h.1]
      rfl

/-- Cut into single characters the text is the same. -/
theorem singletons_flatten (text : List Char) : (text.map fun c => [c]).flatten = text := by
  induction text with
  | nil => rfl
  | cons c text ih => rw [List.map_cons, List.flatten_cons, ih, List.singleton_append]

/-- **An artefact that does not depend on the batching** is one that no part
of the text has. -/
theorem latest_batching_iff (hsingle : ∀ c, extract [c] = none) (text : List Char) :
    (∀ messages : List (List Char), messages.flatten = text →
        latest extract messages = extract text) ↔
      ∀ part, part <:+: text → extract part = none := by
  constructor
  · intro h part hpart
    have hwhole : extract text = none := by
      rw [← h _ (singletons_flatten text)]
      refine latest_eq_none ?_
      rw [List.forall_mem_map]
      exact fun c _ => hsingle c
    obtain ⟨u, v, htext⟩ := hpart
    have hcut := h [u, part, v] (by rw [← htext]; simp)
    rw [hwhole] at hcut
    -- The artefact of the part is only passed over for one behind it.
    have hor : (extract v).or ((extract part).or ((extract u).or none)) = none := hcut
    rw [Option.or_eq_none_iff, Option.or_eq_none_iff] at hor
    exact hor.2.1
  · intro h messages hmessages
    rw [h text List.infix_rfl]
    refine latest_eq_none fun part hpart => h part ?_
    rw [← hmessages]
    exact List.infix_of_mem_flatten hpart

end Latest

/-! ## One scalar -/

variable (F : Foundation)

/-- One character is no address. -/
theorem extractHTTPSURL_single (c : Char) : extractHTTPSURL F [c] = none := by
  have hnone : urlAt [c] = none := by simp [urlAt]
  have hmatches : allMatches urlAt [c] = [] := by
    rw [allMatches, matchesFrom, hnone]
    rfl
  rw [extractHTTPSURL, hmatches]
  rfl

theorem caseless_single {word : String} (h : 1 < word.toList.length) (c : Char) :
    caseless word [c] = [] := by
  rw [caseless, if_neg]
  intro hprefix
  have hlen := (List.isPrefixOf_iff_prefix.mp hprefix).length_le
  rw [List.length_map, List.length_singleton] at hlen
  omega

/-- Nor is it a code. -/
theorem extractDeviceCode_single (c : Char) : extractDeviceCode F [c] = none := by
  have hlabel : label [c] = [] := by
    rw [label, caseless_single (by decide), caseless_single (by decide)]
    rfl
  have hnone : codeAt F [c] = none := by
    rw [codeAt, hlabel]
    rfl
  have hmatches : allMatches (codeAt F) [c] = [] := by
    rw [allMatches, matchesFrom, hnone]
    rfl
  rw [extractDeviceCode, hmatches]
  rfl

/-! ## Batching -/

/-- What is recorded is the latest of both. -/
theorem recorded_eq (messages : List (List Char)) :
    recorded F messages =
      ⟨latest (extractHTTPSURL F) messages, latest (extractDeviceCode F) messages⟩ := by
  induction messages using List.reverseRecOn with
  | nil => rfl
  | append_singleton messages text ih =>
      rw [recorded, List.foldl_append, ← recorded, ih, latest_concat, latest_concat]
      rfl

/-- However the text is cut into messages, its artefacts are found. -/
def BatchingIndependent (text : List Char) : Prop :=
  ∀ messages : List (List Char), messages.flatten = text →
    recorded F messages = ⟨extractHTTPSURL F text, extractDeviceCode F text⟩

/-- **Recovery artefacts do not depend on batching** iff no part of the text
holds one. -/
theorem artefacts_batching_iff (text : List Char) :
    BatchingIndependent F text ↔
      ∀ part, part <:+: text → extractHTTPSURL F part = none ∧ extractDeviceCode F part = none := by
  have hurl := latest_batching_iff (extractHTTPSURL_single F) text
  have hcode := latest_batching_iff (extractDeviceCode_single F) text
  constructor
  · intro h part hpart
    have hboth : ∀ messages : List (List Char), messages.flatten = text →
        latest (extractHTTPSURL F) messages = extractHTTPSURL F text ∧
          latest (extractDeviceCode F) messages = extractDeviceCode F text := by
      intro messages hmessages
      have heq := h messages hmessages
      rw [recorded_eq] at heq
      injection heq with hfirst hsecond
      exact ⟨hfirst, hsecond⟩
    exact ⟨hurl.mp (fun messages hm => (hboth messages hm).1) part hpart,
      hcode.mp (fun messages hm => (hboth messages hm).2) part hpart⟩
  · intro h messages hmessages
    rw [recorded_eq, hurl.mpr (fun part hpart => (h part hpart).1) messages hmessages,
      hcode.mpr (fun part hpart => (h part hpart).2) messages hmessages]

/-! ## A URL in two messages -/

/-- A URL of the form `https://host/path`, with nothing else in it. -/
def plainFoundation : Foundation where
  URL := List Char
  url := some
  scheme url := some (url.takeWhile fun c => c != ':')
  host url := some ((url.drop 8).takeWhile fun c => c != '/')
  user _ := none
  password _ := none
  characters text := text.map fun c => [c]
  isRange _ _ _ := true
  continuesWord c := c.isAlphanum

instance : DecidableEq plainFoundation.URL := inferInstanceAs (DecidableEq (List Char))

def plainURL (text : String) : plainFoundation.URL := text.toList

example : extractDeviceCode plainFoundation "Device code: ab12-CD34-ef56".toList =
    some "AB12-CD34-EF56".toList := by
  decide +kernel

/-- The host of the first message is cut short. -/
theorem url_truncated : ¬∀ text : List Char, BatchingIndependent plainFoundation text := by
  intro hall
  have hcut := hall "https://example.test/auth".toList
    ["https://exam".toList, "ple.test/auth".toList] (by decide)
  have hurl : extractHTTPSURL plainFoundation "https://example.test/auth".toList =
      some (plainURL "https://example.test/auth") := by
    decide +kernel
  have hlatest : (recorded plainFoundation
      ["https://exam".toList, "ple.test/auth".toList]).latestAuthURL =
        some (plainURL "https://exam") := by
    decide +kernel
  rw [hcut, hurl] at hlatest
  exact absurd (Option.some.inj hlatest) (by decide)

end Bootmux.Iphone

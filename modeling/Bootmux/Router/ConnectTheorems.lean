/-
Bootmux.Router.ConnectTheorems — the CONNECT proxy accepts exactly its
grammar.

`recvHeader_eq_some_iff` says which header `recv_header` returns: the
part of the stream that ends in the first double line end, if it has no
NUL and at most 4095 bytes. A NUL ends the C string `strstr` looks at,
so after one the loop runs until the buffer is full.

`parseConnect_eq_some_iff` reads the request line of such a header: what
stands between `CONNECT ` and the next blank is the authority, and
`checkAuthority` is the rest of the function on it alone.
`connect_grammar` puts the two together.

The functions of `string.h` are characterised first, each by where it finds
what it looks for; the loops of the source then become statements about the
parts of a text. The authority is read from its end, since the last colon
separates the port. What is accepted is one host, any text without control
characters, and the port 443; nothing of it goes further than the resolver.
-/
import Bootmux.Router.ConnectProxy

namespace Bootmux.Router

open Bootmux.Bmx1
open Bootmux.Lib
open Bootmux.Lib.Search

/-! ## C strings -/

/-- A C string without a zero goes on in what follows. -/
theorem cString_append {a : Bytes} (h : (0 : UInt8) ∉ a) (b : Bytes) :
    cString (a ++ b) = a ++ cString b := by
  rw [cString, List.takeWhile_append_of_pos]
  · rfl
  · intro c hc
    rw [bne_iff_ne]
    rintro rfl
    exact h hc

theorem cString_zero_append {a : Bytes} (h : (0 : UInt8) ∈ a) (b : Bytes) :
    cString (a ++ b) = cString a := by
  obtain ⟨front, rest, rfl, hfront⟩ := List.eq_append_cons_of_mem h
  have hzero : ∀ xs : Bytes, cString (0 :: xs) = [] := fun xs => rfl
  rw [List.append_assoc, cString_append hfront, cString_append hfront, List.cons_append, hzero,
    hzero]

theorem cString_isPrefix (a b : Bytes) : cString a <+: cString (a ++ b) := by
  by_cases h : (0 : UInt8) ∈ a
  · rw [cString_zero_append h]
  · rw [cString_append h, cString_of_nulFree h]
    exact List.prefix_append a _

/-- A byte after a NUL, or a NUL, adds nothing to the C string. -/
theorem cString_concat_of_mem {a : Bytes} {b : UInt8} (h : (0 : UInt8) ∈ a ++ [b]) :
    cString (a ++ [b]) = cString a := by
  by_cases ha : (0 : UInt8) ∈ a
  · exact cString_zero_append ha [b]
  · obtain rfl : 0 = b := List.mem_singleton.mp ((List.mem_append.mp h).resolve_left ha)
    rw [cString_append ha, cString_of_nulFree ha]
    exact List.append_nil a

/-! ## The header -/

/-- `strstr` looks into the C string, which ends at the first zero. -/
theorem strstr_isSome (value pattern : Bytes) :
    (strstr value pattern).isSome ↔ pattern <:+: cString value :=
  find_isSome pattern (cString value)

/-- A header with an end has four bytes at least. -/
theorem length_of_doubleCrlf {header : Bytes} (h : doubleCrlf <:+: cString header) :
    4 ≤ header.length :=
  Nat.le_trans h.length_le (List.takeWhile_sublist _).length_le

/-- The loop stops at the first byte that completes a double line end. -/
theorem recvHeaderLoop_eq_some_iff {header : Bytes} (h : ¬ doubleCrlf <:+: cString header)
    (client out : Bytes) :
    recvHeaderLoop header client = some out ↔
      ∃ taken rest, client = taken ++ rest ∧ out = header ++ taken ∧ out.length ≤ 4095 ∧
        doubleCrlf <:+: cString out ∧ ¬ doubleCrlf <:+: cString out.dropLast := by
  induction client generalizing header with
  | nil =>
      rw [recvHeaderLoop]
      constructor
      · intro hnone
        cases hnone
      · rintro ⟨taken, rest, hsplit, rfl, -, hfound, -⟩
        obtain ⟨rfl, -⟩ := List.append_eq_nil_iff.mp hsplit.symm
        rw [List.append_nil] at hfound
        exact absurd hfound h
  | cons received client ih =>
      rw [recvHeaderLoop]
      split
      · next hroom =>
          dsimp only
          split
          · next hstop =>
              rw [Bool.and_eq_true, strstr_isSome] at hstop
              constructor
              · intro heq
                obtain rfl := Option.some.inj heq
                refine ⟨[received], client, rfl, rfl, ?_, hstop.2, ?_⟩
                · rw [List.length_append, List.length_singleton]
                  simp only [proxyHeaderMax] at hroom
                  omega
                · rw [List.dropLast_concat]
                  exact h
              · rintro ⟨taken, rest, hsplit, rfl, -, hfound, hfirst⟩
                rcases List.cons_eq_append_iff.mp hsplit with ⟨rfl, -⟩ | ⟨taken', rfl, -⟩
                · rw [List.append_nil] at hfound
                  exact absurd hfound h
                · -- a longer header would have been complete before its last byte
                  rcases List.eq_nil_or_concat' taken' with rfl | ⟨front, last, rfl⟩
                  · rfl
                  · refine absurd ?_ hfirst
                    have hdrop : (header ++ received :: (front ++ [last])).dropLast =
                        header ++ [received] ++ front := by
                      rw [List.append_cons, ← List.append_assoc, List.dropLast_concat]
                    rw [hdrop]
                    exact hstop.2.trans (cString_isPrefix _ front).isInfix
          · next hgo =>
              have hnext : ¬ doubleCrlf <:+: cString (header ++ [received]) := by
                intro hfound
                refine hgo ?_
                rw [Bool.and_eq_true, strstr_isSome, decide_eq_true_eq]
                exact ⟨length_of_doubleCrlf hfound, hfound⟩
              rw [ih hnext]
              constructor
              · rintro ⟨taken, rest, rfl, rfl, hout⟩
                exact ⟨received :: taken, rest, rfl, by simp, by simpa using hout⟩
              · rintro ⟨taken, rest, hsplit, rfl, hlen, hfound, hfirst⟩
                rcases List.cons_eq_append_iff.mp hsplit with ⟨rfl, -⟩ | ⟨taken', rfl, hrest⟩
                · rw [List.append_nil] at hfound
                  exact absurd hfound h
                · exact ⟨taken', rest, hrest, by simp, hlen, hfound, hfirst⟩
      · next hroom =>
          constructor
          · intro hnone
            cases hnone
          · rintro ⟨taken, rest, -, rfl, hlen, hfound, -⟩
            rw [List.length_append] at hlen
            simp only [proxyHeaderMax] at hroom
            obtain rfl := List.length_eq_zero_iff.mp (show taken.length = 0 by omega)
            rw [List.append_nil] at hfound
            exact absurd hfound h

/-- **Which header `recv_header` returns.** -/
theorem recvHeader_eq_some_iff (client header : Bytes) :
    recvHeader client = some header ↔
      header <+: client ∧ (0 : UInt8) ∉ header ∧ header.length ≤ 4095 ∧
        EndsFirst doubleCrlf header := by
  have hnone : ¬ doubleCrlf <:+: cString [] := by decide
  rw [recvHeader, recvHeaderLoop_eq_some_iff hnone]
  constructor
  · rintro ⟨taken, rest, rfl, rfl, hlen, hfound, hfirst⟩
    rcases List.eq_nil_or_concat' header with rfl | ⟨front, last, rfl⟩
    · exact absurd hfound hnone
    · rw [List.dropLast_concat] at hfirst
      have hnul : (0 : UInt8) ∉ front ++ [last] := fun hz =>
        hfirst (cString_concat_of_mem hz ▸ hfound)
      have hfront : (0 : UInt8) ∉ front := fun hz => hnul (List.mem_append_left _ hz)
      rw [cString_of_nulFree hnul] at hfound
      rw [cString_of_nulFree hfront] at hfirst
      refine ⟨List.prefix_append _ rest, hnul, hlen, ?_, ?_⟩
      · exact (infix_concat.mp hfound).resolve_left hfirst
      · rwa [List.dropLast_concat]
  · rintro ⟨⟨rest, rfl⟩, hnul, hlen, hends⟩
    refine ⟨header, rest, rfl, rfl, hlen, ?_, ?_⟩
    · rw [cString_of_nulFree hnul]
      exact hends.1.isInfix
    · rw [cString_of_nulFree fun hz => hnul (List.mem_of_mem_dropLast hz)]
      exact hends.2

/-! ## The authority -/

/-- The bytes an authority is made of. -/
def AuthorityByte (c : UInt8) : Prop :=
  c ≠ 0x20 ∧ 0x20 ≤ c ∧ c ≠ 0x7F ∧ c ≠ 0x40 ∧ c ≠ 0x5B ∧ c ≠ 0x5D

instance (c : UInt8) : Decidable (AuthorityByte c) := inferInstanceAs (Decidable (_ ∧ _))

/-- What `parse_connect` makes of the bytes up to the blank. -/
def checkAuthority (authority : Bytes) (hostSize : Nat) : Option Bytes :=
  if authority = [] ∨ hostSize ≤ authority.length ∨ hasControl authority = true ∨
      0x40 ∈ authority ∨ 0x5B ∈ authority ∨ 0x5D ∈ authority then none
  else
    match lastIndex 0x3A authority with
    | none => none
    | some colon =>
        if colon = 0 ∨ authority.drop (colon + 1) ≠ ascii "443" then none
        else some (authority.take colon)

theorem hasControl_eq_false {value : Bytes} :
    hasControl value = false ↔ ∀ c ∈ value, 0x20 ≤ c ∧ c ≠ 0x7F := by
  rw [hasControl, List.any_eq_false]
  constructor
  · intro h c hc
    have := h c hc
    simp only [Bool.or_eq_true, decide_eq_true_eq, beq_iff_eq, not_or] at this
    exact ⟨UInt8.not_lt.mp this.1, this.2⟩
  · intro h c hc
    simp only [Bool.or_eq_true, decide_eq_true_eq, beq_iff_eq, not_or]
    exact ⟨UInt8.not_lt.mpr (h c hc).1, (h c hc).2⟩

/-- **The authorities that are let through, and their hosts.** -/
theorem checkAuthority_eq_some_iff {authority host : Bytes} (hspace : 0x20 ∉ authority) :
    checkAuthority authority 256 = some host ↔
      authority = host ++ ascii ":443" ∧ host ≠ [] ∧ authority.length ≤ 255 ∧
        ∀ c ∈ authority, AuthorityByte c := by
  have hport : ascii ":443" = 0x3A :: ascii "443" := by decide
  have hcolon : (0x3A : UInt8) ∉ ascii "443" := by decide
  rw [hport]
  constructor
  · intro h
    unfold checkAuthority at h
    split at h
    · cases h
    · next hbytes =>
        simp only [not_or, Bool.not_eq_true] at hbytes
        obtain ⟨hne, hlen, hcontrol, hat, hopen, hclose⟩ := hbytes
        rw [hasControl_eq_false] at hcontrol
        cases hlast : lastIndex (0x3A : UInt8) authority with
        | none =>
            rw [hlast] at h
            cases h
        | some colon =>
            rw [hlast] at h
            obtain ⟨front, back, rfl, hback, rfl⟩ := lastIndex_eq_some hlast
            simp only [List.drop_append, List.take_left] at h
            rw [List.drop_eq_nil_of_le (Nat.le_succ _), Nat.add_sub_cancel_left,
              List.nil_append, List.drop_succ_cons, List.drop_zero] at h
            split at h
            · cases h
            · next hparts =>
                rw [not_or, not_not] at hparts
                obtain rfl := Option.some.inj h
                refine ⟨by rw [hparts.2], List.length_pos_iff.mp (Nat.pos_of_ne_zero hparts.1),
                  by omega, fun c hc => ?_⟩
                exact ⟨fun heq => hspace (heq ▸ hc), (hcontrol c hc).1, (hcontrol c hc).2,
                  fun heq => hat (heq ▸ hc), fun heq => hopen (heq ▸ hc),
                  fun heq => hclose (heq ▸ hc)⟩
  · rintro ⟨rfl, hne, hlen, hbytes⟩
    have hnot : ∀ c, ¬ AuthorityByte c → c ∉ host ++ 0x3A :: ascii "443" := fun c hc hmem =>
      hc (hbytes c hmem)
    have hcontrol : hasControl (host ++ 0x3A :: ascii "443") = false :=
      hasControl_eq_false.mpr fun c hc => ⟨(hbytes c hc).2.1, (hbytes c hc).2.2.1⟩
    have hpos := List.length_pos_iff.mpr hne
    rw [checkAuthority, if_neg, lastIndex_append host hcolon]
    · simp only [List.take_left, List.drop_append]
      rw [List.drop_eq_nil_of_le (Nat.le_succ _), Nat.add_sub_cancel_left, List.nil_append,
        List.drop_succ_cons, List.drop_zero, if_neg]
      rw [not_or, not_not]
      exact ⟨by omega, rfl⟩
    · simp only [not_or]
      refine ⟨by simp, by omega, by simp [hcontrol], hnot _ (by decide), hnot _ (by decide),
        hnot _ (by decide)⟩

/-! ## The request line -/

/-- The line of a header up to its first line end, cut after `CONNECT `
and the next blank. -/
structure RequestLine (header authority : Bytes) (line rest : Bytes) : Prop where
  here : line ++ crlf <+: header
  first : EndsFirst crlf (line ++ crlf)
  cut : line = ascii "CONNECT " ++ authority ++ 0x20 :: rest
  blank : 0x20 ∉ authority

/-- `memchr` looks into the first `n` bytes. -/
theorem memchr_isSome (value : Bytes) (c : UInt8) (n : Nat) :
    (memchr value c n).isSome = true ↔ c ∈ value.take n := by
  rw [memchr, ← not_iff_not, Bool.not_eq_true, Option.isSome_eq_false_iff,
    Option.isNone_iff_eq_none]
  exact firstIndex_eq_none

/-- `strncmp` against `443` over what follows the colon. -/
theorem strncmp_port {back after : Bytes} (h : (0 : UInt8) ∉ back ++ after) :
    (!strncmp (back ++ after) (ascii "443") back.length || decide (back.length ≠ 3)) = true ↔
      back ≠ ascii "443" := by
  have hport : cString (ascii "443") = ascii "443" := by decide
  have hthree : (ascii "443").length = 3 := by decide
  rw [strncmp, cString_of_nulFree h, List.take_left, hport, Bool.or_eq_true, Bool.not_eq_true',
    decide_eq_false_iff_not, decide_eq_true_eq, ← not_and_or, not_iff_not]
  constructor
  · rintro ⟨hback, hlen⟩
    rw [hback, hlen]
    rfl
  · rintro rfl
    exact ⟨rfl, hthree⟩

/-- The part of `parse_connect` from the last colon on. -/
theorem parseConnect_port {authority tail : Bytes} (hnul : (0 : UInt8) ∉ authority ++ tail) :
    (match lastIndex 0x3A authority with
      | none => none
      | some colon =>
          if colon = 0 ||
              !strncmp ((authority ++ tail).drop (colon + 1)) (ascii "443")
                (authority.length - colon - 1) ||
              authority.length - colon - 1 ≠ 3 then none
          else
            if ((authority ++ tail).take colon).head? = some 0 then none
            else some ((authority ++ tail).take colon)) =
      match lastIndex 0x3A authority with
      | none => none
      | some colon =>
          if colon = 0 ∨ authority.drop (colon + 1) ≠ ascii "443" then none
          else some (authority.take colon) := by
  cases hlast : lastIndex (0x3A : UInt8) authority with
  | none => rfl
  | some colon =>
      obtain ⟨front, back, rfl, -, rfl⟩ := lastIndex_eq_some hlast
      have hback : (front ++ 0x3A :: back).drop (front.length + 1) = back := by
        rw [← List.drop_drop, List.drop_left]
        rfl
      have hlen : (front ++ 0x3A :: back).length - front.length - 1 = back.length := by
        rw [List.length_append, List.length_cons]
        omega
      rw [List.append_assoc] at hnul ⊢
      have hbackTail : (front ++ (0x3A :: back ++ tail)).drop (front.length + 1) =
          back ++ tail := by
        rw [← List.drop_drop, List.drop_left]
        rfl
      have hhead : front.head? ≠ some 0 := fun h =>
        hnul (List.mem_append_left _ (List.mem_of_head? h))
      have hport := @strncmp_port back tail fun hz =>
        hnul (List.mem_append_right _ (List.mem_cons_of_mem _ hz))
      dsimp only
      rw [hback, hbackTail, hlen, List.take_left, List.take_left, if_neg hhead]
      by_cases hparts : front.length = 0 ∨ back ≠ ascii "443"
      · rw [if_pos hparts, if_pos]
        rw [Bool.or_assoc, Bool.or_eq_true, decide_eq_true_eq]
        exact hparts.imp id hport.mpr
      · rw [if_neg hparts, if_neg]
        rw [Bool.or_assoc, Bool.or_eq_true, decide_eq_true_eq]
        exact fun h => hparts (h.imp id hport.mp)

/-- The parser reads the request line and nothing behind it. -/
theorem parseConnect_of_line {header authority line rest : Bytes}
    (hnul : (0 : UInt8) ∉ header) (h : RequestLine header authority line rest)
    (hostSize : Nat) : parseConnect header hostSize = checkAuthority authority hostSize := by
  obtain ⟨⟨after, rfl⟩, hfirst, rfl, hblank⟩ := h
  have hmethod : (ascii "CONNECT ").length = 8 := by decide
  have hmethodNul : cString (ascii "CONNECT ") = ascii "CONNECT " := by decide
  generalize htail : 0x20 :: (rest ++ crlf ++ after) = tail
  have hheader : ascii "CONNECT " ++ authority ++ 0x20 :: rest ++ crlf ++ after =
      ascii "CONNECT " ++ (authority ++ tail) := by
    rw [← htail]
    simp
  have hstr : strstr (ascii "CONNECT " ++ authority ++ 0x20 :: rest ++ crlf ++ after) crlf =
      some (ascii "CONNECT " ++ authority ++ 0x20 :: rest).length := by
    rw [strstr, cString_of_nulFree hnul, find_eq_some_iff (by decide)]
    exact ⟨_, List.prefix_append _ _, hfirst, List.length_append⟩
  have hdrop : (ascii "CONNECT " ++ (authority ++ tail)).drop 8 = authority ++ tail :=
    List.drop_left' hmethod
  have hcmp : strncmp (ascii "CONNECT " ++ (authority ++ tail)) (ascii "CONNECT ") 8 = true := by
    rw [strncmp, ← hheader, cString_of_nulFree hnul, hheader, hmethodNul, List.take_left' hmethod]
    rfl
  have hspace : memchr (authority ++ tail) 0x20
      ((ascii "CONNECT " ++ authority ++ 0x20 :: rest).length - 8) = some authority.length := by
    have hlen : (ascii "CONNECT " ++ authority ++ 0x20 :: rest).length - 8 =
        (authority ++ 0x20 :: rest).length := by
      simp only [List.length_append, hmethod]
      omega
    have hsplit : authority ++ tail = (authority ++ 0x20 :: rest) ++ (crlf ++ after) := by
      rw [← htail]
      simp
    rw [memchr, hlen, hsplit, List.take_left, firstIndex_append hblank]
  have htake : (authority ++ tail).take authority.length = authority := List.take_left
  have hnul' : (0 : UInt8) ∉ authority ++ tail := by
    rw [hheader] at hnul
    exact fun hz => hnul (List.mem_append_right _ hz)
  unfold parseConnect
  rw [hstr]
  dsimp only
  rw [hheader, hcmp, if_neg (by decide), hdrop, hspace]
  dsimp only
  rw [htake, memrchr, htake]
  unfold checkAuthority
  by_cases hne : authority = []
  · rw [if_pos (by simp [hne]), if_pos (.inl hne)]
  · have hpos := List.length_pos_iff.mpr hne
    by_cases hsize : hostSize ≤ authority.length
    · rw [if_pos (by simp [hsize]), if_pos (.inr (.inl hsize))]
    · rw [if_neg (by simp only [Bool.or_eq_true, decide_eq_true_eq]; omega)]
      by_cases hbytes : hasControl authority = true ∨ 0x40 ∈ authority
      · rw [if_pos (by rw [Bool.or_eq_true, memchr_isSome, htake]; exact hbytes),
          if_pos (by tauto)]
      · rw [if_neg (by rw [Bool.or_eq_true, memchr_isSome, htake]; exact hbytes)]
        have hhead : (authority ++ tail).head? = some 0x5B → 0x5B ∈ authority := by
          intro hhead
          obtain ⟨c, authority, rfl⟩ := List.exists_cons_of_ne_nil hne
          obtain rfl : c = 0x5B := Option.some.inj hhead
          exact List.mem_cons_self
        by_cases hbracket : 0x5B ∈ authority ∨ 0x5D ∈ authority
        · rw [if_pos, if_pos (by tauto)]
          simp only [Bool.or_eq_true, memchr_isSome, htake]
          tauto
        · rw [if_neg, if_neg (by rintro (h | h | h | h | h | h) <;> tauto)]
          · exact parseConnect_port hnul'
          · simp only [Bool.or_eq_true, memchr_isSome, htake, decide_eq_true_eq]
            tauto

/-- Where a host is returned there is a request line. -/
theorem requestLine_of_parseConnect {header host : Bytes} {hostSize : Nat}
    (hnul : (0 : UInt8) ∉ header) (h : parseConnect header hostSize = some host) :
    ∃ authority line rest, RequestLine header authority line rest := by
  have hmethod : (cString (ascii "CONNECT ")).take 8 = ascii "CONNECT " := by decide
  unfold parseConnect at h
  split at h
  · cases h
  · next lineEnd hstr =>
      rw [strstr, cString_of_nulFree hnul, find_eq_some_iff (by decide)] at hstr
      obtain ⟨p, hp, hfirst, hlen⟩ := hstr
      obtain ⟨line, rfl⟩ := hfirst.1
      have hline : line.length = lineEnd := by
        rw [List.length_append] at hlen
        omega
      split at h
      · cases h
      · next hcmp =>
          rw [Bool.not_eq_true', Bool.not_eq_false, strncmp, cString_of_nulFree hnul, hmethod,
            decide_eq_true_eq] at hcmp
          dsimp only at h
          split at h
          · cases h
          · next space hspace =>
              obtain ⟨authority, rest, hsplit, hblank, -⟩ := firstIndex_eq_some hspace
              have hlong : 0 < lineEnd - 8 := by
                by_contra hzero
                rw [Nat.eq_zero_of_not_pos hzero] at hsplit
                simp at hsplit
              have htake : line = header.take (8 + (lineEnd - 8)) := by
                rw [Nat.add_sub_cancel' (by omega), ← hline]
                exact (List.prefix_iff_eq_take.mp ((List.prefix_append line crlf).trans hp))
              refine ⟨authority, line, rest, hp, hfirst, ?_, hblank⟩
              rw [htake, List.take_add, hcmp, hsplit, List.append_assoc]

/-- **What `parse_connect` accepts.** -/
theorem parseConnect_eq_some_iff {header host : Bytes} (hnul : (0 : UInt8) ∉ header) :
    parseConnect header 256 = some host ↔
      ∃ authority line rest, RequestLine header authority line rest ∧
        authority = host ++ ascii ":443" ∧ host ≠ [] ∧ authority.length ≤ 255 ∧
        ∀ c ∈ authority, AuthorityByte c := by
  constructor
  · intro h
    obtain ⟨authority, line, rest, hline⟩ := requestLine_of_parseConnect hnul h
    rw [parseConnect_of_line hnul hline, checkAuthority_eq_some_iff hline.blank] at h
    exact ⟨authority, line, rest, hline, h⟩
  · rintro ⟨authority, line, rest, hline, hauthority⟩
    rw [parseConnect_of_line hnul hline, checkAuthority_eq_some_iff hline.blank]
    exact hauthority

/-! ## The grammar -/

/-- A request for `host`: a prefix of the stream without NUL, of at most
4095 bytes, that ends in the first double line end, and whose first line
is `CONNECT`, a blank, the authority and a blank. -/
def ConnectRequest (client host : Bytes) : Prop :=
  ∃ header, header <+: client ∧ (0 : UInt8) ∉ header ∧ header.length ≤ 4095 ∧
    EndsFirst doubleCrlf header ∧
    ∃ line authority rest, line ++ crlf <+: header ∧ EndsFirst crlf (line ++ crlf) ∧
      line = ascii "CONNECT " ++ authority ++ 0x20 :: rest ∧
      authority = host ++ ascii ":443" ∧ host ≠ [] ∧ authority.length ≤ 255 ∧
      ∀ c ∈ authority, AuthorityByte c

/-- **The proxy accepts exactly its grammar**, and asks for the service
443 of the host and no other. -/
theorem connect_grammar (client : Bytes) (host service : Bytes) :
    (acceptConnect client = some host ↔ ConnectRequest client host) ∧
      (handleClient client = some (host, service) ↔
        ConnectRequest client host ∧ service = ascii "443") := by
  have haccept : acceptConnect client = some host ↔ ConnectRequest client host := by
    rw [acceptConnect, Option.bind_eq_some_iff]
    constructor
    · rintro ⟨header, hrecv, hparse⟩
      obtain ⟨hfront, hnul, hlen, hends⟩ := (recvHeader_eq_some_iff client header).mp hrecv
      obtain ⟨authority, line, rest, hline, hauthority⟩ :=
        (parseConnect_eq_some_iff hnul).mp hparse
      exact ⟨header, hfront, hnul, hlen, hends, line, authority, rest, hline.here, hline.first,
        hline.cut, hauthority⟩
    · rintro ⟨header, hfront, hnul, hlen, hends, line, authority, rest, hhere, hfirst, hcut,
        hauthority⟩
      have hblank : 0x20 ∉ authority := fun hb => (hauthority.2.2.2 _ hb).1 rfl
      exact ⟨header, (recvHeader_eq_some_iff client header).mpr ⟨hfront, hnul, hlen, hends⟩,
        (parseConnect_eq_some_iff hnul).mpr
          ⟨authority, line, rest, ⟨hhere, hfirst, hcut, hblank⟩, hauthority⟩⟩
  refine ⟨haccept, ?_⟩
  rw [handleClient, Option.map_eq_some_iff, ← haccept]
  constructor
  · rintro ⟨found, hfound, heq⟩
    obtain ⟨rfl, rfl⟩ := Prod.mk.inj heq
    exact ⟨hfound, rfl⟩
  · rintro ⟨hfound, rfl⟩
    exact ⟨host, hfound, rfl⟩

example : acceptConnect (ascii "CONNECT a:80:443 HTTP/1.1\r\n\r\n") = some (ascii "a:80") := by
  decide +kernel

end Bootmux.Router

/-
Bootmux.AttachShield.RedactionTheorems — which addresses of the logged
strings the log can show.

A MAC address is never shown. A dotted quad is looked for where it stands
in the JSON text, with word boundaries of that text: the escape before it,
as the `n` of a newline or the last digit of `\u2019`, can be part of its
first word, and then it is not found. `Alone` says that this happens
nowhere: wherever such an address stands in the JSON text, the words that
it begins and ends in are numbers of at most three digits. Then none is
shown (`log_leaks_nothing`).

The scan keeps one fact about a place it reaches with nothing to skip: no
quad starts where the word before that place starts, or the word ends
there (`AtWord`). So a quad that is left had something more in its first
or last word (`quad_left`).
-/
import Bootmux.AttachShield.Redaction

namespace Bootmux.AttachShield

open Bootmux.Lib
open Bootmux.Lib.PyText (isDecimal isHexDigit isSpace)
open Bootmux.Lib.PySub
open Bootmux.Lib.Search (mem_upTo)
open Bootmux.SafeFlash (asciiText Text Stamp utf8)

/-! ## Dotted quads -/

/-- One to three digits. -/
def Octet (t : List Char) : Prop := t ≠ [] ∧ t.length ≤ 3 ∧ ∀ c ∈ t, isDecimal c = true

instance (t : List Char) : Decidable (Octet t) := inferInstanceAs (Decidable (_ ∧ _))

/-- A dotted quad with something behind it. -/
def QuadBefore (cs rest : List Char) : Prop :=
  ∃ a b c d, (Octet a ∧ Octet b ∧ Octet c ∧ Octet d) ∧
    cs = a ++ '.' :: (b ++ '.' :: (c ++ '.' :: (d ++ rest)))

def IsQuad (q : List Char) : Prop := QuadBefore q []

/-- The pattern of an octet takes one to three digits. -/
theorem mem_octet {cs rest : List Char} : rest ∈ octet cs ↔ ∃ t, Octet t ∧ cs = t ++ rest := by
  cases cs with
  | nil =>
      constructor
      · intro h
        cases h
      · rintro ⟨t, ht, h⟩
        exact absurd (List.append_eq_nil_iff.mp h.symm).1 ht.1
  | cons c cs =>
      rw [octet]
      constructor
      · intro h
        split at h
        · next hc =>
            obtain ⟨t, hlen, hall, rfl⟩ := (mem_upTo 2).mp h
            exact ⟨c :: t, ⟨List.cons_ne_nil c t, Nat.succ_le_succ hlen,
              List.forall_mem_cons.mpr ⟨hc, hall⟩⟩, rfl⟩
        · cases h
      · rintro ⟨t, ⟨hne, hlen, hall⟩, h⟩
        obtain ⟨x, t, rfl⟩ := List.exists_cons_of_ne_nil hne
        obtain ⟨rfl, rfl⟩ := List.cons.inj h
        rw [List.forall_mem_cons] at hall
        rw [if_pos hall.1]
        exact (mem_upTo 2).mpr ⟨t, Nat.le_of_succ_le_succ hlen, hall.2, rfl⟩

theorem mem_dot {cs rest : List Char} : rest ∈ dot cs ↔ cs = '.' :: rest := by
  unfold dot
  split
  · next tail => rw [List.mem_singleton, List.cons_inj_right, eq_comm]
  · next hno =>
      constructor
      · intro h
        cases h
      · intro h
        exact absurd h (hno rest)

/-- The pattern for a quad matches quads. -/
theorem mem_quadRests {cs rest : List Char} : rest ∈ quadRests cs ↔ QuadBefore cs rest := by
  simp only [quadRests, List.mem_flatMap, mem_octet, mem_dot, QuadBefore]
  constructor
  · rintro ⟨_, ⟨_, ⟨_, ⟨_, ⟨_, ⟨_, ⟨a, ha, rfl⟩, rfl⟩, b, hb, rfl⟩, rfl⟩, c, hc, rfl⟩, rfl⟩, d, hd,
      rfl⟩
    exact ⟨a, b, c, d, ⟨ha, hb, hc, hd⟩, rfl⟩
  · rintro ⟨a, b, c, d, ⟨ha, hb, hc, hd⟩, rfl⟩
    exact ⟨_, ⟨_, ⟨_, ⟨_, ⟨_, ⟨_, ⟨a, ha, rfl⟩, rfl⟩, b, hb, rfl⟩, rfl⟩, c, hc, rfl⟩, rfl⟩, d, hd,
      rfl⟩

instance (q : List Char) : Decidable (IsQuad q) := decidable_of_iff _ mem_quadRests

/-- The pattern of an address takes a quad. -/
theorem quadBefore_iff {cs rest : List Char} :
    QuadBefore cs rest ↔ ∃ q, IsQuad q ∧ cs = q ++ rest := by
  constructor
  · rintro ⟨a, b, c, d, hocts, rfl⟩
    exact ⟨a ++ '.' :: (b ++ '.' :: (c ++ '.' :: d)),
      ⟨a, b, c, d, hocts, by rw [List.append_nil]⟩, by simp⟩
  · rintro ⟨q, ⟨a, b, c, d, hocts, rfl⟩, rfl⟩
    exact ⟨a, b, c, d, hocts, by simp⟩

theorem IsQuad.chars {q : List Char} (h : IsQuad q) :
    ∀ c ∈ q, isDecimal c = true ∨ c = '.' := by
  obtain ⟨a, b, c, d, ⟨ha, hb, hc, hd⟩, rfl⟩ := h
  intro x hx
  simp only [List.append_nil, List.mem_append, List.mem_cons] at hx
  rcases hx with hx | rfl | hx | rfl | hx | rfl | hx
  · exact .inl (ha.2.2 x hx)
  · exact .inr rfl
  · exact .inl (hb.2.2 x hx)
  · exact .inr rfl
  · exact .inl (hc.2.2 x hx)
  · exact .inr rfl
  · exact .inl (hd.2.2 x hx)

theorem IsQuad.head {q : List Char} (h : IsQuad q) :
    ∃ c rest, q = c :: rest ∧ isDecimal c = true := by
  obtain ⟨a, b, c, d, ⟨ha, -⟩, rfl⟩ := h
  obtain ⟨x, a, rfl⟩ := List.exists_cons_of_ne_nil ha.1
  exact ⟨x, _, rfl, ha.2.2 x List.mem_cons_self⟩

theorem IsQuad.last {q : List Char} (h : IsQuad q) :
    ∃ c ∈ q.getLast?, isDecimal c = true := by
  obtain ⟨a, b, c, d, ⟨-, -, -, hd⟩, rfl⟩ := h
  obtain ⟨d, x, rfl⟩ := (List.eq_nil_or_concat d).resolve_left hd.1
  have hq : a ++ '.' :: (b ++ '.' :: (c ++ '.' :: (d.concat x ++ []))) =
      (a ++ '.' :: (b ++ '.' :: (c ++ '.' :: d))) ++ [x] := by
    simp
  refine ⟨x, ?_, hd.2.2 x (by simp)⟩
  rw [hq, List.getLast?_concat]
  rfl

/-- A quad has a dot. -/
theorem IsQuad.dot_mem {q : List Char} (h : IsQuad q) : '.' ∈ q := by
  obtain ⟨a, b, c, d, -, rfl⟩ := h
  simp

/-! ### Longer first and last words -/

theorem isDecimal_dot : isDecimal '.' = false := by decide +kernel

theorem Octet.noDot {t : List Char} (h : Octet t) : '.' ∉ t := by
  intro hmem
  have hdot := h.2.2 '.' hmem
  rw [isDecimal_dot] at hdot
  cases hdot

/-- A text is cut at its first dot in one way. -/
theorem first_dot {p p' r r' : List Char} (hp : '.' ∉ p) (hp' : '.' ∉ p')
    (h : p ++ '.' :: r = p' ++ '.' :: r') : p = p' ∧ r = r' := by
  rcases List.append_eq_append_iff.mp h with ⟨w, hw, hrest⟩ | ⟨w, hw, hrest⟩
  · cases w with
    | nil => exact ⟨by simpa using hw.symm, by simpa using hrest⟩
    | cons x w =>
        obtain ⟨rfl, -⟩ := List.cons.inj hrest
        exact absurd (by rw [hw]; simp) hp'
  · cases w with
    | nil => exact ⟨by simpa using hw, by simpa using hrest.symm⟩
    | cons x w =>
        obtain ⟨rfl, -⟩ := List.cons.inj hrest
        exact absurd (by rw [hw]; simp) hp

/-- A part of an octet is an octet. -/
theorem Octet.part {t t' : List Char} (h : Octet t) (hne : t' ≠ []) (hsub : t' <:+: t) :
    Octet t' :=
  ⟨hne, hsub.length_le.trans h.2.1, fun c hc => h.2.2 c (hsub.subset hc)⟩

/-- A quad with more at its ends that is still one, is one with less. -/
theorem IsQuad.less {a x y x' y' : List Char} (ha : IsQuad a) (h : IsQuad (x ++ (a ++ y)))
    (hx : '.' ∉ x) (hy : '.' ∉ y) (hx' : x' <:+ x) (hy' : y' <+: y) : IsQuad (x' ++ (a ++ y')) := by
  obtain ⟨o₁, o₂, o₃, o₄, ⟨h₁, h₂, h₃, h₄⟩, rfl⟩ := ha
  obtain ⟨p₁, p₂, p₃, p₄, ⟨g₁, g₂, g₃, g₄⟩, heq⟩ := h
  have hfirst : (x ++ o₁) ++ '.' :: (o₂ ++ '.' :: (o₃ ++ '.' :: (o₄ ++ y))) =
      p₁ ++ '.' :: (p₂ ++ '.' :: (p₃ ++ '.' :: (p₄ ++ []))) := by
    rw [← heq]
    simp
  obtain ⟨rfl, heq₂⟩ := first_dot (by simp [hx, h₁.noDot]) g₁.noDot hfirst
  obtain ⟨rfl, heq₃⟩ := first_dot h₂.noDot g₂.noDot heq₂
  obtain ⟨rfl, heq₄⟩ := first_dot h₃.noDot g₃.noDot heq₃
  rw [List.append_nil] at heq₄
  subst heq₄
  refine ⟨x' ++ o₁, o₂, o₃, o₄ ++ y', ⟨?_, h₂, h₃, ?_⟩, by simp⟩
  · obtain ⟨z, rfl⟩ := hx'
    exact g₁.part (by simp [h₁.1]) ⟨z, [], by simp⟩
  · obtain ⟨z, rfl⟩ := hy'
    exact g₄.part (by simp [h₄.1]) ⟨[], z, by simp⟩

/-! ## Where a quad is found -/

section Words

variable {words : WordClass}

theorem WordClass.dot (words : WordClass) : words.isWord '.' = false := by
  rw [words.ascii '.' (by decide)]
  decide

/-- A whole quad: its last word ends with it. -/
def Starts (words : WordClass) (cs : List Char) : Prop :=
  ∃ q rest, IsQuad q ∧ cs = q ++ rest ∧ ∀ c ∈ rest.head?, words.isWord c = false

/-- After a quad there is a boundary exactly if no word character follows. -/
theorem boundary_end {q rest : List Char} (hq : IsQuad q) :
    boundary words q.getLast? rest.head? = true ↔ ∀ c ∈ rest.head?, words.isWord c = false := by
  obtain ⟨c, hc, hdec⟩ := hq.last
  have hlast : q.getLast? = some c := hc
  have hword := words.decimal c hdec
  cases hrest : rest.head? with
  | none => simp [boundary, hlast, hword]
  | some d => simp [boundary, hlast, hword]

theorem take_drop_quad (q rest : List Char) :
    ((q ++ rest).take ((q ++ rest).length - rest.length)) = q ∧
      (q ++ rest).drop ((q ++ rest).length - rest.length) = rest := by
  have hlen : (q ++ rest).length - rest.length = q.length := by
    rw [List.length_append]
    omega
  rw [hlen]
  exact ⟨List.take_left, List.drop_left⟩

/-- A match ends where a word ends, and is not empty. -/
theorem ipAt_some {prev : Option Char} {cs : List Char} {n : Nat}
    (h : ipAt words prev cs = some n) :
    0 < n ∧ ∀ c ∈ (cs.drop n).head?, words.isWord c = false := by
  unfold ipAt at h
  split at h
  · obtain ⟨hend, hmem⟩ := And.intro (List.find?_some h) (List.mem_of_find?_eq_some h)
    obtain ⟨rest, hrest, rfl⟩ := List.mem_map.mp hmem
    obtain ⟨q, hq, rfl⟩ := quadBefore_iff.mp (mem_quadRests.mp hrest)
    obtain ⟨htake, hdrop⟩ := take_drop_quad q rest
    rw [htake, hdrop] at hend
    refine ⟨?_, ?_⟩
    · obtain ⟨c, q, rfl, -⟩ := hq.head
      simp only [List.length_append, List.length_cons]
      omega
    · rw [hdrop]
      exact (boundary_end hq).mp hend
  · cases h

/-- A whole quad at the start of a word is matched. -/
theorem ipAt_ne_none {prev : Option Char} {cs : List Char} (h : Starts words cs)
    (hprev : prev.any words.isWord = false) : ipAt words prev cs ≠ none := by
  obtain ⟨q, rest, hq, rfl, hend⟩ := h
  obtain ⟨c, tail, hcs, hdec⟩ := hq.head
  have hstart : boundary words prev (q ++ rest).head? = true := by
    rw [hcs, List.cons_append, List.head?_cons, boundary, hprev, Option.any_some,
      words.decimal c hdec]
    rfl
  intro hnone
  unfold ipAt at hnone
  rw [if_pos hstart, List.find?_eq_none] at hnone
  refine hnone _ (List.mem_map.mpr
    ⟨rest, mem_quadRests.mpr (quadBefore_iff.mpr ⟨q, hq, rfl⟩), rfl⟩) ?_
  obtain ⟨htake, hdrop⟩ := take_drop_quad q rest
  rw [htake, hdrop]
  exact (boundary_end hq).mpr hend

/-- What the scan knows of a place: behind a match a word ends; and elsewhere
no whole quad starts where the word before the place starts, unless the word
ends there. -/
def AtWord (words : WordClass) (k : Nat) (before _out rest : List Char) : Prop :=
  (k ≠ 0 → ∀ c ∈ (rest.drop k).head?, words.isWord c = false) ∧
    (k = 0 → before.takeWhile words.isWord ≠ [] →
      (∀ c ∈ rest.head?, words.isWord c = false) ∨
        ¬Starts words ((before.takeWhile words.isWord).reverse ++ rest))

theorem takeWhile_nil_iff {p : Char → Bool} {before : List Char} :
    before.takeWhile p = [] ↔ before.head?.any p = false := by
  cases before with
  | nil => simp
  | cons c before => cases hc : p c <;> simp [hc]

/-- The scan is at the start of a word, or inside one it has passed over. -/
theorem scan_atWord : Scan (ipAt words) redacted (AtWord words) where
  skip {k before out c cs} h := by
    have hend := h.1 (Nat.succ_ne_zero k)
    rw [List.drop_succ_cons] at hend
    refine ⟨fun _ => hend, ?_⟩
    rintro rfl -
    exact .inl hend
  replace {before out c cs n} _ hm := by
    obtain ⟨hpos, hend⟩ := ipAt_some hm
    obtain ⟨n, rfl⟩ := Nat.exists_eq_succ_of_ne_zero hpos.ne'
    rw [Nat.succ_eq_add_one, List.drop_succ_cons] at hend
    rw [Nat.succ_eq_add_one, Nat.add_sub_cancel]
    refine ⟨fun _ => hend, ?_⟩
    rintro rfl -
    exact .inl hend
  keep {before out c cs} h hm := by
    refine ⟨fun hk => absurd rfl hk, fun _ hrun => ?_⟩
    cases hc : words.isWord c with
    | false =>
        rw [List.takeWhile_cons_of_neg (by simp [hc])] at hrun
        exact absurd rfl hrun
    | true =>
        -- The word goes on, from where it started.
        right
        rw [List.takeWhile_cons_of_pos hc, List.reverse_cons, List.append_assoc,
          List.singleton_append]
        by_cases hrun' : before.takeWhile words.isWord = []
        · rw [hrun', List.reverse_nil, List.nil_append]
          exact fun hstarts => ipAt_ne_none hstarts (takeWhile_nil_iff.mp hrun') hm
        · rcases h.2 rfl hrun' with hends | hno
          · have hfalse := hends c rfl
            rw [hc] at hfalse
            cases hfalse
          · exact hno

/-- The text with the rest of the words that it begins and ends in: `before`
is the text before it, from right to left. -/
def widened (words : WordClass) (before a after : List Char) : List Char :=
  (before.takeWhile words.isWord).reverse ++ (a ++ after.takeWhile words.isWord)

/-- A quad of the text that is widened to a word starts a match. -/
theorem starts_of_widened {before a after : List Char} (h : IsQuad (widened words before a after)) :
    Starts words ((before.takeWhile words.isWord).reverse ++ (a ++ after)) := by
  refine ⟨_, after.dropWhile words.isWord, h, ?_, ?_⟩
  · rw [widened, List.append_assoc, List.append_assoc, List.takeWhile_append_dropWhile]
  · intro c hc
    have hhead := List.head?_dropWhile_not words.isWord after
    rw [hc] at hhead
    simpa using hhead

/-- The mark has no part that could be an address. -/
theorem apart_redacted {a : List Char} (hchars : ∀ c ∈ a, c ≠ '<' ∧ c ≠ '>')
    {c : Char} (hc : c ∈ a) (hout : c ∉ redacted) : Apart redacted a where
  ne_nil := List.ne_nil_of_mem hc
  repl_ne := by decide
  head := by
    rintro _ ⟨⟩ hmem
    exact (hchars '<' hmem).1 rfl
  last := by
    rintro _ ⟨⟩ hmem
    exact (hchars '>' hmem).2 rfl
  not_in := fun h => hout (h.subset hc)

theorem IsQuad.apart {a : List Char} (h : IsQuad a) : Apart redacted a := by
  refine apart_redacted (fun c hc => ?_) h.dot_mem (by decide)
  have hout : isDecimal '<' = false ∧ isDecimal '>' = false := by decide +kernel
  rcases h.chars c hc with hdec | rfl
  · refine ⟨?_, ?_⟩
    · rintro rfl
      rw [hout.1] at hdec
      cases hdec
    · rintro rfl
      rw [hout.2] at hdec
      cases hdec
  · decide

/-- **A quad that is left** had more in its first word or its last. -/
theorem quad_left {a text : List Char} (ha : IsQuad a)
    (h : a <:+: subAll (ipAt words) redacted text) :
    ∃ u v, text = u ++ (a ++ v) ∧ ¬IsQuad (widened words u.reverse a v) := by
  obtain ⟨u₁, v₁, heq⟩ := h
  have hinit : AtWord words 0 [] [] text :=
    ⟨fun hk => absurd rfl hk, fun _ hrun => absurd rfl hrun⟩
  rw [List.append_assoc] at heq
  obtain ⟨u, v, -, rfl, hat, hnone, -⟩ :=
    sub_occurrence ha.apart scan_atWord [] [] hinit heq.symm
  rw [List.append_nil] at hat hnone
  refine ⟨u, v, rfl, fun hquad => ?_⟩
  have hstarts := starts_of_widened hquad
  obtain ⟨c, tail, hcs, hdec⟩ := ha.head
  by_cases hrun : u.reverse.takeWhile words.isWord = []
  · rw [hrun, List.reverse_nil, List.nil_append] at hstarts
    exact ipAt_ne_none hstarts (takeWhile_nil_iff.mp hrun) hnone
  · rcases hat.2 rfl hrun with hends | hno
    · have hfalse := hends c (by rw [hcs]; rfl)
      rw [words.decimal c hdec] at hfalse
      cases hfalse
    · exact hno hstarts

/-! ## MAC addresses -/

/-- A text that the pattern for MAC addresses matches. -/
def IsMac (a : List Char) : Prop := a.length = 17 ∧ macPairs 5 a = true

theorem macPairs_zero {a : List Char} (h : macPairs 0 a = true) :
    ∃ x y rest, a = x :: y :: rest ∧ isHexDigit x = true ∧ isHexDigit y = true := by
  cases a with
  | nil => cases h
  | cons x a =>
      cases a with
      | nil => cases h
      | cons y rest =>
          rw [macPairs, Bool.and_eq_true] at h
          exact ⟨x, y, rest, rfl, h⟩

/-- A pair, a separator and one pair less. -/
theorem macPairs_succ {n : Nat} {a : List Char} (h : macPairs (n + 1) a = true) :
    ∃ x y z rest, a = x :: y :: z :: rest ∧ isHexDigit x = true ∧ isHexDigit y = true ∧
      (z = ':' ∨ z = '-') ∧ macPairs n rest = true := by
  cases a with
  | nil => cases h
  | cons x a =>
      cases a with
      | nil => cases h
      | cons y a =>
          cases a with
          | nil => cases h
          | cons z rest =>
              simp only [macPairs, Bool.and_eq_true, Bool.or_eq_true, beq_iff_eq] at h
              exact ⟨x, y, z, rest, rfl, h.1.1.1, h.1.1.2, h.1.2, h.2⟩

theorem macPairs_append {n : Nat} {a : List Char} (h : macPairs n a = true) (v : List Char) :
    macPairs n (a ++ v) = true := by
  induction n generalizing a with
  | zero =>
      obtain ⟨x, y, rest, rfl, hx, hy⟩ := macPairs_zero h
      rw [List.cons_append, List.cons_append, macPairs, hx, hy]
      rfl
  | succ n ih =>
      obtain ⟨x, y, z, rest, rfl, hx, hy, hz, hrest⟩ := macPairs_succ h
      simp only [List.cons_append, macPairs, Bool.and_eq_true, Bool.or_eq_true, beq_iff_eq]
      exact ⟨⟨⟨hx, hy⟩, hz⟩, ih hrest⟩

/-- Pairs of hexadecimal digits with a separator between them. -/
theorem macPairs_chars {n : Nat} {a : List Char} (h : macPairs n a = true)
    (hlen : a.length = 3 * n + 2) : ∀ c ∈ a, isHexDigit c = true ∨ c = ':' ∨ c = '-' := by
  induction n generalizing a with
  | zero =>
      obtain ⟨x, y, rest, rfl, hx, hy⟩ := macPairs_zero h
      simp only [List.length_cons] at hlen
      obtain rfl := List.eq_nil_of_length_eq_zero (by omega : rest.length = 0)
      simp [hx, hy]
  | succ n ih =>
      obtain ⟨x, y, z, rest, rfl, hx, hy, hz, hrest⟩ := macPairs_succ h
      simp only [List.length_cons] at hlen
      have htail := ih hrest (by omega)
      intro c hc
      simp only [List.mem_cons] at hc
      rcases hc with rfl | rfl | rfl | hc
      · exact .inl hx
      · exact .inl hy
      · exact .inr hz
      · exact htail c hc

theorem IsMac.separator {a : List Char} (h : IsMac a) : ∃ c ∈ a, c = ':' ∨ c = '-' := by
  obtain ⟨x, y, z, rest, rfl, -, -, hz, -⟩ := macPairs_succ h.2
  exact ⟨z, by simp, hz⟩

theorem IsMac.apart {a : List Char} (h : IsMac a) : Apart redacted a := by
  obtain ⟨c, hc, hsep⟩ := h.separator
  refine apart_redacted (fun d hd => ?_) hc ?_
  · rcases macPairs_chars h.2 h.1 d hd with hhex | rfl | rfl
    · refine ⟨?_, ?_⟩
      · rintro rfl
        exact absurd hhex (by decide)
      · rintro rfl
        exact absurd hhex (by decide)
    · decide
    · decide
  · rcases hsep with rfl | rfl <;> decide

/-- Six pairs are a match wherever they stand. -/
theorem macAt_ne_none {prev : Option Char} {cs : List Char} (h : macPairs 5 cs = true) :
    macAt prev cs ≠ none := by
  intro hnone
  have hsome : macAt prev cs = some 17 := if_pos h
  rw [hsome] at hnone
  cases hnone

/-- A MAC address is not left. -/
theorem mac_not_left {a text : List Char} (ha : IsMac a) : ¬a <:+: subAll macAt redacted text := by
  rintro ⟨u₁, v₁, heq⟩
  have hscan : Scan macAt redacted fun _ _ _ _ => True :=
    ⟨fun _ => trivial, fun _ _ => trivial, fun _ _ => trivial⟩
  rw [List.append_assoc] at heq
  obtain ⟨u, v, -, -, -, hnone, -⟩ := sub_occurrence ha.apart hscan [] [] trivial heq.symm
  exact macAt_ne_none (macPairs_append ha.2 v) hnone

/-- The mark does not start with a word character, so that it makes no word
longer. -/
theorem redacted_head (words : WordClass) : ∀ c ∈ redacted.head?, words.isWord c = false := by
  intro c hc
  have hhead : redacted.head? = some '<' := by decide
  rw [hhead] at hc
  obtain rfl := Option.some.inj hc
  rw [words.ascii '<' (by decide)]
  decide

theorem redacted_last (words : WordClass) :
    ∀ c ∈ redacted.getLast?, words.isWord c = false := by
  intro c hc
  have hlast : redacted.getLast? = some '>' := by decide
  rw [hlast] at hc
  obtain rfl := Option.some.inj hc
  rw [words.ascii '>' (by decide)]
  decide

/-- Where MAC addresses are taken out, the words around a quad only get
shorter. -/
theorem quad_left_mac {a text u₁ v₁ : List Char} (ha : IsQuad a)
    (h : subAll macAt redacted text = u₁ ++ (a ++ v₁))
    (hmore : ¬IsQuad (widened words u₁.reverse a v₁)) :
    ∃ u v, text = u ++ (a ++ v) ∧ ¬IsQuad (widened words u.reverse a v) := by
  have hne : redacted ≠ [] := by decide
  have hinit : ShorterRun words.isWord 0 [] [] text := ⟨List.prefix_rfl, fun hk => absurd rfl hk⟩
  obtain ⟨u, v, prev, rfl, hrun, -, rfl⟩ :=
    sub_occurrence ha.apart (scan_shorterRun hne (redacted_last words)) [] [] hinit h
  rw [List.append_nil, List.append_nil] at hrun
  refine ⟨u, v, rfl, fun hquad => hmore ?_⟩
  have hnodot : ∀ cs : List Char, '.' ∉ cs.takeWhile words.isWord := by
    intro cs hmem
    have hword := List.mem_takeWhile_imp hmem
    rw [words.dot] at hword
    cases hword
  refine ha.less hquad ?_ (hnodot v) ?_ (takeWhile_sub hne (redacted_head words) prev v)
  · rw [List.mem_reverse]
    exact hnodot _
  · exact List.reverse_suffix.mpr hrun.1

/-! ## What the log shows -/

/-- An address that stands in a string between characters of no word, or its
ends. -/
def StandsIn (words : WordClass) (s a : List Char) : Prop :=
  IsQuad a ∧ ∃ u v, s = u ++ (a ++ v) ∧ (∀ c ∈ u.getLast?, words.isWord c = false) ∧
    ∀ c ∈ v.head?, words.isWord c = false

/-- The line that is written shows no address of the strings. -/
def LeaksNothing (words : WordClass) (logger : SessionLogger) (entry : LogEntry) : Prop :=
  ∀ line ∈ logger.line words entry, ∀ s ∈ entry.strings, ∀ a,
    (StandsIn words s a → ¬a <:+: line) ∧ (IsMac a → a <:+: s → ¬a <:+: line)

/-- Wherever an address of the strings stands in the JSON text, its first and
last words there are whole numbers of at most three digits. -/
def Alone (words : WordClass) (entry : LogEntry) : Prop :=
  ∀ s ∈ entry.strings, ∀ a, StandsIn words s a →
    ∀ u v, entry.json = u ++ (a ++ v) → IsQuad (widened words u.reverse a v)

/-- A quad that is left stood inside of a longer word of digits and dots. -/
theorem redact_quad {a text : List Char} (ha : IsQuad a) (h : a <:+: redact words text) :
    ∃ u v, text = u ++ (a ++ v) ∧ ¬IsQuad (widened words u.reverse a v) := by
  obtain ⟨u, v, htext, hmore⟩ := quad_left ha (infix_of_sub ha.apart h)
  exact quad_left_mac ha htext hmore

/-- No hardware address is left. -/
theorem redact_mac {a text : List Char} (ha : IsMac a) : ¬a <:+: redact words text := fun h =>
  mac_not_left ha (infix_of_sub ha.apart (infix_of_sub ha.apart h))

/-- What is logged is redacted. -/
theorem line_eq {logger : SessionLogger} {entry : LogEntry} {line : List Char}
    (h : line ∈ logger.line words entry) : line = redact words entry.json := by
  unfold SessionLogger.line at h
  dsimp only at h
  split at h
  · cases h
  · exact (Option.some.inj h).symm

/-- **Addresses that stand alone in the JSON text are not logged.** -/
theorem log_leaks_nothing (words : WordClass) (logger : SessionLogger) (entry : LogEntry)
    (h : Alone words entry) : LeaksNothing words logger entry := by
  intro line hline s hs a
  rw [line_eq hline]
  refine ⟨fun hstands hin => ?_, fun hmac _ => redact_mac hmac⟩
  obtain ⟨u, v, htext, hmore⟩ := redact_quad hstands.1 hin
  exact hmore (h s hs a hstands u v htext)

end Words

/-! ## Entries of a session -/

/-- `\w` without the letters beyond ASCII. -/
def asciiWords : WordClass where
  isWord c := c.isAlphanum || c == '_' || isDecimal c && 0x80 ≤ c.toNat
  ascii c hc := by
    have hlow : decide (0x80 ≤ c.toNat) = false := decide_eq_false (by omega)
    rw [hlow, Bool.and_false, Bool.or_false]
  decimal c hc := by
    by_cases hlow : 0x80 ≤ c.toNat
    · rw [hc, decide_eq_true hlow, Bool.true_and, Bool.or_true]
    · have hdigit : ∀ n < 0x80, isDecimal (Char.ofNat n) = true →
          (Char.ofNat n).isAlphanum = true := by
        decide +kernel
      have halnum := hdigit c.toNat (by omega)
      rw [Char.ofNat_toNat] at halnum
      rw [halnum hc, Bool.true_or, Bool.true_or]

theorem isNumber_stamp : Json.isNumberText (utf8 "17.5") = true := by decide

/-- What a command has put out. -/
def outputEntry (out : String) (h : Json.wellFormed
    (.object [(utf8 "out", .string (utf8 out))]) = true) : LogEntry where
  ts := ⟨utf8 "17.5", isNumber_stamp⟩
  session := ⟨utf8 "s1", by decide⟩
  event := ⟨utf8 "RUN", by decide⟩
  data := .object [(utf8 "out", .string (utf8 out))]
  wellFormed := h

def gatewayEntry : LogEntry := outputEntry "via 10.0.0.1" (by decide +kernel)

/-- An address at the start of a line. -/
def newlineEntry : LogEntry := outputEntry "\n10.0.0.1" (by decide +kernel)

/-- The cuts of a text. -/
def cutsOf (text : List Char) : List (List Char × List Char) :=
  (List.range (text.length + 1)).map fun n => (text.take n, text.drop n)

theorem mem_cutsOf (u v : List Char) : (u, v) ∈ cutsOf (u ++ v) := by
  refine List.mem_map.mpr ⟨u.length, List.mem_range.mpr ?_, ?_⟩
  · rw [List.length_append]
    omega
  · rw [List.take_left, List.drop_left]

theorem gateway_alone : Alone asciiWords gatewayEntry := by
  have hstrings : ∀ s ∈ gatewayEntry.strings, ∀ cut ∈ cutsOf s, ∀ tail ∈ cutsOf cut.2,
      IsQuad tail.1 → (∀ c ∈ cut.1.getLast?, asciiWords.isWord c = false) →
      tail.1 = "10.0.0.1".toList := by
    decide +kernel
  have hjson : ∀ cut ∈ cutsOf gatewayEntry.json, "10.0.0.1".toList <+: cut.2 →
      IsQuad (widened asciiWords cut.1.reverse "10.0.0.1".toList (cut.2.drop 8)) := by
    decide +kernel
  rintro s hs a ⟨hquad, x, y, rfl, hx, -⟩ u v hplace
  have ha := hstrings _ hs _ (mem_cutsOf x (a ++ y)) _ (mem_cutsOf a y) hquad hx
  subst ha
  have hwide := hjson (u, "10.0.0.1".toList ++ v) (hplace ▸ mem_cutsOf _ _) ⟨v, rfl⟩
  exact hwide

/-- The hypothesis is met by an entry with an address in it. -/
theorem gateway_not_shown :
    LeaksNothing asciiWords ⟨none, 0⟩ gatewayEntry ∧
      StandsIn asciiWords "via 10.0.0.1".toList "10.0.0.1".toList ∧
      "via 10.0.0.1".toList ∈ gatewayEntry.strings := by
  refine ⟨log_leaks_nothing asciiWords _ gatewayEntry gateway_alone,
    ⟨by decide +kernel, "via ".toList, [], by decide, by decide +kernel, ?_⟩, by decide +kernel⟩
  intro c hc
  cases hc

/-- The newline is `\n` in the line, and the `n` belongs to the first word. -/
theorem newline_leaks :
    ¬∀ (words : WordClass) (logger : SessionLogger) (entry : LogEntry),
      LeaksNothing words logger entry := by
  intro hall
  have hline : (SessionLogger.line asciiWords ⟨none, 0⟩ newlineEntry) = some newlineEntry.json := by
    decide +kernel
  have hin : "10.0.0.1".toList <:+: newlineEntry.json := by decide +kernel
  have hstands : StandsIn asciiWords "\n10.0.0.1".toList "10.0.0.1".toList := by
    refine ⟨by decide +kernel, "\n".toList, [], by decide, by decide +kernel, ?_⟩
    intro c hc
    cases hc
  exact (hall asciiWords ⟨none, 0⟩ newlineEntry _ hline "\n10.0.0.1".toList (by decide +kernel)
    _).1 hstands hin

end Bootmux.AttachShield

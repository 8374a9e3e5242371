/-
Bootmux.Lib.Regex — regular expressions as Python's `re` tries them.

`find` lists the ways a pattern matches a text from its start, in the
order a backtracking engine tries them: a repetition takes as much as it
can first, an alternation its left side. `re.match` answers with the
first way and `re.search` with the first at the first place that has one.
Repetition is over one character class, which is all that is needed here.

The rules below follow the first way: a sequence takes it from its parts
(`matchAt_seq`), and a repetition takes its whole run (`matchAt_many`) unless
what follows refuses it. A pattern that cannot reach into the text that
follows is searched in front of it as if there were none (`Local.search`).

A pattern finds the matches at the start of a text in the order in which
`re` tries them, so the first one is what `match` returns, and `search`
tries the places from left to right. A pattern is `Local` before a text if
it looks no further than to its beginning; then what it matches does not
depend on what follows, which is how the lines of an output are taken apart.
-/
import Mathlib.Data.List.Induction
import Bootmux.Lib.PyText

namespace Bootmux.Lib

inductive Regex where
  /-- The text itself. -/
  | lit (text : List Char)
  /-- At least `least` characters of a class. -/
  | many (least : Nat) (p : Char → Bool)
  | seq (a b : Regex)
  | alt (a b : Regex)
  | group (a : Regex)
  /-- `$`: the end, or before a last newline. -/
  | stop

namespace Regex

/-- One way to match: the text taken, its groups, and what is left. -/
structure Match where
  text : List Char
  groups : List (List Char)
  rest : List Char
  deriving DecidableEq, Repr

/-- The ways to match from the start of a text, the preferred one first. -/
def find : Regex → List Char → List Match
  | lit text, cs => if text.isPrefixOf cs then [⟨text, [], cs.drop text.length⟩] else []
  | many least p, cs =>
      ((List.range ((cs.takeWhile p).length + 1)).reverse.filter (least ≤ ·)).map fun n =>
        ⟨cs.take n, [], cs.drop n⟩
  | seq a b, cs =>
      (a.find cs).flatMap fun m =>
        (b.find m.rest).map fun m' => ⟨m.text ++ m'.text, m.groups ++ m'.groups, m'.rest⟩
  | alt a b, cs => a.find cs ++ b.find cs
  | group a, cs => (a.find cs).map fun m => ⟨m.text, m.text :: m.groups, m.rest⟩
  | stop, cs => if cs = [] ∨ cs = ['\n'] then [⟨[], [], cs⟩] else []

/-- `re.match`. -/
def matchAt (p : Regex) (cs : List Char) : Option Match := (p.find cs).head?

/-- `re.search`. -/
def search (p : Regex) : List Char → Option Match
  | [] => p.matchAt []
  | c :: cs => (p.matchAt (c :: cs)).or (p.search cs)

/-- The text of a group, counted from zero. -/
def Match.get (m : Match) (i : Nat) : List Char := (m.groups[i]?).getD []

/-! ## The ways, pattern by pattern -/

theorem find_lit (text cs : List Char) : (lit text).find cs =
    if text.isPrefixOf cs then [⟨text, [], cs.drop text.length⟩] else [] :=
  rfl

theorem find_many (least : Nat) (p : Char → Bool) (cs : List Char) : (many least p).find cs =
    ((List.range ((cs.takeWhile p).length + 1)).reverse.filter (least ≤ ·)).map fun n =>
      ⟨cs.take n, [], cs.drop n⟩ :=
  rfl

theorem find_seq (a b : Regex) (cs : List Char) : (seq a b).find cs =
    (a.find cs).flatMap fun m =>
      (b.find m.rest).map fun m' => ⟨m.text ++ m'.text, m.groups ++ m'.groups, m'.rest⟩ :=
  rfl

theorem find_group (a : Regex) (cs : List Char) : (group a).find cs =
    (a.find cs).map fun m => ⟨m.text, m.text :: m.groups, m.rest⟩ :=
  rfl

theorem find_stop (cs : List Char) : stop.find cs =
    if cs = [] ∨ cs = ['\n'] then [⟨[], [], cs⟩] else [] :=
  rfl

/-! ## The first way -/

/-- A literal matches itself, whatever follows. -/
theorem find_lit_append (text rest : List Char) :
    (lit text).find (text ++ rest) = [⟨text, [], rest⟩] := by
  simp [find_lit]

/-- A literal matches itself, whatever follows. -/
theorem matchAt_lit (text rest : List Char) :
    (lit text).matchAt (text ++ rest) = some ⟨text, [], rest⟩ := by
  simp [matchAt, find_lit_append]

/-- A repetition takes its whole run. -/
theorem matchAt_many {least : Nat} {p : Char → Bool} {run rest : List Char}
    (hrun : ∀ c ∈ run, p c = true) (hrest : ∀ c ∈ rest.head?, p c = false)
    (hleast : least ≤ run.length) :
    (many least p).matchAt (run ++ rest) = some ⟨run, [], rest⟩ := by
  have htake : (run ++ rest).takeWhile p = run := by
    rw [List.takeWhile_append_of_pos hrun]
    cases rest with
    | nil => simp
    | cons c rest => simp [hrest c rfl]
  simp [matchAt, find_many, htake, List.range_succ, hleast]

/-- A run that is the whole text. -/
theorem matchAt_many_all {least : Nat} {p : Char → Bool} {run : List Char}
    (hrun : ∀ c ∈ run, p c = true) (hleast : least ≤ run.length) :
    (many least p).matchAt run = some ⟨run, [], []⟩ := by
  have hmany : (many least p).matchAt (run ++ []) = some ⟨run, [], []⟩ :=
    matchAt_many hrun (by simp) hleast
  rwa [List.append_nil] at hmany

/-- A repetition that is refused its first character. -/
theorem find_many_nil {least : Nat} {p : Char → Bool} {cs : List Char} (hleast : least ≠ 0)
    (h : ∀ c ∈ cs.head?, p c = false) : (many least p).find cs = [] := by
  have htake : cs.takeWhile p = [] := by
    cases cs with
    | nil => rfl
    | cons c cs => simp [h c rfl]
  simp [find_many, htake, hleast]

/-- Two patterns match one after the other. -/
theorem matchAt_seq {a b : Regex} {cs : List Char} {m m' : Match} (ha : a.matchAt cs = some m)
    (hb : b.matchAt m.rest = some m') :
    (seq a b).matchAt cs = some ⟨m.text ++ m'.text, m.groups ++ m'.groups, m'.rest⟩ := by
  unfold matchAt at *
  rw [List.head?_eq_some_iff] at ha hb
  obtain ⟨ms, ha⟩ := ha
  obtain ⟨ms', hb⟩ := hb
  simp [find_seq, ha, hb]

/-- If the first pattern fails the sequence does. -/
theorem find_seq_nil {a b : Regex} {cs : List Char} (h : a.find cs = []) :
    (seq a b).find cs = [] := by
  simp [find_seq, h]

/-- A group matches what its pattern does, and is kept. -/
theorem matchAt_group {a : Regex} {cs : List Char} {m : Match} (h : a.matchAt cs = some m) :
    (group a).matchAt cs = some ⟨m.text, m.text :: m.groups, m.rest⟩ := by
  simp only [matchAt, find_group, List.head?_map] at h ⊢
  simp [h]

/-- The end matches the end. -/
theorem matchAt_stop : stop.matchAt [] = some ⟨[], [], []⟩ := by
  simp [matchAt, find_stop]

/-- With no way to match there is no match. -/
theorem matchAt_of_find_nil {a : Regex} {cs : List Char} (h : a.find cs = []) :
    a.matchAt cs = none := by
  simp [matchAt, h]

/-- A repetition that gives back its last character. -/
theorem matchAt_many_lit {p : Char → Bool} {run : List Char} {c : Char} (hne : run ≠ [])
    (hrun : ∀ d ∈ run, p d = true) (hc : p c = true) :
    (seq (group (many 1 p)) (lit [c])).matchAt (run ++ [c]) = some ⟨run ++ [c], [run], []⟩ := by
  have htake : (run ++ [c]).takeWhile p = run ++ [c] := by
    rw [List.takeWhile_append_of_pos hrun]
    simp [hc]
  have hlength : 1 ≤ run.length := List.length_pos_iff.mpr hne
  simp [matchAt, find_seq, find_group, find_many, find_lit, htake, List.range_succ, hlength]

/-- A repetition up to the end. -/
theorem isSome_matchAt_many_stop {p : Char → Bool} {cs : List Char} (h : '\n' ∉ cs) :
    ((seq (many 1 p) stop).matchAt cs).isSome = true ↔ cs ≠ [] ∧ cs.all p = true := by
  constructor
  · intro hsome
    rw [matchAt, List.isSome_head?] at hsome
    obtain ⟨m, hm⟩ := List.exists_mem_of_ne_nil _ hsome
    simp only [find_seq, find_many, find_stop, List.mem_flatMap, List.mem_map, List.mem_filter,
      List.mem_reverse, List.mem_range, decide_eq_true_eq] at hm
    obtain ⟨m', ⟨n, ⟨hn, hone⟩, rfl⟩, m'', hstop, -⟩ := hm
    -- What is left holds no newline, so nothing is left.
    have hrest : cs.drop n = [] := by
      dsimp only at hstop
      split at hstop
      · rename_i hend
        rcases hend with hend | hend
        · exact hend
        · exact absurd (List.mem_of_mem_drop (hend ▸ List.mem_singleton_self '\n')) h
      · cases hstop
    have hlength : cs.length ≤ n := List.drop_eq_nil_iff.mp hrest
    have hrun : cs.takeWhile p = cs :=
      (List.takeWhile_prefix p).eq_of_length_le (by omega)
    refine ⟨?_, by rw [← hrun]; exact List.all_takeWhile⟩
    rintro rfl
    simp at hn
    omega
  · rintro ⟨hne, hall⟩
    have hmany := matchAt_many_all (List.all_eq_true.mp hall) (List.length_pos_iff.mpr hne)
    rw [matchAt_seq hmany matchAt_stop]
    rfl

/-! ## Searching -/

section Search

variable {text : List Char} {b : Regex}

/-- A sequence fails where its first literal is not there. -/
theorem find_seq_lit_nil {cs : List Char} (h : ¬ text <+: cs) : (seq (lit text) b).find cs = [] :=
  find_seq_nil (by simp [find_lit, List.isPrefixOf_iff_prefix, h])

/-- A search for a text that is nowhere. -/
theorem search_eq_none {cs : List Char} (h : ¬ text <:+: cs) :
    (seq (lit text) b).search cs = none := by
  induction cs with
  | nil => exact matchAt_of_find_nil (find_seq_lit_nil fun hpre => h hpre.isInfix)
  | cons c cs ih =>
      rw [search, matchAt_of_find_nil (find_seq_lit_nil fun hpre => h hpre.isInfix), Option.none_or]
      exact ih fun hinfix => h (List.infix_cons hinfix)

/-- A text does not start before a character it does not have and end after
it. -/
theorem prefix_of_prefix_append_cons {x : Char} {l r : List Char} (hx : x ∉ text)
    (h : text <+: l ++ x :: r) : text <+: l := by
  rcases Nat.lt_or_ge l.length text.length with hlt | hle
  · have hlonger : l ++ [x] <+: text :=
      List.prefix_of_prefix_length_le (by simp) h (by simp; omega)
    exact absurd (hlonger.subset (by simp)) hx
  · exact List.prefix_of_prefix_length_le h (List.prefix_append _ _) hle

/-- A search passes over what the text is not in, up to a character it does
not have. -/
theorem search_append_cons {x : Char} {l r : List Char} (hne : text ≠ []) (hx : x ∉ text)
    (hl : ¬ text <:+: l) :
    (seq (lit text) b).search (l ++ x :: r) = (seq (lit text) b).search r := by
  induction l with
  | nil =>
      have hnot : ¬ text <+: x :: r := fun h =>
        hne (List.prefix_nil.mp (prefix_of_prefix_append_cons hx h))
      rw [List.nil_append, search, matchAt_of_find_nil (find_seq_lit_nil hnot), Option.none_or]
  | cons c l ih =>
      have hnot : ¬ text <+: c :: l ++ x :: r := fun h =>
        hl (prefix_of_prefix_append_cons hx h).isInfix
      rw [List.cons_append, search, ← List.cons_append,
        matchAt_of_find_nil (find_seq_lit_nil hnot), Option.none_or]
      exact ih fun hinfix => hl (List.infix_cons hinfix)

/-- A match at the start is the first one found. -/
theorem search_of_matchAt {p : Regex} {cs : List Char} {m : Match} (h : p.matchAt cs = some m) :
    p.search cs = some m := by
  cases cs with
  | nil => exact h
  | cons c cs => simp [search, h]

end Search

/-! ## What a search finds in front of a break

A text `xs` that goes on with `tail` is searched as if it stood alone, if no
way to match it can reach into `tail`.
-/

section Local

/-- A way to match, in front of more text. -/
def Match.before (tail : List Char) (m : Match) : Match := { m with rest := m.rest ++ tail }

/-- The ways to match do not depend on the text that follows. -/
def Local (p : Regex) (tail : List Char) : Prop :=
  ∀ xs, p.find (xs ++ tail) = (p.find xs).map (Match.before tail)

variable {x : Char} {tail : List Char}

/-- A literal without the next character does not look past it. -/
theorem local_lit {text : List Char} (hx : x ∉ text) : (lit text).Local (x :: tail) := by
  intro xs
  rw [find_lit, find_lit]
  have hsame : text.isPrefixOf (xs ++ x :: tail) = text.isPrefixOf xs := by
    rw [Bool.eq_iff_iff, List.isPrefixOf_iff_prefix, List.isPrefixOf_iff_prefix]
    exact ⟨prefix_of_prefix_append_cons hx, fun h => h.trans (List.prefix_append _ _)⟩
  rw [hsame]
  split
  · rename_i hprefix
    have hle := (List.isPrefixOf_iff_prefix.mp hprefix).length_le
    simp [Match.before, List.drop_append_of_le_length hle]
  · rfl

/-- The ways to take at most as many characters as there are. -/
theorem map_take_before {least n : Nat} {xs : List Char} (hn : n ≤ xs.length) :
    (((List.range (n + 1)).reverse.filter (least ≤ ·)).map fun k =>
        (⟨(xs ++ tail).take k, [], (xs ++ tail).drop k⟩ : Match)) =
      (((List.range (n + 1)).reverse.filter (least ≤ ·)).map fun k =>
        (⟨xs.take k, [], xs.drop k⟩ : Match)).map (Match.before tail) := by
  rw [List.map_map]
  refine List.map_congr_left fun k hk => ?_
  have hle : k ≤ xs.length := by
    have := List.mem_range.mp (List.mem_reverse.mp (List.mem_filter.mp hk).1)
    omega
  simp [Match.before, List.take_append_of_le_length hle, List.drop_append_of_le_length hle]

/-- A run of other characters ends before the next one. -/
theorem local_many {least : Nat} {p : Char → Bool} (hx : p x = false) :
    (many least p).Local (x :: tail) := by
  intro xs
  have htake : (xs ++ x :: tail).takeWhile p = xs.takeWhile p := by
    rw [List.takeWhile_append]
    split
    · rename_i hlength
      simp [hx, (List.takeWhile_prefix p).eq_of_length hlength]
    · rfl
  rw [find_many, find_many, htake]
  exact map_take_before (List.takeWhile_prefix p).length_le

theorem group_before (ms : List Match) :
    (ms.map (Match.before tail)).map (fun m => (⟨m.text, m.text :: m.groups, m.rest⟩ : Match)) =
      (ms.map fun m => (⟨m.text, m.text :: m.groups, m.rest⟩ : Match)).map
        (Match.before tail) := by
  rw [List.map_map, List.map_map]
  rfl

/-- Grouping looks no further than the pattern does. -/
theorem local_group {a : Regex} (ha : a.Local tail) : (group a).Local tail := by
  intro xs
  rw [find_group, find_group, ha xs, group_before]

theorem seq_before {b : Regex} (hb : b.Local tail) (ms : List Match) :
    ((ms.map (Match.before tail)).flatMap fun m => (b.find m.rest).map fun m' =>
        (⟨m.text ++ m'.text, m.groups ++ m'.groups, m'.rest⟩ : Match)) =
      (ms.flatMap fun m => (b.find m.rest).map fun m' =>
        (⟨m.text ++ m'.text, m.groups ++ m'.groups, m'.rest⟩ : Match)).map
          (Match.before tail) := by
  induction ms with
  | nil => rfl
  | cons m ms ih =>
      rw [List.map_cons, List.flatMap_cons, List.flatMap_cons, List.map_append, ih,
        show (Match.before tail m).rest = m.rest ++ tail from rfl, hb, List.map_map, List.map_map]
      rfl

/-- A sequence looks no further than its patterns do. -/
theorem local_seq {a b : Regex} (ha : a.Local tail) (hb : b.Local tail) :
    (seq a b).Local tail := by
  intro xs
  rw [find_seq, find_seq, ha xs, seq_before hb]

/-- A repetition that may take the first character of what follows, but has to
stop before a character that it gives back. -/
theorem local_many_lit {least : Nat} {p : Char → Bool} {y c : Char} (hy : p y = false)
    (hxc : x ≠ c) (hyc : y ≠ c) :
    (seq (group (many least p)) (lit [c])).Local (x :: y :: tail) := by
  have hlit : (lit [c]).Local (x :: y :: tail) := local_lit (by simpa using hxc)
  by_cases hx : p x = false
  · exact local_seq (local_group (local_many hx)) hlit
  intro xs
  rw [find_seq, find_seq, find_group, find_group]
  by_cases hall : xs.takeWhile p = xs
  swap
  · -- The repetition ends within the text.
    have htake : (xs ++ x :: y :: tail).takeWhile p = xs.takeWhile p := by
      rw [List.takeWhile_append, if_neg fun h => hall ((List.takeWhile_prefix p).eq_of_length h)]
    have hmany : (many least p).find (xs ++ x :: y :: tail) =
        ((many least p).find xs).map (Match.before (x :: y :: tail)) := by
      rw [find_many, find_many, htake]
      exact map_take_before (List.takeWhile_prefix p).length_le
    rw [hmany, group_before, seq_before hlit]
  -- The way that takes one character more does not get on.
  have htake : (xs ++ x :: y :: tail).takeWhile p = xs ++ [x] := by
    rw [List.takeWhile_append, if_pos (by rw [hall])]
    simp [hx, hy]
  have hfirst : (lit [c]).find (y :: tail) = [] := by
    rw [find_lit, if_neg (by simpa using Ne.symm hyc)]
  have hmany : (many least p).find (xs ++ x :: y :: tail) =
      (if least ≤ xs.length + 1 then [⟨xs ++ [x], [], y :: tail⟩] else []) ++
        ((many least p).find xs).map (Match.before (x :: y :: tail)) := by
    rw [find_many, find_many, htake, hall, ← map_take_before (Nat.le_refl _), List.length_append,
      List.length_singleton, List.range_succ, List.reverse_append, List.filter_append,
      List.map_append]
    congr 1
    rw [List.reverse_singleton]
    by_cases hleast : least ≤ xs.length + 1
    · rw [List.filter_cons_of_pos (by simpa using hleast), List.filter_nil, if_pos hleast]
      simp [List.take_append, List.take_of_length_le]
    · rw [List.filter_cons_of_neg (by simpa using hleast), List.filter_nil, if_neg hleast]
      rfl
  rw [hmany, List.map_append, List.flatMap_append, group_before, seq_before hlit]
  split
  · simp [hfirst]
  · rfl

/-- A search looks through the text first, then through what follows. -/
theorem Local.search {p : Regex} (h : p.Local tail) (xs : List Char) :
    p.search (xs ++ tail) = ((p.search xs).map (Match.before tail)).or (p.search tail) := by
  have hmatch : ∀ xs, p.matchAt (xs ++ tail) = (p.matchAt xs).map (Match.before tail) := by
    intro xs
    rw [matchAt, h xs, List.head?_map]
    rfl
  induction xs with
  | nil =>
      rw [List.nil_append, Regex.search]
      cases hnil : p.matchAt [] with
      | none => rfl
      | some m =>
          have htail := hmatch []
          rw [List.nil_append, hnil] at htail
          exact search_of_matchAt htail
  | cons c xs ih =>
      rw [List.cons_append, Regex.search, Regex.search, ih, ← List.cons_append, hmatch]
      cases p.matchAt (c :: xs) <;> rfl

end Local

/-- What a search finds is a way to match some part of the text. -/
theorem exists_mem_find_of_search {p : Regex} {cs : List Char} {m : Match}
    (h : p.search cs = some m) : ∃ rest, m ∈ p.find rest := by
  induction cs with
  | nil => exact ⟨[], List.mem_of_mem_head? h⟩
  | cons c cs ih =>
      rw [search] at h
      cases hmatch : p.matchAt (c :: cs) with
      | none => exact ih (by simpa [hmatch] using h)
      | some m' =>
          obtain rfl : m' = m := by simpa [hmatch] using h
          exact ⟨c :: cs, List.mem_of_mem_head? hmatch⟩

/-- A group of a repetition has characters of its class. -/
theorem group_many {least : Nat} {p : Char → Bool} {cs : List Char} {m : Match}
    (h : m ∈ (group (many least p)).find cs) : m.groups = [m.text] ∧ ∀ c ∈ m.text, p c = true := by
  rw [find_group, find_many, List.map_map, List.mem_map] at h
  obtain ⟨n, hn, rfl⟩ := h
  refine ⟨rfl, fun c hc => ?_⟩
  have hle : n ≤ (cs.takeWhile p).length := by
    have := List.mem_range.mp (List.mem_reverse.mp (List.mem_filter.mp hn).1)
    omega
  have hrun : cs.take n <+: cs.takeWhile p :=
    List.prefix_of_prefix_length_le (List.take_prefix n cs) (List.takeWhile_prefix p)
      (Nat.le_trans (List.length_take_le n cs) hle)
  exact List.all_eq_true.mp List.all_takeWhile c (hrun.subset hc)

end Regex

end Bootmux.Lib

/-
Bootmux.Iphone.SanitizerTheorems — the ANSI sanitizer against the grammar
of the sequences it removes.

`nextToken` cuts the first token off a list of scalars: a CSI or an OSC
sequence, another pair with ESC, a line end, a control, or a scalar that
is shown; a sequence that does not end takes everything. `reference` is
what the tokens show.

`remaining_token` says what the state machine does with a token. It goes
wrong in one place: in the state `oscEscape` a BEL or a second ESC leads
back into the sequence, so an ESC directly before the terminator hides
it. An even number of them goes by in pairs. `Token.Clean` is that
condition on an OSC sequence. With clean tokens only the machine and the
grammar agree (`agrees_of_clean`), and a letter behind one that is not
clean is lost (`Starts.not_agrees`); `Starts.stable` cuts a token off
whatever comes after it, so the two make an equivalence over the
beginnings of an input.
-/
import Bootmux.Iphone.BufferTheorems

namespace Bootmux.Iphone

open Bootmux.Bmx1 (Bytes ascii)
open Bootmux.Lib

namespace ANSISanitizer

/-! ## The grammar -/

def esc : Bytes := [0x1B]
def bel : Bytes := [0x07]
def backslash : Bytes := [0x5C]
def carriageReturn : Bytes := [0x0D]
def lineFeed : Bytes := [0x0A]
def tab : Bytes := [0x09]

/-- A final byte of a CSI sequence. -/
def isFinal (c : Bytes) : Bool := among (fun b => 0x40 ≤ b && b ≤ 0x7E) c

/-- A C0 control. -/
def isControl (c : Bytes) : Bool := among (fun b => b < 0x20) c

/-- The parameters of a CSI sequence, its final byte and what follows. -/
def csiEnd : List Bytes → Option (List Bytes × Bytes × List Bytes)
  | [] => none
  | c :: rest =>
      if isFinal c then some ([], c, rest)
      else (csiEnd rest).map fun x => (c :: x.1, x.2.1, x.2.2)

/-- The text of an OSC sequence up to the first BEL or ESC backslash, that
terminator, and what follows. -/
def oscEnd : List Bytes → Option (List Bytes × List Bytes × List Bytes)
  | [] => none
  | c :: rest =>
      if c = bel then some ([], [bel], rest)
      else if c = esc ∧ rest.head? = some backslash then some ([], [esc, backslash], rest.tail)
      else (oscEnd rest).map fun x => (c :: x.1, x.2.1, x.2.2)

inductive Token where
  | csi (parameters : List Bytes) (final : Bytes)
  | osc (text terminator : List Bytes)
  | pair (c : Bytes)
  | unfinished (text : List Bytes)
  | lineEnd (text : List Bytes)
  | control (c : Bytes)
  | shown (c : Bytes)
  deriving DecidableEq, Repr

/-- The scalars of a token. -/
def Token.text : Token → List Bytes
  | csi parameters final => esc :: [0x5B] :: parameters ++ [final]
  | osc text terminator => esc :: [0x5D] :: text ++ terminator
  | pair c => [esc, c]
  | unfinished text => esc :: text
  | lineEnd text => text
  | control c => [c]
  | shown c => [c]

/-- What a token leaves in the output. -/
def Token.shows : Token → Bytes
  | lineEnd _ => lineFeed
  | shown c => c
  | _ => []

/-- The first token and what follows it. -/
def nextToken (c : Bytes) (rest : List Bytes) : Token × List Bytes :=
  if c = esc then
    match rest with
    | [] => (.unfinished [], [])
    | d :: more =>
        if d = [0x5B] then
          match csiEnd more with
          | some (parameters, final, after) => (.csi parameters final, after)
          | none => (.unfinished rest, [])
        else if d = [0x5D] then
          match oscEnd more with
          | some (text, terminator, after) => (.osc text terminator, after)
          | none => (.unfinished rest, [])
        else (.pair d, more)
  else if c = carriageReturn then
    if rest.head? = some lineFeed then (.lineEnd [carriageReturn, lineFeed], rest.tail)
    else (.lineEnd [carriageReturn], rest)
  else if isControl c ∧ c ≠ tab ∧ c ≠ lineFeed then (.control c, rest)
  else (.shown c, rest)

/-- A control sequence ends with its final byte. -/
theorem csiEnd_eq {w : List Bytes} {x : List Bytes × Bytes × List Bytes}
    (h : csiEnd w = some x) : w = x.1 ++ x.2.1 :: x.2.2 := by
  induction w generalizing x with
  | nil => cases h
  | cons c rest ih =>
      rw [csiEnd] at h
      split at h
      · obtain rfl := Option.some.inj h
        rfl
      · obtain ⟨y, hy, rfl⟩ := Option.map_eq_some_iff.mp h
        rw [ih hy]
        rfl

theorem oscEnd_eq {w : List Bytes} {x : List Bytes × List Bytes × List Bytes}
    (h : oscEnd w = some x) : w = x.1 ++ (x.2.1 ++ x.2.2) := by
  induction w generalizing x with
  | nil => cases h
  | cons c rest ih =>
      rw [oscEnd] at h
      split at h
      · next hbel =>
          obtain rfl := Option.some.inj h
          rw [hbel]
          rfl
      · split at h
        · next hesc =>
            obtain rfl := Option.some.inj h
            obtain ⟨rfl, hhead⟩ := hesc
            cases rest with
            | nil => cases hhead
            | cons d rest =>
                obtain rfl := Option.some.inj hhead
                rfl
        · obtain ⟨y, hy, rfl⟩ := Option.map_eq_some_iff.mp h
          rw [ih hy]
          rfl

/-- **A token and what follows it are the scalars it was cut from.** -/
theorem nextToken_text (c : Bytes) (rest : List Bytes) :
    c :: rest = (nextToken c rest).1.text ++ (nextToken c rest).2 := by
  unfold nextToken
  split
  · next hesc =>
      subst hesc
      cases rest with
      | nil => rfl
      | cons d more =>
          dsimp only
          split
          · next hd =>
              subst hd
              split
              · next hcsi => simp [Token.text, csiEnd_eq hcsi]
              · simp [Token.text]
          · split
            · next hd =>
                subst hd
                split
                · next hosc => simp [Token.text, oscEnd_eq hosc]
                · simp [Token.text]
            · rfl
  · split
    · next hreturn =>
        subst hreturn
        split
        · next hhead =>
            cases rest with
            | nil => cases hhead
            | cons d rest =>
                obtain rfl := Option.some.inj hhead
                rfl
        · rfl
    · split <;> rfl

theorem Token.text_ne_nil (c : Bytes) (rest : List Bytes) : (nextToken c rest).1.text ≠ [] := by
  unfold nextToken
  split
  · cases rest with
    | nil => exact List.cons_ne_nil _ _
    | cons d more =>
        dsimp only
        split
        · split <;> exact List.cons_ne_nil _ _
        · split
          · split <;> exact List.cons_ne_nil _ _
          · exact List.cons_ne_nil _ _
  · split
    · split <;> exact List.cons_ne_nil _ _
    · split <;> exact List.cons_ne_nil _ _

/-- A token takes at least one character. -/
theorem length_nextToken (c : Bytes) (rest : List Bytes) :
    (nextToken c rest).2.length < (c :: rest).length := by
  have htext := congrArg List.length (nextToken_text c rest)
  have hpos := List.length_pos_iff.mpr (Token.text_ne_nil c rest)
  rw [List.length_append] at htext
  omega

/-- The tokens of a list of scalars. -/
def tokens : List Bytes → List Token
  | [] => []
  | c :: rest => (nextToken c rest).1 :: tokens (nextToken c rest).2
termination_by w => w.length
decreasing_by exact length_nextToken c rest

/-- **What the grammar leaves of a list of scalars.** -/
def reference (w : List Bytes) : Bytes := (tokens w).flatMap Token.shows

@[simp] theorem tokens_nil : tokens [] = [] := by rw [tokens]

/-- Token after token. -/
theorem tokens_cons (c : Bytes) (rest : List Bytes) :
    tokens (c :: rest) = (nextToken c rest).1 :: tokens (nextToken c rest).2 := by rw [tokens]

/-- What is shown is what the tokens show. -/
theorem reference_cons (c : Bytes) (rest : List Bytes) :
    reference (c :: rest) = (nextToken c rest).1.shows ++ reference (nextToken c rest).2 := by
  rw [reference, tokens_cons, List.flatMap_cons, reference]

/-! ## What the machine makes of a sequence -/

/-- What the machine still puts out, with `finish` at the end. -/
def remaining (s : ANSISanitizer) (w : List Bytes) : Bytes :=
  (s.consumeScalars w).2 ++ (s.consumeScalars w).1.finish.2

/-- The sanitizer goes on with the state it has. -/
theorem remaining_cons (s : ANSISanitizer) (c : Bytes) (w : List Bytes) :
    s.remaining (c :: w) = (s.consumeScalar c).2 ++ (s.consumeScalar c).1.remaining w := by
  simp only [remaining, consumeScalars, List.append_assoc]

/-- A step that shows nothing. -/
theorem remaining_step {s t : ANSISanitizer} {c : Bytes} (h : s.consumeScalar c = (t, []))
    (w : List Bytes) : s.remaining (c :: w) = t.remaining w := by
  rw [remaining_cons, h]
  rfl

/-- Between tokens, or inside a sequence; no carriage return is pending. -/
def inside (state : SanitizerState) : ANSISanitizer := { state := state, pendingCR := false }

theorem inside_consume (state : SanitizerState) (c : Bytes) :
    (inside state).consumeScalar c = (inside state).consumeState c := by
  rw [consumeScalar, if_neg]
  exact fun h => Bool.false_ne_true h.2

/-- Inside a control sequence everything is left out up to its end. -/
theorem remaining_csi (w : List Bytes) :
    (inside .csi).remaining w =
      match csiEnd w with
      | some x => (inside .normal).remaining x.2.2
      | none => [] := by
  induction w with
  | nil => rfl
  | cons c w ih =>
      rw [csiEnd]
      have hstep : (inside .csi).consumeScalar c =
          (inside (if isFinal c then .normal else .csi), []) := by
        rw [inside_consume, consumeState, isFinal]
        dsimp only [inside]
        split <;> rfl
      rw [remaining_step hstep]
      split
      · rfl
      · rw [ih]
        cases csiEnd w <;> rfl

/-- One more scalar in an OSC sequence: whether an odd number of ESC
stands last. -/
def oddAfter (odd : Bool) (c : Bytes) : Bool := decide (c = esc) && !odd

/-- The state after an odd number of ESC, or an even one. -/
def oscState (odd : Bool) : SanitizerState := if odd then .oscEscape else .osc

/-- A bell ends an operating system command. -/
theorem oscStep_bel (odd : Bool) :
    (inside (oscState odd)).consumeScalar bel = (inside (if odd then .osc else .normal), []) := by
  cases odd <;> decide

/-- An escape may end it. -/
theorem oscStep_terminator (odd : Bool) :
    (inside (oscState odd)).consumeScalar esc =
    (inside (if odd then .osc else .oscEscape), []) := by
  cases odd <;> decide

/-- Anything else goes on with it. -/
theorem oscStep_other {odd : Bool} {c : Bytes} (hbel : c ≠ bel)
    (hodd : odd = true → c ≠ backslash) :
    (inside (oscState odd)).consumeScalar c = (inside (oscState (oddAfter odd c)), []) := by
  rw [inside_consume]
  cases odd with
  | false =>
      rw [oscState, if_neg Bool.false_ne_true, consumeState, inside]
      dsimp only
      rw [if_neg (show c ≠ [0x07] from hbel), oddAfter]
      by_cases hesc : c = [0x1B]
      · rw [if_pos hesc, decide_eq_true (show c = esc from hesc)]
        rfl
      · rw [if_neg hesc, decide_eq_false (show ¬ c = esc from hesc)]
        rfl
  | true =>
      rw [oscState, if_pos rfl, consumeState, inside]
      dsimp only
      rw [if_neg (show c ≠ [0x5C] from hodd rfl), oddAfter, Bool.not_true, Bool.and_false]
      rfl

/-- The machine leaves an OSC sequence at its terminator iff an even
number of ESC stands before. -/
theorem remaining_osc (w : List Bytes) (odd : Bool) (h : odd = true → w.head? ≠ some backslash) :
    (inside (oscState odd)).remaining w =
      match oscEnd w with
      | some x => (inside (if x.1.foldl oddAfter odd then .osc else .normal)).remaining x.2.2
      | none => [] := by
  induction w generalizing odd with
  | nil => cases odd <;> rfl
  | cons c w ih =>
      rw [oscEnd]
      by_cases hbel : c = bel
      · rw [if_pos hbel, hbel, remaining_step (oscStep_bel odd)]
        rfl
      · rw [if_neg hbel]
        by_cases hterminator : c = esc ∧ w.head? = some backslash
        · rw [if_pos hterminator]
          obtain ⟨rfl, hhead⟩ := hterminator
          cases w with
          | nil => cases hhead
          | cons d w =>
              obtain rfl := Option.some.inj hhead
              rw [remaining_step (oscStep_terminator odd)]
              cases odd with
              | false => exact remaining_step rfl w
              | true => exact remaining_step rfl w
        · have hbackslash : odd = true → c ≠ backslash := fun hodd heq =>
            h hodd (congrArg some heq)
          rw [if_neg hterminator, remaining_step (oscStep_other hbel hbackslash), ih]
          · cases oscEnd w <;> rfl
          · intro hodd hhead
            rw [oddAfter, Bool.and_eq_true, decide_eq_true_eq] at hodd
            exact hterminator ⟨hodd.1, hhead⟩

/-- A pending carriage return is a line end, with the line feed after it. -/
theorem remaining_pending (w : List Bytes) :
    ({ state := .normal, pendingCR := true } : ANSISanitizer).remaining w =
      lineFeed ++ (inside .normal).remaining (if w.head? = some lineFeed then w.tail else w) := by
  cases w with
  | nil => rfl
  | cons c w =>
      rw [List.head?_cons, List.tail_cons, remaining_cons, consumeScalar, if_pos ⟨rfl, rfl⟩]
      by_cases hfeed : c = lineFeed
      · subst hfeed
        rfl
      · rw [if_neg (show c ≠ [0x0A] from hfeed), if_neg fun h => hfeed (Option.some.inj h),
          remaining_cons, inside_consume]
        rfl

/-! ## What the machine makes of a token -/

/-- The ESCs at the end of a list of scalars. -/
def escapesAtEnd (text : List Bytes) : Nat := (text.reverse.takeWhile fun c => c == esc).length

/-- No ESC directly before the terminator of an OSC sequence, or an even
number. -/
def Token.Clean : Token → Prop
  | osc text _ => escapesAtEnd text % 2 = 0
  | _ => True

instance : DecidablePred Token.Clean
  | .osc text _ => inferInstanceAs (Decidable (escapesAtEnd text % 2 = 0))
  | .csi _ _ | .pair _ | .unfinished _ | .lineEnd _ | .control _ | .shown _ =>
      inferInstanceAs (Decidable True)

/-- Where the machine is behind a token. -/
def Token.behind : Token → SanitizerState
  | osc text _ => if escapesAtEnd text % 2 = 0 then .normal else .osc
  | _ => .normal

theorem Token.behind_clean {token : Token} (h : token.Clean) : token.behind = .normal := by
  cases token with
  | osc text terminator => exact if_pos h
  | _ => rfl

/-- The state counts the escapes at the end. -/
theorem foldl_oddAfter (text : List Bytes) :
    text.foldl oddAfter false = decide (escapesAtEnd text % 2 = 1) := by
  induction text using List.reverseRecOn with
  | nil => rfl
  | append_singleton text c ih =>
      have hend : escapesAtEnd (text ++ [c]) = if c == esc then escapesAtEnd text + 1 else 0 := by
        rw [escapesAtEnd, List.reverse_append, List.reverse_singleton, List.singleton_append,
          List.takeWhile_cons]
        split <;> rfl
      rw [List.foldl_append, List.foldl_cons, List.foldl_nil, ih, oddAfter, hend]
      by_cases hesc : c = esc
      · rw [if_pos (beq_iff_eq.mpr hesc), decide_eq_true hesc, Bool.true_and]
        rcases Nat.mod_two_eq_zero_or_one (escapesAtEnd text) with h | h
        · rw [h, Nat.add_mod, h]
          rfl
        · rw [h, Nat.add_mod, h]
          rfl
      · rw [if_neg (mt beq_iff_eq.mp hesc), decide_eq_false hesc]
        rfl

theorem remaining_escape (w : List Bytes) :
    (inside .normal).remaining (esc :: w) = (inside .escape).remaining w :=
  remaining_step rfl w

/-- Outside of sequences controls are left out, and the rest is shown. -/
theorem consume_normal {c : Bytes} (hesc : c ≠ esc) (hreturn : c ≠ carriageReturn) :
    (inside .normal).consumeScalar c =
      (inside .normal, if isControl c ∧ c ≠ tab ∧ c ≠ lineFeed then [] else c) := by
  have hamong : among (fun b => b < 0x20 && b != 0x09 && b != 0x0A && b != 0x0D) c = true ↔
      isControl c = true ∧ c ≠ tab ∧ c ≠ lineFeed := by
    unfold isControl among
    split
    · next b =>
        have hb : b ≠ 0x0D := fun h => hreturn (congrArg (fun x => [x]) h)
        simp [tab, lineFeed, hb, and_assoc]
    · simp
  rw [inside_consume, consumeState, inside]
  dsimp only
  rw [if_neg (show c ≠ [0x1B] from hesc)]
  by_cases hcontrol : isControl c = true ∧ c ≠ tab ∧ c ≠ lineFeed
  · rw [if_pos (hamong.mpr hcontrol), if_pos hcontrol]
  · rw [if_neg (mt hamong.mp hcontrol), if_neg (show c ≠ [0x0D] from hreturn), if_neg hcontrol]

/-- **The machine and a token.** It shows what the token shows and is
behind it, except that after an OSC sequence that is not clean it is
still inside. -/
theorem remaining_token (c : Bytes) (rest : List Bytes) :
    (inside .normal).remaining (c :: rest) =
      (nextToken c rest).1.shows ++
        (inside (nextToken c rest).1.behind).remaining (nextToken c rest).2 := by
  unfold nextToken
  by_cases hesc : c = esc
  · rw [if_pos hesc, hesc, remaining_escape]
    cases rest with
    | nil => rfl
    | cons d more =>
        dsimp only
        by_cases hcsi : d = [0x5B]
        · have hopen : (inside .escape).consumeScalar d = (inside .csi, []) := by
            rw [hcsi]
            rfl
          rw [if_pos hcsi, remaining_step hopen, remaining_csi]
          cases csiEnd more <;> rfl
        · rw [if_neg hcsi]
          by_cases hosc : d = [0x5D]
          · have hopen : (inside .escape).consumeScalar d = (inside (oscState false), []) := by
              rw [hosc]
              rfl
            rw [if_pos hosc, remaining_step hopen,
              remaining_osc more false fun h => absurd h Bool.false_ne_true]
            cases oscEnd more with
            | none => rfl
            | some x =>
                have hshows : (Token.osc x.1 x.2.1).shows = [] := rfl
                dsimp only
                rw [foldl_oddAfter, hshows, List.nil_append, Token.behind]
                rcases Nat.mod_two_eq_zero_or_one (escapesAtEnd x.1) with h | h
                · rw [h]
                  rfl
                · rw [h]
                  rfl
          · have hpair : (inside .escape).consumeScalar d = (inside .normal, []) := by
              rw [inside_consume, consumeState, inside]
              dsimp only
              rw [if_neg hcsi, if_neg hosc]
              rfl
            rw [if_neg hosc, remaining_step hpair]
            rfl
  · rw [if_neg hesc]
    by_cases hreturn : c = carriageReturn
    · have hpending : (inside .normal).consumeScalar c =
          ({ state := .normal, pendingCR := true }, []) := by
        rw [hreturn]
        rfl
      rw [if_pos hreturn, remaining_step hpending, remaining_pending]
      split <;> rfl
    · rw [if_neg hreturn, remaining_cons, consume_normal hesc hreturn]
      split <;> rfl

/-- The tokens of a list of scalars are clean. -/
def CleanScalars (w : List Bytes) : Prop := ∀ token ∈ tokens w, token.Clean

/-- The machine and the grammar agree. -/
def Agrees (w : List Bytes) : Prop := (inside .normal).remaining w = reference w

/-- A list of scalars starts with a token. -/
def Starts (w : List Bytes) (t : Token) (after : List Bytes) : Prop :=
  ∃ c rest, w = c :: rest ∧ nextToken c rest = (t, after)

/-- A text starts with its first token. -/
theorem starts_nextToken (c : Bytes) (rest : List Bytes) :
    Starts (c :: rest) (nextToken c rest).1 (nextToken c rest).2 :=
  ⟨c, rest, rfl, rfl⟩

section

variable {w after : List Bytes} {t : Token}

theorem Starts.text (h : Starts w t after) : w = t.text ++ after := by
  obtain ⟨c, rest, rfl, h⟩ := h
  have htext := nextToken_text c rest
  rwa [h] at htext

theorem Starts.reference_eq (h : Starts w t after) : reference w = t.shows ++ reference after := by
  obtain ⟨c, rest, rfl, h⟩ := h
  rw [reference_cons, h]

theorem Starts.remaining_eq (h : Starts w t after) :
    (inside .normal).remaining w = t.shows ++ (inside t.behind).remaining after := by
  obtain ⟨c, rest, rfl, h⟩ := h
  rw [remaining_token, h]

/-- A text is clean if its tokens are. -/
theorem Starts.cleanScalars_iff (h : Starts w t after) :
    CleanScalars w ↔ t.Clean ∧ CleanScalars after := by
  obtain ⟨c, rest, rfl, h⟩ := h
  rw [CleanScalars, tokens_cons, List.forall_mem_cons, h, CleanScalars]

/-- Behind a clean token the machine and the grammar agree as before it. -/
theorem Starts.agrees_iff (h : Starts w t after) (hclean : t.Clean) :
    Agrees w ↔ Agrees after := by
  rw [Agrees, h.remaining_eq, Token.behind_clean hclean, h.reference_eq, Agrees,
    List.append_cancel_left_eq]

end

@[simp] theorem cleanScalars_nil : CleanScalars [] := by
  intro token htoken
  rw [tokens_nil] at htoken
  exact absurd htoken List.not_mem_nil

/-- **Clean input comes out as the grammar has it.** -/
theorem agrees_of_clean (w : List Bytes) (h : CleanScalars w) : Agrees w := by
  induction w using tokens.induct with
  | case1 =>
      rw [Agrees, reference, tokens_nil]
      rfl
  | case2 c rest ih =>
      have hstarts := starts_nextToken c rest
      obtain ⟨hclean, hrest⟩ := hstarts.cleanScalars_iff.mp h
      exact (hstarts.agrees_iff hclean).mpr (ih hrest)

/-! ## A token and other scalars after it -/

/-- What follows a sequence does not change where it ends. -/
theorem csiEnd_stable {w : List Bytes} {x : List Bytes × Bytes × List Bytes}
    (h : csiEnd w = some x) (u : List Bytes) :
    csiEnd (x.1 ++ x.2.1 :: u) = some (x.1, x.2.1, u) := by
  induction w generalizing x with
  | nil => cases h
  | cons c rest ih =>
      rw [csiEnd] at h
      split at h
      · next hfinal =>
          obtain rfl := Option.some.inj h
          rw [List.nil_append, csiEnd, if_pos hfinal]
      · next hfinal =>
          obtain ⟨y, hy, rfl⟩ := Option.map_eq_some_iff.mp h
          rw [List.cons_append, csiEnd, if_neg hfinal, ih hy]
          rfl

/-- A command ends with a bell or with a terminator. -/
theorem oscEnd_terminator {w : List Bytes} {x : List Bytes × List Bytes × List Bytes}
    (h : oscEnd w = some x) : x.2.1 = [bel] ∨ x.2.1 = [esc, backslash] := by
  induction w generalizing x with
  | nil => cases h
  | cons c rest ih =>
      rw [oscEnd] at h
      split at h
      · obtain rfl := Option.some.inj h
        exact .inl rfl
      · split at h
        · obtain rfl := Option.some.inj h
          exact .inr rfl
        · obtain ⟨y, hy, rfl⟩ := Option.map_eq_some_iff.mp h
          have hend := ih hy
          exact hend

/-- The scalar that starts the rest of an OSC sequence does not depend on
what comes behind the terminator. -/
theorem oscEnd_head {w : List Bytes} {x : List Bytes × List Bytes × List Bytes}
    (h : oscEnd w = some x) (u : List Bytes) : (x.1 ++ (x.2.1 ++ u)).head? = w.head? := by
  rw [oscEnd_eq h]
  rcases oscEnd_terminator h with hterminator | hterminator
  · rw [hterminator]
    cases x.1 <;> rfl
  · rw [hterminator]
    cases x.1 <;> rfl

/-- What follows does not change it. -/
theorem oscEnd_stable {w : List Bytes} {x : List Bytes × List Bytes × List Bytes}
    (h : oscEnd w = some x) (u : List Bytes) :
    oscEnd (x.1 ++ (x.2.1 ++ u)) = some (x.1, x.2.1, u) := by
  induction w generalizing x with
  | nil => cases h
  | cons c rest ih =>
      rw [oscEnd] at h
      split at h
      · obtain rfl := Option.some.inj h
        rfl
      · next hbel =>
          split at h
          · obtain rfl := Option.some.inj h
            rfl
          · next hterminator =>
              obtain ⟨y, hy, rfl⟩ := Option.map_eq_some_iff.mp h
              dsimp only
              rw [List.cons_append, oscEnd, if_neg hbel, oscEnd_head hy, if_neg hterminator, ih hy]
              rfl

/-- The sequence ends. -/
def Token.Finished (t : Token) : Prop := ∀ text, t ≠ .unfinished text

/-- The line end is not a carriage return that a line feed would join. -/
def Joins (t : Token) (u : List Bytes) : Prop :=
  t = .lineEnd [carriageReturn] ∧ u.head? = some lineFeed

theorem Starts.not_joins {w after : List Bytes} {t : Token} (h : Starts w t after) :
    ¬ Joins t after := by
  rintro ⟨rfl, hfeed⟩
  obtain ⟨c, rest, -, h⟩ := h
  unfold nextToken at h
  split at h
  · split at h
    · cases h
    · split at h
      · split at h <;> cases h
      · split at h
        · split at h <;> cases h
        · cases h
  · split at h
    · split at h
      · injection h with h
        cases h
      · next hhead =>
          injection h with _ h
          exact hhead (h ▸ hfeed)
    · split at h <;> cases h

/-- **A token is cut off whatever comes after it.** -/
theorem Starts.stable {w after : List Bytes} {t : Token} (h : Starts w t after)
    (hfinished : t.Finished) {u : List Bytes} (hjoins : ¬ Joins t u) :
    Starts (t.text ++ u) t u := by
  obtain ⟨c, rest, rfl, h⟩ := h
  unfold nextToken at h
  split at h
  · next hesc =>
      subst hesc
      cases rest with
      | nil =>
          obtain ⟨rfl, -⟩ := Prod.mk.inj h
          exact absurd rfl (hfinished [])
      | cons d more =>
          dsimp only at h
          split at h
          · next hd =>
              subst hd
              split at h
              · next parameters final rest hcsi =>
                  obtain ⟨rfl, -⟩ := Prod.mk.inj h
                  refine ⟨esc, [0x5B] :: (parameters ++ final :: u), by simp [Token.text], ?_⟩
                  simp only [nextToken, if_pos, csiEnd_stable hcsi u]
              · obtain ⟨rfl, -⟩ := Prod.mk.inj h
                exact absurd rfl (hfinished _)
          · next hcsi =>
              split at h
              · next hd =>
                  subst hd
                  split at h
                  · next text terminator rest hosc =>
                      obtain ⟨rfl, -⟩ := Prod.mk.inj h
                      refine ⟨esc, [0x5D] :: (text ++ (terminator ++ u)), by simp [Token.text], ?_⟩
                      simp only [nextToken, if_pos, if_neg hcsi, oscEnd_stable hosc u]
                  · obtain ⟨rfl, -⟩ := Prod.mk.inj h
                    exact absurd rfl (hfinished _)
              · next hosc =>
                  obtain ⟨rfl, -⟩ := Prod.mk.inj h
                  refine ⟨esc, d :: u, rfl, ?_⟩
                  simp only [nextToken, if_pos, if_neg hcsi, if_neg hosc]
  · next hesc =>
      split at h
      · next hreturn =>
          subst hreturn
          split at h
          · obtain ⟨rfl, -⟩ := Prod.mk.inj h
            exact ⟨carriageReturn, lineFeed :: u, rfl, rfl⟩
          · obtain ⟨rfl, -⟩ := Prod.mk.inj h
            refine ⟨carriageReturn, u, rfl, ?_⟩
            simp only [nextToken, if_neg hesc, if_pos, if_neg fun hfeed => hjoins ⟨rfl, hfeed⟩]
      · next hreturn =>
          split at h
          · next hcontrol =>
              obtain ⟨rfl, -⟩ := Prod.mk.inj h
              refine ⟨c, u, rfl, ?_⟩
              simp only [nextToken, if_neg hesc, if_neg hreturn, if_pos hcontrol]
          · next hcontrol =>
              obtain ⟨rfl, -⟩ := Prod.mk.inj h
              refine ⟨c, u, rfl, ?_⟩
              simp only [nextToken, if_neg hesc, if_neg hreturn, if_neg hcontrol]

/-! ## The beginnings of clean input -/

/-- A token that is not finished is the last one. -/
theorem Starts.unfinished {w after text : List Bytes} (h : Starts w (.unfinished text) after) :
    after = [] := by
  obtain ⟨c, rest, -, h⟩ := h
  unfold nextToken at h
  split at h
  · split at h
    · exact (Prod.mk.inj h).2.symm
    · split at h
      · split at h
        · cases h
        · exact (Prod.mk.inj h).2.symm
      · split at h
        · split at h
          · cases h
          · exact (Prod.mk.inj h).2.symm
        · cases h
  · split at h
    · split at h <;> cases h
    · split at h <;> cases h

/-- A token that ends is cut off with nothing after it as well. -/
theorem Starts.of_append {w after : List Bytes} {t : Token} (h : Starts w t after)
    (hfinished : t.Finished) (u : List Bytes) (hafter : after ≠ []) :
    Starts (w ++ u) t (after ++ u) := by
  rw [h.text, List.append_assoc]
  refine h.stable hfinished fun hjoins => h.not_joins ⟨hjoins.1, ?_⟩
  rw [← hjoins.2, List.head?_append_of_ne_nil _ hafter]

theorem Token.finished_or (t : Token) : t.Finished ∨ ∃ text, t = .unfinished text := by
  by_cases h : ∃ text, t = .unfinished text
  · exact .inr h
  · exact .inl fun text heq => h ⟨text, heq⟩

/-- A beginning of clean input is clean. -/
theorem CleanScalars.of_append {w : List Bytes} (u : List Bytes) (h : CleanScalars (w ++ u)) :
    CleanScalars w := by
  induction w using tokens.induct with
  | case1 => exact cleanScalars_nil
  | case2 c rest ih =>
      have hstarts := starts_nextToken c rest
      generalize nextToken c rest = x at ih hstarts
      obtain ⟨t, after⟩ := x
      dsimp only at ih hstarts
      rw [hstarts.cleanScalars_iff]
      rcases t.finished_or with hfinished | ⟨text, rfl⟩
      · by_cases hafter : after = []
        · refine ⟨?_, hafter ▸ cleanScalars_nil⟩
          by_cases hjoins : Joins t (after ++ u)
          · rw [hjoins.1]
            exact trivial
          · have hwhole := hstarts.stable hfinished hjoins
            rw [← List.append_assoc, ← hstarts.text] at hwhole
            exact (hwhole.cleanScalars_iff.mp h).1
        · obtain ⟨hclean, hrest⟩ :=
            (hstarts.of_append hfinished u hafter).cleanScalars_iff.mp h
          exact ⟨hclean, ih hrest⟩
      · rw [hstarts.unfinished]
        exact ⟨trivial, cleanScalars_nil⟩

/-- The letter x. -/
def letter : Bytes := [0x78]

/-- A letter finishes any sequence. -/
theorem csiEnd_letter {w : List Bytes} (h : csiEnd w = none) :
    csiEnd (w ++ [letter]) = some (w, letter, []) := by
  induction w with
  | nil => rfl
  | cons c w ih =>
      rw [csiEnd] at h
      split at h
      · cases h
      · next hfinal =>
          rw [Option.map_eq_none_iff] at h
          rw [List.cons_append, csiEnd, if_neg hfinal, ih h]
          rfl

theorem oscEnd_letter {w : List Bytes} (h : oscEnd w = none) : oscEnd (w ++ [letter]) = none := by
  induction w with
  | nil => rfl
  | cons c w ih =>
      rw [oscEnd] at h
      split at h
      · cases h
      · next hbel =>
          split at h
          · cases h
          · next hterminator =>
              rw [Option.map_eq_none_iff] at h
              have hhead : ¬ (c = esc ∧ (w ++ [letter]).head? = some backslash) := by
                rintro ⟨hesc, hhead⟩
                cases w with
                | nil => exact absurd (Option.some.inj hhead) (by decide)
                | cons d w => exact hterminator ⟨hesc, hhead⟩
              rw [List.cons_append, oscEnd, if_neg hbel, if_neg hhead, ih h]
              rfl

/-- A letter goes into a sequence that has not ended, or is shown. -/
theorem Starts.cleanScalars_letter {w after text : List Bytes}
    (h : Starts w (.unfinished text) after) :
    CleanScalars (w ++ [letter]) := by
  have hafter := h.unfinished
  obtain ⟨c, rest, rfl, h⟩ := h
  rw [List.cons_append, (starts_nextToken c (rest ++ [letter])).cleanScalars_iff]
  unfold nextToken at h
  split at h
  · next hesc =>
      subst hesc
      cases rest with
      | nil => exact ⟨trivial, cleanScalars_nil⟩
      | cons d more =>
          dsimp only at h
          split at h
          · next hd =>
              subst hd
              split at h
              · cases h
              · next hcsi =>
                  simp only [nextToken, if_pos, List.cons_append, csiEnd_letter hcsi]
                  exact ⟨trivial, cleanScalars_nil⟩
          · next hcsi =>
              split at h
              · next hd =>
                  subst hd
                  split at h
                  · cases h
                  · next hosc =>
                      simp only [nextToken, if_pos, if_neg hcsi, List.cons_append,
                        oscEnd_letter hosc]
                      exact ⟨trivial, cleanScalars_nil⟩
              · cases h
  · split at h
    · split at h <;> cases h
    · split at h <;> cases h

theorem not_joins_letter (t : Token) : ¬ Joins t [letter] :=
  fun hjoins => absurd (Option.some.inj hjoins.2) (by decide)

theorem CleanScalars.append_letter {w : List Bytes} (h : CleanScalars w) :
    CleanScalars (w ++ [letter]) := by
  induction w using tokens.induct with
  | case1 => exact (starts_nextToken letter []).cleanScalars_iff.mpr ⟨trivial, cleanScalars_nil⟩
  | case2 c rest ih =>
      have hstarts := starts_nextToken c rest
      generalize nextToken c rest = x at ih hstarts
      obtain ⟨t, after⟩ := x
      dsimp only at ih hstarts
      obtain ⟨hclean, hrest⟩ := hstarts.cleanScalars_iff.mp h
      rcases t.finished_or with hfinished | ⟨text, rfl⟩
      · have hjoins : ¬ Joins t (after ++ [letter]) := by
          cases after with
          | nil => exact not_joins_letter t
          | cons d after => exact hstarts.not_joins
        have hwhole := hstarts.stable hfinished hjoins
        rw [hstarts.text, List.append_assoc]
        exact hwhole.cleanScalars_iff.mpr ⟨hclean, ih hrest⟩
      · exact hstarts.cleanScalars_letter

/-- **Behind a token that is not clean the letter is lost.** -/
theorem Starts.not_agrees {w after : List Bytes} {t : Token} (h : Starts w t after)
    (hclean : ¬ t.Clean) : ¬ Agrees (t.text ++ [letter]) := by
  intro hagrees
  have hfinished : t.Finished := by
    rintro text rfl
    exact hclean trivial
  have hstarts := h.stable hfinished (not_joins_letter t)
  have hbehind : t.behind = .osc := by
    cases t with
    | osc text terminator => exact if_neg hclean
    | _ => exact absurd trivial hclean
  rw [Agrees, hstarts.remaining_eq, hbehind, hstarts.reference_eq,
    List.append_cancel_left_eq] at hagrees
  have hletter : reference [letter] = letter := by
    rw [(starts_nextToken letter []).reference_eq]
    simp [reference, nextToken, letter, Token.shows, esc, carriageReturn, isControl,
      among]
  rw [hletter] at hagrees
  exact absurd hagrees (by decide)

/-- **The machine and the grammar agree on every beginning of an input,
also with a letter after it, iff the input is clean.** -/
theorem cleanScalars_iff (w : List Bytes) :
    CleanScalars w ↔ ∀ p, p <+: w → Agrees p ∧ Agrees (p ++ [letter]) := by
  constructor
  · rintro h p ⟨u, rfl⟩
    have hp := h.of_append u
    exact ⟨agrees_of_clean p hp, agrees_of_clean _ hp.append_letter⟩
  · intro h
    induction w using tokens.induct with
    | case1 => exact cleanScalars_nil
    | case2 c rest ih =>
        have hstarts := starts_nextToken c rest
        generalize nextToken c rest = x at ih hstarts
        obtain ⟨t, after⟩ := x
        dsimp only at ih hstarts
        rw [hstarts.cleanScalars_iff]
        have hclean : t.Clean := by
          by_contra hclean
          exact hstarts.not_agrees hclean (h t.text ⟨after, hstarts.text.symm⟩).2
        refine ⟨hclean, ?_⟩
        rcases t.finished_or with hfinished | ⟨text, rfl⟩
        · refine ih fun p hp => ?_
          obtain ⟨u, rfl⟩ := hp
          have hbegin : t.text ++ p <+: c :: rest :=
            ⟨u, by rw [List.append_assoc]; exact hstarts.text.symm⟩
          obtain ⟨hfirst, hsecond⟩ := h _ hbegin
          have hjoins : ¬ Joins t p := by
            cases p with
            | nil => exact fun hjoins => nomatch hjoins.2
            | cons d p => exact hstarts.not_joins
          have hletter : ¬ Joins t (p ++ [letter]) := by
            cases p with
            | nil => exact not_joins_letter t
            | cons d p => exact hstarts.not_joins
          rw [List.append_assoc] at hsecond
          exact ⟨((hstarts.stable hfinished hjoins).agrees_iff hclean).mp hfirst,
            ((hstarts.stable hfinished hletter).agrees_iff hclean).mp hsecond⟩
        · rw [hstarts.unfinished]
          exact cleanScalars_nil

/-! ## Strings and calls -/

theorem append_isValid (s t : SwiftString) : Utf8.valid (s.1 ++ t.1) = true :=
  (Utf8.valid_append s.2 t.1).trans t.2

/-- One string after another. -/
def joined (s t : SwiftString) : SwiftString := ⟨s.1 ++ t.1, append_isValid s t⟩

theorem letter_isValid : Utf8.valid letter = true := by decide

def letterString : SwiftString := ⟨letter, letter_isValid⟩

/-- The Unicode scalars of a string. -/
def scalars (s : SwiftString) : List Bytes := (Utf8.pieces s.1).map Utf8.Piece.bytes

/-- The output of a `consume` call for each string and of `finish` after
them. -/
def outputs (s : ANSISanitizer) : List SwiftString → Bytes
  | [] => s.finish.2
  | part :: parts => (s.consume part.1).2 ++ outputs (s.consume part.1).1 parts

/-- The strings of some calls as one. -/
def together (parts : List SwiftString) : Bytes := parts.flatMap fun part => part.1

/-- However a string is split into calls, its tokens come out. -/
def Implements (w : SwiftString) : Prop :=
  ∀ parts : List SwiftString, together parts = w.1 → outputs {} parts = reference (scalars w)

/-- No OSC sequence of the string has an odd number of ESC directly
before its terminator. -/
def Clean (w : SwiftString) : Prop := CleanScalars (scalars w)

/-- Two texts after one another. -/
theorem remaining_append (s : ANSISanitizer) (v w : List Bytes) :
    s.remaining (v ++ w) = (s.consumeScalars v).2 ++ (s.consumeScalars v).1.remaining w := by
  induction v generalizing s with
  | nil => rfl
  | cons c v ih =>
      rw [List.cons_append, remaining_cons, ih, ← List.append_assoc]
      rfl

theorem outputs_eq (s : ANSISanitizer) (parts : List SwiftString) :
    outputs s parts = s.remaining (parts.flatMap scalars) := by
  induction parts generalizing s with
  | nil => rfl
  | cons part parts ih =>
      rw [outputs, ih, List.flatMap_cons, remaining_append]
      rfl

theorem scalars_joined (s t : SwiftString) : scalars (joined s t) = scalars s ++ scalars t := by
  rw [scalars, joined, Utf8.pieces_append_valid s.2, List.map_append]
  rfl

theorem together_valid (parts : List SwiftString) : Utf8.valid (together parts) = true := by
  induction parts with
  | nil => rfl
  | cons part parts ih =>
      rw [together, List.flatMap_cons, Utf8.valid_append part.2]
      exact ih

/-- The strings of some calls are one string. -/
def whole (parts : List SwiftString) : SwiftString := ⟨together parts, together_valid parts⟩

theorem flatMap_scalars (parts : List SwiftString) :
    parts.flatMap scalars = scalars (whole parts) := by
  induction parts with
  | nil => rfl
  | cons part parts ih =>
      rw [List.flatMap_cons, ih, ← scalars_joined]
      rfl

theorem flatMap_scalars_eq {parts : List SwiftString} {w : SwiftString}
    (h : together parts = w.1) : parts.flatMap scalars = scalars w := by
  have hwhole : whole parts = w := Subtype.ext h
  rw [flatMap_scalars, hwhole]

/-- For a text, the sanitizer is right exactly if both readings agree. -/
theorem implements_iff (w : SwiftString) : Implements w ↔ Agrees (scalars w) := by
  constructor
  · intro h
    have hone : together [w] = w.1 := List.append_nil w.1
    have hwhole := h [w] hone
    rwa [outputs_eq, flatMap_scalars_eq hone] at hwhole
  · intro h parts hparts
    rw [outputs_eq, flatMap_scalars_eq hparts]
    exact h

/-- The scalars of a string are runes. -/
theorem scalars_isRune (w : SwiftString) : ∀ c ∈ scalars w, Utf8.IsRune c := by
  intro c hc
  obtain ⟨piece, hpiece, rfl⟩ := List.mem_map.mp hc
  have hchar := List.all_eq_true.mp w.2 piece hpiece
  cases piece with
  | char c => exact Utf8.pieces_isRune hpiece
  | bad b => cases hchar

theorem pieces_flatten {p : List Bytes} (h : ∀ c ∈ p, Utf8.IsRune c) :
    Utf8.pieces p.flatten = p.map Utf8.Piece.char := by
  induction p with
  | nil => rfl
  | cons c p ih =>
      rw [List.flatten_cons, Utf8.pieces_char (h c List.mem_cons_self),
        ih fun d hd => h d (List.mem_cons_of_mem c hd), List.map_cons]

/-- A beginning of the scalars is the scalars of a beginning. -/
theorem exists_beginning {w : SwiftString} {p : List Bytes} (h : p <+: scalars w) :
    ∃ v : SwiftString, v.1 <+: w.1 ∧ scalars v = p := by
  obtain ⟨u, hu⟩ := h
  have hrunes : ∀ c ∈ p, Utf8.IsRune c := fun c hc =>
    scalars_isRune w c (hu ▸ List.mem_append_left u hc)
  have hvalid : Utf8.valid p.flatten = true :=
    Utf8.valid_flatten fun c hc => (hrunes c hc).valid
  refine ⟨⟨p.flatten, hvalid⟩, ⟨u.flatten, ?_⟩, ?_⟩
  · rw [← List.flatten_append, hu, scalars, ← List.flatMap_def, Utf8.pieces_bytes]
  · show (Utf8.pieces p.flatten).map Utf8.Piece.bytes = p
    rw [pieces_flatten hrunes, List.map_map]
    exact List.map_id p

/-- A beginning of a text is a beginning of its characters. -/
theorem scalars_beginning {v w : SwiftString} (h : v.1 <+: w.1) : scalars v <+: scalars w := by
  obtain ⟨u, hu⟩ := h
  refine ⟨(Utf8.pieces u).map Utf8.Piece.bytes, ?_⟩
  rw [scalars, scalars, ← hu, Utf8.pieces_append_valid v.2, List.map_append]

/-- **The sanitizer implements its grammar on an input, that is on every
beginning of it, and none of them swallows a letter that comes after it,
iff no OSC sequence of the input has an odd number of ESC directly before
its terminator.** -/
theorem implements_iff_clean (w : SwiftString) :
    (∀ p : SwiftString, p.1 <+: w.1 → Implements p ∧ Implements (joined p letterString)) ↔
      Clean w := by
  rw [Clean, cleanScalars_iff]
  constructor
  · intro h p hp
    obtain ⟨v, hv, rfl⟩ := exists_beginning hp
    obtain ⟨hfirst, hsecond⟩ := h v hv
    rw [implements_iff] at hfirst hsecond
    rw [scalars_joined] at hsecond
    exact ⟨hfirst, hsecond⟩
  · intro h p hp
    rw [implements_iff, implements_iff, scalars_joined]
    exact h _ (scalars_beginning hp)

/-- ESC ] ESC BEL x. -/
theorem swallowed_isValid : Utf8.valid [0x1B, 0x5D, 0x1B, 0x07, 0x78] = true := by decide

/-- An ESC before the terminator and the x behind it is gone. -/
theorem swallowed_not_implements : ¬ Implements ⟨_, swallowed_isValid⟩ := by
  intro h
  have hstarts : Starts [esc, [0x5D], esc, bel, letter] (.osc [esc] [bel]) [letter] :=
    ⟨esc, [[0x5D], esc, bel, letter], rfl, by decide⟩
  have hletter : Starts [letter] (.shown letter) [] := ⟨letter, [], rfl, by decide⟩
  have hscalars : scalars ⟨_, swallowed_isValid⟩ = [esc, [0x5D], esc, bel, letter] := by decide
  have houtput := h [⟨_, swallowed_isValid⟩] rfl
  rw [hscalars, hstarts.reference_eq, hletter.reference_eq] at houtput
  have hlength := congrArg List.length houtput
  rw [List.length_append, List.length_append] at hlength
  have hnone : (outputs {} [⟨_, swallowed_isValid⟩]).length = 0 := by decide
  rw [hnone] at hlength
  have hone : (Token.shown letter).shows.length = 1 := rfl
  omega

end ANSISanitizer

end Bootmux.Iphone

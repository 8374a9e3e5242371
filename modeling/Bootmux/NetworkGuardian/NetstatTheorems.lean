/-
Bootmux.NetworkGuardian.NetstatTheorems — what `SystemHost.routes` reads of
the routing table that `netstat` prints.

A table is its rows; `netstatOutput` prints them in columns under the
titles of macOS. A row is kept if its destination is made of digits, dots
and slashes, so the rows written `default` are lost and no other.

The words of a row hold no space and no line break, which is what the
columns of `netstat` look like; nothing else is asked of them. What the
guardian needs of the table (`SeesRoutes`) is that its rows are the routes,
that a default route of the bridge is planned to be deleted, and that one of
another interface counts as restored.
-/
import Bootmux.NetworkGuardian.SystemHost

namespace Bootmux.NetworkGuardian

open Bootmux.Lib
open Bootmux.Lib.PyText

/-! ## The table -/

/-- How `netstat` writes a destination. -/
inductive Destination where
  | default
  /-- A dotted address or a prefix. -/
  | address (text : List Char) (ne_nil : text ≠ [])
      (chars : ∀ c ∈ text, c.isDigit = true ∨ c = '.' ∨ c = '/')

def Destination.isDefault : Destination → Bool
  | .default => true
  | .address .. => false

theorem isSpace_of_isDigit {c : Char} (h : c.isDigit = true) : isSpace c = false := by
  simp only [Char.isDigit, Bool.and_eq_true, decide_eq_true_eq] at h
  have hle : 48 ≤ c.toNat := UInt32.le_iff_toNat_le.mp h.1
  have hge : c.toNat ≤ 57 := UInt32.le_iff_toNat_le.mp h.2
  simp only [isSpace, Bool.or_eq_false_iff, Bool.and_eq_false_iff, decide_eq_false_iff_not,
    beq_eq_false_iff_ne]
  omega

theorem isDecimal_of_isDigit {c : Char} (h : c.isDigit = true) : isDecimal c = true := by
  simp only [Char.isDigit, Bool.and_eq_true, decide_eq_true_eq] at h
  have hle : 48 ≤ c.toNat := UInt32.le_iff_toNat_le.mp h.1
  have hge : c.toNat ≤ 57 := UInt32.le_iff_toNat_le.mp h.2
  exact List.any_eq_true.mpr ⟨48, by simp [decimalZeros], by simp; omega⟩

def Destination.word : Destination → Word
  | .default => ⟨"default".toList, by decide, by decide⟩
  | .address text ne_nil chars =>
      ⟨text, ne_nil, fun c hc => by
        rcases chars c hc with h | rfl | rfl
        · exact isSpace_of_isDigit h
        · decide
        · decide⟩

/-- A row, with the width of its columns. -/
structure NetstatRow where
  destination : Destination
  gateway : Word
  flags : Word
  netif : Word
  expire : Option Word
  pad : Fin 4 → Nat

/-- The line of a row. -/
def NetstatRow.print (row : NetstatRow) : List Char :=
  column row.destination.word (row.pad 0) ++ (column row.gateway (row.pad 1) ++
    (column row.flags (row.pad 2) ++ (column row.netif (row.pad 3) ++
      (row.expire.map Word.text).getD [])))

def NetstatRow.route (row : NetstatRow) : Route :=
  { destination := some (String.ofList row.destination.word.text)
    gateway := some (String.ofList row.gateway.text)
    interface := some (String.ofList row.netif.text)
    flags := String.ofList row.flags.text }

def netstatTitles : List (List Char) :=
  ["Routing tables".toList, [], "Internet:".toList,
    "Destination        Gateway            Flags               Netif Expire".toList]

/-- The output of `netstat -rn -f inet`. -/
def netstatOutput (rows : List NetstatRow) : List Char :=
  unlines (netstatTitles ++ rows.map NetstatRow.print)

/-! ## Reading it -/

/-- A row splits into the words it is printed from. -/
theorem split_print (row : NetstatRow) :
    ∃ rest, split row.print =
      row.destination.word.text :: row.gateway.text :: row.flags.text ::
        row.netif.text :: rest := by
  refine ⟨split ((row.expire.map Word.text).getD []), ?_⟩
  rw [NetstatRow.print, split_column, split_column, split_column, split_column]

/-- A row is read as its route, unless it is a default row. -/
theorem parseRoute_print (row : NetstatRow) :
    parseRoute row.print = if row.destination.isDefault then none else some row.route := by
  obtain ⟨rest, hsplit⟩ := split_print row
  unfold parseRoute
  rw [hsplit]
  cases hdest : row.destination with
  | default =>
      have hnone : (destinationPattern.matchAt Destination.default.word.text).isNone = true := by
        decide
      dsimp only
      rw [if_neg (by decide), if_pos hnone]
      rfl
  | address text ne_nil chars =>
      have hrun : ∀ c ∈ text, (isDecimal c || c == '.' || c == '/') = true := by
        intro c hc
        rcases chars c hc with h | rfl | rfl
        · simp [isDecimal_of_isDigit h]
        · rfl
        · rfl
      have hmany := Regex.matchAt_many_all hrun (List.length_pos_iff.mpr ne_nil)
      have hmatch : destinationPattern.matchAt text = some ⟨text ++ [], [], []⟩ :=
        Regex.matchAt_seq hmany Regex.matchAt_stop
      -- No address starts with a letter.
      have htitles : ¬ (text = "Destination".toList ∨ text = "Routing".toList) := by
        rintro (rfl | rfl)
        · exact absurd (chars 'D' (by decide)) (by decide)
        · exact absurd (chars 'R' (by decide)) (by decide)
      have hword : (Destination.address text ne_nil chars).word.text = text := rfl
      dsimp only
      rw [hword, if_neg htitles, hmatch, if_neg (by simp), NetstatRow.route, hdest, hword]
      rfl

/-- The titles are no routes. -/
theorem parseRoute_titles : netstatTitles.filterMap parseRoute = [] := by
  decide

theorem noBreak_netstatOutput (rows : List NetstatRow) :
    ∀ line ∈ netstatTitles ++ rows.map NetstatRow.print, ∀ c ∈ line, isLineBreak c = false := by
  intro line hline
  rcases List.mem_append.mp hline with hline | hline
  · have htitles : ∀ line ∈ netstatTitles, ∀ c ∈ line, isLineBreak c = false := by
      decide
    exact htitles line hline
  · obtain ⟨row, -, rfl⟩ := List.mem_map.mp hline
    simp only [NetstatRow.print, List.forall_mem_append]
    refine ⟨noBreak_column _ _, noBreak_column _ _, noBreak_column _ _, noBreak_column _ _, ?_⟩
    cases row.expire with
    | none => simp
    | some word => exact word.noBreak

/-- The rows are read as their routes, the default ones left out. -/
theorem filterMap_print (rows : List NetstatRow) :
    (rows.map NetstatRow.print).filterMap parseRoute =
      (rows.filter fun row => !row.destination.isDefault).map NetstatRow.route := by
  induction rows with
  | nil => rfl
  | cons row rows ih =>
      rw [List.map_cons, List.filterMap_cons, parseRoute_print, ih]
      cases h : row.destination.isDefault <;> simp [h]

/-- The rows that are not default rows, in their order. -/
theorem parseRoutes_netstatOutput (rows : List NetstatRow) :
    parseRoutes (netstatOutput rows) =
      (rows.filter fun row => !row.destination.isDefault).map NetstatRow.route := by
  rw [parseRoutes, netstatOutput, splitlines_unlines (noBreak_netstatOutput rows),
    List.filterMap_append, parseRoute_titles, filterMap_print, List.nil_append]

/-! ## What the guardian sees -/

section Seen

variable {σ : Type} (sys : System σ) (s : σ)

/-- The routes are the rows of the table, R1 plans for every owned default
row, and `verify` finds every other one. -/
structure SeesRoutes (rows : List NetstatRow) : Prop where
  routes : (systemHost sys).routes s = rows.map NetstatRow.route
  planned : ∀ identity, ∀ row ∈ rows, row.destination.isDefault = true →
    ownedRoute identity.interface row.route = true →
    deleteRoute row.route ∈ planR1Routes (systemHost sys) s identity
  restored : ∀ identity baseline, ∀ row ∈ rows, row.destination.isDefault = true →
    ownedRoute identity.interface row.route = false →
    verify (systemHost sys) s identity baseline .wifiDefaultRouteRestored = true

/-- **The guardian sees the table** of `netstat`, without the default routes.
-/
theorem routes_systemHost (rows : List NetstatRow)
    (hout : output sys s ["netstat", "-rn", "-f", "inet"] = some (netstatOutput rows)) :
    (systemHost sys).routes s =
      (rows.filter fun row => !row.destination.isDefault).map NetstatRow.route := by
  simp [systemHost, hout, parseRoutes_netstatOutput]

/-- **The guardian sees the routing table exactly if the table has no
default row.** -/
theorem routes_seen_iff (rows : List NetstatRow)
    (hout : output sys s ["netstat", "-rn", "-f", "inet"] = some (netstatOutput rows)) :
    SeesRoutes sys s rows ↔ ∀ row ∈ rows, row.destination.isDefault = false := by
  have hroutes := routes_systemHost sys s rows hout
  constructor
  · intro h row hrow
    have hlength := congrArg List.length (hroutes.symm.trans h.routes)
    rw [List.length_map, List.length_map, List.length_filter_eq_length_iff] at hlength
    simpa using hlength row hrow
  · intro h
    have hall : rows.filter (fun row => !row.destination.isDefault) = rows :=
      List.filter_eq_self.mpr fun row hrow => by simp [h row hrow]
    refine ⟨hroutes.trans (by rw [hall]), ?_, ?_⟩
    · intro identity row hrow hdefault
      rw [h row hrow] at hdefault
      cases hdefault
    · intro identity baseline row hrow hdefault
      rw [h row hrow] at hdefault
      cases hdefault

end Seen

/-! ## Two tables -/

/-- A host on which only `netstat` answers. -/
def netstatSystem (rows : List NetstatRow) : System Unit where
  cmd _ argv :=
    if argv = ["netstat", "-rn", "-f", "inet"] then ((), 0, String.ofList (netstatOutput rows))
    else ((), 127, "")
  time _ := 0

theorem output_netstatSystem (rows : List NetstatRow) :
    output (netstatSystem rows) () ["netstat", "-rn", "-f", "inet"] =
      some (netstatOutput rows) := by
  simp [output, netstatSystem]

theorem subnet_ne_nil : "10.77.0/24".toList ≠ [] := by decide

theorem subnet_chars :
    ∀ c ∈ "10.77.0/24".toList, c.isDigit = true ∨ c = '.' ∨ c = '/' := by decide

theorem en7_ne_nil : "en7".toList ≠ [] := by decide

theorem en7_noSpace : ∀ c ∈ "en7".toList, isSpace c = false := by decide

def linkRow : NetstatRow where
  destination := .address "10.77.0/24".toList subnet_ne_nil subnet_chars
  gateway := ⟨"link#7".toList, by decide, by decide⟩
  flags := ⟨"UCS".toList, by decide, by decide⟩
  netif := ⟨"en7".toList, en7_ne_nil, en7_noSpace⟩
  expire := none
  pad _ := 8

def wifiDefaultRow : NetstatRow where
  destination := .default
  gateway := ⟨"192.168.1.1".toList, by decide, by decide⟩
  flags := ⟨"UGScg".toList, by decide, by decide⟩
  netif := ⟨"en0".toList, by decide, by decide⟩
  expire := none
  pad _ := 8

theorem routes_seen_link : SeesRoutes (netstatSystem [linkRow]) () [linkRow] :=
  (routes_seen_iff (netstatSystem [linkRow]) () [linkRow] (output_netstatSystem _)).mpr
    (by simp [linkRow, Destination.isDefault])

/-- The default route of the Wi-Fi is in the table and not seen. -/
theorem default_row_unseen :
    ¬ SeesRoutes (netstatSystem [wifiDefaultRow, linkRow]) () [wifiDefaultRow, linkRow] := by
  intro h
  have hroutes := routes_systemHost _ () _ (output_netstatSystem [wifiDefaultRow, linkRow])
  have hlength := congrArg List.length (hroutes.symm.trans h.routes)
  simp [wifiDefaultRow, linkRow, Destination.isDefault] at hlength

end Bootmux.NetworkGuardian

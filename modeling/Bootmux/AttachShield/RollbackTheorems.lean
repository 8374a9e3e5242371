/-
Bootmux.AttachShield.RollbackTheorems — the rollback of the file is the
rollback of a close (`bootmux-attach-shield.py`).

`_rollback_one` is read three times here: on what the program has recorded
(`rollbackOne`), on any values of a journal (`undoOne`) and on the text of the
file, with the words of the command (`MutationJournal.rollbackOne`). The
second is the first on recorded values (`undoOne_preFields`); this module is
about the third. `Agrees` says that it runs the words of the command of the
second wherever that one does not raise, and has a rule for each step of the
two functions, so that a category is gone through once.

The theorem has one condition, that the first function does not raise. Where
it does, the two still agree in raising, but the text of the error depends
on how far the words of the command had been put together, and the third
keeps that text.
-/
import Bootmux.AttachShield.JournalFileTheorems
import Bootmux.AttachShield.MutationJournalTheorems

namespace Bootmux.AttachShield

open Bootmux.Lib
open Bootmux.Lib.Json (Value intText utf8Text encodeRune decodeRune)
open Bootmux.Lib.PyJson (truthy valueOf asDict asText asTexts)
open Bootmux.SafeFlash (lastOf utf8)

/-! ## Texts -/

/-- The bytes of a text are those of its characters. -/
theorem utf8_eq (s : String) : utf8 s = utf8Text s.toList := by
  have hencode : (fun c : Char => encodeRune c.toNat) = String.utf8EncodeChar :=
    funext Json.encodeRune_toNat
  obtain ⟨chars, rfl⟩ := s.exists_eq_ofList
  rw [utf8, utf8Text, hencode, String.toUTF8_eq_toByteArray, String.toByteArray_ofList,
    String.toList_ofList, List.utf8Encode, List.data_toByteArray]

theorem textOf_utf8Text (text : List Char) : textOf (utf8Text text) = text := by
  induction text with
  | nil => rfl
  | cons c text ih =>
      have hscalar := Json.isScalar_toNat c
      rw [textOf, utf8Text, List.flatMap_cons,
        Utf8.pieces_char (Json.isRune_encodeRune hscalar), List.map_cons]
      have hc : Char.ofNat (decodeRune (Utf8.Piece.char (encodeRune c.toNat)).sanitized) = c := by
        show Char.ofNat (decodeRune (encodeRune c.toNat)) = c
        rw [Json.decode_encodeRune hscalar, Char.ofNat_toNat]
      rw [hc]
      exact congrArg (c :: ·) ih

/-- Printing and reading a text gives it back. -/
theorem textOf_utf8 (s : String) : textOf (utf8 s) = s.toList := by
  rw [utf8_eq, textOf_utf8Text]

/-- Different texts have different bytes. -/
theorem utf8_inj {s t : String} : utf8 s = utf8 t ↔ s = t := by
  refine ⟨fun h => ?_, congrArg utf8⟩
  rw [← String.toList_inj, ← textOf_utf8 s, h, textOf_utf8]

/-! ## Values -/

/-- A value of the file, and the same value as a close reads it. -/
inductive Same : Value → PyJson → Prop where
  | null : Same .null .null
  | bool (b : Bool) : Same (.bool b) (.bool b)
  | int (n : Int) : Same (.number (intText n)) (.int n)
  | text (s : String) : Same (str s) (.str s)
  | list {values : List Value} {elements : List PyJson} (h : List.Forall₂ Same values elements) :
      Same (.array values) (.list elements)
  | dict {members : List (List UInt8 × Value)} {fields : Members}
      (hempty : members.isEmpty = fields.isEmpty)
      (h : ∀ key, Option.Rel Same (lastOf members key) (fields.lookup key)) :
      Same (.object members) (.dict fields)

/-- Both sides compare with a text alike. -/
theorem Same.isText {value : Value} {json : PyJson} (h : Same value json) (s : String) :
    isText value s = decide (asText json = some s) := by
  cases h with
  | text t => simp [AttachShield.isText, str, Value.string?, asText, utf8_inj, beq_eq_decide]
  | _ => simp [AttachShield.isText, Value.string?, asText]

/-- Both sides take the same values as true. -/
theorem Same.isTrue {value : Value} {json : PyJson} (h : Same value json) :
    isTrue value = truthy json := by
  cases h with
  | null => rfl
  | bool b => rfl
  | int n =>
      rw [AttachShield.isTrue, isZero_exitCode, truthy]
      simp [bne, beq_eq_decide]
  | text s =>
      have hempty : utf8 s = [] ↔ s = "" := utf8_inj (t := "")
      simp [AttachShield.isTrue, str, truthy, bne, beq_eq_decide, hempty]
  | list h => cases h <;> rfl
  | dict hempty h => rw [AttachShield.isTrue, truthy, hempty]

/-- What a close reads as a text is one in the file. -/
theorem Same.eq_str {value : Value} {json : PyJson} (h : Same value json) {s : String}
    (htext : asText json = some s) : value = str s := by
  cases h with
  | text t => rw [Option.some.inj htext]
  | _ => exact absurd htext (by simp [asText])

theorem eq_map_str {values : List Value} {elements : List PyJson}
    (h : List.Forall₂ Same values elements) {texts : List String}
    (htexts : elements.mapM asText = some texts) : values = texts.map str := by
  induction h generalizing texts with
  | nil =>
      obtain rfl := Option.some.inj htexts
      rfl
  | @cons value element values elements hvalue _ ih =>
      rw [List.mapM_cons] at htexts
      obtain ⟨text, htext, htexts⟩ := Option.bind_eq_some_iff.mp htexts
      obtain ⟨rest, hrest, hcons⟩ := Option.bind_eq_some_iff.mp htexts
      obtain rfl := Option.some.inj hcons
      rw [hvalue.eq_str htext, ih hrest, List.map_cons]

/-- What it reads as a list of texts is one in the file. -/
theorem Same.eq_strs {value : Value} {json : PyJson} (h : Same value json) {texts : List String}
    (htexts : asTexts json = some texts) : value = .array (texts.map str) := by
  cases h with
  | list h => rw [eq_map_str h htexts]
  | _ => exact absurd htexts (by simp [asTexts])

theorem Same.getD {value : Option Value} {json : Option PyJson} (h : Option.Rel Same value json)
    {default : Value} {other : PyJson} (hdefault : Same default other) :
    Same (value.getD default) (json.getD other) := by
  cases h with
  | none => exact hdefault
  | some h => exact h

/-- A member is the same on both sides, or both take the default. -/
theorem Same.getOr {value default : Value} {json other : PyJson} (h : Same value json)
    {fields : Members} (hfields : asDict json = some fields) (key : String)
    (hdefault : Same default other) :
    ∃ member, getOr value key default = .ok member ∧ Same member (valueOf fields key other) := by
  cases h with
  | dict hempty h =>
      obtain rfl := Option.some.inj hfields
      exact ⟨_, rfl, Same.getD (h key) hdefault⟩
  | _ => exact absurd hfields (by simp [asDict])

/-! ## Commands -/

/-- The words of a command that a rollback runs. -/
def undoWords : Command → Option (List String)
  | .setServiceEnabled service on =>
      some ["networksetup", "-setnetworkserviceenabled", service, if on then "on" else "off"]
  | .routeDelete (some family) dest (some gateway) =>
      some ["route", "-n", "delete", if family = .inet6 then "-inet6" else "-net", dest, gateway]
  | .routeAdd family dest gateway =>
      some ["route", "-n", "add", if family = .inet6 then "-inet6" else "-net", dest, gateway]
  | .setDnsServers service [] => some ["networksetup", "-setdnsservers", service, "Empty"]
  | .setDnsServers service servers => some (["networksetup", "-setdnsservers", service] ++ servers)
  | .setSearchDomains service [] => some ["networksetup", "-setsearchdomains", service, "Empty"]
  | .setSearchDomains service domains =>
      some (["networksetup", "-setsearchdomains", service] ++ domains)
  | .orderServices names => some (["networksetup", "-ordernetworkservices"] ++ names)
  | .setDhcp service => some ["networksetup", "-setdhcp", service]
  | .setManual service ip subnet router =>
      some ["networksetup", "-setmanual", service, ip, subnet, router]
  | .setV6Automatic service => some ["networksetup", "-setv6automatic", service]
  | .pfDisable => some ["pfctl", "-d"]
  | .pfFlushAnchor anchor => some ["pfctl", "-a", anchor, "-F", "all"]
  | .switchToLocation name => some ["networksetup", "-switchtolocation", name]
  | .deleteLocation name => some ["networksetup", "-deletelocation", name]
  | .setAirportPower device on =>
      some ["networksetup", "-setairportpower", device, if on then "on" else "off"]
  | _ => none

/-- The words that `_rollback_one` gives to the host. -/
def undoValues (commands : List Command) : Option (List Value) :=
  (commands.head?.bind undoWords).map fun words => words.map str

/-- Where a close takes an entry back, the rollback of the file runs the same words. -/
def Agrees (rolled : Raised (Option (List Value))) (undone : Option (List Command)) : Prop :=
  ∀ commands, undone = some commands → rolled = .ok (undoValues commands)

namespace Agrees

/-- Neither runs a command. -/
theorem nothing : Agrees (.ok none) (some []) := by
  rintro commands ⟨⟩
  rfl

/-- Both run one command, in the same words. -/
theorem command {command : Command} {words : List Value}
    (h : (undoWords command).map (fun words => words.map str) = some words) :
    Agrees (.ok (some words)) (some [command]) := by
  rintro commands ⟨⟩
  rw [← h]
  rfl

/-- Both take the same branch. -/
theorem ite {c c' : Prop} [Decidable c] [Decidable c']
    {rolled rolled' : Raised (Option (List Value))} {undone undone' : Option (List Command)}
    (hc : c ↔ c') (h : c' → Agrees rolled undone) (h' : Agrees rolled' undone') :
    Agrees (if c then rolled else rolled') (if c' then undone else undone') := by
  by_cases hc' : c'
  · rw [if_pos hc', if_pos (hc.mpr hc')]
    exact h hc'
  · rw [if_neg hc', if_neg (mt hc.mp hc')]
    exact h'

/-- A branch that a value of the entry decides. -/
theorem flag {value : Value} {json : PyJson} (hsame : Same value json)
    {rolled rolled' : Raised (Option (List Value))} {undone undone' : Option (List Command)}
    (h : truthy json → Agrees rolled undone) (h' : Agrees rolled' undone') :
    Agrees (if isTrue value then rolled else rolled') (if truthy json then undone else undone') :=
  ite (by rw [hsame.isTrue]) h h'

/-- A branch that a text of the entry decides. -/
theorem mode {value : Value} {json : PyJson} (hsame : Same value json) {s : String}
    {rolled rolled' : Raised (Option (List Value))} {undone undone' : Option (List Command)}
    (h : Agrees rolled undone) (h' : Agrees rolled' undone') :
    Agrees (if isText value s then rolled else rolled')
      (if asText json = some s then undone else undone') :=
  ite (by rw [hsame.isText, decide_eq_true_iff]) (fun _ => h) h'

/-- A member of the entry is the same on both sides. -/
theorem member {pre default : Value} {pre' other : PyJson} (hpre : Same pre pre') (key : String)
    (hdefault : Same default other) {rolled : Value → Raised (Option (List Value))}
    {undone : PyJson → Option (List Command)}
    (h : ∀ member member', Same member member' → Agrees (rolled member) (undone member')) :
    Agrees (getOr pre key default >>= rolled)
      (((asDict pre').map fun members => valueOf members key other).bind undone) := by
  rintro commands hcommands
  obtain ⟨member', hmember, hundone⟩ := Option.bind_eq_some_iff.mp hcommands
  obtain ⟨fields, hfields, rfl⟩ := Option.map_eq_some_iff.mp hmember
  obtain ⟨member, hget, hsame⟩ := hpre.getOr hfields key hdefault
  rw [hget]
  exact h member _ hsame commands hundone

/-- A word that is no text is only an error of the close. -/
theorem word {value : Value} {json : PyJson} (hsame : Same value json)
    {rolled : Raised (Option (List Value))} {undone : String → Option (List Command)}
    (h : ∀ text, value = str text → Agrees rolled (undone text)) :
    Agrees rolled (asText json >>= undone) := by
  rintro commands hcommands
  obtain ⟨text, htext, hundone⟩ := Option.bind_eq_some_iff.mp hcommands
  exact h text (hsame.eq_str htext) commands hundone

/-- The words of a list that is not empty, after others. -/
theorem words {value : Value} {json : PyJson} (hsame : Same value json) (htrue : truthy json)
    {front : List Value} {undone : List String → Option (List Command)}
    (h : ∀ text texts, Agrees (.ok (some (front ++ (text :: texts).map str)))
      (undone (text :: texts))) :
    Agrees (concatenate front value >>= fun command => .ok (some command))
      (asTexts json >>= undone) := by
  rintro commands hcommands
  obtain ⟨texts, htexts, hundone⟩ := Option.bind_eq_some_iff.mp hcommands
  obtain rfl := hsame.eq_strs htexts
  rw [← hsame.isTrue] at htrue
  cases texts with
  | nil => exact absurd htrue (by simp [isTrue])
  | cons text texts => exact h text texts commands hundone

end Agrees

/-- A pinned route is split into its words on both sides. -/
theorem rollbackOne_routeAdd {target pre : Value} {target' pre' : PyJson}
    (htarget : Same target target') :
    Agrees (MutationJournal.rollbackOne .routeAdd target pre) (undoOne .routeAdd target' pre') := by
  rintro commands hcommands
  obtain ⟨text, htext, rfl⟩ := Option.map_eq_some_iff.mp hcommands
  rw [htarget.eq_str htext]
  simp only [MutationJournal.rollbackOne, str, textOf_utf8, deleteEntry, AttachShield.words]
  have hinet6 : ∀ family : List Char,
      String.ofList family = "inet6" ↔ family = "inet6".toList := fun family => by
    rw [← String.toList_inj, String.toList_ofList]
  have hword : ∀ text : List Char, utf8Text text = utf8 (String.ofList text) := fun text => by
    rw [utf8_eq, String.toList_ofList]
  rcases PyText.split text.toList with - | ⟨family, - | ⟨dest, - | ⟨via, - | ⟨gateway, rest⟩⟩⟩⟩
  case cons.cons.cons.cons =>
    by_cases hfamily : family = "inet6".toList <;>
      simp [undoValues, undoWords, hinet6, hfamily, hword, str]
  all_goals rfl

/-- A deleted route is added again through its gateway. -/
theorem agrees_gateway {target pre : Value} {target' pre' : PyJson} (htarget : Same target target')
    (hpre : Same pre pre') :
    Agrees
      (do
        let gw ← getOr pre "gateway" (str "")
        let family ← getOr pre "family" (str "inet")
        return some [str "route", str "-n", str "add",
          str (if isText family "inet6" then "-inet6" else "-net"), target, gw])
      (do
        let get (key : String) (default : PyJson) : Option PyJson :=
          (asDict pre').map fun members => valueOf members key default
        let family ← get "family" (.str "inet")
        some [.routeAdd (if asText family = some "inet6" then .inet6 else .inet)
          (← asText target') (← asText (← get "gateway" (.str "")))]) := by
  rintro commands hcommands
  obtain ⟨family', hfamily, hcommands⟩ := Option.bind_eq_some_iff.mp hcommands
  obtain ⟨dest, hdest, hcommands⟩ := Option.bind_eq_some_iff.mp hcommands
  obtain ⟨gateway', hgateway, hcommands⟩ := Option.bind_eq_some_iff.mp hcommands
  obtain ⟨gateway, htext, hcommands⟩ := Option.bind_eq_some_iff.mp hcommands
  obtain rfl := Option.some.inj hcommands
  obtain ⟨fields, hfields, rfl⟩ := Option.map_eq_some_iff.mp hfamily
  rw [hfields] at hgateway
  obtain rfl := Option.some.inj hgateway
  obtain ⟨gw, hgw, hsame⟩ := hpre.getOr hfields "gateway" (.text "")
  obtain ⟨family, hfamily, hsameFamily⟩ := hpre.getOr hfields "family" (.text "inet")
  rw [hgw, hfamily, htarget.eq_str hdest]
  simp only [bind, Except.bind, pure, Except.pure, hsame.eq_str htext, hsameFamily.isText,
    decide_eq_true_iff]
  by_cases hinet6 : asText (valueOf fields "family" (.str "inet")) = some "inet6" <;>
    simp [hinet6, undoValues, undoWords]

/-- A manual configuration is set with the values it has. -/
theorem agrees_manual {target manual : Value} {target' manual' : PyJson}
    (htarget : Same target target') (hmanual : Same manual manual') :
    Agrees
      (do
        return some [str "networksetup", str "-setmanual", target, ← getOr manual "ip" (str ""),
          ← getOr manual "subnet" (str ""), ← getOr manual "router" (str "")])
      (do
        let manual ← asDict manual'
        some [.setManual (← asText target') (← asText (valueOf manual "ip" (.str "")))
          (← asText (valueOf manual "subnet" (.str "")))
          (← asText (valueOf manual "router" (.str "")))]) := by
  rintro commands hcommands
  obtain ⟨fields, hfields, hcommands⟩ := Option.bind_eq_some_iff.mp hcommands
  obtain ⟨service, hservice, hcommands⟩ := Option.bind_eq_some_iff.mp hcommands
  obtain ⟨ip, hip, hcommands⟩ := Option.bind_eq_some_iff.mp hcommands
  obtain ⟨subnet, hsubnet, hcommands⟩ := Option.bind_eq_some_iff.mp hcommands
  obtain ⟨router, hrouter, hcommands⟩ := Option.bind_eq_some_iff.mp hcommands
  obtain rfl := Option.some.inj hcommands
  obtain ⟨ip, hget, hsameIp⟩ := hmanual.getOr hfields "ip" (.text "")
  obtain ⟨subnet, hgetSubnet, hsameSubnet⟩ := hmanual.getOr hfields "subnet" (.text "")
  obtain ⟨router, hgetRouter, hsameRouter⟩ := hmanual.getOr hfields "router" (.text "")
  rw [hget, hgetSubnet, hgetRouter, htarget.eq_str hservice, hsameIp.eq_str hip,
    hsameSubnet.eq_str hsubnet, hsameRouter.eq_str hrouter]
  rfl

/-- **The file's rollback is the one of a close**, for any values of an entry. -/
theorem rollbackOne_undoOne (category : Category) {target pre : Value} {target' pre' : PyJson}
    (htarget : Same target target') (hpre : Same pre pre') :
    Agrees (MutationJournal.rollbackOne category target pre) (undoOne category target' pre') := by
  cases category with
  | serviceDisable =>
      refine .member hpre _ (.bool _) fun enabled enabled' henabled => ?_
      refine .flag henabled (fun _ => ?_) .nothing
      refine .word htarget ?_
      rintro service rfl
      exact .command rfl
  | serviceEnable =>
      refine .member hpre _ (.bool _) fun enabled enabled' henabled => ?_
      refine .flag henabled (fun _ => .nothing) ?_
      refine .word htarget ?_
      rintro service rfl
      exact .command rfl
  | routeAdd => exact rollbackOne_routeAdd htarget
  | routeDelete =>
      refine .member hpre _ .null fun existed existed' hexisted => ?_
      exact .flag hexisted (fun _ => agrees_gateway htarget hpre) .nothing
  | dnsSet =>
      refine .member hpre _ (.bool _) fun automatic automatic' hautomatic => ?_
      refine .flag hautomatic (fun _ => ?_) ?_
      · refine .word htarget ?_
        rintro service rfl
        exact .command rfl
      · refine .member hpre _ (.list .nil) fun servers servers' hservers => ?_
        refine .flag hservers (fun htrue => ?_) .nothing
        refine .word htarget ?_
        rintro service rfl
        refine .words hservers htrue fun server servers => ?_
        exact .command rfl
  | searchSet =>
      refine .member hpre _ (.bool _) fun automatic automatic' hautomatic => ?_
      refine .flag hautomatic (fun _ => ?_) ?_
      · refine .word htarget ?_
        rintro service rfl
        exact .command rfl
      · refine .member hpre _ (.list .nil) fun domains domains' hdomains => ?_
        refine .flag hdomains (fun htrue => ?_) .nothing
        refine .word htarget ?_
        rintro service rfl
        refine .words hdomains htrue fun domain domains => ?_
        exact .command rfl
  | orderSet =>
      refine .member hpre _ (.list .nil) fun order order' horder => ?_
      refine .flag horder (fun htrue => ?_) .nothing
      refine .words horder htrue fun name names => ?_
      exact .command rfl
  | ipv4Set =>
      refine .member hpre _ (.text _) fun mode mode' hmode => ?_
      refine .mode hmode ?_ (.mode hmode ?_ .nothing)
      · refine .word htarget ?_
        rintro service rfl
        exact .command rfl
      · refine .member hpre _ (.dict rfl fun _ => .none) fun manual manual' hmanual => ?_
        exact .flag hmanual (fun _ => agrees_manual htarget hmanual) .nothing
  | ipv6Set =>
      refine .member hpre _ (.text _) fun mode mode' hmode => ?_
      refine .mode hmode ?_ .nothing
      refine .word htarget ?_
      rintro service rfl
      exact .command rfl
  | pfEnable =>
      refine .member hpre _ (.bool _) fun enabled enabled' henabled => ?_
      exact .flag henabled (fun _ => .nothing) (.command rfl)
  | pfAnchorLoad =>
      rintro commands hcommands
      obtain ⟨anchor, htext, rfl⟩ := Option.map_eq_some_iff.mp hcommands
      rw [htarget.eq_str htext]
      rfl
  | locationSwitch =>
      refine .member hpre _ (.text _) fun location location' hlocation => ?_
      refine .flag hlocation (fun _ => ?_) .nothing
      refine .word hlocation ?_
      rintro name rfl
      exact .command rfl
  | locationCreate =>
      refine .member hpre _ (.bool _) fun existed existed' hexisted => ?_
      refine .flag hexisted (fun _ => .nothing) ?_
      refine .word htarget ?_
      rintro name rfl
      exact .command rfl
  | wifiPowerSet =>
      refine .member hpre _ (.bool _) fun power power' hpower => ?_
      refine .word htarget ?_
      rintro device rfl
      refine .command ?_
      rw [hpower.isTrue]
      cases truthy power' <;> rfl

end Bootmux.AttachShield

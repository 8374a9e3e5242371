/-
Bootmux.NetworkGuardian.Repair — one bounded repair: the state store, the
execution of a plan, its verification and `repair_once`
(`bootmux-network-guardian.py`).

The state store is what the file system holds at its root. A state file
is described by what the checks see of it, whether it is JSON, an object,
its schema version, its keys, and by its blocks. What the store does is
the same for blocks of any type `β`. A repair goes by a typed baseline,
one with the values that `capture_baseline` writes (`Stored`); a file that
has none raises in the plans. Any other JSON in the blocks is the subject
of `JsonRepair`. A link to nothing counts as no file. Errors that are no
`StateStoreError` are raised to the caller.

Not in the source: `ran`, the commands given to `host.run` in order,
whatever they answer. Left out: the texts of the errors, the standard
output and error of a command, and the JSON form of a report.
-/
import Bootmux.NetworkGuardian.Plan

namespace Bootmux.NetworkGuardian

/-! ## State store -/

def schemaVersion : Int := 1

/-- What `json.load` makes of a file, with the blocks of an object. -/
inductive StateContent (β : Type) where
  | notJson
  | notObject
  | object (schemaVersion : Option Int) (unexpectedKeys : List String) (blocks : β)
  deriving DecidableEq, Repr

structure StateFile (β : Type) where
  symlink : Bool
  mode : Nat
  uid : Nat
  content : StateContent β
  deriving DecidableEq, Repr

/-- The root of the store, with the two baselines in it. -/
inductive StateRoot (β : Type) where
  | missing
  | notDirectory
  | symlink
  | directory (mode : Nat) (uid : Nat) (baseline previous : Option (StateFile β))
  deriving DecidableEq, Repr

/-- The blocks of a file, `none` for those that raise in the plans. -/
abbrev Stored := Option Baseline

/-- Why a read of the store did not answer. -/
inductive StoreError where
  | stateStoreError
  | raised
  deriving DecidableEq, Repr

/-- `os.path.isdir(root) or os.path.islink(root)`. -/
def StateRoot.exists {β : Type} : StateRoot β → Bool
  | .symlink | .directory .. => true
  | _ => false

section Store

variable {β : Type} (enforceOwner : Bool)

/-- `validate_dir` succeeds. -/
def validateDir : StateRoot β → Bool
  | .directory mode uid _ _ => mode == 0o700 && (!enforceOwner || uid == 0)
  | _ => false

/-- `_validate_file` succeeds. -/
def validateFile (file : StateFile β) : Bool :=
  !file.symlink && file.mode == 0o600 && (!enforceOwner || file.uid == 0)

/-- `load` of one of the files. -/
def loadFile : Option (StateFile β) → Except StoreError (Option (StateContent β))
  | none => .ok none
  | some file =>
      if !validateFile enforceOwner file then .error .stateStoreError
      else
        match file.content with
        | .notJson => .error .raised
        | .notObject => .error .stateStoreError
        | content => .ok (some content)

def baselineFile : StateRoot β → Option (StateFile β)
  | .directory _ _ baseline _ => baseline
  | _ => none

/-- `read_baseline`, the blocks of what it returns. -/
def readBaseline (root : StateRoot β) : Except StoreError (Option β) :=
  match loadFile enforceOwner (baselineFile root) with
  | .error e => .error e
  | .ok (some (.object version unexpected blocks)) =>
      if version ≠ some schemaVersion then .error .stateStoreError
      else if unexpected ≠ [] then .error .stateStoreError
      else .ok (some blocks)
  | .ok _ => .ok none

/-- What `repair_once` reads of the store: no baseline if there is no
directory. -/
def storeBaseline (root : StateRoot β) : Except StoreError (Option β) :=
  if root.exists then
    if validateDir enforceOwner root then readBaseline enforceOwner root
    else .error .stateStoreError
  else .ok none

end Store

/-! ## Execution -/

structure ExecutionResult where
  executed : List Command
  failures : List (Command × Int)
  ok : Bool
  deriving DecidableEq, Repr

section Repair

variable {σ : Type} (host : Host σ)

def executePlan : σ → List Command → σ × ExecutionResult
  | s, [] => (s, ⟨[], [], true⟩)
  | s, command :: plan =>
      let (s, returncode) := host.run s command.argv
      let (s, result) := executePlan s plan
      if returncode ≠ 0 then
        (s, { result with ok := false, failures := (command, returncode) :: result.failures })
      else (s, { result with executed := command :: result.executed })

/-! ## Verification -/

/-- `VERIFY_KEYS`. -/
inductive VerifyKey where
  | bootmuxDefaultRouteAbsent
  | bootmuxScopedRoutesAbsent
  | bootmuxServiceDisabled
  | wifiPowerMatchesBaseline
  | wifiSsidMatchesBaselineOrRedactedEquivalent
  | wifiIpv4ModeMatchesBaseline
  | wifiDefaultRouteRestored
  | wifiDnsMatchesBaseline
  | serviceOrderMatchesBaseline
  | unrelatedServicesUnchanged
  deriving DecidableEq, Repr

def verifyKeys : List VerifyKey :=
  [.bootmuxDefaultRouteAbsent, .bootmuxScopedRoutesAbsent, .bootmuxServiceDisabled,
    .wifiPowerMatchesBaseline, .wifiSsidMatchesBaselineOrRedactedEquivalent,
    .wifiIpv4ModeMatchesBaseline, .wifiDefaultRouteRestored, .wifiDnsMatchesBaseline,
    .serviceOrderMatchesBaseline, .unrelatedServicesUnchanged]

/-- The device of the baseline, if it has one. -/
def baselineDevice (baseline : Option Baseline) : Option String :=
  (baseline.bind (·.wifi.hardwareDevice)).filter (· ≠ "")

/-- `verify`, key by key. A comparison with a baseline that is not there
counts as met. -/
def verify (s : σ) (identity : IdentityResult) (baseline : Option Baseline) : VerifyKey → Bool
  | .bootmuxDefaultRouteAbsent =>
      !(host.routes s).any fun r =>
        r.destination == some "default" && ownedRoute identity.interface r
  | .bootmuxScopedRoutesAbsent => !(host.routes s).any (ownedRoute identity.interface)
  | .bootmuxServiceDisabled =>
      -- An empty service name is not looked up, and counts as enabled.
      match identity.service with
      | none => true
      | some service => service != "" && !serviceEnabled (host.services s) service
  | .wifiPowerMatchesBaseline =>
      match baselineDevice baseline with
      | some device => host.wifiPower s device == baseline.bind (·.wifi.power)
      | none => true
  | .wifiSsidMatchesBaselineOrRedactedEquivalent =>
      match baselineDevice baseline with
      | some device =>
          let want := baseline.bind (·.wifi.associatedSsid)
          want == none || want == some "<redacted>" || host.wifiSsid s device == want
      | none => true
  | .wifiIpv4ModeMatchesBaseline =>
      match baselineDevice baseline with
      | some device => (host.wifiIpv4 s device).mode == baseline.bind (·.wifi.ipv4Mode)
      | none => true
  | .wifiDefaultRouteRestored =>
      (host.routes s).any fun r =>
        r.destination == some "default" && !ownedRoute identity.interface r
  | .wifiDnsMatchesBaseline =>
      match baseline, baselineDevice baseline with
      | some baseline, some _ =>
          !truthy baseline.wifi.serviceName ||
            (host.dns s (baseline.wifi.serviceName.getD "")).servers == baseline.wifi.dnsServers
      | _, _ => true
  | .serviceOrderMatchesBaseline =>
      match baseline with
      | some baseline =>
          let want := wantOrder baseline identity.service
          let current := currentOrder (host.services s) identity.service
          !(want != [] && sameSet want current) || current == want
      | none => true
  | .unrelatedServicesUnchanged =>
      match baseline with
      | some baseline => changedStates (host.services s) baseline identity.service == []
      | none => true

/-- `classify`: the keys that failed; there are none on `REPAIRED`. -/
def classify (verification : VerifyKey → Bool) : List VerifyKey :=
  verifyKeys.filter fun key => !verification key

/-! ## Orchestration -/

inductive Classification where
  | ambiguous
  | stateInvalid
  | verified (failed : List VerifyKey)
  /-- The call raised. -/
  | raised
  deriving DecidableEq, Repr

structure RepairReport where
  identity : IdentityResult
  classification : Classification
  toggled : Bool
  /-- The commands of the repair plan that were run. -/
  ran : List Command
  /-- The commands of the Wi-Fi power cycle that were run. -/
  toggleRan : List Command
  deriving DecidableEq, Repr

/-- The part of `repair_once` behind the checks. -/
def repairWith (s : σ) (identity : IdentityResult) (baseline : Option Baseline) (now : ℚ)
    (lastToggleAt : Option ℚ) : σ × RepairReport :=
  let plan := buildRepairPlan host s identity baseline
  let (s, execution) := executePlan host s plan
  let failed := classify (verify host s identity baseline)
  let toggle := buildWifiTogglePlan baseline now lastToggleAt
  if failed ≠ [] ∧ execution.ok ∧ toggle ≠ [] then
    let (s, _) := executePlan host s toggle
    (s, { identity := identity
          classification := .verified (classify (verify host s identity baseline))
          toggled := true, ran := plan, toggleRan := toggle })
  else
    (s, { identity := identity, classification := .verified failed, toggled := false
          ran := plan, toggleRan := [] })

def repairOnce (enforceOwner : Bool) (root : StateRoot Stored) (s : σ) (now : ℚ)
    (lastToggleAt : Option ℚ) : σ × RepairReport :=
  let identity := proveIdentity host s
  let stopped (classification : Classification) : σ × RepairReport :=
    (s, { identity := identity, classification := classification, toggled := false, ran := []
          toggleRan := [] })
  if identity.ambiguous then stopped .ambiguous
  else
    match storeBaseline enforceOwner root with
    | .error .stateStoreError => stopped .stateInvalid
    | .error .raised => stopped .raised
    | .ok none => repairWith host s identity none now lastToggleAt
    | .ok (some none) => stopped .raised
    | .ok (some (some baseline)) => repairWith host s identity (some baseline) now lastToggleAt

end Repair

end Bootmux.NetworkGuardian

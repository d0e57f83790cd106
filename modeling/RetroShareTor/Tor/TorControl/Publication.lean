import RetroShareTor.Tor.TorControl.Version

/-!
# Publishing hidden services

`publishServices()` and `checkHiddenService(service)`. On Tor 0.2.7 and later every service
gets an `ADD_ONION` whose success acknowledges that service. Older Tor gets one `SETCONF`
carrying every service with a data path, except those whose loaded key has no
`private_key` file; its success callback is set inside the loop over the services, so each
configured service replaces the one before and the success acknowledges only the last
(`publishServices_legacy`, and `legacy_setconf_acknowledges_last` for two services). The
commented-out Qt connection beside it connected every service.
-/

namespace RetroShareTor

namespace Tor

namespace TorControl

/-- Several `sendCommand` calls, in order. -/
def sendCommands (s : TorControl) (cs : List TorControlCommand) : TorControl :=
  cs.foldl sendCommand s

@[simp] lemma sendCommands_eq (s : TorControl) (cs : List TorControlCommand) :
    s.sendCommands cs =
      { s with mSocket := { s.mSocket with commandQueue := s.mSocket.commandQueue ++ cs } } := by
  induction cs generalizing s with
  | nil => simp [sendCommands]
  | cons c cs ih =>
    simp only [sendCommands, List.foldl_cons] at *
    simp [ih, sendCommand]

/-- The `HiddenServicePort` line of a target: `"<port> <address>:<port>"`. -/
def targetConfig (t : Target) : Bytes × Bytes :=
  (ascii "HiddenServicePort",
    numberToString t.servicePort ++ ascii " " ++ t.targetAddress ++ ascii ":" ++
      numberToString t.targetPort)

/-- The configuration lines of one service. -/
def serviceConfig (hs : HiddenService) : List (Bytes × Bytes) :=
  (ascii "HiddenServiceDir", hs.dataPath) :: hs.targets.map targetConfig

/-- The legacy loop of `publishServices` over the services from position `i`: the
configuration lines so far, and the service the `ConfSucceeded` callback names, which every
configured service replaces. -/
def legacyConfig (fs : FileSystem) :
    Nat → List HiddenService → List (Bytes × Bytes) → Option Nat → List (Bytes × Bytes) × Option Nat
  | _, [], torConfig, callback => (torConfig, callback)
  | i, hs :: rest, torConfig, callback =>
    if hs.dataPath = [] then legacyConfig fs (i + 1) rest torConfig callback
    else if hs.privateKeyLoaded ∧ !fs.fileExists (hs.dataPath ++ ascii "/private_key") then
      legacyConfig fs (i + 1) rest torConfig callback
    else legacyConfig fs (i + 1) rest (torConfig ++ serviceConfig hs) (some i)

/-- `publishServices()`; `none` when the version comparison reads past the end of a
list. -/
def publishServices (fs : FileSystem) (s : TorControl) : Option TorControl :=
  if s.mServices = [] then some s
  else
    match torVersionAsNewAs s.mTorVersion (ascii "0.2.7") with
    | none => none
    | some true => some (s.sendCommands ((List.range s.mServices.length).map .addOnion))
    | some false =>
      let r := legacyConfig fs 0 s.mServices [] none
      some (if r.1 = [] then s else s.sendCommand (.setConf r.1 r.2))

/-- `checkHiddenService(service)`: the service is acknowledged, and once it is Online the
controller is `HiddenServiceReady`. -/
def checkHiddenService (s : TorControl) (i : Nat) : TorControl :=
  let s := { s with mServices := s.mServices.modify HiddenService.servicePublished i }
  match s.mServices[i]? with
  | some hs => if hs.status = .Online then s.setStatus .HiddenServiceReady else s
  | none => s

/-! ### The legacy loop -/

/-- Whether the legacy loop configures a service: it has a data path, and its key is not
loaded or its `private_key` file exists. -/
def legacyEligible (fs : FileSystem) (hs : HiddenService) : Bool :=
  hs.dataPath ≠ [] ∧ !(hs.privateKeyLoaded ∧ !fs.fileExists (hs.dataPath ++ ascii "/private_key"))

/-- The position of the last service the legacy loop configures. -/
def lastEligible (fs : FileSystem) : List HiddenService → Option Nat
  | [] => none
  | hs :: rest =>
    match lastEligible fs rest with
    | some j => some (j + 1)
    | none => if legacyEligible fs hs then some 0 else none

lemma legacyConfig_cons (fs : FileSystem) (i : Nat) (hs : HiddenService)
    (rest : List HiddenService) (torConfig : List (Bytes × Bytes)) (callback : Option Nat) :
    legacyConfig fs i (hs :: rest) torConfig callback =
      if legacyEligible fs hs then
        legacyConfig fs (i + 1) rest (torConfig ++ serviceConfig hs) (some i)
      else legacyConfig fs (i + 1) rest torConfig callback := by
  rw [legacyConfig]
  by_cases h : hs.dataPath = [] <;> simp [legacyEligible, h]
  split_ifs <;> simp_all

/-- The legacy loop configures the eligible services, in order, and its callback names the
last of them. -/
lemma legacyConfig_eq (fs : FileSystem) (i : Nat) (services : List HiddenService)
    (torConfig : List (Bytes × Bytes)) (callback : Option Nat) :
    legacyConfig fs i services torConfig callback =
      (torConfig ++ (services.filter (legacyEligible fs)).flatMap serviceConfig,
        ((lastEligible fs services).map (i + ·)).or callback) := by
  induction services generalizing i torConfig callback with
  | nil => simp [legacyConfig, lastEligible]
  | cons hs rest ih =>
    rw [legacyConfig_cons, lastEligible]
    by_cases he : legacyEligible fs hs <;>
      cases h : lastEligible fs rest <;> simp [ih, h, he, Nat.add_assoc, Nat.add_comm 1]

lemma lastEligible_eq_none_iff (fs : FileSystem) (services : List HiddenService) :
    lastEligible fs services = none ↔ services.filter (legacyEligible fs) = [] := by
  induction services with
  | nil => simp [lastEligible]
  | cons hs rest ih =>
    rw [lastEligible]
    cases h : lastEligible fs rest <;> by_cases he : legacyEligible fs hs <;> simp_all

/-- On a Tor older than 0.2.7 as the comparison reads it, one `SETCONF` carries the lines of
every eligible service, and its success acknowledges only the last of them. -/
theorem publishServices_legacy (fs : FileSystem) (s : TorControl) (hs : s.mServices ≠ [])
    (hv : torVersionAsNewAs s.mTorVersion (ascii "0.2.7") = some false) {j : Nat}
    (hj : lastEligible fs s.mServices = some j) :
    publishServices fs s = some (s.sendCommand
      (.setConf ((s.mServices.filter (legacyEligible fs)).flatMap serviceConfig) (some j))) := by
  have hne : (s.mServices.filter (legacyEligible fs)).flatMap serviceConfig ≠ [] := by
    have hf : s.mServices.filter (legacyEligible fs) ≠ [] :=
      (lastEligible_eq_none_iff fs s.mServices).not.mp (by simp [hj])
    obtain ⟨x, xs, hx⟩ := List.exists_cons_of_ne_nil hf
    simp [hx, serviceConfig]
  simp [publishServices, hs, hv, legacyConfig_eq, hj, hne]
/-! ### Acknowledgements -/

/-- Some hidden service is Online. -/
def SomeServiceOnline (s : TorControl) : Prop := ∃ hs ∈ s.mServices, hs.status = .Online

/-- Publishing sends commands only. -/
lemma publishServices_frame {fs : FileSystem} {s s' : TorControl}
    (h : publishServices fs s = some s') :
    s'.mStatus = s.mStatus ∧ s'.mServices = s.mServices := by
  unfold publishServices at h
  split at h
  · cases h; simp
  · split at h
    · cases h
    · cases h; simp
    · cases h; split <;> simp

@[simp] lemma checkHiddenService_mServices (s : TorControl) (i : Nat) :
    (s.checkHiddenService i).mServices = s.mServices.modify HiddenService.servicePublished i := by
  dsimp only [checkHiddenService]; split <;> (try split) <;> simp

/-- An acknowledgement keeps the status or enters `HiddenServiceReady`, with a service
Online. -/
lemma checkHiddenService_mStatus (s : TorControl) (i : Nat) :
    (s.checkHiddenService i).mStatus = s.mStatus ∨
      (s.checkHiddenService i).mStatus = .HiddenServiceReady ∧
        SomeServiceOnline (s.checkHiddenService i) := by
  dsimp only [checkHiddenService]
  split
  · rename_i hs h
    split
    · exact .inr ⟨by simp, hs, by simpa using List.getElem?_mem h, ‹_›⟩
    · exact .inl rfl
  · exact .inl rfl

/-- A change that makes a service Online keeps every Online service Online. -/
lemma SomeServiceOnline.modify {s : TorControl} (h : SomeServiceOnline s)
    {f : HiddenService → HiddenService} (hf : ∀ hs, (f hs).status = .Online) (i : Nat) :
    ∃ hs ∈ s.mServices.modify f i, hs.status = .Online := by
  obtain ⟨hs, hmem, hon⟩ := h
  obtain ⟨k, hk⟩ := List.mem_iff_getElem?.mp hmem
  have hk' := List.getElem?_modify f i s.mServices k
  rw [hk] at hk'
  refine ⟨_, List.getElem?_mem hk', ?_⟩
  split <;> simp [hf, hon]

/-- Two services with data paths and no loaded key, on Tor 0.2.6.10. -/
def legacyExample : TorControl :=
  { init with
    mStatus := .Authenticated
    mTorVersion := ascii "0.2.6.10"
    mServices := [⟨ascii "/a", false, [], .Offline⟩, ⟨ascii "/b", false, [], .Offline⟩] }

/-- A file system with no file. -/
def emptyFileSystem : FileSystem := ⟨fun _ => .error 2, fun _ => false⟩

/-- On Tor 0.2.6.10 with two services, the one `SETCONF` acknowledges the second. -/
theorem publishServices_legacy_two :
    legacyExample.mServices ≠ [] ∧
      torVersionAsNewAs legacyExample.mTorVersion (ascii "0.2.7") = some false ∧
      lastEligible emptyFileSystem legacyExample.mServices = some 1 ∧
      publishServices emptyFileSystem legacyExample = some (legacyExample.sendCommand
        (.setConf ((legacyExample.mServices.filter (legacyEligible emptyFileSystem)).flatMap
          serviceConfig) (some 1))) :=
  ⟨by decide, by decide, by decide,
    publishServices_legacy emptyFileSystem legacyExample (by decide) (by decide) (by decide)⟩

/-- On Tor 0.2.6.10 with two services, `publishServices` sends one `SETCONF` carrying both,
whose success acknowledges only the second: the first stays Offline. -/
theorem legacy_setconf_acknowledges_last :
    (publishServices emptyFileSystem legacyExample).map (·.mSocket.commandQueue) =
      some [.setConf (serviceConfig ⟨ascii "/a", false, [], .Offline⟩ ++
        serviceConfig ⟨ascii "/b", false, [], .Offline⟩) (some 1)] ∧
    ((checkHiddenService legacyExample 1).mServices.map (·.status)) = [.Offline, .Online] := by
  decide

end TorControl

end Tor

end RetroShareTor

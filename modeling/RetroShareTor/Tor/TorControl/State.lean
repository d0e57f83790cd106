import RetroShareTor.Tor.StrUtil

/-!
# The state of the Tor controller

`TorControl` of `TorControl.cpp`: its status, the status Tor reports of itself, the hidden
services, the bootstrap map, and the control socket with its queue of commands awaiting a
reply.

`TorControl.h`, `TorControlSocket.cpp`, `HiddenService.cpp` and the command classes are not
among the sources. What the modelled code reads of them is modelled from the spec: the
order of the statuses, the command queue of the socket (commands are answered in the order
they were sent), the parsed results of the commands (`Reply`), and the acknowledgement of a
hidden service. Events sent to the host (`rsEvents`, the status-changed callback) do not
feed back into the controller and are left out.
-/

namespace RetroShareTor

namespace Tor

/-- `TorControl::Status`. -/
inductive Status
  | Error
  | NotConnected
  | Connecting
  | SocketConnected
  | Authenticating
  | Authenticated
  | HiddenServiceReady
  | Unknown
  deriving DecidableEq, Repr

/-- Modelled from the spec: the values of `TorControl::Status`, which `connect()` and
`reconnect()` compare. The spec lists the states in this order and has `connect()` leave
`Error`, which therefore comes first. -/
def Status.toInt : Status → Int
  | .Error => -1
  | .NotConnected => 0
  | .Connecting => 1
  | .SocketConnected => 2
  | .Authenticating => 3
  | .Authenticated => 4
  | .HiddenServiceReady => 5
  | .Unknown => 6

/-- `TorControl::TorStatus`. -/
inductive TorStatus
  | TorUnknown
  | TorOffline
  | TorReady
  deriving DecidableEq, Repr

/-- The flags of `ProtocolInfoCommand::AuthMethod` in a PROTOCOLINFO reply. -/
structure AuthMethods where
  AuthNull : Bool
  AuthHashedPassword : Bool
  AuthCookie : Bool
  deriving DecidableEq, Repr

/-- `HiddenService::Status`. -/
inductive HiddenServiceStatus
  | Offline
  | Online
  deriving DecidableEq, Repr

/-- `HiddenService::Target`. -/
structure Target where
  servicePort : Nat
  targetAddress : Bytes
  targetPort : Nat
  deriving DecidableEq, Repr

/-- What the controller reads of a `HiddenService`: its data path, whether its private key
is loaded, its targets and its status. -/
structure HiddenService where
  dataPath : Bytes
  privateKeyLoaded : Bool
  targets : List Target
  status : HiddenServiceStatus
  deriving DecidableEq, Repr

/-- Modelled from the spec: `HiddenService::servicePublished`, Tor's acknowledgement of the
publication, after which the service is Online. -/
def HiddenService.servicePublished (hs : HiddenService) : HiddenService :=
  { hs with status := .Online }

/-- A command sent on the control socket and awaiting its reply, with the callbacks the
controller gave it. Services are named by their position in `mServices`. -/
inductive TorControlCommand
  /-- `PROTOCOLINFO` of `authenticate()`: finished → `protocolInfoReply`, reply lines →
  `statusEvent`. -/
  | protocolInfo
  /-- `AUTHENTICATE`, with no data or with the data of `build(data)`: finished →
  `authenticateReply`. -/
  | authenticate (data : Option Bytes)
  /-- `GETINFO` of `getTorInfo()`: finished → `getTorInfoReply`, reply lines →
  `statusEvent`. -/
  | getTorInfo
  /-- `ADD_ONION` for a service: succeeded → `checkHiddenService` of that service. -/
  | addOnion (service : Nat)
  /-- The legacy `SETCONF`: succeeded → `checkHiddenService` of the service its callback
  names. -/
  | setConf (config : List (Bytes × Bytes)) (succeeded : Option Nat)
  /-- `GETCONF` of `getConfiguration()`: reply lines → `statusEvent`. -/
  | getConf (options : Bytes)
  /-- `SETCONF` in reset mode of `setConfiguration()`: no callback. -/
  | resetConf (options : List (Bytes × Bytes))
  /-- `GETINFO config-text config-file` of `SaveConfigOperation`: finished →
  `configTextReply`, which acts on the operation and the file system only. -/
  | saveConfig
  /-- A line sent with no command object (`TAKEOWNERSHIP`, `SIGNAL SHUTDOWN`). -/
  | raw (line : Bytes)
  deriving DecidableEq, Repr

/-- Modelled from the spec: the control socket. Commands wait for their replies in the
order they were sent; event handlers are registered by keyword. -/
structure TorControlSocket where
  running : Bool
  peerAddress : Bytes
  commandQueue : List TorControlCommand
  eventCommands : List Bytes
  deriving DecidableEq, Repr

/-- A `std::map<std::string,std::string>`. -/
abbrev StringMap := List (Bytes × Bytes)

/-- `m[k] = v`. -/
def StringMap.insert (m : StringMap) (k v : Bytes) : StringMap :=
  if m.any (·.1 = k) then m.map fun e => if e.1 = k then (k, v) else e else m ++ [(k, v)]

/-! The value a map holds for a key is its `List.lookup`, the first entry of that key. -/

lemma StringMap.lookup_cons (e : Bytes × Bytes) (m : StringMap) (k : Bytes) :
    (e :: m).lookup k = if k = e.1 then some e.2 else m.lookup k := by
  rw [List.lookup_cons]
  by_cases h : k = e.1
  · simp [h]
  · simp [beq_eq_false_iff_ne.mpr h, h]

lemma StringMap.insert_cons (e : Bytes × Bytes) (m : StringMap) (k v : Bytes) :
    StringMap.insert (e :: m) k v =
      if e.1 = k then (k, v) :: m.map (fun e => if e.1 = k then (k, v) else e)
      else e :: m.insert k v := by
  unfold StringMap.insert
  by_cases he : e.1 = k
  · simp [he]
  · by_cases hm : m.any (·.1 = k) <;> simp [he, hm]

/-- Replacing the value of `k` in place keeps the value of every other key. -/
lemma StringMap.lookup_map_replace (m : StringMap) {k k' : Bytes} (v : Bytes) (h : k' ≠ k) :
    (m.map fun e => if e.1 = k then (k, v) else e).lookup k' = m.lookup k' := by
  induction m with
  | nil => rfl
  | cons e m ih => by_cases he : e.1 = k <;> simp [StringMap.lookup_cons, he, h, ih]

/-- `m[k] = v` sets the value of `k` and keeps every other. -/
lemma StringMap.lookup_insert (m : StringMap) (k v k' : Bytes) :
    (m.insert k v).lookup k' = if k' = k then some v else m.lookup k' := by
  induction m with
  | nil => simp [StringMap.insert, StringMap.lookup_cons]
  | cons e m ih =>
    rw [StringMap.insert_cons]
    by_cases he : e.1 = k
    · by_cases h : k' = k
      · simp [StringMap.lookup_cons, he, h]
      · simp [StringMap.lookup_cons, he, h, StringMap.lookup_map_replace m v h]
    · by_cases h : k' = e.1
      · simp [StringMap.lookup_cons, h, he, Ne.symm he]
      · simp [StringMap.lookup_cons, h, he, ih]

/-- Keys set in turn: a key's value is its last setting, or its value before. -/
lemma StringMap.lookup_foldl_insert {α : Type} (f : α → Bytes × Bytes) (l : List α)
    (m : StringMap) (k : Bytes) :
    (l.foldl (fun m a => m.insert (f a).1 (f a).2) m).lookup k =
      ((l.map f).reverse ++ m).lookup k := by
  induction l generalizing m with
  | nil => rfl
  | cons a l ih =>
    rw [List.foldl_cons, ih, List.map_cons, List.reverse_cons, List.append_assoc,
      List.lookup_append, List.lookup_append, StringMap.lookup_insert, List.singleton_append,
      StringMap.lookup_cons]

/-- The state of a `TorControl`. -/
structure TorControl where
  mTorAddress : Bytes
  mControlPort : Nat
  mSocksAddress : Bytes
  mSocksPort : Nat
  mStatus : Status
  mTorStatus : TorStatus
  mErrorMessage : Bytes
  mTorVersion : Bytes
  mHasOwnership : Bool
  mAuthPassword : Bytes
  mServices : List HiddenService
  mBootstrapStatus : StringMap
  mSocket : TorControlSocket
  deriving DecidableEq, Repr

/-- What the parsed reply lines of a command hold when its final line arrives. -/
structure Reply where
  /-- `isSuccessful()`: the final status code is 250. -/
  successful : Bool
  /-- `errorMessage()`. -/
  errorMessage : Bytes
  /-- `ProtocolInfoCommand::authMethods()`. -/
  authMethods : AuthMethods
  /-- `ProtocolInfoCommand::cookieFile()`. -/
  cookieFile : Bytes
  /-- `ProtocolInfoCommand::torVersion()`. -/
  torVersion : Bytes
  /-- `GetConfCommand::get(key)`: the values of a key. -/
  get : Bytes → List Bytes

/-- What the controller reads of the file system. -/
structure FileSystem where
  /-- `fopen(path, "r")` and `getc` to the end: the file's bytes, or `errno`. -/
  read : Bytes → Except Int Bytes
  /-- `RsDirUtil::fileExists(path)`. -/
  fileExists : Bytes → Bool

namespace TorControl

/-- The constructor `TorControl()`. -/
def init : TorControl where
  mTorAddress := []
  mControlPort := 0
  mSocksAddress := []
  mSocksPort := 0
  mStatus := .NotConnected
  mTorStatus := .TorUnknown
  mErrorMessage := []
  mTorVersion := []
  mHasOwnership := false
  mAuthPassword := []
  mServices := []
  mBootstrapStatus := []
  mSocket := ⟨false, [], [], []⟩

/-- `setStatus(n)`: leaving `Error` clears the error message. -/
def setStatus (s : TorControl) (n : Status) : TorControl :=
  if n = s.mStatus then s
  else { s with
    mStatus := n
    mErrorMessage := if s.mStatus = .Error then [] else s.mErrorMessage }

/-- `setTorStatus(n)`. -/
def setTorStatus (s : TorControl) (n : TorStatus) : TorControl :=
  if n = s.mTorStatus then s else { s with mTorStatus := n }

/-- `setError(message)`. -/
def setError (s : TorControl) (message : Bytes) : TorControl :=
  ({ s with mErrorMessage := message } : TorControl).setStatus .Error

/-- `mSocket->sendCommand(command, data)`: the command waits for its reply. -/
def sendCommand (s : TorControl) (c : TorControlCommand) : TorControl :=
  { s with mSocket := { s.mSocket with commandQueue := s.mSocket.commandQueue ++ [c] } }

/-- `mSocket->registerEvent(keyword, handler)`. -/
def registerEvent (s : TorControl) (keyword : Bytes) : TorControl :=
  if keyword ∈ s.mSocket.eventCommands then s
  else { s with mSocket := { s.mSocket with eventCommands := s.mSocket.eventCommands ++ [keyword] } }

/-! ### The setters -/

@[simp] lemma setStatus_mStatus (s : TorControl) (n : Status) : (s.setStatus n).mStatus = n := by
  unfold setStatus; split <;> simp_all

@[simp] lemma setError_mStatus (s : TorControl) (m : Bytes) : (s.setError m).mStatus = .Error := by
  simp [setError]

@[simp] lemma setError_mErrorMessage (s : TorControl) (m : Bytes) :
    (s.setError m).mErrorMessage = m := by
  by_cases h : s.mStatus = .Error
  · simp [setError, setStatus, h]
  · simp [setError, setStatus, h, Ne.symm h]

@[simp] lemma setTorStatus_mTorStatus (s : TorControl) (n : TorStatus) :
    (s.setTorStatus n).mTorStatus = n := by
  unfold setTorStatus; split <;> simp_all

@[simp] lemma setStatus_mServices (s : TorControl) (n : Status) :
    (s.setStatus n).mServices = s.mServices := by
  unfold setStatus; split <;> rfl

@[simp] lemma setError_mServices (s : TorControl) (m : Bytes) :
    (s.setError m).mServices = s.mServices := by
  simp [setError]

@[simp] lemma setTorStatus_mStatus (s : TorControl) (n : TorStatus) :
    (s.setTorStatus n).mStatus = s.mStatus := by
  unfold setTorStatus; split <;> rfl

@[simp] lemma setTorStatus_mServices (s : TorControl) (n : TorStatus) :
    (s.setTorStatus n).mServices = s.mServices := by
  unfold setTorStatus; split <;> rfl

@[simp] lemma sendCommand_mStatus (s : TorControl) (c : TorControlCommand) :
    (s.sendCommand c).mStatus = s.mStatus := rfl

@[simp] lemma sendCommand_mServices (s : TorControl) (c : TorControlCommand) :
    (s.sendCommand c).mServices = s.mServices := rfl

@[simp] lemma registerEvent_mStatus (s : TorControl) (k : Bytes) :
    (s.registerEvent k).mStatus = s.mStatus := by
  unfold registerEvent; split <;> rfl

@[simp] lemma registerEvent_mServices (s : TorControl) (k : Bytes) :
    (s.registerEvent k).mServices = s.mServices := by
  unfold registerEvent; split <;> rfl

/-- `setStatus` changes only the status and the error message. -/
lemma setStatus_eq (s : TorControl) (n : Status) :
    ∃ m, s.setStatus n = { s with mStatus := n, mErrorMessage := m } := by
  unfold setStatus
  split
  · exact ⟨s.mErrorMessage, by subst n; rfl⟩
  · exact ⟨_, rfl⟩

/-- `setTorStatus` changes only the reported status. -/
lemma setTorStatus_eq (s : TorControl) (n : TorStatus) :
    s.setTorStatus n = { s with mTorStatus := n } := by
  unfold setTorStatus; split <;> simp_all

end TorControl

end Tor

end RetroShareTor

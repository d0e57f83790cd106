import RetroShareTor.Tor.TorControl.Authentication

/-!
# The controller and its runs

The host calls of `TorControl`, the socket's events, and the replies to the commands the
controller sent, as one step function. A reply line goes to the per-line callback of the
command at the front of the queue, and a final reply pops that command and runs its
finished callback. An asynchronous `650` line goes to the handler registered under its
first token; the only one is `STATUS_CLIENT`, whose handler is `statusEvent`.

A successful `ADD_ONION` writes the private key Tor created back into its service before
its `succeeded` callback acknowledges the service. A broken connection cancels the commands
in flight: each is resolved with an error reply, which runs its finished callback.

A run is any sequence of inputs, each allowed where it comes (`Input.allowed`): the host
calls `authenticate()` only in `SocketConnected` and `reconnect()` only with a known address
and port, as the assertions ask, and replies arrive only for commands in the queue. Socket
events, replies and the cancellation are allowed in every status: buffered replies can still
arrive after the socket reported an error or the end of the stream, before it cancels what
is left.
-/

namespace RetroShareTor

namespace Tor

/-- Modelled from the spec: `TorControlSocket::fullstop()` stops the socket. -/
def TorControlSocket.fullstop (k : TorControlSocket) : TorControlSocket :=
  { k with running := false }

/-- Modelled from the spec: `TorControlSocket::connectToHost(address, port)`, whose outcome
is an input; a connected socket runs with `address` as its peer. -/
def TorControlSocket.connectToHost (k : TorControlSocket) (address : Bytes) (connected : Bool) :
    TorControlSocket :=
  if connected then { k with running := true, peerAddress := address } else k

/-- Whether a command has a per-line callback: `statusEvent` for `PROTOCOLINFO`, the
`GETINFO` of `getTorInfo` and `GETCONF`. -/
def TorControlCommand.hasReplyLine : TorControlCommand → Bool
  | .protocolInfo | .getTorInfo | .getConf _ => true
  | _ => false

/-- Modelled from the spec: what a successful `ADD_ONION` writes back into its service
before it emits `succeeded`: the private key Tor created for it, when the reply carries one
(`250-PrivateKey=`). The service id it also writes back is read by no modelled function. -/
def HiddenService.addOnionReply (reply : Reply) (hs : HiddenService) : HiddenService :=
  if reply.get (ascii "PrivateKey") = [] then hs else { hs with privateKeyLoaded := true }

/-- Tor's acknowledgement of a service, with the private key Tor created for it written back
when `newKey`: the service is Online, with its data path and targets. -/
def HiddenService.acknowledge (newKey : Bool) (hs : HiddenService) : HiddenService :=
  { hs with privateKeyLoaded := hs.privateKeyLoaded || newKey, status := .Online }

lemma HiddenService.servicePublished_eq_acknowledge :
    HiddenService.servicePublished = HiddenService.acknowledge false := by
  funext hs; simp [servicePublished, acknowledge]

/-- The write-back of `ADD_ONION` and the acknowledgement that follows it. -/
lemma HiddenService.servicePublished_comp_addOnionReply (reply : Reply) :
    servicePublished ∘ addOnionReply reply =
      acknowledge !(reply.get (ascii "PrivateKey")).isEmpty := by
  funext hs
  unfold addOnionReply
  cases reply.get (ascii "PrivateKey") <;> simp [servicePublished, acknowledge]

lemma HiddenService.acknowledge_acknowledge (a b : Bool) (hs : HiddenService) :
    (hs.acknowledge a).acknowledge b = hs.acknowledge (a || b) := by
  simp [acknowledge, Bool.or_assoc]

namespace TorControl

/-! ### Host calls and socket events -/

/-- `connect(address, port)`, with the outcome of `connectToHost`. -/
def connect (s : TorControl) (address : Bytes) (port : Nat) (connected : Bool) : TorControl :=
  if s.mStatus.toInt > Status.Connecting.toInt then s
  else
    let s := ({ s with mTorAddress := address, mControlPort := port } : TorControl).setTorStatus
      .TorUnknown
    let s := { s with mSocket := if s.mSocket.running then s.mSocket.fullstop else s.mSocket }
    let s := s.setStatus .Connecting
    let s := { s with mSocket := s.mSocket.connectToHost address connected }
    if connected then (s.setStatus .SocketConnected).setTorStatus .TorOffline else s

/-- `reconnect()`, with the outcome of `connectToHost`, which it does not read. -/
def reconnect (s : TorControl) (connected : Bool) : TorControl :=
  if s.mTorAddress = [] ∨ s.mControlPort = 0 ∨ s.mStatus.toInt ≥ Status.Connecting.toInt then s
  else
    let s := s.setStatus .Connecting
    { s with mSocket := s.mSocket.connectToHost s.mTorAddress connected }

/-- `socketDisconnected()`. -/
def socketDisconnected (s : TorControl) : TorControl :=
  (({ s with mTorVersion := [], mSocksAddress := [], mSocksPort := 0 } : TorControl).setTorStatus
    .TorUnknown).setStatus .NotConnected

/-- `socketError(s)`. -/
def socketError (s : TorControl) (message : Bytes) : TorControl :=
  s.setError (ascii "Connection failed: " ++ message)

/-- `setConfiguration(options)`: a `SETCONF` in reset mode. -/
def setConfiguration (s : TorControl) (options : List (Bytes × Bytes)) : TorControl :=
  s.sendCommand (.resetConf options)

/-- `getConfiguration(options)`. -/
def getConfiguration (s : TorControl) (options : Bytes) : TorControl :=
  s.sendCommand (.getConf options)

/-- `takeOwnership()`. -/
def takeOwnership (s : TorControl) : TorControl :=
  (({ s with mHasOwnership := true } : TorControl).sendCommand
    (.raw (ascii "TAKEOWNERSHIP\r\n"))).setConfiguration [(ascii "__OwningControllerProcess", [])]

/-- `shutdown()`. -/
def shutdown (s : TorControl) : TorControl :=
  if s.mHasOwnership then s.sendCommand (.raw (ascii "SIGNAL SHUTDOWN\r\n")) else s

@[simp] lemma connect_mServices (s : TorControl) (a : Bytes) (p : Nat) (c : Bool) :
    (s.connect a p c).mServices = s.mServices := by
  unfold connect; split_ifs <;> simp

lemma connect_mStatus (s : TorControl) (a : Bytes) (p : Nat) (c : Bool) :
    (s.connect a p c).mStatus = s.mStatus ∨
      (s.connect a p c).mStatus ≠ .HiddenServiceReady := by
  unfold connect; split_ifs <;> simp

@[simp] lemma reconnect_mServices (s : TorControl) (c : Bool) :
    (s.reconnect c).mServices = s.mServices := by
  unfold reconnect; split_ifs <;> simp

lemma reconnect_mStatus (s : TorControl) (c : Bool) :
    (s.reconnect c).mStatus = s.mStatus ∨ (s.reconnect c).mStatus ≠ .HiddenServiceReady := by
  unfold reconnect; split_ifs <;> simp

@[simp] lemma shutdown_mStatus (s : TorControl) : s.shutdown.mStatus = s.mStatus := by
  unfold shutdown; split <;> rfl

@[simp] lemma shutdown_mServices (s : TorControl) : s.shutdown.mServices = s.mServices := by
  unfold shutdown; split <;> rfl

/-! ### Replies -/

/-- The finished callback of a command, run on its parsed reply after it left the queue;
the success callbacks of `ADD_ONION` and `SETCONF` run on a successful reply, the first
after the command wrote its results back into the service. -/
def finishCommand (fs : FileSystem) (s : TorControl) (reply : Reply) :
    TorControlCommand → Option TorControl
  | .protocolInfo => some (protocolInfoReply fs s reply)
  | .authenticate _ => authenticateReply fs s reply
  | .getTorInfo => getTorInfoReply s reply
  | .addOnion i => some (if reply.successful then
      ({ s with mServices := s.mServices.modify (HiddenService.addOnionReply reply) i } :
        TorControl).checkHiddenService i
    else s)
  | .setConf _ (some i) => some (if reply.successful then s.checkHiddenService i else s)
  | .setConf _ none | .getConf _ | .resetConf _ | .saveConfig | .raw _ => some s

/-- The final reply to the command at the front of the queue: the command leaves the queue
and its finished callback runs. -/
def finishFront (fs : FileSystem) (s : TorControl) (reply : Reply) : Option TorControl :=
  match s.mSocket.commandQueue with
  | c :: rest =>
    finishCommand fs { s with mSocket := { s.mSocket with commandQueue := rest } } reply c
  | [] => some s

/-- Modelled from the spec: the error with which a broken connection resolves a command in
flight, an unsuccessful reply with the socket's message and no values. -/
def cancelledReply (message : Bytes) : Reply :=
  ⟨false, message, ⟨false, false, false⟩, [], [], fun _ => []⟩

/-- Modelled from the spec: a broken connection cancels the `n` commands in flight by
resolving each in turn, from the front of the queue, with `reply`. Callbacks only append to
the queue, so these are the commands that were in it. -/
def cancelCommands (fs : FileSystem) (reply : Reply) : Nat → TorControl → Option TorControl
  | 0, s => some s
  | n + 1, s => (finishFront fs s reply).bind (cancelCommands fs reply n)

/-- The keyword of an asynchronous event line: its first space-separated token. -/
def eventKeyword (data : Bytes) : Bytes := data.takeWhile (· ≠ byte ' ')

end TorControl

/-- What the controller is given: a host call, a socket event, the cancellation of the
commands in flight, a reply line or final reply of the command at the front of the queue, or
an asynchronous `650` line. -/
inductive Input
  | connect (address : Bytes) (port : Nat) (connected : Bool)
  | reconnect (connected : Bool)
  | authenticate
  | setAuthPassword (password : Bytes)
  | addHiddenService (service : HiddenService)
  | takeOwnership
  | getConfiguration (options : Bytes)
  | setConfiguration (options : List (Bytes × Bytes))
  | saveConfiguration
  | shutdown
  | socketDisconnected
  | socketError (message : Bytes)
  | cancelCommands (message : Bytes)
  | replyLine (data : Bytes)
  | finished (reply : Reply)
  | event (data : Bytes)

/-- Whether an input may come in state `s`. -/
def Input.allowed (s : TorControl) : Input → Bool
  | .authenticate => s.mStatus = .SocketConnected
  | .reconnect _ => s.mTorAddress ≠ [] ∧ s.mControlPort ≠ 0
  | .replyLine _ | .finished _ => s.mSocket.commandQueue ≠ []
  | _ => true

namespace TorControl

/-- One step of the controller; `none` is undefined behaviour of the code. -/
def step (fs : FileSystem) (s : TorControl) : Input → Option TorControl
  | .connect address port connected => some (s.connect address port connected)
  | .reconnect connected => some (s.reconnect connected)
  | .authenticate => some s.authenticate
  | .setAuthPassword password => some { s with mAuthPassword := password }
  | .addHiddenService service => some { s with mServices := s.mServices ++ [service] }
  | .takeOwnership => some s.takeOwnership
  | .getConfiguration options => some (s.getConfiguration options)
  | .setConfiguration options => some (s.setConfiguration options)
  | .saveConfiguration => some s.saveConfiguration
  | .shutdown => some s.shutdown
  | .socketDisconnected => some s.socketDisconnected
  | .socketError message => some (s.socketError message)
  | .cancelCommands message =>
    cancelCommands fs (cancelledReply message) s.mSocket.commandQueue.length s
  | .replyLine data =>
    match s.mSocket.commandQueue with
    | c :: _ => if c.hasReplyLine then s.statusEvent data else some s
    | [] => some s
  | .finished reply => finishFront fs s reply
  | .event data =>
    if eventKeyword data ∈ s.mSocket.eventCommands then s.statusEvent data else some s

/-! ### What a step does to the status and the services -/

/-- What a completion may do to the status and the services: keep the status, or set
`Error` or `Authenticated`, or enter `HiddenServiceReady` with a service Online; keep the
services, or acknowledge one of them. -/
def CompletionEffect (s s' : TorControl) : Prop :=
  (s'.mStatus = s.mStatus ∨ s'.mStatus = .Error ∨ s'.mStatus = .Authenticated ∨
      s'.mStatus = .HiddenServiceReady ∧ SomeServiceOnline s') ∧
    (s'.mServices = s.mServices ∨
      ∃ j newKey, s'.mServices = s.mServices.modify (HiddenService.acknowledge newKey) j)

lemma CompletionEffect.refl (s : TorControl) : CompletionEffect s s := ⟨.inl rfl, .inl rfl⟩

/-- The acknowledgement of a service, after a write-back that keeps the status. -/
lemma CompletionEffect.ack {s t : TorControl} (j : Nat) (newKey : Bool)
    (hst : t.mStatus = s.mStatus)
    (hs : (t.checkHiddenService j).mServices =
      s.mServices.modify (HiddenService.acknowledge newKey) j) :
    CompletionEffect s (t.checkHiddenService j) := by
  refine ⟨?_, .inr ⟨j, newKey, hs⟩⟩
  rcases checkHiddenService_mStatus t j with h | h
  · exact .inl (h.trans hst)
  · exact .inr (.inr (.inr h))

/-- Every finished callback has a completion's effect. -/
lemma finishCommand_effect {fs : FileSystem} {s s' : TorControl} {reply : Reply}
    {c : TorControlCommand} (h : finishCommand fs s reply c = some s') : CompletionEffect s s' := by
  cases c with
  | protocolInfo =>
    cases h
    obtain ⟨h1, h2⟩ := protocolInfoReply_frame fs s reply
    exact ⟨h2.imp_right .inl, .inl h1⟩
  | authenticate =>
    obtain ⟨h1, h2⟩ := authenticateReply_frame h
    exact ⟨.inr (h2.imp_right .inl), .inl h1⟩
  | getTorInfo =>
    obtain ⟨h1, h2⟩ := getTorInfoReply_frame h
    exact ⟨.inl h1, .inl h2⟩
  | addOnion j =>
    cases h; split
    · exact .ack j (!(reply.get (ascii "PrivateKey")).isEmpty) rfl
        (by simp [List.modify_modify_eq, HiddenService.servicePublished_comp_addOnionReply])
    · exact .refl s
  | setConf _ cb =>
    cases cb with
    | none => cases h; exact .refl s
    | some j =>
      cases h; split
      · exact .ack j false rfl (by simp [HiddenService.servicePublished_eq_acknowledge])
      · exact .refl s
  | getConf | resetConf | saveConfig | raw => cases h; exact .refl s

lemma finishFront_effect {fs : FileSystem} {s s' : TorControl} {reply : Reply}
    (h : finishFront fs s reply = some s') : CompletionEffect s s' := by
  unfold finishFront at h
  split at h
  · have e := finishCommand_effect h; exact e
  · cases h; exact .refl s

/-- On an unsuccessful reply a finished callback keeps the services, and keeps the status or
sets `Error`. -/
lemma finishCommand_unsuccessful {fs : FileSystem} {s s' : TorControl} {reply : Reply}
    {c : TorControlCommand} (hr : reply.successful = false)
    (h : finishCommand fs s reply c = some s') :
    s'.mServices = s.mServices ∧ (s'.mStatus = s.mStatus ∨ s'.mStatus = .Error) := by
  cases c with
  | protocolInfo => cases h; exact (protocolInfoReply_frame fs s reply).imp_right id
  | authenticate =>
    replace h : authenticateReply fs s reply = some s' := h
    simp only [authenticateReply, hr, Bool.not_false, if_true, Option.some.injEq] at h
    subst h; simp
  | getTorInfo => obtain ⟨h1, h2⟩ := getTorInfoReply_frame h; exact ⟨h2, .inl h1⟩
  | addOnion => cases h; simp [hr]
  | setConf _ cb => cases cb <;> cases h <;> simp [hr]
  | getConf | resetConf | saveConfig | raw => cases h; exact ⟨rfl, .inl rfl⟩

/-- What every final reply keeps, a cancellation keeps. -/
lemma cancelCommands_induction {fs : FileSystem} {reply : Reply} (P : TorControl → Prop)
    (hP : ∀ {t t'}, P t → finishFront fs t reply = some t' → P t')
    {n : Nat} {s s' : TorControl} (hs : P s) (h : cancelCommands fs reply n s = some s') : P s' := by
  induction n generalizing s with
  | zero => cases h; exact hs
  | succ n ih =>
    obtain ⟨t, ht, hr⟩ := Option.bind_eq_some.mp h
    exact ih (hP hs ht) hr

/-- A cancellation keeps the services, and keeps the status or sets `Error`. -/
lemma cancelCommands_effect {fs : FileSystem} {message : Bytes} {n : Nat} {s s' : TorControl}
    (h : cancelCommands fs (cancelledReply message) n s = some s') :
    s'.mServices = s.mServices ∧ (s'.mStatus = s.mStatus ∨ s'.mStatus = .Error) := by
  refine cancelCommands_induction
    (fun t => t.mServices = s.mServices ∧ (t.mStatus = s.mStatus ∨ t.mStatus = .Error))
    (fun {t t'} ht h => ?_) ⟨rfl, .inl rfl⟩ h
  have e : t'.mServices = t.mServices ∧ (t'.mStatus = t.mStatus ∨ t'.mStatus = .Error) := by
    unfold finishFront at h
    split at h
    · have e := finishCommand_unsuccessful rfl h; exact e
    · cases h; exact ⟨rfl, .inl rfl⟩
  exact ⟨e.1.trans ht.1, e.2.elim (fun e2 => e2 ▸ ht.2) .inr⟩

/-- What any step may do: keep the status, or leave it out of `HiddenServiceReady`, or
have a service Online; keep the services, add one, or acknowledge one. -/
def StepEffect (s s' : TorControl) : Prop :=
  (s'.mStatus = s.mStatus ∨ s'.mStatus ≠ .HiddenServiceReady ∨ SomeServiceOnline s') ∧
    (s'.mServices = s.mServices ∨ (∃ hs, s'.mServices = s.mServices ++ [hs]) ∨
      ∃ j newKey, s'.mServices = s.mServices.modify (HiddenService.acknowledge newKey) j)

lemma CompletionEffect.step {s s' : TorControl} (h : CompletionEffect s s') : StepEffect s s' := by
  refine ⟨?_, h.2.imp_right .inr⟩
  rcases h.1 with h1 | h1 | h1 | ⟨-, h1⟩
  · exact .inl h1
  · exact .inr (.inl (by simp [h1]))
  · exact .inr (.inl (by simp [h1]))
  · exact .inr (.inr h1)

lemma StepEffect.of_status {s s' : TorControl}
    (h : s'.mStatus = s.mStatus ∨ s'.mStatus ≠ .HiddenServiceReady)
    (hs : s'.mServices = s.mServices) : StepEffect s s' :=
  ⟨h.imp_right .inl, .inl hs⟩

/-- A step changes the status and the services only as `StepEffect` allows. -/
lemma step_effect {fs : FileSystem} {s s' : TorControl} {i : Input} (h : step fs s i = some s') :
    StepEffect s s' := by
  have frame : ∀ {data}, statusEvent s data = some s' → StepEffect s s' := fun h => by
    have e := statusEvent_frame h
    exact .of_status (.inl (by rw [e])) (by rw [e])
  cases i with
  | connect a p c => cases h; exact .of_status (connect_mStatus s a p c) (by simp)
  | reconnect c => cases h; exact .of_status (reconnect_mStatus s c) (by simp)
  | addHiddenService hs => cases h; exact ⟨.inl rfl, .inr (.inl ⟨hs, rfl⟩)⟩
  | authenticate | socketDisconnected | socketError _ =>
    cases h
    exact .of_status (.inr (by simp [authenticate, socketDisconnected, socketError]))
      (by simp [authenticate, socketDisconnected, socketError])
  | setAuthPassword _ | takeOwnership | getConfiguration _ | setConfiguration _ | saveConfiguration
  | shutdown =>
    cases h
    exact .of_status (.inl (by simp [takeOwnership, getConfiguration, setConfiguration]))
      (by simp [takeOwnership, getConfiguration, setConfiguration])
  | cancelCommands _ =>
    obtain ⟨h1, h2⟩ := cancelCommands_effect h
    exact .of_status (h2.imp_right fun e => by simp [e]) h1
  | replyLine data =>
    simp only [step] at h
    split at h
    · split at h
      · exact frame h
      · cases h; exact .of_status (.inl rfl) rfl
    · cases h; exact .of_status (.inl rfl) rfl
  | finished reply => exact (finishFront_effect h).step
  | event data =>
    simp only [step] at h
    split at h
    · exact frame h
    · cases h; exact .of_status (.inl rfl) rfl

/-- A run with the file system `fs`: `none` when an input is not allowed where it comes or
a step is undefined. -/
def run (fs : FileSystem) : TorControl → List Input → Option TorControl
  | s, [] => some s
  | s, i :: is => if i.allowed s then (step fs s i).bind (run fs · is) else none

/-- The states the controller reaches from its construction; the file system may differ
from step to step. -/
inductive Reachable : TorControl → Prop
  | init : Reachable init
  | step {s s' : TorControl} (fs : FileSystem) (i : Input) :
      Reachable s → i.allowed s → step fs s i = some s' → Reachable s'

/-- The state a run reaches from a reachable state is reachable. -/
lemma Reachable.run {s s' : TorControl} {fs : FileSystem} {is : List Input} (hs : Reachable s)
    (h : run fs s is = some s') : Reachable s' := by
  induction is generalizing s with
  | nil => cases h; exact hs
  | cons i is ih =>
    simp only [TorControl.run] at h
    split at h
    · obtain ⟨t, ht, hr⟩ := Option.bind_eq_some.mp h
      exact ih (hs.step fs i ‹_› ht) hr
    · cases h

end TorControl

end Tor

end RetroShareTor

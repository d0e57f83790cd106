import RetroShareTor.Tor.TorControl.StatusLaw

/-!
# Invariants of the controller's runs

What holds along every run of the controller, whatever the host calls, the replies, the
events and the file system.

The command queue is first in, first out: commands join its end, and each final reply
answers the command at its front. Ownership of Tor is never given up, and the two commands
that need it, `SIGNAL SHUTDOWN` and the `GETINFO` that saves the torrc, are sent only by an
owner (`commandQueue_run`). A broken connection resolves every command in flight with an
error and leaves the queue empty (`cancelCommands_clears_queue`); with a `GETINFO` in flight
it is undefined, since `getTorInfoReply` takes the front of the values an error reply lacks.

While `Authenticating`, a `PROTOCOLINFO` or an `AUTHENTICATE` is awaiting its reply
(`Reachable.authenticating_pending`). Outside `Error` the error message is empty: only
`setError` sets it, and `setStatus` clears it on leaving `Error`
(`Reachable.errorMessage_empty`). Hidden services are never removed, reordered or
reconfigured; Tor's acknowledgement, which makes a service Online and loads the private key
Tor created for it, is their only change (`services_run`). A controller that reports
connectivity, or is authenticated, has registered for the `STATUS_CLIENT` events: only a
successful `AUTHENTICATE` reply leads there, and it registers them first
(`Reachable.subscribed`).
-/

namespace RetroShareTor

namespace Tor

/-- Whether only the owner of Tor sends a command: `SIGNAL SHUTDOWN` of `shutdown()` and the
`GETINFO` of `saveConfiguration()`. -/
def TorControlCommand.needsOwnership : TorControlCommand → Bool
  | .saveConfig => true
  | .raw line => line = ascii "SIGNAL SHUTDOWN\r\n"
  | _ => false

/-- Whether a command is a step of the authentication: `PROTOCOLINFO` or `AUTHENTICATE`. -/
def TorControlCommand.isAuthentication : TorControlCommand → Bool
  | .protocolInfo | .authenticate _ => true
  | _ => false

/-- Whether only a successful authentication sends a command: the `GETINFO` of
`getTorInfo()` and the `ADD_ONION` and `SETCONF` of `publishServices()`. -/
def TorControlCommand.followsAuthentication : TorControlCommand → Bool
  | .getTorInfo | .addOnion _ | .setConf _ _ => true
  | _ => false

/-- Whether an input is the final reply to the command at the front of the queue. -/
def Input.isFinished : Input → Bool
  | .finished _ => true
  | _ => false

/-- Whether an input is the cancellation of the commands in flight. -/
def Input.cancels : Input → Bool
  | .cancelCommands _ => true
  | _ => false

namespace TorControl

/-! ### The setters' other fields -/

@[simp] lemma setStatus_mSocket (s : TorControl) (n : Status) :
    (s.setStatus n).mSocket = s.mSocket := by
  unfold setStatus; split <;> rfl

@[simp] lemma setStatus_mHasOwnership (s : TorControl) (n : Status) :
    (s.setStatus n).mHasOwnership = s.mHasOwnership := by
  unfold setStatus; split <;> rfl

@[simp] lemma setStatus_mTorVersion (s : TorControl) (n : Status) :
    (s.setStatus n).mTorVersion = s.mTorVersion := by
  unfold setStatus; split <;> rfl

@[simp] lemma setError_mSocket (s : TorControl) (m : Bytes) : (s.setError m).mSocket = s.mSocket := by
  simp [setError]

@[simp] lemma setError_mHasOwnership (s : TorControl) (m : Bytes) :
    (s.setError m).mHasOwnership = s.mHasOwnership := by
  simp [setError]

@[simp] lemma setTorStatus_mSocket (s : TorControl) (n : TorStatus) :
    (s.setTorStatus n).mSocket = s.mSocket := by
  rw [setTorStatus_eq]

@[simp] lemma setTorStatus_mHasOwnership (s : TorControl) (n : TorStatus) :
    (s.setTorStatus n).mHasOwnership = s.mHasOwnership := by
  rw [setTorStatus_eq]

@[simp] lemma setTorStatus_mErrorMessage (s : TorControl) (n : TorStatus) :
    (s.setTorStatus n).mErrorMessage = s.mErrorMessage := by
  rw [setTorStatus_eq]

lemma setStatus_mErrorMessage (s : TorControl) (n : Status) :
    (s.setStatus n).mErrorMessage =
      if n ≠ s.mStatus ∧ s.mStatus = .Error then [] else s.mErrorMessage := by
  unfold setStatus; split <;> simp_all

@[simp] lemma registerEvent_commandQueue (s : TorControl) (k : Bytes) :
    (s.registerEvent k).mSocket.commandQueue = s.mSocket.commandQueue := by
  unfold registerEvent; split <;> rfl

@[simp] lemma registerEvent_mHasOwnership (s : TorControl) (k : Bytes) :
    (s.registerEvent k).mHasOwnership = s.mHasOwnership := by
  unfold registerEvent; split <;> rfl

@[simp] lemma registerEvent_mTorVersion (s : TorControl) (k : Bytes) :
    (s.registerEvent k).mTorVersion = s.mTorVersion := by
  unfold registerEvent; split <;> rfl

@[simp] lemma registerEvent_mErrorMessage (s : TorControl) (k : Bytes) :
    (s.registerEvent k).mErrorMessage = s.mErrorMessage := by
  unfold registerEvent; split <;> rfl

@[simp] lemma setStatus_mSocksAddress (s : TorControl) (n : Status) :
    (s.setStatus n).mSocksAddress = s.mSocksAddress := by
  unfold setStatus; split <;> rfl

@[simp] lemma setError_mSocksAddress (s : TorControl) (m : Bytes) :
    (s.setError m).mSocksAddress = s.mSocksAddress := by
  simp [setError]

@[simp] lemma setTorStatus_mSocksAddress (s : TorControl) (n : TorStatus) :
    (s.setTorStatus n).mSocksAddress = s.mSocksAddress := by
  rw [setTorStatus_eq]

@[simp] lemma registerEvent_mSocksAddress (s : TorControl) (k : Bytes) :
    (s.registerEvent k).mSocksAddress = s.mSocksAddress := by
  unfold registerEvent; split <;> rfl

lemma mem_registerEvent (s : TorControl) (k : Bytes) : k ∈ (s.registerEvent k).mSocket.eventCommands := by
  unfold registerEvent; split <;> simp_all

@[simp] lemma sendCommand_mSocket (s : TorControl) (c : TorControlCommand) :
    (s.sendCommand c).mSocket = { s.mSocket with commandQueue := s.mSocket.commandQueue ++ [c] } :=
  rfl

@[simp] lemma sendCommand_mSocksAddress (s : TorControl) (c : TorControlCommand) :
    (s.sendCommand c).mSocksAddress = s.mSocksAddress := rfl

/-! ### What the callbacks send -/

/-- What a host call or a callback may do to the queue and the ownership: append commands,
those that need ownership only when the state it leaves owns Tor, and keep the ownership. -/
def Sends (s s' : TorControl) : Prop :=
  ∃ sent, s'.mSocket.commandQueue = s.mSocket.commandQueue ++ sent ∧
    (∀ c ∈ sent, c.needsOwnership = true → s'.mHasOwnership = true) ∧
    (s.mHasOwnership = true → s'.mHasOwnership = true)

section Sends

variable {s t u : TorControl}

lemma Sends.of_eq (h₁ : t.mSocket.commandQueue = s.mSocket.commandQueue)
    (h₂ : t.mHasOwnership = s.mHasOwnership) : Sends s t :=
  ⟨[], by simp [h₁], by simp, fun h => h₂ ▸ h⟩

lemma Sends.refl (s : TorControl) : Sends s s := .of_eq rfl rfl

lemma Sends.trans (h₁ : Sends s t) (h₂ : Sends t u) : Sends s u := by
  obtain ⟨a, ha, ho, hk⟩ := h₁
  obtain ⟨b, hb, ho', hk'⟩ := h₂
  refine ⟨a ++ b, by rw [hb, ha, List.append_assoc], ?_, hk' ∘ hk⟩
  intro c hc hn
  rcases List.mem_append.mp hc with hc | hc
  exacts [hk' (ho c hc hn), ho' c hc hn]

lemma Sends.sendCommand (s : TorControl) {c : TorControlCommand}
    (hc : c.needsOwnership = false) : Sends s (s.sendCommand c) :=
  ⟨[c], rfl, by simp [hc], id⟩

end Sends

lemma sends_connect (s : TorControl) (a : Bytes) (p : Nat) (c : Bool) :
    Sends s (s.connect a p c) := by
  unfold connect TorControlSocket.connectToHost TorControlSocket.fullstop
  split_ifs <;> exact .of_eq (by simp [apply_ite]) (by simp)

lemma sends_reconnect (s : TorControl) (c : Bool) : Sends s (s.reconnect c) := by
  unfold reconnect TorControlSocket.connectToHost
  split_ifs <;> exact .of_eq (by simp [apply_ite]) (by simp)

lemma sends_saveConfiguration (s : TorControl) : Sends s s.saveConfiguration := by
  unfold saveConfiguration
  split
  next h => exact ⟨[.saveConfig], rfl, fun _ _ _ => h, id⟩
  next => exact .refl s

lemma sends_shutdown (s : TorControl) : Sends s s.shutdown := by
  unfold shutdown
  split
  next h => exact ⟨[_], rfl, fun _ _ _ => h, id⟩
  next => exact .refl s

lemma sends_takeOwnership (s : TorControl) : Sends s s.takeOwnership :=
  ⟨[.raw (ascii "TAKEOWNERSHIP\r\n"), .resetConf [(ascii "__OwningControllerProcess", [])]],
    by simp [takeOwnership, setConfiguration, sendCommand], fun _ _ _ => rfl, fun _ => rfl⟩

lemma sends_protocolInfoReply (fs : FileSystem) (s : TorControl) (reply : Reply) :
    Sends s (protocolInfoReply fs s reply) := by
  dsimp only [protocolInfoReply]
  split
  · split
    · exact Sends.sendCommand _ rfl
    · exact .of_eq (by simp) (by simp)
  · exact .of_eq rfl rfl

/-- Publishing sends `ADD_ONION` and `SETCONF` commands only. -/
lemma publishServices_sendCommands {fs : FileSystem} {s s' : TorControl}
    (h : publishServices fs s = some s') :
    ∃ cs, s' = s.sendCommands cs ∧ ∀ c ∈ cs, c.needsOwnership = false := by
  unfold publishServices at h
  split at h
  · cases h; exact ⟨[], rfl, by simp⟩
  · split at h
    · cases h
    · cases h; exact ⟨_, rfl, by simp [TorControlCommand.needsOwnership]⟩
    · cases h
      split
      · exact ⟨[], rfl, by simp⟩
      · exact ⟨[_], rfl, by simp [TorControlCommand.needsOwnership]⟩

lemma sends_publishServices {fs : FileSystem} {s s' : TorControl}
    (h : publishServices fs s = some s') : Sends s s' := by
  obtain ⟨cs, rfl, hcs⟩ := publishServices_sendCommands h
  exact ⟨cs, by simp, fun c hc hn => absurd hn (by simp [hcs c hc]), by simp⟩

lemma sends_authenticateReply {fs : FileSystem} {s s' : TorControl} {reply : Reply}
    (h : authenticateReply fs s reply = some s') : Sends s s' := by
  unfold authenticateReply at h
  split at h
  · cases h; exact .of_eq (by simp) (by simp)
  · obtain ⟨t, ht, rfl⟩ := Option.map_eq_some'.mp h
    have hpre : Sends s ((s.setStatus .Authenticated).registerEvent (ascii "STATUS_CLIENT")).getTorInfo :=
      Sends.trans (.of_eq (by simp) (by simp)) (Sends.sendCommand _ rfl)
    refine (hpre.trans (sends_publishServices ht)).trans ?_
    split
    · exact sends_saveConfiguration t
    · exact .refl t

lemma sends_checkHiddenService (s : TorControl) (i : Nat) : Sends s (s.checkHiddenService i) := by
  dsimp only [checkHiddenService]
  split
  · split
    · exact .of_eq (by simp) (by simp)
    · exact .of_eq rfl rfl
  · exact .of_eq rfl rfl

lemma sends_getTorInfoReply {s s' : TorControl} {reply : Reply}
    (h : getTorInfoReply s reply = some s') : Sends s s' := by
  rw [getTorInfoReply_eq h]
  exact .of_eq rfl rfl

/-- Every completion only sends. -/
lemma sends_finishCommand {fs : FileSystem} {s s' : TorControl} {reply : Reply}
    {c : TorControlCommand} (h : finishCommand fs s reply c = some s') : Sends s s' := by
  cases c with
  | protocolInfo => cases h; exact sends_protocolInfoReply fs s reply
  | authenticate => exact sends_authenticateReply h
  | getTorInfo => exact sends_getTorInfoReply h
  | addOnion j =>
    cases h; split; exacts [(Sends.of_eq rfl rfl).trans (sends_checkHiddenService _ j), .refl s]
  | setConf _ cb =>
    cases cb with
    | none => cases h; exact .refl s
    | some j => cases h; split; exacts [sends_checkHiddenService s j, .refl s]
  | getConf | resetConf | saveConfig | raw => cases h; exact .refl s

lemma sends_statusEvent {s s' : TorControl} {data : Bytes} (h : statusEvent s data = some s') :
    Sends s s' := by
  rw [statusEvent_frame h]
  exact .of_eq rfl rfl

/-! ### The command queue -/

/-- `n` commands answered: the queue before followed by the commands sent is the commands
answered followed by the queue after; the commands that need ownership are sent only when
the state reached owns Tor, and ownership is kept. -/
def Answers (s s' : TorControl) (n : Nat) : Prop :=
  ∃ answered sent, s.mSocket.commandQueue ++ sent = answered ++ s'.mSocket.commandQueue ∧
    answered.length = n ∧ (∀ c ∈ sent, c.needsOwnership = true → s'.mHasOwnership = true) ∧
    (s.mHasOwnership = true → s'.mHasOwnership = true)

section Answers

variable {s t u : TorControl}

lemma Sends.answers (h : Sends s t) : Answers s t 0 := by
  obtain ⟨sent, hq, ho, hk⟩ := h
  exact ⟨[], sent, by rw [hq, List.nil_append], rfl, ho, hk⟩

/-- A completion answers the command it was popped from the front of the queue for. -/
lemma Sends.answers_front {c : TorControlCommand} {rest : List TorControlCommand}
    (hq : s.mSocket.commandQueue = c :: rest)
    (h : Sends { s with mSocket := { s.mSocket with commandQueue := rest } } t) :
    Answers s t 1 := by
  obtain ⟨sent, hq', ho, hk⟩ := h
  exact ⟨[c], sent, by rw [hq, hq']; rfl, rfl, ho, hk⟩

lemma Answers.trans {m n : Nat} (h₁ : Answers s t m) (h₂ : Answers t u n) :
    Answers s u (m + n) := by
  obtain ⟨a, x, hq, ha, ho, hk⟩ := h₁
  obtain ⟨b, y, hq', hb, ho', hk'⟩ := h₂
  refine ⟨a ++ b, x ++ y, ?_, by simp [ha, hb], ?_, hk' ∘ hk⟩
  · rw [← List.append_assoc, hq, List.append_assoc, hq', List.append_assoc]
  · intro c hc hn
    rcases List.mem_append.mp hc with hc | hc
    exacts [hk' (ho c hc hn), ho' c hc hn]

lemma Answers.length_le {n : Nat} (h : Answers s t n) :
    s.mSocket.commandQueue.length ≤ n + t.mSocket.commandQueue.length := by
  obtain ⟨a, x, hq, ha, -⟩ := h
  have := congrArg List.length hq
  simp only [List.length_append] at this
  omega

end Answers

/-- A final reply answers the command at the front of the queue. -/
lemma finishFront_answers {fs : FileSystem} {s s' : TorControl} {reply : Reply}
    (hq : s.mSocket.commandQueue ≠ []) (h : finishFront fs s reply = some s') :
    Answers s s' 1 := by
  obtain ⟨c, rest, hc⟩ := List.exists_cons_of_ne_nil hq
  simp only [finishFront, hc] at h
  exact Sends.answers_front hc (sends_finishCommand h)

/-- A cancellation answers every command in flight. -/
lemma cancelCommands_answers {fs : FileSystem} {reply : Reply} {n : Nat} {s s' : TorControl}
    (hn : n ≤ s.mSocket.commandQueue.length) (h : cancelCommands fs reply n s = some s') :
    Answers s s' n := by
  induction n generalizing s with
  | zero => cases h; exact (Sends.refl _).answers
  | succ n ih =>
    obtain ⟨t, ht, hr⟩ := Option.bind_eq_some.mp h
    have h₁ := finishFront_answers (List.ne_nil_of_length_pos (by omega)) ht
    have hlen := h₁.length_le
    rw [Nat.add_comm]
    exact h₁.trans (ih (by omega) hr)

/-- One allowed step answers the command at the front of the queue when it is a final
reply, every command in flight when it is a cancellation, and otherwise none. -/
lemma step_answers {fs : FileSystem} {s s' : TorControl} {i : Input} (ha : i.allowed s)
    (h : step fs s i = some s') :
    Answers s s' (if i.isFinished then 1 else if i.cancels then s.mSocket.commandQueue.length
      else 0) := by
  cases i with
  | finished reply => exact finishFront_answers (by simpa [Input.allowed] using ha) h
  | cancelCommands _ => exact cancelCommands_answers le_rfl h
  | replyLine data =>
    simp only [step] at h
    split at h
    · split at h
      · exact (sends_statusEvent h).answers
      · cases h; exact (Sends.refl s).answers
    · cases h; exact (Sends.refl s).answers
  | event data =>
    simp only [step] at h
    split at h
    · exact (sends_statusEvent h).answers
    · cases h; exact (Sends.refl s).answers
  | connect a p c => cases h; exact (sends_connect s a p c).answers
  | reconnect c => cases h; exact (sends_reconnect s c).answers
  | authenticate =>
    cases h
    exact ((Sends.of_eq (by simp) (by simp)).trans
      (Sends.sendCommand (s.setStatus .Authenticating) (c := .protocolInfo) rfl)).answers
  | setAuthPassword _ | addHiddenService _ => cases h; exact (Sends.of_eq rfl rfl).answers
  | takeOwnership => cases h; exact (sends_takeOwnership s).answers
  | getConfiguration o => cases h; exact (Sends.sendCommand s (c := .getConf o) rfl).answers
  | setConfiguration o => cases h; exact (Sends.sendCommand s (c := .resetConf o) rfl).answers
  | saveConfiguration => cases h; exact (sends_saveConfiguration s).answers
  | shutdown => cases h; exact (sends_shutdown s).answers
  | socketDisconnected | socketError _ =>
    cases h; exact (Sends.of_eq (by simp [socketDisconnected, socketError])
      (by simp [socketDisconnected, socketError])).answers

/-- Resolved with the cancellation's error, a command other than `GETINFO` has its callback
run and sends nothing. -/
lemma finishCommand_cancelled (fs : FileSystem) (s : TorControl) (message : Bytes)
    {c : TorControlCommand} (hc : c ≠ .getTorInfo) :
    ∃ s', finishCommand fs s (cancelledReply message) c = some s' ∧
      s'.mSocket.commandQueue = s.mSocket.commandQueue := by
  cases c with
  | protocolInfo =>
    refine ⟨_, rfl, ?_⟩
    dsimp only [finishCommand, protocolInfoReply]
    split
    · simp [authData, cancelledReply]
    · rfl
  | authenticate => exact ⟨_, rfl, by simp [finishCommand, authenticateReply, cancelledReply]⟩
  | getTorInfo => exact absurd rfl hc
  | setConf _ cb => cases cb <;> exact ⟨_, rfl, rfl⟩
  | addOnion | getConf | resetConf | saveConfig | raw => exact ⟨_, rfl, rfl⟩

lemma cancelCommands_cancelled (fs : FileSystem) (message : Bytes) (n : Nat) {s : TorControl}
    (hg : TorControlCommand.getTorInfo ∉ s.mSocket.commandQueue) :
    ∃ s', cancelCommands fs (cancelledReply message) n s = some s' ∧
      s'.mSocket.commandQueue = s.mSocket.commandQueue.drop n := by
  induction n generalizing s with
  | zero => exact ⟨s, rfl, rfl⟩
  | succ n ih =>
    cases hq : s.mSocket.commandQueue with
    | nil =>
      obtain ⟨s', h, h'⟩ := ih hg
      refine ⟨s', ?_, by simpa [hq] using h'⟩
      simpa [cancelCommands, finishFront, hq] using h
    | cons c rest =>
      rw [hq, List.mem_cons, not_or] at hg
      obtain ⟨t, ht, htq⟩ := finishCommand_cancelled fs
        { s with mSocket := { s.mSocket with commandQueue := rest } } message (Ne.symm hg.1)
      obtain ⟨s', h, h'⟩ := @ih t (by rw [htq]; exact hg.2)
      exact ⟨s', by simpa [cancelCommands, finishFront, hq, ht] using h, by rw [h', htq]; rfl⟩

/-- An invariant of the constructed controller that every allowed step keeps holds in every
reachable state. -/
lemma reachable_invariant (P : TorControl → Prop) (hinit : P init)
    (hstep : ∀ (fs : FileSystem) (s s' : TorControl) (i : Input), P s → i.allowed s →
      step fs s i = some s' → P s')
    {s : TorControl} (h : Reachable s) : P s := by
  induction h with
  | init => exact hinit
  | step fs i _ ha hs ih => exact hstep fs _ _ i ih ha hs

/-! #### The error message -/

/-- Outside `Error` the error message is empty. -/
def ErrorCleared (s : TorControl) : Prop := s.mStatus ≠ .Error → s.mErrorMessage = []

section ErrorCleared

variable {s : TorControl}

lemma ErrorCleared.setStatus (h : ErrorCleared s) (n : Status) : ErrorCleared (s.setStatus n) := by
  unfold TorControl.setStatus
  split
  · exact h
  · intro hn
    show (if s.mStatus = .Error then [] else s.mErrorMessage) = []
    split
    · rfl
    · exact h ‹_›

lemma errorCleared_setError (s : TorControl) (m : Bytes) : ErrorCleared (s.setError m) :=
  fun h => absurd (setError_mStatus s m) h

lemma ErrorCleared.setTorStatus (h : ErrorCleared s) (n : TorStatus) :
    ErrorCleared (s.setTorStatus n) := by
  rw [setTorStatus_eq]; exact h

lemma ErrorCleared.socket (h : ErrorCleared s) (k : TorControlSocket) :
    ErrorCleared { s with mSocket := k } := h

lemma ErrorCleared.sendCommand (h : ErrorCleared s) (c : TorControlCommand) :
    ErrorCleared (s.sendCommand c) := h

lemma ErrorCleared.registerEvent (h : ErrorCleared s) (k : Bytes) :
    ErrorCleared (s.registerEvent k) := by
  unfold TorControl.registerEvent; split <;> exact h

lemma ErrorCleared.publishServices {fs : FileSystem} {s' : TorControl} (h : ErrorCleared s)
    (hp : publishServices fs s = some s') : ErrorCleared s' := by
  obtain ⟨cs, rfl, -⟩ := publishServices_sendCommands hp
  rw [sendCommands_eq]; exact h

end ErrorCleared

lemma errorCleared_finishCommand {fs : FileSystem} {s s' : TorControl} {reply : Reply}
    {c : TorControlCommand} (hs : ErrorCleared s) (h : finishCommand fs s reply c = some s') :
    ErrorCleared s' := by
  have ack : ∀ {t : TorControl} (j : Nat), ErrorCleared t →
      ErrorCleared (t.checkHiddenService j) := fun j ht => by
      dsimp only [checkHiddenService]
      split
      · split
        · apply ErrorCleared.setStatus; exact ht
        · exact ht
      · exact ht
  cases c with
  | protocolInfo =>
    cases h
    dsimp only [protocolInfoReply]
    split
    · split
      · exact hs
      · exact errorCleared_setError _ _
    · exact hs
  | authenticate =>
    replace h : authenticateReply fs s reply = some s' := h
    unfold authenticateReply at h
    split at h
    · cases h; exact errorCleared_setError _ _
    · obtain ⟨t, ht, rfl⟩ := Option.map_eq_some'.mp h
      have h' := (((hs.setStatus .Authenticated).registerEvent _).sendCommand _).publishServices ht
      split
      · unfold saveConfiguration; split <;> exact h'
      · exact h'
  | getTorInfo => rw [getTorInfoReply_eq h]; exact hs
  | addOnion j => cases h; split; exacts [ack j hs, hs]
  | setConf _ cb =>
    cases cb with
    | none => cases h; exact hs
    | some j => cases h; split; exacts [ack j hs, hs]
  | getConf | resetConf | saveConfig | raw => cases h; exact hs

lemma errorCleared_finishFront {fs : FileSystem} {s s' : TorControl} {reply : Reply}
    (hs : ErrorCleared s) (h : finishFront fs s reply = some s') : ErrorCleared s' := by
  unfold finishFront at h
  split at h
  · exact errorCleared_finishCommand (hs.socket _) h
  · cases h; exact hs

lemma errorCleared_step {fs : FileSystem} {s s' : TorControl} {i : Input} (hs : ErrorCleared s)
    (h : step fs s i = some s') : ErrorCleared s' := by
  have event : ∀ {data}, statusEvent s data = some s' → ErrorCleared s' := fun h => by
    rw [statusEvent_frame h]; exact hs
  cases i with
  | connect a p c =>
    cases h
    unfold connect
    split_ifs
    · exact hs
    · apply ErrorCleared.setTorStatus; apply ErrorCleared.setStatus; apply ErrorCleared.socket
      apply ErrorCleared.setStatus; apply ErrorCleared.socket; apply ErrorCleared.setTorStatus
      exact hs
    · apply ErrorCleared.socket; apply ErrorCleared.setStatus; apply ErrorCleared.socket
      apply ErrorCleared.setTorStatus; exact hs
  | reconnect c =>
    cases h
    unfold reconnect
    split_ifs
    · exact hs
    · apply ErrorCleared.socket; exact hs.setStatus _
  | authenticate => cases h; exact (hs.setStatus _).sendCommand _
  | socketDisconnected =>
    cases h
    apply ErrorCleared.setStatus; apply ErrorCleared.setTorStatus; exact hs
  | socketError _ => cases h; exact errorCleared_setError _ _
  | cancelCommands _ => exact cancelCommands_induction ErrorCleared errorCleared_finishFront hs h
  | setAuthPassword _ | addHiddenService _ | takeOwnership | getConfiguration _
  | setConfiguration _ => cases h; exact hs
  | saveConfiguration => cases h; unfold saveConfiguration; split <;> exact hs
  | shutdown => cases h; unfold shutdown; split <;> exact hs
  | replyLine data =>
    simp only [step] at h
    split at h
    · split at h
      · exact event h
      · cases h; exact hs
    · cases h; exact hs
  | finished reply => exact errorCleared_finishFront hs h
  | event data =>
    simp only [step] at h
    split at h
    · exact event h
    · cases h; exact hs

/-- In every reachable state outside `Error`, the error message is empty. -/
theorem Reachable.errorMessage_empty {s : TorControl} (h : Reachable s) (hs : s.mStatus ≠ .Error) :
    s.mErrorMessage = [] :=
  reachable_invariant ErrorCleared (fun _ => rfl)
    (fun _ _ _ _ hs _ h => errorCleared_step hs h) h hs

/-- A connection that fails and is made again: the error message is gone. -/
theorem errorMessage_empty_after_reconnect :
    ∃ s, run emptyFileSystem init [.connect (ascii "127.0.0.1") 9051 true,
        .socketError (ascii "x"), .connect (ascii "127.0.0.1") 9051 true] = some s ∧
      Reachable s ∧ s.mStatus ≠ .Error ∧ s.mErrorMessage = [] := by
  refine ⟨_, rfl, ?_⟩
  have hr := Reachable.run Reachable.init (rfl : run emptyFileSystem init
    [.connect (ascii "127.0.0.1") 9051 true, .socketError (ascii "x"),
      .connect (ascii "127.0.0.1") 9051 true] = some _)
  exact ⟨hr, by decide, Reachable.errorMessage_empty hr (by decide)⟩

/-! #### Authentication in progress -/

/-- While authenticating, a `PROTOCOLINFO` or an `AUTHENTICATE` awaits its reply. -/
def AuthenticationPending (s : TorControl) : Prop :=
  s.mStatus = .Authenticating → ∃ c ∈ s.mSocket.commandQueue, c.isAuthentication = true

section AuthenticationPending

variable {s t : TorControl}

lemma AuthenticationPending.of_ne (h : t.mStatus ≠ .Authenticating) : AuthenticationPending t :=
  fun h' => absurd h' h

/-- A step that keeps the status and only sends keeps the awaited command. -/
lemma AuthenticationPending.of_sends (h : AuthenticationPending s) (hs : Sends s t)
    (hst : t.mStatus = s.mStatus) : AuthenticationPending t := by
  intro ht
  obtain ⟨c, hc, ha⟩ := h (hst ▸ ht)
  obtain ⟨sent, hq, -⟩ := hs
  exact ⟨c, by rw [hq]; exact List.mem_append_left _ hc, ha⟩

end AuthenticationPending

lemma connect_eq_or (s : TorControl) (a : Bytes) (p : Nat) (c : Bool) :
    s.connect a p c = s ∨ (s.connect a p c).mStatus = .Connecting ∨
      (s.connect a p c).mStatus = .SocketConnected := by
  unfold connect; split_ifs <;> simp

lemma reconnect_eq_or (s : TorControl) (c : Bool) :
    s.reconnect c = s ∨ (s.reconnect c).mStatus = .Connecting := by
  unfold reconnect; split_ifs <;> simp

/-- Whatever the state, the PROTOCOLINFO reply leaves an authentication awaited: while
authenticating it sends the `AUTHENTICATE` or sets `Error`. -/
lemma protocolInfoReply_pending (fs : FileSystem) (s : TorControl) (reply : Reply) :
    AuthenticationPending (protocolInfoReply fs s reply) := by
  dsimp only [protocolInfoReply]
  split
  · split
    next data _ => exact fun _ => ⟨.authenticate data, by simp [sendCommand], rfl⟩
    next => exact .of_ne (by simp)
  · exact .of_ne ‹_›

/-- A final reply leaves an authentication awaited: the reply to one ends the
authentication, or sends the next step; the reply to another command leaves the awaited one
in the queue. -/
lemma authenticationPending_finishFront {fs : FileSystem} {s s' : TorControl} {reply : Reply}
    (hp : AuthenticationPending s) (h : finishFront fs s reply = some s') :
    AuthenticationPending s' := by
  unfold finishFront at h
  split at h
  next c rest hq =>
    cases hc : c.isAuthentication
    · -- the awaited command is behind `c`, which the reply answers
      intro hst
      have hst₀ : s.mStatus = .Authenticating := by
        rcases (finishCommand_effect h).1 with e | e | e | ⟨e, -⟩ <;> rw [hst] at e <;>
          first | exact e.symm | cases e
      obtain ⟨a, hmem, hauth⟩ := hp hst₀
      rw [hq] at hmem
      have hrest : a ∈ rest :=
        (List.mem_cons.mp hmem).resolve_left (by rintro rfl; simp [hc] at hauth)
      obtain ⟨sent, hs, -⟩ := sends_finishCommand h
      exact ⟨a, by rw [hs]; exact List.mem_append_left _ hrest, hauth⟩
    · cases c with
      | protocolInfo => cases h; exact protocolInfoReply_pending fs _ reply
      | authenticate =>
        exact .of_ne (by rcases (authenticateReply_frame h).2 with e | e <;> simp [e])
      | _ => simp [TorControlCommand.isAuthentication] at hc
  next => cases h; exact hp

lemma authenticationPending_step {fs : FileSystem} {s s' : TorControl} {i : Input}
    (hp : AuthenticationPending s) (h : step fs s i = some s') : AuthenticationPending s' := by
  have event : ∀ {data}, statusEvent s data = some s' → AuthenticationPending s' := fun h =>
    hp.of_sends (sends_statusEvent h) (by rw [statusEvent_frame h])
  cases i with
  | finished reply => exact authenticationPending_finishFront hp h
  | cancelCommands _ =>
    exact cancelCommands_induction AuthenticationPending authenticationPending_finishFront hp h
  | replyLine data =>
    simp only [step] at h
    split at h
    · split at h
      · exact event h
      · cases h; exact hp
    · cases h; exact hp
  | event data =>
    simp only [step] at h
    split at h
    · exact event h
    · cases h; exact hp
  | connect a p c =>
    cases h
    rcases connect_eq_or s a p c with e | e | e
    · rw [e]; exact hp
    all_goals exact .of_ne (by simp [e])
  | reconnect c =>
    cases h
    rcases reconnect_eq_or s c with e | e
    · rw [e]; exact hp
    · exact .of_ne (by simp [e])
  | authenticate => cases h; exact fun _ => ⟨.protocolInfo, by simp [authenticate, sendCommand], rfl⟩
  | socketDisconnected | socketError _ =>
    cases h; exact .of_ne (by simp [socketDisconnected, socketError])
  | setAuthPassword _ | addHiddenService _ => cases h; exact hp
  | takeOwnership => cases h; exact hp.of_sends (sends_takeOwnership s) rfl
  | getConfiguration o => cases h; exact hp.of_sends (Sends.sendCommand s (c := .getConf o) rfl) rfl
  | setConfiguration o =>
    cases h; exact hp.of_sends (Sends.sendCommand s (c := .resetConf o) rfl) rfl
  | saveConfiguration => cases h; exact hp.of_sends (sends_saveConfiguration s) (by simp)
  | shutdown => cases h; exact hp.of_sends (sends_shutdown s) (by simp)

/-- In every reachable state that is `Authenticating`, a `PROTOCOLINFO` or an `AUTHENTICATE`
is in the queue: the controller never waits for an authentication it has not asked for. -/
theorem Reachable.authenticating_pending {s : TorControl} (h : Reachable s)
    (hs : s.mStatus = .Authenticating) :
    ∃ c ∈ s.mSocket.commandQueue, c.isAuthentication = true :=
  reachable_invariant AuthenticationPending (fun h => nomatch h)
    (fun _ _ _ _ hp _ h => authenticationPending_step hp h) h hs

/-- A connection followed by `authenticate()`: the `PROTOCOLINFO` awaits its reply. -/
theorem authenticating_pending_protocolInfo :
    ∃ s, run emptyFileSystem init [.connect (ascii "127.0.0.1") 9051 true, .authenticate] =
        some s ∧ Reachable s ∧ s.mStatus = .Authenticating ∧
      ∃ c ∈ s.mSocket.commandQueue, c.isAuthentication = true := by
  refine ⟨_, rfl, ?_⟩
  have hr := Reachable.run Reachable.init (rfl : run emptyFileSystem init
    [.connect (ascii "127.0.0.1") 9051 true, .authenticate] = some _)
  exact ⟨hr, by decide, Reachable.authenticating_pending hr (by decide)⟩

/-! #### Hidden services -/

/-- The services of `l'` are those of `l`, each at its position as it was or acknowledged,
possibly followed by others. -/
def ServicesKept (l l' : List HiddenService) : Prop :=
  ∀ (k : Nat) (hs : HiddenService), l[k]? = some hs →
    l'[k]? = some hs ∨ ∃ newKey, l'[k]? = some (hs.acknowledge newKey)

lemma ServicesKept.trans {l₁ l₂ l₃ : List HiddenService} (h₁ : ServicesKept l₁ l₂)
    (h₂ : ServicesKept l₂ l₃) : ServicesKept l₁ l₃ := by
  intro k hs hk
  rcases h₁ k hs hk with e | ⟨a, e⟩
  · exact h₂ k hs e
  · -- a second acknowledgement can only load the key
    rcases h₂ k _ e with e' | ⟨b, e'⟩
    · exact .inr ⟨a, e'⟩
    · exact .inr ⟨a || b, by rw [e', HiddenService.acknowledge_acknowledge]⟩

lemma StepEffect.servicesKept {s s' : TorControl} (h : StepEffect s s') :
    ServicesKept s.mServices s'.mServices := by
  intro k hs hk
  rcases h.2 with e | ⟨x, e⟩ | ⟨j, newKey, e⟩
  · exact .inl (e ▸ hk)
  · rw [e, List.getElem?_append_left (List.getElem?_eq_some_iff.mp hk).1]
    exact .inl hk
  · rw [e, List.getElem?_modify, hk]
    split
    · exact .inr ⟨newKey, rfl⟩
    · exact .inl rfl

/-- A controller with one hidden service registered and not yet published. -/
def oneService : TorControl := { init with mServices := [⟨ascii "/hs", false, [], .Offline⟩] }

/-- The reply to an `ADD_ONION` that created a key: the service id and the new key. -/
def newKeyReply : Reply :=
  ⟨true, [], ⟨false, false, false⟩, [], [], fun k =>
    if k = ascii "ServiceID" then [ascii "abcdefghijklmnop"]
    else if k = ascii "PrivateKey" then [ascii "ED25519-V3:BASE64BLOB=="] else []⟩

/-- A session on Tor 0.4.8.9: null authentication, the `GETINFO` reply, and a successful
`ADD_ONION` that created the service's key. -/
def publishingSession : List Input :=
  [.connect (ascii "127.0.0.1") 9051 true, .authenticate, .finished nullAuthReply,
    .finished okReply, .finished (listenerReply (ascii "127.0.0.1:9050")), .finished newKeyReply]

/- The acknowledged service is Online with the key Tor created loaded. -/
example : (run emptyFileSystem oneService publishingSession).map (·.mServices) =
    some [⟨ascii "/hs", true, [], .Online⟩] := by
  decide

/-! #### Client status events -/

@[simp] lemma checkHiddenService_mSocket (s : TorControl) (i : Nat) :
    (s.checkHiddenService i).mSocket = s.mSocket := by
  dsimp only [checkHiddenService]; split <;> (try split) <;> simp

/-- `hasConnectivity()`. -/
def hasConnectivity (s : TorControl) : Bool :=
  decide (s.mTorStatus = .TorReady) && !s.mSocksAddress.isEmpty

/-- `statusEvent` hears the asynchronous `STATUS_CLIENT` events. -/
def Subscribed (s : TorControl) : Prop := ascii "STATUS_CLIENT" ∈ s.mSocket.eventCommands

/-- Nothing that follows a successful authentication: neither `Authenticated` nor
`HiddenServiceReady`, no SOCKS address, and no command that only a successful
authentication sends. -/
structure BeforeAuthentication (s : TorControl) : Prop where
  status : s.mStatus ≠ .Authenticated ∧ s.mStatus ≠ .HiddenServiceReady
  socks : s.mSocksAddress = []
  queue : ∀ c ∈ s.mSocket.commandQueue, c.followsAuthentication = false

/-- The controller hears `STATUS_CLIENT` events, or nothing of a successful authentication
has happened yet. -/
def Watching (s : TorControl) : Prop := Subscribed s ∨ BeforeAuthentication s

section Watching

variable {s t : TorControl}

/-- A step that keeps the registered events, sets no status of an authenticated controller,
records no SOCKS address and sends no command of one keeps watching. -/
lemma Watching.of (h : Watching s) (he : t.mSocket.eventCommands = s.mSocket.eventCommands)
    (hst : t.mStatus = s.mStatus ∨ t.mStatus ≠ .Authenticated ∧ t.mStatus ≠ .HiddenServiceReady)
    (hsocks : t.mSocksAddress = s.mSocksAddress ∨ t.mSocksAddress = [])
    (hq : ∀ c ∈ t.mSocket.commandQueue,
      c ∈ s.mSocket.commandQueue ∨ c.followsAuthentication = false) : Watching t := by
  rcases h with h | h
  · exact .inl (show _ ∈ _ by rw [he]; exact h)
  · refine .inr ⟨hst.elim (· ▸ h.status) id, hsocks.elim (· ▸ h.socks) id, fun c hc => ?_⟩
    exact (hq c hc).elim (h.queue c) id

lemma Watching.of_sends (h : Watching s) (he : t.mSocket.eventCommands = s.mSocket.eventCommands)
    (hst : t.mStatus = s.mStatus ∨ t.mStatus ≠ .Authenticated ∧ t.mStatus ≠ .HiddenServiceReady)
    (hsocks : t.mSocksAddress = s.mSocksAddress ∨ t.mSocksAddress = [])
    (sent : List TorControlCommand) (hq : t.mSocket.commandQueue = s.mSocket.commandQueue ++ sent)
    (hs : sent.all (fun c => !c.followsAuthentication) = true) : Watching t := by
  refine h.of he hst hsocks fun c hc => ?_
  rw [hq, List.mem_append] at hc
  exact hc.imp_right fun hc => by simpa using List.all_eq_true.mp hs c hc

lemma Watching.of_eq (h : Watching s) (he : t.mSocket = s.mSocket) (hst : t.mStatus = s.mStatus)
    (hsocks : t.mSocksAddress = s.mSocksAddress) : Watching t :=
  h.of (by rw [he]) (.inl hst) (.inl hsocks) fun c hc => .inl (he ▸ hc)

end Watching

/-- A completion keeps watching, and a successful `AUTHENTICATE` reply subscribes. -/
lemma watching_finishCommand {fs : FileSystem} {s s' : TorControl} {reply : Reply}
    {c : TorControlCommand} (hw : Watching s)
    (hc : Subscribed s ∨ c.followsAuthentication = false)
    (h : finishCommand fs s reply c = some s') : Watching s' := by
  -- only a subscribed controller awaits the replies that follow authentication
  have keep (hf : c.followsAuthentication = true) (he : s'.mSocket = s.mSocket) : Watching s' :=
    .inl (show _ ∈ _ by rw [he]; exact hc.resolve_right (by simp [hf]))
  cases c with
  | protocolInfo =>
    cases h
    dsimp only [protocolInfoReply]
    split
    · split
      next data _ =>
        exact hw.of_sends rfl (.inl rfl) (.inl rfl) [.authenticate data] rfl rfl
      next =>
        exact hw.of (by simp) (.inr (by simp)) (.inl (by simp)) fun c hc => .inl (by simpa using hc)
    · exact hw.of_eq rfl rfl rfl
  | authenticate =>
    replace h : authenticateReply fs s reply = some s' := h
    unfold authenticateReply at h
    split at h
    · cases h; exact hw.of (by simp) (.inr (by simp)) (.inl (by simp)) fun c hc => .inl (by simpa using hc)
    · obtain ⟨t, ht, rfl⟩ := Option.map_eq_some'.mp h
      obtain ⟨cs, rfl, -⟩ := publishServices_sendCommands ht
      have hs := mem_registerEvent (s.setStatus .Authenticated) (ascii "STATUS_CLIENT")
      left
      split
      · unfold saveConfiguration; split <;> simpa [Subscribed, getTorInfo] using hs
      · simpa [Subscribed, getTorInfo] using hs
  | getTorInfo => exact keep rfl (by rw [getTorInfoReply_eq h])
  | addOnion _ => cases h; exact keep rfl (by split <;> simp)
  | setConf _ cb => cases cb <;> cases h <;> exact keep rfl (by (try split) <;> simp)
  | getConf | resetConf | saveConfig | raw => cases h; exact hw

lemma connect_frame (s : TorControl) (a : Bytes) (p : Nat) (c : Bool) :
    (s.connect a p c).mSocket.eventCommands = s.mSocket.eventCommands ∧
      (s.connect a p c).mSocket.commandQueue = s.mSocket.commandQueue ∧
      (s.connect a p c).mSocksAddress = s.mSocksAddress := by
  unfold connect TorControlSocket.connectToHost TorControlSocket.fullstop
  split_ifs <;> simp [apply_ite]

lemma reconnect_frame (s : TorControl) (c : Bool) :
    (s.reconnect c).mSocket.eventCommands = s.mSocket.eventCommands ∧
      (s.reconnect c).mSocket.commandQueue = s.mSocket.commandQueue ∧
      (s.reconnect c).mSocksAddress = s.mSocksAddress := by
  unfold reconnect TorControlSocket.connectToHost
  split_ifs <;> simp [apply_ite]

lemma watching_finishFront {fs : FileSystem} {s s' : TorControl} {reply : Reply}
    (hw : Watching s) (h : finishFront fs s reply = some s') : Watching s' := by
  unfold finishFront at h
  split at h
  next c rest hq =>
    have hw' : Watching { s with mSocket := { s.mSocket with commandQueue := rest } } :=
      hw.of rfl (.inl rfl) (.inl rfl) fun a ha => .inl (by rw [hq]; exact List.mem_cons_of_mem c ha)
    exact watching_finishCommand hw'
      (hw.imp id fun hb => hb.queue c (by rw [hq]; exact List.mem_cons_self c rest)) h
  next => cases h; exact hw

lemma watching_step {fs : FileSystem} {s s' : TorControl} {i : Input} (hw : Watching s)
    (h : step fs s i = some s') : Watching s' := by
  have event : ∀ {data}, statusEvent s data = some s' → Watching s' := fun h => by
    rw [statusEvent_frame h]; exact hw.of_eq rfl rfl rfl
  cases i with
  | finished reply => exact watching_finishFront hw h
  | cancelCommands _ => exact cancelCommands_induction Watching watching_finishFront hw h
  | replyLine data =>
    simp only [step] at h
    split at h
    · split at h
      · exact event h
      · cases h; exact hw
    · cases h; exact hw
  | event data =>
    simp only [step] at h
    split at h
    · exact event h
    · cases h; exact hw
  | connect a p c =>
    cases h
    obtain ⟨he, hq, hsocks⟩ := connect_frame s a p c
    refine hw.of he ?_ (.inl hsocks) fun c hc => .inl (hq ▸ hc)
    rcases connect_eq_or s a p c with e | e | e
    · exact .inl (by rw [e])
    all_goals exact .inr (by simp [e])
  | reconnect c =>
    cases h
    obtain ⟨he, hq, hsocks⟩ := reconnect_frame s c
    refine hw.of he ?_ (.inl hsocks) fun c hc => .inl (hq ▸ hc)
    rcases reconnect_eq_or s c with e | e
    · exact .inl (by rw [e])
    · exact .inr (by simp [e])
  | authenticate =>
    cases h
    exact hw.of_sends (by simp [authenticate]) (.inr (by simp [authenticate]))
      (.inl (by simp [authenticate])) [.protocolInfo] (by simp [authenticate]) rfl
  | socketDisconnected =>
    cases h
    exact hw.of (by simp [socketDisconnected]) (.inr (by simp [socketDisconnected]))
      (.inr (by simp [socketDisconnected])) fun c hc => .inl (by simpa [socketDisconnected] using hc)
  | socketError _ =>
    cases h
    exact hw.of (by simp [socketError]) (.inr (by simp [socketError])) (.inl (by simp [socketError]))
      fun c hc => .inl (by simpa [socketError] using hc)
  | setAuthPassword _ | addHiddenService _ => cases h; exact hw.of_eq rfl rfl rfl
  | takeOwnership =>
    cases h
    exact hw.of_sends rfl (.inl rfl) (.inl rfl)
      [.raw (ascii "TAKEOWNERSHIP\r\n"), .resetConf [(ascii "__OwningControllerProcess", [])]]
      (by simp [takeOwnership, setConfiguration]) rfl
  | getConfiguration o => cases h; exact hw.of_sends rfl (.inl rfl) (.inl rfl) [.getConf o] rfl rfl
  | setConfiguration o =>
    cases h; exact hw.of_sends rfl (.inl rfl) (.inl rfl) [.resetConf o] rfl rfl
  | saveConfiguration =>
    cases h; unfold saveConfiguration; split
    · exact hw.of_sends rfl (.inl rfl) (.inl rfl) [.saveConfig] rfl rfl
    · exact hw
  | shutdown =>
    cases h; unfold shutdown; split
    · exact hw.of_sends rfl (.inl rfl) (.inl rfl) [.raw (ascii "SIGNAL SHUTDOWN\r\n")] rfl rfl
    · exact hw

/-- In every reachable state where the controller reports connectivity, is `Authenticated`
or is `HiddenServiceReady`, it has registered for the `STATUS_CLIENT` events that report
the circuit and bootstrap status. -/
theorem Reachable.subscribed {s : TorControl} (h : Reachable s)
    (hs : s.hasConnectivity = true ∨ s.mStatus = .Authenticated ∨
      s.mStatus = .HiddenServiceReady) :
    ascii "STATUS_CLIENT" ∈ s.mSocket.eventCommands := by
  have hw := reachable_invariant Watching (.inr ⟨by decide, rfl, fun _ hc => nomatch hc⟩)
    (fun _ _ _ _ hw _ h => watching_step hw h) h
  refine hw.resolve_right fun hb => ?_
  rcases hs with hc | hs | hs
  · simp [hasConnectivity, hb.socks] at hc
  exacts [hb.status.1 hs, hb.status.2 hs]

/-- A null authentication accepted: the controller is `Authenticated`, and subscribed. -/
theorem subscribed_authenticated :
    ∃ s', run emptyFileSystem init [.connect (ascii "127.0.0.1") 9051 true, .authenticate,
        .finished nullAuthReply, .finished okReply] = some s' ∧
      Reachable s' ∧ (s'.hasConnectivity = true ∨ s'.mStatus = .Authenticated ∨
        s'.mStatus = .HiddenServiceReady) ∧ ascii "STATUS_CLIENT" ∈ s'.mSocket.eventCommands := by
  refine ⟨_, rfl, ?_⟩
  have hr := Reachable.run Reachable.init (rfl : run emptyFileSystem init
    [.connect (ascii "127.0.0.1") 9051 true, .authenticate, .finished nullAuthReply,
      .finished okReply] = some _)
  exact ⟨hr, by decide, Reachable.subscribed hr (by decide)⟩

end TorControl

end Tor

end RetroShareTor

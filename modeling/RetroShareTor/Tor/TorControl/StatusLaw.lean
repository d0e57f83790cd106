import RetroShareTor.Tor.TorControl.Orchestrator
import RetroShareTor.Tor.TorControl.InfoReply

/-!
# The status law over runs

A completion sets only the statuses its callback names (`finishCommand_effect`), but no
callback looks at the status it starts from: `authenticateReply` only asserts
`Authenticating`, and `checkHiddenService` checks nothing. A reply still buffered when the
socket reports an error or the end of the stream therefore moves the controller out of
`Error` or `NotConnected` (`completion_leaves_error`). What does hold over every run is that
`HiddenServiceReady` comes only with a service Online (`Reachable.ready_online`).

`socketError` leaves the SOCKS endpoint of the session that failed, and the next session's
`GETINFO` replaces it only with a listener on the new peer, so the old endpoint can stay;
a bracketed IPv6 listener is cut at its first `:` (`socks_listener_kept_or_cut`).

Reply lines of `PROTOCOLINFO`, `GETINFO` and `GETCONF` go to `statusEvent`, the handler of
the asynchronous `STATUS_CLIENT` events, so a reply line whose third token is an event
keyword acts as that event (`reply_line_sets_ready`); every other reply line changes nothing
(`replyLines_change_status_only_by_keyword`).
-/

namespace RetroShareTor

namespace Tor

namespace TorControl

/-! ### `HiddenServiceReady` needs a service Online -/

lemma StepEffect.keeps_online {s s' : TorControl} (h : StepEffect s s')
    (ho : SomeServiceOnline s) : SomeServiceOnline s' := by
  obtain ⟨hs, hmem, hon⟩ := ho
  rcases h.2 with e | ⟨_, e⟩ | ⟨j, _, e⟩
  · exact ⟨hs, e ▸ hmem, hon⟩
  · exact ⟨hs, by simp [e, hmem], hon⟩
  · rw [SomeServiceOnline, e]; exact SomeServiceOnline.modify ⟨hs, hmem, hon⟩ (fun _ => rfl) j

/-- In every reachable state, `HiddenServiceReady` comes with a service Online. -/
theorem Reachable.ready_online {s : TorControl} (h : Reachable s) :
    s.mStatus = .HiddenServiceReady → SomeServiceOnline s := by
  induction h with
  | init => intro h; cases h
  | step fs i _ _ hstep ih =>
    intro hr
    have e := step_effect hstep
    rcases e.1 with h | h | h
    · exact e.keeps_online (ih (h ▸ hr))
    · exact absurd hr h
    · exact h

/-- A service registered, a null authentication on Tor 0.4.8.9, the `GETINFO` reply and a
successful `ADD_ONION`: the controller is `HiddenServiceReady` with the service Online. -/
theorem ready_online_published :
    ∃ s, run emptyFileSystem init [.addHiddenService ⟨ascii "/hs", false, [], .Offline⟩,
        .connect (ascii "127.0.0.1") 9051 true, .authenticate,
        .finished ⟨true, [], ⟨true, false, false⟩, [], ascii "0.4.8.9", fun _ => []⟩,
        .finished (infoReply true []),
        .finished (infoReply true [(ascii "net/listeners/socks", ascii "127.0.0.1:9050"),
          (ascii "status/circuit-established", ascii "1")]),
        .finished (infoReply true [])] = some s ∧
      Reachable s ∧ s.mStatus = .HiddenServiceReady ∧ SomeServiceOnline s := by
  refine ⟨_, rfl, ?_⟩
  have hr := Reachable.run Reachable.init (rfl : run emptyFileSystem init
    [.addHiddenService ⟨ascii "/hs", false, [], .Offline⟩, .connect (ascii "127.0.0.1") 9051 true,
      .authenticate, .finished ⟨true, [], ⟨true, false, false⟩, [], ascii "0.4.8.9", fun _ => []⟩,
      .finished (infoReply true []),
      .finished (infoReply true [(ascii "net/listeners/socks", ascii "127.0.0.1:9050"),
        (ascii "status/circuit-established", ascii "1")]),
      .finished (infoReply true [])] = some _)
  exact ⟨hr, by decide, Reachable.ready_online hr (by decide)⟩

/-! ### Completions after an error -/

/-- A `PROTOCOLINFO` result that offers null authentication, from Tor 0.4.8.9. -/
def nullAuthReply : Reply := ⟨true, [], ⟨true, false, false⟩, [], ascii "0.4.8.9", fun _ => []⟩

/-- A successful reply with no values. -/
def okReply : Reply := ⟨true, [], ⟨false, false, false⟩, [], [], fun _ => []⟩

/-- After the socket error, or the end of the stream, that follows the null
authentication's `AUTHENTICATE`, its successful reply moves the controller from `Error`, or
from `NotConnected`, to `Authenticated`. -/
theorem completion_leaves_error :
    (run emptyFileSystem init [.connect (ascii "127.0.0.1") 9051 true, .authenticate,
        .finished nullAuthReply, .socketError (ascii "x")]).map (·.mStatus) = some .Error ∧
      (run emptyFileSystem init [.connect (ascii "127.0.0.1") 9051 true, .authenticate,
        .finished nullAuthReply, .socketError (ascii "x"), .finished okReply]).map (·.mStatus) =
        some .Authenticated ∧
      (run emptyFileSystem init [.connect (ascii "127.0.0.1") 9051 true, .authenticate,
        .finished nullAuthReply, .socketDisconnected]).map (·.mStatus) = some .NotConnected ∧
      (run emptyFileSystem init [.connect (ascii "127.0.0.1") 9051 true, .authenticate,
        .finished nullAuthReply, .socketDisconnected, .finished okReply]).map (·.mStatus) =
        some .Authenticated := by
  decide

/-! ### The SOCKS listener -/

/-- A `GETINFO` reply with an empty SOCKS listener list and no circuit established. -/
def noListenerReply : Reply :=
  ⟨true, [], ⟨false, false, false⟩, [], [], fun k =>
    if k = ascii "net/listeners/socks" then [[]]
    else if k = ascii "status/circuit-established" then [ascii "0"] else []⟩

/-- When the `GETINFO` reply has no SOCKS listener and the circuit is established later,
the controller is `Authenticated` and `TorReady` with no SOCKS address and no command
outstanding. -/
theorem ready_without_socks_query :
    (run emptyFileSystem init [.connect (ascii "127.0.0.1") 9051 true, .authenticate,
        .finished nullAuthReply, .finished okReply, .finished noListenerReply,
        .event (ascii "STATUS_CLIENT NOTICE CIRCUIT_ESTABLISHED")]).map
        (fun s => (s.mStatus, s.mTorStatus, s.mSocksAddress, s.mSocket.commandQueue)) =
      some (.Authenticated, .TorReady, [], []) := by
  decide

/-- A `GETINFO` reply with all three values: the given SOCKS listeners, a circuit
established, and a finished bootstrap. -/
def listenerReply (socks : Bytes) : Reply :=
  infoReply true [(ascii "net/listeners/socks", socks),
    (ascii "status/circuit-established", ascii "1"),
    (ascii "status/bootstrap-phase",
      ascii "NOTICE BOOTSTRAP PROGRESS=100 TAG=done SUMMARY=\"Done\"")]

/-- A session to Tor at `10.0.0.1` records its SOCKS listener `10.0.0.1:9150` and ends in
`Error`; the next session, to `127.0.0.1`, keeps that endpoint although its only listener is
`127.0.0.2:9050`. A session to `::1` records the listener `[::1]:9050` as address `[`,
port `0`. -/
theorem socks_listener_kept_or_cut :
    (run emptyFileSystem init [.connect (ascii "10.0.0.1") 9051 true, .authenticate,
        .finished nullAuthReply, .finished okReply,
        .finished (listenerReply (ascii "10.0.0.1:9150")), .socketError (ascii "x"),
        .connect (ascii "127.0.0.1") 9051 true, .authenticate, .finished nullAuthReply,
        .finished okReply, .finished (listenerReply (ascii "127.0.0.2:9050"))]).map
        (fun s => (s.mStatus, s.mSocksAddress, s.mSocksPort)) =
      some (.Authenticated, ascii "10.0.0.1", 9150) ∧
    (run emptyFileSystem init [.connect (ascii "::1") 9051 true, .authenticate,
        .finished nullAuthReply, .finished okReply,
        .finished (listenerReply (ascii "[::1]:9050"))]).map
        (fun s => (s.mSocksAddress, s.mSocksPort)) = some (ascii "[", 0) := by
  decide

/-! ### Reply lines -/

/-- `statusEvent` changes only the status Tor reports and the bootstrap map. -/
lemma foldlM_statusEvent_frame {s s' : TorControl} {lines : List Bytes}
    (h : lines.foldlM statusEvent s = some s') :
    s' = { s with mTorStatus := s'.mTorStatus, mBootstrapStatus := s'.mBootstrapStatus } := by
  induction lines generalizing s with
  | nil => cases h; rfl
  | cons d lines ih =>
    obtain ⟨t, ht, hr⟩ := Option.bind_eq_some.mp h
    rw [ih hr, statusEvent_frame ht]

/-- Lines whose third token is no event keyword leave `statusEvent` without effect. -/
lemma foldlM_statusEvent_of_not_keyword (s : TorControl) {lines : List Bytes}
    (h : ∀ d ∈ lines, ∀ t ∈ (statusTokens d)[2]?, t ∉ statusKeywords) :
    lines.foldlM statusEvent s = some s := by
  induction lines with
  | nil => rfl
  | cons d lines ih =>
    rw [List.foldlM_cons, statusEvent_of_not_keyword s d (h d (.head _))]
    exact ih fun d' hd' => h d' (.tail _ hd')

/-- The reply lines of the command at the front of the queue are the `STATUS_CLIENT`
events on the same lines when the command has a per-line callback, and change nothing
otherwise. -/
lemma run_replyLines {fs : FileSystem} {s : TorControl} {c : TorControlCommand}
    {rest : List TorControlCommand} (hq : s.mSocket.commandQueue = c :: rest) (lines : List Bytes) :
    run fs s (lines.map .replyLine) =
      if c.hasReplyLine then lines.foldlM statusEvent s else some s := by
  induction lines generalizing s with
  | nil => split <;> rfl
  | cons d lines ih =>
    have ha : (Input.replyLine d).allowed s = true := by simp [Input.allowed, hq]
    simp only [List.map_cons, run, ha, if_true, step, hq, List.foldlM_cons]
    split
    · cases ht : statusEvent s d with
      | none => rfl
      | some t =>
        have hq' : t.mSocket.commandQueue = c :: rest := by rw [statusEvent_frame ht]; exact hq
        rw [Option.some_bind, ih hq', if_pos ‹_›]
        rfl
    · rw [Option.some_bind, ih hq, if_neg ‹_›]

/-- While a command awaits its reply, reply lines change only the status Tor reports and the
bootstrap map, and lines whose third token is no event keyword change nothing. On the
commands with a per-line callback the lines act as the `STATUS_CLIENT` events on them:
`statusEvent`, that event's handler, taken over the lines in turn. -/
theorem replyLines_change_status_only_by_keyword (fs : FileSystem) (s : TorControl)
    (lines : List Bytes) (hq : s.mSocket.commandQueue ≠ []) :
    (∀ s', run fs s (lines.map .replyLine) = some s' →
      s' = { s with mTorStatus := s'.mTorStatus, mBootstrapStatus := s'.mBootstrapStatus }) ∧
    ((∀ d ∈ lines, ∀ t ∈ (statusTokens d)[2]?, t ∉ statusKeywords) →
      run fs s (lines.map .replyLine) = some s) ∧
    (∀ c ∈ s.mSocket.commandQueue.head?, c.hasReplyLine = true →
      run fs s (lines.map .replyLine) = lines.foldlM statusEvent s) := by
  obtain ⟨c, rest, hc⟩ := List.exists_cons_of_ne_nil hq
  rw [run_replyLines hc]
  refine ⟨fun s' h => ?_, fun hk => ?_, fun c' hc' hl => ?_⟩
  · split at h
    · exact foldlM_statusEvent_frame h
    · cases h; rfl
  · split
    · exact foldlM_statusEvent_of_not_keyword s hk
    · rfl
  · obtain rfl : c = c' := by simpa [hc] using hc'
    exact if_pos hl

/-- Lines of a GETCONF reply whose third tokens are no event keywords leave the controller
unchanged. -/
theorem replyLines_getConf_unchanged :
    (init.getConfiguration (ascii "x")).mSocket.commandQueue ≠ [] ∧
      ((∀ s', run emptyFileSystem (init.getConfiguration (ascii "x"))
          ([ascii "250-a=b", ascii "250 OK"].map .replyLine) = some s' →
        s' = { init.getConfiguration (ascii "x") with
          mTorStatus := s'.mTorStatus, mBootstrapStatus := s'.mBootstrapStatus }) ∧
      ((∀ d ∈ [ascii "250-a=b", ascii "250 OK"], ∀ t ∈ (statusTokens d)[2]?,
          t ∉ statusKeywords) →
        run emptyFileSystem (init.getConfiguration (ascii "x"))
          ([ascii "250-a=b", ascii "250 OK"].map .replyLine) =
          some (init.getConfiguration (ascii "x"))) ∧
      (∀ c ∈ (init.getConfiguration (ascii "x")).mSocket.commandQueue.head?,
        c.hasReplyLine = true →
        run emptyFileSystem (init.getConfiguration (ascii "x"))
            ([ascii "250-a=b", ascii "250 OK"].map .replyLine) =
          [ascii "250-a=b", ascii "250 OK"].foldlM statusEvent
            (init.getConfiguration (ascii "x")))) :=
  ⟨by decide, replyLines_change_status_only_by_keyword emptyFileSystem _ _ (by decide)⟩

/-- A reply line on a GETCONF whose third token is `CIRCUIT_ESTABLISHED` sets `TorReady`. -/
theorem reply_line_sets_ready :
    (run emptyFileSystem init [.connect (ascii "127.0.0.1") 9051 true,
        .getConfiguration (ascii "x"), .replyLine (ascii "x y CIRCUIT_ESTABLISHED")]).map
        (·.mTorStatus) = some .TorReady ∧
      (run emptyFileSystem init [.connect (ascii "127.0.0.1") 9051 true,
        .getConfiguration (ascii "x")]).map (·.mTorStatus) = some .TorOffline := by
  decide

end TorControl

end Tor

end RetroShareTor

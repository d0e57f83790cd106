import RetroShareTor.Tor.TorControl.Events
import RetroShareTor.Tor.Quoting

/-!
# The GETINFO reply

What `getTorInfoReply` does with every reply. It takes `front()` of the values of
`net/listeners/socks` and of `status/circuit-established` without looking whether there
are any, and `updateBootstrap` takes the first token of the bootstrap phase, which an empty
value does not have: the handler is defined exactly when neither key is missing and the
first bootstrap value, if any, is not empty (`getTorInfoReply_eq_none_iff`). It tests only
the bootstrap phase for absence (`getTorInfoReply_front_of_empty`).

The listener loop takes the first entry on the control connection's peer, or else the first
entry, only when no SOCKS address is recorded; a recorded address is kept unless some entry is
on the peer (`socksListeners_of_recorded`). It cuts each entry at its first `:`, so a bracketed
IPv6 address is cut inside the brackets.
-/

namespace RetroShareTor

namespace Tor

namespace TorControl

/-- A GETINFO reply with the given values, in order, for each key. -/
def infoReply (successful : Bool) (values : List (Bytes × Bytes)) : Reply :=
  ⟨successful, [], ⟨false, false, false⟩, [], [],
    fun k => values.filterMap fun e => if e.1 = k then some e.2 else none⟩

lemma updateBootstrap_eq_none_iff (s : TorControl) (data : List Bytes) :
    s.updateBootstrap data = none ↔ data = [] := by
  cases data <;> simp [updateBootstrap]

/-! ### When the handler is defined -/

/-- The GETINFO handler is undefined exactly when a SOCKS or circuit value is missing, or
the first bootstrap value is empty. -/
lemma getTorInfoReply_eq_none_iff (s : TorControl) (reply : Reply) :
    getTorInfoReply s reply = none ↔
      reply.get (ascii "net/listeners/socks") = [] ∨
        reply.get (ascii "status/circuit-established") = [] ∨
          (reply.get (ascii "status/bootstrap-phase")).head? = some [] := by
  unfold getTorInfoReply
  cases reply.get (ascii "net/listeners/socks") <;>
    cases reply.get (ascii "status/circuit-established") <;>
      cases reply.get (ascii "status/bootstrap-phase") <;>
        simp [updateBootstrap_eq_none_iff, splitTokens_eq_nil_iff]

/-- A reply without SOCKS listeners, an error reply without values, and a reply whose
bootstrap phase is empty: the handler takes the front of an empty list in each. -/
theorem getTorInfoReply_front_of_empty :
    getTorInfoReply init (infoReply true [(ascii "status/circuit-established", ascii "1"),
        (ascii "status/bootstrap-phase", ascii "NOTICE BOOTSTRAP PROGRESS=100")]) = none ∧
      getTorInfoReply init (infoReply false []) = none ∧
      getTorInfoReply init (infoReply true [(ascii "net/listeners/socks", ascii "127.0.0.1:9050"),
        (ascii "status/circuit-established", ascii "1"),
        (ascii "status/bootstrap-phase", [])]) = none :=
  ⟨(getTorInfoReply_eq_none_iff _ _).2 (by decide), (getTorInfoReply_eq_none_iff _ _).2 (by decide),
    (getTorInfoReply_eq_none_iff _ _).2 (by decide)⟩

/-- The GETINFO reply changes only the SOCKS endpoint, the status Tor reports and the
bootstrap map. -/
lemma getTorInfoReply_eq {s s' : TorControl} {reply : Reply}
    (h : getTorInfoReply s reply = some s') :
    s' = { s with
      mSocksAddress := s'.mSocksAddress
      mSocksPort := s'.mSocksPort
      mTorStatus := s'.mTorStatus
      mBootstrapStatus := s'.mBootstrapStatus } := by
  unfold getTorInfoReply at h
  obtain ⟨_, -, h⟩ := Option.bind_eq_some.mp h
  obtain ⟨_, -, h⟩ := Option.bind_eq_some.mp h
  cases hb : reply.get (ascii "status/bootstrap-phase") with
  | nil => simp only [hb, Option.some.injEq] at h; subst h; split <;> simp only [setTorStatus_eq]
  | cons b _ => simp only [hb] at h; rw [updateBootstrap_frame h]; split <;> simp only [setTorStatus_eq]

/-! ### The SOCKS listener -/

/-- What the listener loop reads of one entry: the unquoted entry cut at its first `:`,
the address before it and the port after it. -/
def listenerOf (add : Bytes) : Bytes × Nat :=
  let value := unquotedString add
  let sepp := ByteArray.indexOf value (byte ':')
  (ByteArray.mid value 0 sepp,
    (ByteArray.toInt (ByteArray.mid value (sepp + 1).toNat (-1)) % 65536).toNat)

lemma socksListeners_cons (peer add : Bytes) (rest : List Bytes) (r : Bytes × Nat) :
    socksListeners peer (add :: rest) r =
      if r.1 = [] ∨ (listenerOf add).1 = peer then
        if (listenerOf add).1 = peer then listenerOf add
        else socksListeners peer rest (listenerOf add)
      else socksListeners peer rest r := rfl

/-- Once an address is recorded, the loop keeps it unless an entry is on the peer, and then
takes the first such entry. -/
lemma socksListeners_of_recorded (peer : Bytes) (entries : List Bytes) {r : Bytes × Nat}
    (hr : r.1 ≠ []) :
    socksListeners peer entries r =
      ((entries.find? fun add => (listenerOf add).1 = peer).map listenerOf).getD r := by
  induction entries with
  | nil => rfl
  | cons add rest ih =>
    rw [socksListeners_cons]
    by_cases ha : (listenerOf add).1 = peer
    · simp [ha]
    · simp [ha, hr, ih]

/-- Once a SOCKS address is recorded, a GETINFO reply replaces the endpoint only with the
first listener on the control connection's peer address, and keeps it when there is
none. -/
theorem getTorInfoReply_keeps_recorded_socks {s s' : TorControl} {reply : Reply}
    (h : getTorInfoReply s reply = some s') (hr : s.mSocksAddress ≠ []) :
    ∃ socks, (reply.get (ascii "net/listeners/socks")).head? = some socks ∧
      (s'.mSocksAddress, s'.mSocksPort) =
        (((splitQuotedStrings socks (byte ' ')).find? fun add =>
          (listenerOf add).1 = s.mSocket.peerAddress).map listenerOf).getD
            (s.mSocksAddress, s.mSocksPort) := by
  unfold getTorInfoReply at h
  obtain ⟨socks, hsocks, h⟩ := Option.bind_eq_some.mp h
  obtain ⟨_, -, h⟩ := Option.bind_eq_some.mp h
  refine ⟨socks, hsocks, ?_⟩
  rw [← socksListeners_of_recorded _ _ hr]
  cases hb : reply.get (ascii "status/bootstrap-phase") with
  | nil => simp only [hb, Option.some.injEq] at h; subst h; split <;> simp [setTorStatus_eq]
  | cons b _ =>
    simp only [hb] at h; rw [updateBootstrap_frame h]; split <;> simp [setTorStatus_eq]

/-- A controller that recorded the SOCKS endpoint `10.0.0.1:9150` and is connected to Tor at
`127.0.0.1`. -/
def recordedSocks : TorControl :=
  { init with
    mSocksAddress := ascii "10.0.0.1"
    mSocksPort := 9150
    mSocket := ⟨true, ascii "127.0.0.1", [], []⟩ }

/-- A GETINFO reply listing `127.0.0.2:9050` then `127.0.0.1:9050`, with a circuit. -/
def twoListenerReply : Reply :=
  infoReply true [(ascii "net/listeners/socks", ascii "127.0.0.2:9050 127.0.0.1:9050"),
    (ascii "status/circuit-established", ascii "1")]

/-- The recorded endpoint gives way to the second listener, the one on the peer. -/
theorem getTorInfoReply_keeps_recorded_socks_peer :
    ∃ s', getTorInfoReply recordedSocks twoListenerReply = some s' ∧
      recordedSocks.mSocksAddress ≠ [] ∧
      ∃ socks, (twoListenerReply.get (ascii "net/listeners/socks")).head? = some socks ∧
        (s'.mSocksAddress, s'.mSocksPort) =
          (((splitQuotedStrings socks (byte ' ')).find? fun add =>
            (listenerOf add).1 = recordedSocks.mSocket.peerAddress).map listenerOf).getD
              (recordedSocks.mSocksAddress, recordedSocks.mSocksPort) :=
  ⟨_, rfl, by decide,
    @getTorInfoReply_keeps_recorded_socks recordedSocks _ twoListenerReply rfl (by decide)⟩

example : socksListeners (ascii "127.0.0.1") [ascii "10.0.0.1:9050", ascii "127.0.0.1:9150"]
    ([], 0) = (ascii "127.0.0.1", 9150) := by
  decide

end TorControl

end Tor

end RetroShareTor

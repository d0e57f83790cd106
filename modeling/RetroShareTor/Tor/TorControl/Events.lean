import RetroShareTor.Tor.TorControl.Publication

/-!
# Status lines and the GETINFO reply

`statusEvent`, `updateBootstrap` and `getTorInfoReply`. `statusEvent` reads the third token
of a trimmed line split at unquoted spaces: `CIRCUIT_ESTABLISHED` and
`CIRCUIT_NOT_ESTABLISHED` set the status Tor reports, `BOOTSTRAP` rebuilds the bootstrap
map, and every other line changes nothing. Whatever the line, nothing else of the
controller changes (`statusEvent_frame`).
-/

namespace RetroShareTor

namespace Tor

namespace TorControl

/-! ### Bootstrap status -/

/-- One `key=value` token of a bootstrap line: the lowered key before the first `=` and the
unquoted value after it, empty when there is no `=`. -/
def bootstrapEntry (m : StringMap) (dat : Bytes) : StringMap :=
  let equals := ByteArray.indexOf dat (byte '=')
  let key := ByteArray.mid dat 0 equals
  let value :=
    if equals ≥ 0 then unquotedString (ByteArray.mid dat (equals + 1).toNat (-1)) else []
  m.insert (ByteArray.toLower key) value

/-- `updateBootstrap(data)`: the map is rebuilt from the severity and the `key=value`
tokens; `none` when `data` is empty, whose first element is read. -/
def updateBootstrap (s : TorControl) : List Bytes → Option TorControl
  | [] => none
  | severity :: data =>
    some { s with mBootstrapStatus := data.foldl bootstrapEntry [(ascii "severity", severity)] }

lemma updateBootstrap_frame {s s' : TorControl} {data : List Bytes}
    (h : s.updateBootstrap data = some s') :
    s' = { s with mBootstrapStatus := s'.mBootstrapStatus } := by
  cases data with
  | nil => cases h
  | cons _ _ => cases h; rfl

/-! ### Status events -/

/-- The tokens `statusEvent` reads: the trimmed line split at unquoted spaces. -/
def statusTokens (data : Bytes) : List Bytes :=
  splitQuotedStrings (ByteArray.trimmed data) (byte ' ')

/-- The keywords of the third token that `statusEvent` acts on. -/
def statusKeywords : List Bytes :=
  [ascii "CIRCUIT_ESTABLISHED", ascii "CIRCUIT_NOT_ESTABLISHED", ascii "BOOTSTRAP"]

/-- `statusEvent(code, data)`; the code is not read. -/
def statusEvent (s : TorControl) (data : Bytes) : Option TorControl :=
  match statusTokens data with
  | _ :: t1 :: tok2 :: rest =>
    if tok2 = ascii "CIRCUIT_ESTABLISHED" then some (s.setTorStatus .TorReady)
    else if tok2 = ascii "CIRCUIT_NOT_ESTABLISHED" then some (s.setTorStatus .TorOffline)
    else if tok2 = ascii "BOOTSTRAP" then s.updateBootstrap (t1 :: tok2 :: rest)
    else some s
  | _ => some s

/-- A line whose third token is none of the keywords changes nothing. -/
lemma statusEvent_of_not_keyword (s : TorControl) (data : Bytes)
    (h : ∀ t ∈ (statusTokens data)[2]?, t ∉ statusKeywords) :
    statusEvent s data = some s := by
  unfold statusEvent
  split
  · simp_all [statusKeywords]
  · rfl

/-- A status line changes only the status Tor reports and the bootstrap map. -/
lemma statusEvent_frame {s s' : TorControl} {data : Bytes} (h : statusEvent s data = some s') :
    s' = { s with mTorStatus := s'.mTorStatus, mBootstrapStatus := s'.mBootstrapStatus } := by
  unfold statusEvent at h
  split at h
  · split_ifs at h <;> cases h <;> simp [setTorStatus_eq]
  · cases h; rfl

/-! ### The GETINFO reply -/

/-- The loop of `getTorInfoReply` over the SOCKS listeners, from the address and port known
so far: the first listener is taken when none is known, and one on the control connection's
peer address is taken and ends the loop. -/
def socksListeners (peer : Bytes) : List Bytes → Bytes × Nat → Bytes × Nat
  | [], r => r
  | add :: rest, r =>
    let value := unquotedString add
    let sepp := ByteArray.indexOf value (byte ':')
    let address := ByteArray.mid value 0 sepp
    let port := (ByteArray.toInt (ByteArray.mid value (sepp + 1).toNat (-1)) % 65536).toNat
    if r.1 = [] ∨ address = peer then
      if address = peer then (address, port) else socksListeners peer rest (address, port)
    else socksListeners peer rest r

/-- `getTorInfoReply(sender)`; `none` when a value read with `front()` is missing, or when
the bootstrap phase splits into no token. -/
def getTorInfoReply (s : TorControl) (reply : Reply) : Option TorControl := do
  let socks ← (reply.get (ascii "net/listeners/socks")).head?
  let r := socksListeners s.mSocket.peerAddress (splitQuotedStrings socks (byte ' '))
    (s.mSocksAddress, s.mSocksPort)
  let s := { s with mSocksAddress := r.1, mSocksPort := r.2 }
  let circuit ← (reply.get (ascii "status/circuit-established")).head?
  let s := if ByteArray.toInt circuit = 1 then s.setTorStatus .TorReady else s
  match reply.get (ascii "status/bootstrap-phase") with
  | [] => some s
  | bootstrap :: _ => s.updateBootstrap (splitQuotedStrings bootstrap (byte ' '))

/-- The GETINFO reply changes neither the status nor the services. -/
lemma getTorInfoReply_frame {s s' : TorControl} {reply : Reply}
    (h : getTorInfoReply s reply = some s') :
    s'.mStatus = s.mStatus ∧ s'.mServices = s.mServices := by
  unfold getTorInfoReply at h
  obtain ⟨_, -, h⟩ := Option.bind_eq_some.mp h
  obtain ⟨_, -, h⟩ := Option.bind_eq_some.mp h
  cases hb : reply.get (ascii "status/bootstrap-phase") with
  | nil => simp only [hb, Option.some.injEq] at h; subst h; split <;> simp
  | cons b _ => simp only [hb] at h; rw [updateBootstrap_frame h]; split <;> simp

end TorControl

end Tor

end RetroShareTor

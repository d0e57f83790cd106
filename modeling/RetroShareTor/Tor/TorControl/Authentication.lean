import RetroShareTor.Tor.TorControl.Events

/-!
# Authentication

`authenticate`, `protocolInfoReply` and `authenticateReply`. The cookie file is read with
`getc` into a `signed char`, and the loop stops when that char equals `EOF`: a `0xFF` byte
reads as `-1` and ends the cookie as the end of the file does (`readCookie_eq`). The size
test then looks at the bytes before the first `0xFF`, not at the file
(`cookie_read_stops_at_0xFF`).

The commands carry what `build` encodes: the cookie's bytes or the password.
-/

namespace RetroShareTor

namespace Tor

namespace TorControl

/-! ### Reading the cookie -/

/-- The value of a `signed char` that holds the byte `b`. -/
def signedChar (b : UInt8) : Int := if b.toNat < 128 then b.toNat else b.toNat - 256

/-- `EOF`. -/
def EOF : Int := -1

/-- The `getc` loop of `protocolInfoReply` over the bytes of the file. -/
def readCookie : Bytes → Bytes
  | [] => []
  | b :: bs => if signedChar b = EOF then [] else b :: readCookie bs

lemma signedChar_eq_EOF (b : UInt8) : signedChar b = EOF ↔ b = 255 := by
  constructor
  · intro h
    have hb : b.toNat < 256 := UInt8.toNat_lt_size b
    apply UInt8.toNat.inj
    show b.toNat = 255
    unfold signedChar EOF at h
    split at h <;> omega
  · rintro rfl; rfl

/-- The cookie is the file's bytes before its first `0xFF`. -/
lemma readCookie_eq (bs : Bytes) : readCookie bs = bs.takeWhile (· ≠ 255) := by
  induction bs with
  | nil => rfl
  | cons b bs ih => by_cases h : b = 255 <;> simp [readCookie, signedChar_eq_EOF, h, ih]

/-! ### Choosing the authentication -/

/-- The data of the `AUTHENTICATE` that `protocolInfoReply` sends (`none`: no data), or the
message of the error it stops with, from the offered methods, the cookie file's path and the
configured password. -/
def authData (fs : FileSystem) (password : Bytes) (methods : AuthMethods) (cookieFile : Bytes) :
    Except Bytes (Option Bytes) :=
  let usePassword := methods.AuthHashedPassword ∧ password ≠ []
  if methods.AuthNull then .ok none
  else if methods.AuthCookie ∧ cookieFile ≠ [] then
    let cookie : Except Bytes Bytes :=
      match fs.read cookieFile with
      | .ok contents =>
        if (readCookie contents).length = 32 then .ok (readCookie contents)
        else .error (ascii "Unexpected file size")
      | .error errno =>
        .error (ascii "Cannot open file " ++ cookieFile ++ ascii ". errno=" ++ numberToString errno)
    match cookie with
    | .ok cookie => .ok (some cookie)
    | .error cookieError =>
      if usePassword then .ok (some password)
      else .error (ascii "Unable to read authentication cookie file: " ++ cookieError)
  else if usePassword then .ok (some password)
  else if methods.AuthHashedPassword then
    .error (ascii "Tor requires a control password to connect, but no password is configured.")
  else .error (ascii "Tor is not configured to accept any supported authentication methods.")

/-- `protocolInfoReply(sender)`: the version is recorded, and while authenticating the
chosen `AUTHENTICATE` is sent or the error set. -/
def protocolInfoReply (fs : FileSystem) (s : TorControl) (reply : Reply) : TorControl :=
  let s := { s with mTorVersion := reply.torVersion }
  if s.mStatus = .Authenticating then
    match authData fs s.mAuthPassword reply.authMethods reply.cookieFile with
    | .ok data => s.sendCommand (.authenticate data)
    | .error message => s.setError message
  else s

/-- The PROTOCOLINFO reply keeps the services, and keeps the status or sets `Error`. -/
lemma protocolInfoReply_frame (fs : FileSystem) (s : TorControl) (reply : Reply) :
    (protocolInfoReply fs s reply).mServices = s.mServices ∧
      ((protocolInfoReply fs s reply).mStatus = s.mStatus ∨
        (protocolInfoReply fs s reply).mStatus = .Error) := by
  dsimp only [protocolInfoReply]
  split
  · split <;> simp
  · simp

/-! ### What an `AUTHENTICATE` carries -/

/-- What an `AUTHENTICATE` may carry, from the offered methods, the cookie file's path and
the configured password: no data when Tor offers null authentication; otherwise the bytes
of the cookie file Tor named before any `0xFF`, when Tor offers cookie authentication and
they are 32; or the password, when Tor offers hashed-password authentication and one is
set. -/
def AuthenticateData (fs : FileSystem) (password : Bytes) (methods : AuthMethods)
    (cookieFile : Bytes) (data : Option Bytes) : Prop :=
  data = none ∧ methods.AuthNull = true ∨
    methods.AuthNull = false ∧ methods.AuthCookie = true ∧ cookieFile ≠ [] ∧
      (∃ contents, fs.read cookieFile = .ok contents ∧
        data = some (contents.takeWhile (· ≠ 255)) ∧ (contents.takeWhile (· ≠ 255)).length = 32) ∨
    methods.AuthNull = false ∧ methods.AuthHashedPassword = true ∧ password ≠ [] ∧
      data = some password

/-- Every data the selection chooses is one an `AUTHENTICATE` may carry. -/
lemma authData_ok {fs : FileSystem} {password cookieFile : Bytes} {methods : AuthMethods}
    {data : Option Bytes} (h : authData fs password methods cookieFile = .ok data) :
    AuthenticateData fs password methods cookieFile data := by
  dsimp only [authData] at h
  by_cases hn : methods.AuthNull = true
  · rw [if_pos hn] at h; cases h; exact .inl ⟨rfl, hn⟩
  rw [if_neg hn] at h
  replace hn : methods.AuthNull = false := by simpa using hn
  -- the password, when the cookie is not used
  have password_of : ∀ {e : Except Bytes (Option Bytes)}, (∀ m, e ≠ .ok m) →
      (if methods.AuthHashedPassword = true ∧ password ≠ [] then .ok (some password) else e) =
        .ok data →
      methods.AuthNull = false ∧ methods.AuthHashedPassword = true ∧ password ≠ [] ∧
        data = some password := fun he h => by
    split_ifs at h with hp
    · cases h; exact ⟨hn, hp.1, hp.2, rfl⟩
    · exact absurd h (he data)
  by_cases hc : methods.AuthCookie = true ∧ cookieFile ≠ []
  · rw [if_pos hc] at h
    cases hr : fs.read cookieFile with
    | ok contents =>
      simp only [hr] at h
      by_cases hl : (readCookie contents).length = 32
      · rw [if_pos hl] at h
        cases h
        rw [readCookie_eq] at hl ⊢
        exact .inr (.inl ⟨hn, hc.1, hc.2, contents, hr, rfl, hl⟩)
      · rw [if_neg hl] at h
        exact .inr (.inr (password_of (fun _ => Except.noConfusion) h))
    | error e =>
      simp only [hr] at h
      exact .inr (.inr (password_of (fun _ => Except.noConfusion) h))
  · rw [if_neg hc] at h
    exact .inr (.inr (password_of (by split <;> exact fun _ => Except.noConfusion) h))

/-- Whatever Tor offers and whatever the files hold, the PROTOCOLINFO reply sends at most one
command, and only while authenticating: an `AUTHENTICATE` with no data when Tor offers null
authentication, with 32 bytes of the cookie file Tor named when it offers cookie
authentication, or with the configured password when it offers hashed-password
authentication. No other file's bytes and no password Tor did not ask for are sent. -/
theorem protocolInfoReply_sends (fs : FileSystem) (s : TorControl) (reply : Reply) :
    ∃ sent, (protocolInfoReply fs s reply).mSocket.commandQueue =
        s.mSocket.commandQueue ++ sent ∧ sent.length ≤ 1 ∧
      ∀ c ∈ sent, s.mStatus = .Authenticating ∧ ∃ data, c = .authenticate data ∧
        AuthenticateData fs s.mAuthPassword reply.authMethods reply.cookieFile data := by
  dsimp only [protocolInfoReply]
  split
  next hst =>
    split
    next data hd =>
      refine ⟨[.authenticate data], rfl, by simp, ?_⟩
      simp only [List.mem_singleton, forall_eq]
      exact ⟨hst, data, rfl, authData_ok hd⟩
    next =>
      refine ⟨[], ?_, by simp, by simp⟩
      rw [List.append_nil]; unfold setError setStatus; split <;> rfl
  next => exact ⟨[], by simp, by simp, by simp⟩

/-- A `PROTOCOLINFO` result that offers only cookie authentication, with the file `/c`. -/
def cookieReply : Reply :=
  ⟨true, [], ⟨false, false, true⟩, ascii "/c", ascii "0.4.8.9", fun _ => []⟩

/-- A file system whose file `/c` holds `contents`. -/
def cookieFileSystem (contents : Bytes) : FileSystem :=
  ⟨fun p => if p = ascii "/c" then .ok contents else .error 2, fun p => p = ascii "/c"⟩

/-- With no password, a 32-byte cookie that starts with `0xFF` is refused, and a 33-byte
file whose last byte is `0xFF` is sent as a cookie of its first 32 bytes. -/
theorem cookie_read_stops_at_0xFF :
    (protocolInfoReply (cookieFileSystem (255 :: List.replicate 31 0))
        { init with mStatus := .Authenticating } cookieReply).mStatus = .Error ∧
      (protocolInfoReply (cookieFileSystem (List.replicate 32 7 ++ [255]))
        { init with mStatus := .Authenticating } cookieReply).mSocket.commandQueue =
        [.authenticate (some (List.replicate 32 7))] := by
  decide

/-! ### After authentication -/

/-- `getTorInfo()`: the `GETINFO` of the circuit, bootstrap and SOCKS status. -/
def getTorInfo (s : TorControl) : TorControl := s.sendCommand .getTorInfo

/-- `saveConfiguration()`: a `SaveConfigOperation` is started when the controller owns
Tor. -/
def saveConfiguration (s : TorControl) : TorControl :=
  if s.mHasOwnership then s.sendCommand .saveConfig else s

@[simp] lemma getTorInfo_mStatus (s : TorControl) : s.getTorInfo.mStatus = s.mStatus := rfl

@[simp] lemma getTorInfo_mServices (s : TorControl) : s.getTorInfo.mServices = s.mServices := rfl

@[simp] lemma saveConfiguration_mStatus (s : TorControl) :
    s.saveConfiguration.mStatus = s.mStatus := by
  unfold saveConfiguration; split <;> rfl

@[simp] lemma saveConfiguration_mServices (s : TorControl) :
    s.saveConfiguration.mServices = s.mServices := by
  unfold saveConfiguration; split <;> rfl

/-- `authenticate()`. -/
def authenticate (s : TorControl) : TorControl :=
  (s.setStatus .Authenticating).sendCommand .protocolInfo

/-- `authenticateReply(sender)`; `none` when `publishServices` is. -/
def authenticateReply (fs : FileSystem) (s : TorControl) (reply : Reply) : Option TorControl :=
  if !reply.successful then some (s.setError reply.errorMessage)
  else
    let s := ((s.setStatus .Authenticated).registerEvent (ascii "STATUS_CLIENT")).getTorInfo
    (publishServices fs s).map fun s => if s.mHasOwnership then s.saveConfiguration else s

/-- The AUTHENTICATE reply keeps the services and sets `Error` or `Authenticated`. -/
lemma authenticateReply_frame {fs : FileSystem} {s s' : TorControl} {reply : Reply}
    (h : authenticateReply fs s reply = some s') :
    s'.mServices = s.mServices ∧ (s'.mStatus = .Error ∨ s'.mStatus = .Authenticated) := by
  unfold authenticateReply at h
  split at h
  · cases h; simp
  · obtain ⟨t, ht, rfl⟩ := Option.map_eq_some'.mp h
    obtain ⟨h1, h2⟩ := publishServices_frame ht
    split <;> simp [h1, h2]

end TorControl

end Tor

end RetroShareTor

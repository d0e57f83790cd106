import RetroShareTor.Tor.TorControl.State
import RetroShareTor.Tor.PendingOperation

/-!
# Saving the torrc

`SaveConfigOperation::configTextReply`, the finished callback of the
`GETINFO config-text config-file` that `saveConfiguration()` sends. It finishes its operation
once: with an error when the path is missing, is not an existing file named `torrc`, or
cannot be opened; with success after writing every configuration line but those of the keys
Tor sets at run time.

Whatever the reply and the file system, a file is written only at the reported path, only
when that path names an existing `torrc`, and holds the kept lines each ended by a newline;
the operation is finished exactly once and is an error exactly when no file was written
(`configTextReply_writes_only_torrc`).
-/

namespace RetroShareTor

namespace RsDirUtil

/-- Modelled from the spec: `getFileName(path)`, the part of the path after its last `/`. -/
def getFileName (path : Bytes) : Bytes :=
  (path.reverse.takeWhile (· ≠ byte '/')).reverse

end RsDirUtil

namespace Tor

/-- The keys of the lines `configTextReply` leaves out: Tor sets them at run time, with
absolute paths or port numbers. -/
def bannedKeys : List Bytes :=
  [ascii "ControlPortWriteToFile", ascii "DataDirectory", ascii "HiddenServiceDir",
    ascii "HiddenServicePort"]

/-- `configTextReply(sender)` on an operation `op`; `canWrite path` is whether
`std::ofstream file(path)` opens the file. It returns the operation after its
`finishWith...` call with the callbacks that call ran, and the file it wrote with the bytes
written to it, when it opened one. -/
def configTextReply (fs : FileSystem) (canWrite : Bytes → Bool)
    (op : PendingOperation) (reply : Reply) :
    (PendingOperation × List Callback) × Option (Bytes × Bytes) :=
  let path := (reply.get (ascii "config-file")).headD []
  if path = [] then
    (op.finishWithError (ascii "Cannot write torrc without knowing its path"), none)
  else if RsDirUtil.getFileName path ≠ ascii "torrc" ∨ !fs.fileExists path then
    (op.finishWithError (ascii "Refusing to write torrc to unacceptable path " ++ path), none)
  else if !canWrite path then
    (op.finishWithError (ascii "Failed opening torrc file for writing: permissions error?"),
      none)
  else
    -- each line not starting with a banned key, then `std::endl`
    let lines : List Bytes := (reply.get (ascii "config-text")).filter fun line =>
      !bannedKeys.any fun key => ByteArray.startsWith line key
    (op.finishWithSuccess, some (path, (lines.map (· ++ [byte '\n'])).flatten))

/-- The lines the spec keeps: those that begin with none of the four keys. -/
def KeptLine (line : Bytes) : Prop :=
  ¬ (ascii "ControlPortWriteToFile" <+: line ∨ ascii "DataDirectory" <+: line ∨
    ascii "HiddenServiceDir" <+: line ∨ ascii "HiddenServicePort" <+: line)

instance : DecidablePred KeptLine := fun _ => inferInstanceAs (Decidable (¬ _))

/-- The loop over `bannedKeys` keeps exactly the lines the spec keeps. -/
lemma bannedKeys_keep (line : Bytes) :
    (!bannedKeys.any fun key => ByteArray.startsWith line key) = decide (KeptLine line) := by
  rw [Bool.eq_iff_iff]
  simp [bannedKeys, ByteArray.startsWith, KeptLine, ← List.isPrefixOf_iff_prefix]

lemma finishWithError_init_isError {message : Bytes} (h : message ≠ []) :
    (PendingOperation.init.finishWithError message).1.isError = true := by
  simp [PendingOperation.finishWithError_eq, PendingOperation.init, PendingOperation.isError, h]

lemma headD_ne_nil {l : List Bytes} (h : l.headD [] ≠ []) : l.head? = some (l.headD []) := by
  cases l
  · exact absurd rfl h
  · rfl

/-- `configTextReply` opens only the reported path, and only when it names an existing file
called `torrc`: whether other paths would open does not change what it does. -/
lemma configTextReply_opens_only_torrc (fs : FileSystem) {canWrite canWrite' : Bytes → Bool}
    (op : PendingOperation) (reply : Reply)
    (h : ∀ path, (reply.get (ascii "config-file")).head? = some path →
      RsDirUtil.getFileName path = ascii "torrc" → fs.fileExists path = true →
        canWrite' path = canWrite path) :
    configTextReply fs canWrite' op reply = configTextReply fs canWrite op reply := by
  dsimp only [configTextReply]
  split_ifs with h₁ h₂ h₃ h₄ <;> try rfl
  -- the two remaining cases open the same path with different outcomes
  all_goals
    simp only [ne_eq, not_or, not_not] at h₂
    rw [h _ (headD_ne_nil h₁) h₂.1 (by simpa using h₂.2)] at h₃
    contradiction

/-- For every reply and every file system: the outcome of opening a file matters only at the
reported path of an existing file named `torrc`; a file is written only there, once opened,
with the lines that begin with no banned key, each ended by a newline; the operation
finishes exactly once, and is an error exactly when no file was written. -/
theorem configTextReply_writes_only_torrc (fs : FileSystem) (canWrite : Bytes → Bool)
    (reply : Reply) :
    (∀ canWrite' : Bytes → Bool,
      (∀ path, (reply.get (ascii "config-file")).head? = some path →
        RsDirUtil.getFileName path = ascii "torrc" → fs.fileExists path = true →
          canWrite' path = canWrite path) →
      configTextReply fs canWrite' PendingOperation.init reply =
        configTextReply fs canWrite PendingOperation.init reply) ∧
    (∀ path contents,
      (configTextReply fs canWrite PendingOperation.init reply).2 = some (path, contents) →
        (reply.get (ascii "config-file")).head? = some path ∧
          RsDirUtil.getFileName path = ascii "torrc" ∧ fs.fileExists path = true ∧
          canWrite path = true ∧
          contents = ((reply.get (ascii "config-text")).filter (KeptLine ·)).flatMap
            (· ++ [byte '\n'])) ∧
      (∃ cbs, (configTextReply fs canWrite PendingOperation.init reply).1.2 = cbs ++ [.finished] ∧
        .finished ∉ cbs) ∧
      ((configTextReply fs canWrite PendingOperation.init reply).1.1.isError = true ↔
        (configTextReply fs canWrite PendingOperation.init reply).2 = none) := by
  refine ⟨fun _ h => configTextReply_opens_only_torrc fs _ reply h, ?_⟩
  dsimp only [configTextReply]
  split_ifs with h₁ h₂ h₃
  · exact ⟨by simp, PendingOperation.call_callbacks_of_not_finished rfl (.finishWithError _),
      by simpa using finishWithError_init_isError (by decide)⟩
  · exact ⟨by simp, PendingOperation.call_callbacks_of_not_finished rfl (.finishWithError _),
      by simpa using finishWithError_init_isError (List.append_ne_nil_of_left_ne_nil (by decide) _)⟩
  · exact ⟨by simp, PendingOperation.call_callbacks_of_not_finished rfl (.finishWithError _),
      by simpa using finishWithError_init_isError (by decide)⟩
  · refine ⟨?_, PendingOperation.call_callbacks_of_not_finished rfl .finishWithSuccess,
      by simp [PendingOperation.finishWithSuccess_eq, PendingOperation.init,
        PendingOperation.isError]⟩
    rintro path contents ⟨⟩
    simp only [ne_eq, not_or, not_not, Bool.not_eq_true', Bool.not_eq_false] at h₂ h₃
    refine ⟨headD_ne_nil h₁, h₂.1, h₂.2, h₃, ?_⟩
    simp [List.filter_congr fun line _ => bannedKeys_keep line, List.flatMap]

example :
    (configTextReply ⟨fun _ => .error 2, fun _ => true⟩ (fun _ => true) PendingOperation.init
      ⟨true, [], ⟨false, false, false⟩, [], [],
        fun k => if k = ascii "config-file" then [ascii "/etc/tor/settings.conf"] else []⟩) =
      ((⟨true, ascii "Refusing to write torrc to unacceptable path /etc/tor/settings.conf"⟩,
        [.error (ascii "Refusing to write torrc to unacceptable path /etc/tor/settings.conf"),
          .finished]), none) := by
  decide

end Tor

end RetroShareTor

import RetroShareTor.Tor.TorControl.InfoReply

/-!
# The bootstrap map of a BOOTSTRAP status

A BOOTSTRAP status reaches `updateBootstrap` on two paths: as the event
`STATUS_CLIENT w BOOTSTRAP k=v ...`, which `statusEvent` trims and splits, and as the value
`w BOOTSTRAP k=v ...` of `status/bootstrap-phase` in the GETINFO reply, which
`getTorInfoReply` splits as it is. When the words split back as they were joined
(`splitQuotedStrings_intercalate`), both paths hand `updateBootstrap` the same tokens and
leave the same map: read from the front, the pairs last first with their lowered keys and
decoded values, then the severity, then the entry the word `BOOTSTRAP` makes of itself
(`bootstrap_paths_agree`).

The words must keep to more than their first byte: a bare value with a double quote inside
opens a quote that swallows the pairs after it, a key that lowers to `severity` replaces the
severity, and white space ending the event line is cut by `trimmed()` on the event path only
(`bootstrap_paths_counterexample`).
-/

namespace RetroShareTor

namespace Tor

namespace TorControl

/-! ### BOOTSTRAP lines -/

/-- The value of a `key=value` pair as a line holds it: a bare word, or a string written by
`quotedString`. -/
inductive PairValue
  | bare (v : Bytes)
  | quoted (s : Bytes)
  deriving DecidableEq, Repr

namespace PairValue

/-- The bytes of the value on the line. -/
def text : PairValue → Bytes
  | bare v => v
  | quoted s => quotedString s

/-- The value the line stands for. -/
def decoded : PairValue → Bytes
  | bare v => v
  | quoted s => s

/-- A bare value has no space and no double quote; a quoted one is any string. -/
def IsWord : PairValue → Prop
  | bare v => ∀ c ∈ v, c ≠ byte ' ' ∧ c ≠ byte '"'
  | quoted _ => True

instance : DecidablePred IsWord
  | bare v => inferInstanceAs (Decidable (∀ c ∈ v, _))
  | quoted _ => inferInstanceAs (Decidable True)

end PairValue

/-- A pair of a BOOTSTRAP line: a non-empty key without `=`, space or double quote, and a
value that is a word. -/
def IsPair (p : Bytes × PairValue) : Prop :=
  p.1 ≠ [] ∧ (∀ c ∈ p.1, c ≠ byte '=' ∧ c ≠ byte ' ' ∧ c ≠ byte '"') ∧ p.2.IsWord

instance : DecidablePred IsPair := fun _ => inferInstanceAs (Decidable (_ ∧ _ ∧ _))

/-- The word `key=value` of a pair. -/
def pairWord (p : Bytes × PairValue) : Bytes := p.1 ++ byte '=' :: p.2.text

/-- The words of a BOOTSTRAP status: the severity, `BOOTSTRAP`, then the pairs. -/
def bootstrapWords (w : Bytes) (pairs : List (Bytes × PairValue)) : List Bytes :=
  w :: ascii "BOOTSTRAP" :: pairs.map pairWord

/-- The `status/bootstrap-phase` value of a GETINFO reply: the words joined by spaces. -/
def bootstrapLine (w : Bytes) (pairs : List (Bytes × PairValue)) : Bytes :=
  [byte ' '].intercalate (bootstrapWords w pairs)

/-- The event `STATUS_CLIENT w BOOTSTRAP k=v ...`. -/
def statusLine (w : Bytes) (pairs : List (Bytes × PairValue)) : Bytes :=
  [byte ' '].intercalate (ascii "STATUS_CLIENT" :: bootstrapWords w pairs)

/-- The map a BOOTSTRAP status stands for, read from the front: the pairs, last first, with
lowered keys and decoded values; then the severity; then the entry of the word
`BOOTSTRAP`. -/
def bootstrapMap (w : Bytes) (pairs : List (Bytes × PairValue)) : StringMap :=
  (pairs.map fun p => (ByteArray.toLower p.1, p.2.decoded)).reverse ++
    [(ascii "severity", w), (ascii "bootstrap", [])]

section Words

variable {w : Bytes} {pairs : List (Bytes × PairValue)}

/-- A pair's word is bare bytes, then at most one quoted string. -/
lemma pairWord_token {p : Bytes × PairValue} (hp : IsPair p) :
    pairWord p ≠ [] ∧ QuotedToken (byte ' ') (pairWord p) := by
  obtain ⟨k, v⟩ := p
  obtain ⟨-, hk, hv⟩ := hp
  refine ⟨by simp [pairWord], ?_⟩
  have hkey : ∀ c ∈ k ++ [byte '='], c ≠ byte ' ' ∧ c ≠ byte '"' := by
    simp only [List.mem_append, List.mem_singleton]
    rintro c (hc | rfl)
    · exact (hk c hc).2
    · decide
  cases v with
  | bare v =>
    refine ⟨k ++ byte '=' :: v, [], by simp [pairWord, PairValue.text], ?_, .inl rfl⟩
    intro c hc
    rw [← List.singleton_append, ← List.append_assoc, List.mem_append] at hc
    exact hc.elim (hkey c) (hv c)
  | quoted s =>
    exact ⟨k ++ [byte '='], quotedString s, by simp [pairWord, PairValue.text], hkey,
      .inr ⟨s, rfl⟩⟩

lemma bootstrapWords_tokens (hw : w ≠ [] ∧ ∀ c ∈ w, c ≠ byte ' ' ∧ c ≠ byte '"')
    (hpairs : ∀ p ∈ pairs, IsPair p) :
    ∀ t ∈ bootstrapWords w pairs, t ≠ [] ∧ QuotedToken (byte ' ') t := by
  simp only [bootstrapWords, List.mem_cons, List.mem_map]
  rintro t (rfl | rfl | ⟨p, hp, rfl⟩)
  · exact ⟨hw.1, t, [], by simp, hw.2, .inl rfl⟩
  · exact ⟨by decide, ascii "BOOTSTRAP", [], by simp, by decide, .inl rfl⟩
  · exact pairWord_token (hpairs p hp)

/-- The GETINFO value splits back into its words. -/
lemma bootstrapLine_split (hw : w ≠ [] ∧ ∀ c ∈ w, c ≠ byte ' ' ∧ c ≠ byte '"')
    (hpairs : ∀ p ∈ pairs, IsPair p) :
    splitQuotedStrings (bootstrapLine w pairs) (byte ' ') = bootstrapWords w pairs := by
  rw [bootstrapLine, splitQuotedStrings_eq]
  exact splitTokens_intercalate (by decide) (List.cons_ne_nil _ _) (bootstrapWords_tokens hw hpairs)

/-- The event splits, after `trimmed()`, into `STATUS_CLIENT` and the words, when it does not
end in white space. -/
lemma statusTokens_statusLine (hw : w ≠ [] ∧ ∀ c ∈ w, c ≠ byte ' ' ∧ c ≠ byte '"')
    (hpairs : ∀ p ∈ pairs, IsPair p)
    (hend : ∀ c ∈ (statusLine w pairs).getLast?, ByteArray.isSpace c = false) :
    statusTokens (statusLine w pairs) = ascii "STATUS_CLIENT" :: bootstrapWords w pairs := by
  have hhead : (statusLine w pairs).head? = some (byte 'S') := by
    rw [statusLine, bootstrapWords, intercalate_cons_cons]; rfl
  rw [statusTokens, ByteArray.trimmed_of_ends (by rw [hhead]; decide) hend, statusLine,
    splitQuotedStrings_eq]
  refine splitTokens_intercalate (by decide) (List.cons_ne_nil _ _) ?_
  simp only [List.mem_cons]
  rintro t (rfl | ht)
  · exact ⟨by decide, ascii "STATUS_CLIENT", [], by simp, by decide, .inl rfl⟩
  · exact bootstrapWords_tokens hw hpairs t ht

end Words

/-! ### The map `updateBootstrap` leaves -/

/-- A pair's word sets its lowered key to its decoded value. -/
lemma bootstrapEntry_pairWord {p : Bytes × PairValue} (hp : IsPair p) (m : StringMap) :
    bootstrapEntry m (pairWord p) = m.insert (ByteArray.toLower p.1) p.2.decoded := by
  obtain ⟨k, v⟩ := p
  obtain ⟨-, hk, hv⟩ := hp
  have hidx : ByteArray.indexOf (pairWord (k, v)) (byte '=') = k.length := by
    simp [ByteArray.indexOf, pairWord, List.indexOf_append_of_not_mem fun h => (hk _ h).1 rfl]
  have hval : unquotedString v.text = v.decoded := by
    cases v with
    | bare v =>
      cases v with
      | nil => rfl
      | cons c v => simp [unquotedString, PairValue.text, PairValue.decoded, (hv c (.head _)).2]
    | quoted s => simp [PairValue.text, PairValue.decoded]
  simp only [bootstrapEntry, hidx]
  simp [ByteArray.mid, pairWord, hval, Int.ofNat_zero_le]

section Paths

variable {w : Bytes} {pairs : List (Bytes × PairValue)}

/-- `updateBootstrap` on the words of a BOOTSTRAP status sets the pairs in turn over the
severity and the entry of the word `BOOTSTRAP`. -/
lemma updateBootstrap_bootstrapWords (s : TorControl) (hpairs : ∀ p ∈ pairs, IsPair p) :
    s.updateBootstrap (bootstrapWords w pairs) =
      some { s with
        mBootstrapStatus := pairs.foldl (fun (m : StringMap) p =>
          m.insert (ByteArray.toLower p.1) p.2.decoded)
            [(ascii "severity", w), (ascii "bootstrap", [])] } := by
  have hword : bootstrapEntry [(ascii "severity", w)] (ascii "BOOTSTRAP") =
      [(ascii "severity", w), (ascii "bootstrap", [])] := rfl
  simp only [bootstrapWords, updateBootstrap, List.foldl_cons, List.foldl_map, hword]
  rw [List.foldl_ext _ _ _ fun m p hp => bootstrapEntry_pairWord (hpairs p hp) m]

lemma lookup_bootstrap (k : Bytes) :
    (pairs.foldl (fun (m : StringMap) p => m.insert (ByteArray.toLower p.1) p.2.decoded)
      [(ascii "severity", w), (ascii "bootstrap", [])]).lookup k =
      (bootstrapMap w pairs).lookup k :=
  StringMap.lookup_foldl_insert (fun p => (ByteArray.toLower p.1, p.2.decoded)) pairs _ k

/-- The event path: a `STATUS_CLIENT ... BOOTSTRAP` line is handed to `updateBootstrap`
without its first word. -/
lemma statusEvent_statusLine (s : TorControl)
    (hw : w ≠ [] ∧ ∀ c ∈ w, c ≠ byte ' ' ∧ c ≠ byte '"') (hpairs : ∀ p ∈ pairs, IsPair p)
    (hend : ∀ c ∈ (statusLine w pairs).getLast?, ByteArray.isSpace c = false) :
    statusEvent s (statusLine w pairs) = s.updateBootstrap (bootstrapWords w pairs) := by
  rw [statusEvent, statusTokens_statusLine hw hpairs hend]
  rfl

/-- The GETINFO path: with a SOCKS and a circuit value, the bootstrap value's words are
handed to `updateBootstrap`, after the SOCKS endpoint and the status are set. -/
lemma getTorInfoReply_bootstrapLine (s : TorControl) (reply : Reply)
    (hw : w ≠ [] ∧ ∀ c ∈ w, c ≠ byte ' ' ∧ c ≠ byte '"') (hpairs : ∀ p ∈ pairs, IsPair p)
    (hsocks : reply.get (ascii "net/listeners/socks") ≠ [])
    (hcircuit : reply.get (ascii "status/circuit-established") ≠ [])
    (hphase : (reply.get (ascii "status/bootstrap-phase")).head? = some (bootstrapLine w pairs)) :
    ∃ s' : TorControl, getTorInfoReply s reply = s'.updateBootstrap (bootstrapWords w pairs) := by
  obtain ⟨socks, _, hs⟩ := List.exists_cons_of_ne_nil hsocks
  obtain ⟨circuit, _, hc⟩ := List.exists_cons_of_ne_nil hcircuit
  obtain ⟨_, hb⟩ := List.head?_eq_some_iff.mp hphase
  simp only [getTorInfoReply, hs, hc, hb, List.head?_cons, Option.bind_eq_bind, Option.some_bind,
    bootstrapLine_split hw hpairs]
  exact ⟨_, rfl⟩

end Paths

/-- For a severity and pairs that are words, and an event line that does not end in white
space, the event and the GETINFO reply that carry the same BOOTSTRAP status leave the same
bootstrap map, and that map is `bootstrapMap`. -/
theorem bootstrap_paths_agree (s : TorControl) (reply : Reply) (w : Bytes)
    (pairs : List (Bytes × PairValue))
    (hw : w ≠ [] ∧ ∀ c ∈ w, c ≠ byte ' ' ∧ c ≠ byte '"') (hpairs : ∀ p ∈ pairs, IsPair p)
    (hend : ∀ c ∈ (statusLine w pairs).getLast?, ByteArray.isSpace c = false)
    (hsocks : reply.get (ascii "net/listeners/socks") ≠ [])
    (hcircuit : reply.get (ascii "status/circuit-established") ≠ [])
    (hphase : (reply.get (ascii "status/bootstrap-phase")).head? = some (bootstrapLine w pairs)) :
    ∃ s₁ s₂, statusEvent s (statusLine w pairs) = some s₁ ∧ getTorInfoReply s reply = some s₂ ∧
      s₁.mBootstrapStatus = s₂.mBootstrapStatus ∧
      ∀ k, s₁.mBootstrapStatus.lookup k = (bootstrapMap w pairs).lookup k := by
  obtain ⟨s', h'⟩ := getTorInfoReply_bootstrapLine s reply hw hpairs hsocks hcircuit hphase
  rw [statusEvent_statusLine s hw hpairs hend, h', updateBootstrap_bootstrapWords _ hpairs,
    updateBootstrap_bootstrapWords _ hpairs]
  exact ⟨_, _, rfl, rfl, rfl, lookup_bootstrap⟩

/-- The status of a bootstrap at 75%, with a bare and a quoted value, on both paths. -/
theorem bootstrap_paths_agree_progress :
    (ascii "NOTICE" ≠ [] ∧ ∀ c ∈ ascii "NOTICE", c ≠ byte ' ' ∧ c ≠ byte '"') ∧
      (∀ p ∈ [(ascii "PROGRESS", PairValue.bare (ascii "75")),
        (ascii "SUMMARY", .quoted (ascii "Connecting to a relay"))], IsPair p) ∧
      (∀ c ∈ (statusLine (ascii "NOTICE") [(ascii "PROGRESS", .bare (ascii "75")),
        (ascii "SUMMARY", .quoted (ascii "Connecting to a relay"))]).getLast?,
          ByteArray.isSpace c = false) ∧
      ∃ s₁ s₂, statusEvent init (statusLine (ascii "NOTICE")
          [(ascii "PROGRESS", .bare (ascii "75")),
            (ascii "SUMMARY", .quoted (ascii "Connecting to a relay"))]) = some s₁ ∧
        getTorInfoReply init (infoReply true [(ascii "net/listeners/socks", ascii "127.0.0.1:9050"),
          (ascii "status/circuit-established", ascii "1"),
          (ascii "status/bootstrap-phase", bootstrapLine (ascii "NOTICE")
            [(ascii "PROGRESS", .bare (ascii "75")),
              (ascii "SUMMARY", .quoted (ascii "Connecting to a relay"))])]) = some s₂ ∧
        s₁.mBootstrapStatus = s₂.mBootstrapStatus ∧
        ∀ k, s₁.mBootstrapStatus.lookup k = (bootstrapMap (ascii "NOTICE")
          [(ascii "PROGRESS", .bare (ascii "75")),
            (ascii "SUMMARY", .quoted (ascii "Connecting to a relay"))]).lookup k :=
  ⟨by decide, by decide, by decide,
    bootstrap_paths_agree init _ _ _ (by decide) (by decide) (by decide) (by decide) (by decide)
      (by decide)⟩

/-- Three statuses outside the words above: the key `SEVERITY` replaces the severity; the
bare value `x"y` opens a quote, so the pair `B=z` after it is not set; and the value `x` then
a tab loses its tab on the event path but keeps it on the GETINFO path. -/
theorem bootstrap_paths_counterexample :
    (statusEvent init (statusLine (ascii "NOTICE") [(ascii "SEVERITY", .bare (ascii "x"))])).map
        (fun s => s.mBootstrapStatus.lookup (ascii "severity")) = some (some (ascii "x")) ∧
      (statusEvent init (statusLine (ascii "NOTICE")
        [(ascii "A", .bare (ascii "x\"y")), (ascii "B", .bare (ascii "z"))])).map
        (fun s => s.mBootstrapStatus.lookup (ascii "b")) = some none ∧
      (statusEvent init (statusLine (ascii "NOTICE") [(ascii "A", .bare (ascii "x\t"))])).map
        (fun s => s.mBootstrapStatus.lookup (ascii "a")) = some (some (ascii "x")) ∧
      (getTorInfoReply init (infoReply true [(ascii "net/listeners/socks", ascii "127.0.0.1:9050"),
        (ascii "status/circuit-established", ascii "1"),
        (ascii "status/bootstrap-phase",
          bootstrapLine (ascii "NOTICE") [(ascii "A", .bare (ascii "x\t"))])])).map
        (fun s => s.mBootstrapStatus.lookup (ascii "a")) = some (some (ascii "x\t")) := by
  decide

end TorControl

end Tor

end RetroShareTor

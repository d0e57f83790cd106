import RetroShareTor.Pqi.InputBuffer

/-!
# The outbound buffer

Over every run of an `RsFdBinInterface` in which `write()` takes at most the bytes it is
offered: `mTotalOutBufferBytes` counts the queued bytes; the bytes the run's `write()` calls
took, each the first bytes of the front segment it was offered, followed by those still
queued, are the payloads of `senddata` in call order, so that a partial write re-offers
exactly the unsent suffix; and `mTotalWrittenBytes` counts the bytes `write()` took
(`output_run_law`). The bytes taken are computed from the calls, the `write()` results and
the queue they meet, and the `write()` calls the interface records are those.
-/

namespace RetroShareTor

namespace RsFdBinInterface

/-- The queued outbound bytes, in order. -/
def outBytes (s : RsFdBinInterface) : Bytes := s.out_buffer.flatten

/-- The bytes a call's `write()` takes, when the call makes one: the first `w` bytes of the
front segment, offered by `write_pending()` and by `tick()` on an active interface. -/
def writtenBy (s : RsFdBinInterface) : PipeCall → Bytes
  | .write_pending (.ok w) => (s.out_buffer.headD []).take w
  | .tick _ (.ok w) => if s.mIsActive then (s.out_buffer.headD []).take w else []
  | _ => []

/-- The bytes the recorded `write()` calls took, in order. -/
def acceptedBytes : List PipeEvent → Bytes
  | [] => []
  | .write _ p (.ok w) :: evs => p.take w ++ acceptedBytes evs
  | _ :: evs => acceptedBytes evs

/-- The payloads of the `senddata` calls, in order. -/
def sentBytes : List PipeCall → Bytes
  | [] => []
  | .senddata data :: cs => data ++ sentBytes cs
  | _ :: cs => sentBytes cs

@[simp] lemma acceptedBytes_append (e₁ e₂ : List PipeEvent) :
    acceptedBytes (e₁ ++ e₂) = acceptedBytes e₁ ++ acceptedBytes e₂ := by
  induction e₁ with
  | nil => rfl
  | cons e es ih =>
    cases e with
    | write fd p w => cases w <;> simp [acceptedBytes, ih]
    | _ => simp [acceptedBytes, ih]

/-- What the operating system guarantees of `write()`: it takes at most the bytes of the
front segment it is offered. -/
def WriteFits (s : RsFdBinInterface) : PipeCall → Prop
  | .write_pending (.ok w) | .tick _ (.ok w) => ∀ p ∈ s.out_buffer.head?, w ≤ p.length
  | _ => True

instance (s : RsFdBinInterface) : (c : PipeCall) → Decidable (WriteFits s c)
  | .write_pending (.ok w) | .tick _ (.ok w) =>
    inferInstanceAs (Decidable (∀ p ∈ s.out_buffer.head?, w ≤ p.length))
  | .write_pending (.error _) | .tick _ (.error _) | .setSocket _ | .close | .read_pending _
  | .senddata _ | .readline _ | .readdata _ => inferInstanceAs (Decidable True)

/-- `P` holds of each call of a run, at the state the call is made in. -/
def RunAll (P : RsFdBinInterface → PipeCall → Prop) : RsFdBinInterface → List PipeCall → Prop
  | _, [] => True
  | s, c :: cs => P s c ∧
    match s.step c with
    | some r => RunAll P r.1 cs
    | none => True

instance decRunAll (P : RsFdBinInterface → PipeCall → Prop) [∀ s c, Decidable (P s c)] :
    (s : RsFdBinInterface) → (cs : List PipeCall) → Decidable (RunAll P s cs)
  | _, [] => inferInstanceAs (Decidable True)
  | s, c :: cs =>
    match h : s.step c with
    | some r =>
      haveI := decRunAll P r.1 cs
      decidable_of_iff (P s c ∧ RunAll P r.1 cs) (by simp [RunAll, h])
    | none => decidable_of_iff (P s c) (by simp [RunAll, h])

/-! ### One call -/

/-- The effect of calls on the outbound side: the counter keeps counting the queue, the
bytes their `write()` calls take and what is left are what was queued and what was sent,
the written count grows by what `write()` took, and the recorded `write()` calls took those
bytes. -/
def OutStep (s s' : RsFdBinInterface) (cs : List PipeCall) (evs : List PipeEvent) : Prop :=
  (s.mTotalOutBufferBytes = s.outBytes.length → s'.mTotalOutBufferBytes = s'.outBytes.length) ∧
    runBytes writtenBy s cs ++ s'.outBytes = s.outBytes ++ sentBytes cs ∧
    s'.mTotalWrittenBytes = s.mTotalWrittenBytes + (runBytes writtenBy s cs).length ∧
    acceptedBytes evs = runBytes writtenBy s cs

@[simp] lemma sentBytes_cons (c : PipeCall) (cs : List PipeCall) :
    sentBytes (c :: cs) = sentBytes [c] ++ sentBytes cs := by
  cases c <;> simp [sentBytes]

lemma runBytes_singleton (f : RsFdBinInterface → PipeCall → Bytes) (s : RsFdBinInterface)
    (c : PipeCall) : runBytes f s [c] = f s c := by
  simp only [runBytes]; split <;> simp

/-- A call that leaves the outbound side alone. -/
lemma outStep_frame {s s' : RsFdBinInterface} {c : PipeCall} {evs : List PipeEvent}
    (h1 : s'.out_buffer = s.out_buffer) (h2 : s'.mTotalOutBufferBytes = s.mTotalOutBufferBytes)
    (h3 : s'.mTotalWrittenBytes = s.mTotalWrittenBytes) (h4 : acceptedBytes evs = [])
    (h5 : sentBytes [c] = []) (h6 : writtenBy s c = []) : OutStep s s' [c] evs := by
  refine ⟨by simp [outBytes, h1, h2], ?_, ?_, ?_⟩ <;>
    simp [runBytes_singleton, outBytes, h1, h3, h4, h5, h6]

/-- `write_pending` takes what `write()` took off the front of the queue, and makes the one
recorded `write()` call. -/
lemma write_pending_out (s : RsFdBinInterface) (w : WriteResult)
    (hw : ∀ n, w = .ok n → ∀ p ∈ s.out_buffer.head?, n ≤ p.length) :
    (s.mTotalOutBufferBytes = s.outBytes.length →
      (s.write_pending w).1.mTotalOutBufferBytes = (s.write_pending w).1.outBytes.length) ∧
    writtenBy s (.write_pending w) ++ (s.write_pending w).1.outBytes = s.outBytes ∧
    (s.write_pending w).1.mTotalWrittenBytes =
      s.mTotalWrittenBytes + (writtenBy s (.write_pending w)).length ∧
    acceptedBytes (s.write_pending w).2.2 = writtenBy s (.write_pending w) := by
  unfold write_pending
  split
  · rename_i hout
    cases w <;> simp [writtenBy, acceptedBytes, hout]
  · rename_i p rest hout
    have hp : ∀ n, w = .ok n → n ≤ p.length := fun n hn => hw n hn p (by simp [hout])
    have hflat : s.outBytes = p ++ rest.flatten := by simp [outBytes, hout]
    split
    · simp [writtenBy, acceptedBytes]
    · simp [writtenBy, acceptedBytes]
    · rename_i n hn
      have hle := hp n rfl
      split
      · refine ⟨fun h => ?_, ?_, by simp [writtenBy, hout]; omega,
          by simp [writtenBy, acceptedBytes, hout]⟩
        · rw [hflat, List.length_append] at h
          simp [outBytes, h]
          omega
        · rw [hflat]
          simp [writtenBy, outBytes, hout, ← List.append_assoc]
      · have hn' : n = p.length := by omega
        subst hn'
        refine ⟨fun h => ?_, ?_, by simp [writtenBy, hout],
          by simp [writtenBy, acceptedBytes, hout]⟩
        · rw [hflat, List.length_append] at h
          simp [outBytes, h]
        · simp [writtenBy, outBytes, hout]

lemma read_pending_out (s : RsFdBinInterface) (r : ReadResult) :
    (s.read_pending r).1.out_buffer = s.out_buffer ∧
      (s.read_pending r).1.mTotalOutBufferBytes = s.mTotalOutBufferBytes ∧
      (s.read_pending r).1.mTotalWrittenBytes = s.mTotalWrittenBytes ∧
      acceptedBytes (s.read_pending r).2.2 = [] := by
  unfold read_pending
  split <;> simp [acceptedBytes]

lemma readdata_out {s s' : RsFdBinInterface} {len : Nat} {ret : Int} {out : Bytes}
    (h : s.readdata len = some (s', ret, out)) :
    s'.out_buffer = s.out_buffer ∧ s'.mTotalOutBufferBytes = s.mTotalOutBufferBytes ∧
      s'.mTotalWrittenBytes = s.mTotalWrittenBytes := by
  unfold readdata at h
  split at h
  · cases h; simp
  · split at h
    · cases h; simp
    · obtain ⟨r, -, hr⟩ := Option.map_eq_some'.1 h
      cases hr; simp

lemma readline_out {s s' : RsFdBinInterface} {len : Nat} {ret : Int} {out : Bytes}
    (h : s.readline len = some (s', ret, out)) :
    s'.out_buffer = s.out_buffer ∧ s'.mTotalOutBufferBytes = s.mTotalOutBufferBytes ∧
      s'.mTotalWrittenBytes = s.mTotalWrittenBytes := by
  unfold readline at h
  split at h
  · exact readdata_out h
  · cases h; simp

/-- Every call moves the outbound side as `OutStep` says, when `write()` takes at most what
it is offered. -/
lemma step_out {s s' : RsFdBinInterface} {c : PipeCall} {evs : List PipeEvent}
    (h : s.step c = some (s', evs)) (hw : WriteFits s c) : OutStep s s' [c] evs := by
  cases c with
  | setSocket fd =>
    cases h; exact outStep_frame (by simp) (by simp) (by simp) rfl rfl rfl
  | close => cases h; exact outStep_frame rfl rfl rfl rfl rfl rfl
  | readline len =>
    obtain ⟨⟨s₁, ret, out⟩, hr, he⟩ := Option.map_eq_some'.1 h
    obtain ⟨rfl, rfl⟩ := Prod.mk.inj he
    obtain ⟨h1, h2, h3⟩ := readline_out hr
    exact outStep_frame h1 h2 h3 (by simp [acceptedBytes]) rfl rfl
  | readdata len =>
    obtain ⟨⟨s₁, ret, out⟩, hr, he⟩ := Option.map_eq_some'.1 h
    obtain ⟨rfl, rfl⟩ := Prod.mk.inj he
    obtain ⟨h1, h2, h3⟩ := readdata_out hr
    exact outStep_frame h1 h2 h3 (by simp [acceptedBytes]) rfl rfl
  | read_pending r =>
    cases h
    obtain ⟨h1, h2, h3, h4⟩ := read_pending_out s r
    exact outStep_frame h1 h2 h3 h4 rfl (by cases r <;> rfl)
  | senddata data =>
    cases h
    unfold senddata
    split
    · refine ⟨id, ?_, ?_, ?_⟩ <;>
        simp [runBytes_singleton, writtenBy, acceptedBytes, sentBytes, *]
    · refine ⟨fun h => by simp [outBytes] at h ⊢; omega, ?_, ?_, ?_⟩ <;>
        simp [runBytes_singleton, writtenBy, acceptedBytes, sentBytes, outBytes]
  | write_pending w =>
    cases h
    obtain ⟨h1, h2, h3, h4⟩ := write_pending_out s w (by cases w <;> simp_all [WriteFits])
    simp only [OutStep, runBytes_singleton, sentBytes, List.append_nil]
    exact ⟨h1, h2, h3, h4⟩
  | tick r w =>
    cases h
    unfold tick
    split
    · rename_i ha
      obtain ⟨h1, h2, h3, h4⟩ := read_pending_out s r
      obtain ⟨h5, h6, h7, h8⟩ := write_pending_out (s.read_pending r).1 w
        (by rw [h1]; cases w <;> simp_all [WriteFits])
      have hw' : writtenBy s (.tick r w) = writtenBy (s.read_pending r).1 (.write_pending w) := by
        cases w <;> simp [writtenBy, ha, h1]
      refine ⟨fun h => h5 (by simp [outBytes, h1, h2, h] at *), ?_, ?_, ?_⟩
      · simpa [runBytes_singleton, hw', sentBytes, outBytes, h1] using h6
      · simp [runBytes_singleton, hw', h7, h3]
      · simp [runBytes_singleton, hw', h4, h8]
    · exact outStep_frame rfl rfl rfl rfl rfl (by cases w <;> simp [writtenBy, *])

lemma run_out : ∀ {s s' : RsFdBinInterface} {cs : List PipeCall} {evs : List PipeEvent},
    s.run cs = some (s', evs) → RunAll WriteFits s cs → OutStep s s' cs evs
  | s, s', [], evs, h, _ => by
    cases h
    refine ⟨id, ?_, ?_, ?_⟩ <;> simp [runBytes, sentBytes, acceptedBytes]
  | s, s', c :: cs, evs, h, hw => by
    obtain ⟨⟨s₁, evs₁⟩, hr, h'⟩ := Option.bind_eq_some.1 h
    obtain ⟨⟨s₂, evs₂⟩, hr', he⟩ := Option.map_eq_some'.1 h'
    obtain ⟨rfl, rfl⟩ := Prod.mk.inj he
    obtain ⟨h1, h2, h3, h4⟩ := step_out hr hw.1
    obtain ⟨h5, h6, h7, h8⟩ := run_out hr' (by simpa [RunAll, hr] using hw.2)
    rw [runBytes_singleton] at h2 h3 h4
    refine ⟨h5 ∘ h1, ?_, by simp [runBytes_cons hr, h7, h3]; omega,
      by simp [runBytes_cons hr, h4, h8]⟩
    rw [runBytes_cons hr, sentBytes_cons, ← List.append_assoc, ← h2]
    simp [h6]

/-- Every run of an interface in which `write()` takes at most the bytes it is offered is
defined; at its end `mTotalOutBufferBytes` counts the queued bytes; the bytes the run's
`write()` calls took, each the first bytes of the front segment, followed by those still
queued are the `senddata` payloads in call order; `mTotalWrittenBytes` counts the bytes
`write()` took; and the recorded `write()` calls are those of the front segments. -/
theorem output_run_law (fd : Int) (cs : List PipeCall) (hw : RunAll WriteFits (init fd) cs) :
    ∃ s evs, (init fd).run cs = some (s, evs) ∧ s.mTotalOutBufferBytes = s.outBytes.length ∧
      runBytes writtenBy (init fd) cs ++ s.outBytes = sentBytes cs ∧
      s.mTotalWrittenBytes = (runBytes writtenBy (init fd) cs).length ∧
      acceptedBytes evs = runBytes writtenBy (init fd) cs := by
  obtain ⟨s, evs, h, -⟩ := run_in cs (init_inInv fd)
  have h0 : (init fd).out_buffer = [] ∧ (init fd).mTotalOutBufferBytes = 0 ∧
      (init fd).mTotalWrittenBytes = 0 := by
    unfold init; split <;> simp
  obtain ⟨h1, h2, h3, h4⟩ := run_out h hw
  exact ⟨s, evs, h, h1 (by simp [outBytes, h0]), by simpa [outBytes, h0] using h2,
    by simpa [h0] using h3, h4⟩

/-- Two payloads, a partial write, a failed one, a zero-length one, and the rest. -/
theorem output_run_law_partial_writes :
    RunAll WriteFits (init 4) [.senddata (ascii "hello"), .senddata (ascii "!"),
      .write_pending (.ok 2), .write_pending (.error 11), .write_pending (.ok 0),
      .write_pending (.ok 3), .write_pending (.ok 1)] ∧
    ∃ s evs, (init 4).run [.senddata (ascii "hello"), .senddata (ascii "!"),
      .write_pending (.ok 2), .write_pending (.error 11), .write_pending (.ok 0),
      .write_pending (.ok 3), .write_pending (.ok 1)] = some (s, evs) ∧
      s.mTotalOutBufferBytes = s.outBytes.length ∧
      runBytes writtenBy (init 4) [.senddata (ascii "hello"), .senddata (ascii "!"),
        .write_pending (.ok 2), .write_pending (.error 11), .write_pending (.ok 0),
        .write_pending (.ok 3), .write_pending (.ok 1)] ++ s.outBytes =
        sentBytes [.senddata (ascii "hello"), .senddata (ascii "!"),
          .write_pending (.ok 2), .write_pending (.error 11), .write_pending (.ok 0),
          .write_pending (.ok 3), .write_pending (.ok 1)] ∧
      s.mTotalWrittenBytes = (runBytes writtenBy (init 4) [.senddata (ascii "hello"),
        .senddata (ascii "!"), .write_pending (.ok 2), .write_pending (.error 11),
        .write_pending (.ok 0), .write_pending (.ok 3), .write_pending (.ok 1)]).length ∧
      acceptedBytes evs = runBytes writtenBy (init 4) [.senddata (ascii "hello"),
        .senddata (ascii "!"), .write_pending (.ok 2), .write_pending (.error 11),
        .write_pending (.ok 0), .write_pending (.ok 3), .write_pending (.ok 1)] :=
  ⟨by decide, output_run_law 4 _ (by decide)⟩

/-! ### What the interface reports -/

/-- Over every run in which `write()` takes at most the bytes it is offered, the queries
report the buffers: `moretoread()` exactly when inbound bytes are buffered, `moretowrite()`
exactly when outbound bytes are queued, and `cansend()`, which is `isactive()`, exactly when
the interface is active or inbound bytes are buffered, so also on an interface that the end
of the stream closed while unread bytes remain. -/
theorem queries_run (fd : Int) (cs : List PipeCall) (hw : RunAll WriteFits (init fd) cs) :
    ∃ s evs, (init fd).run cs = some (s, evs) ∧
      (s.moretoread = true ↔ s.inBytes ≠ []) ∧ (s.moretowrite = true ↔ s.outBytes ≠ []) ∧
      (s.cansend = true ↔ s.mIsActive = true ∨ s.inBytes ≠ []) := by
  obtain ⟨s, evs, h, hinv, -⟩ := run_in cs (init_inInv fd)
  have h0 : (init fd).out_buffer = [] ∧ (init fd).mTotalOutBufferBytes = 0 := by
    unfold init; split <;> simp
  have hout := (run_out h hw).1 (by simp [outBytes, h0])
  refine ⟨s, evs, h, ?_, ?_, ?_⟩ <;>
    simp [moretoread, moretowrite, cansend, isactive, hinv.1, hout, List.length_pos]

/-- Two bytes read, then the end of the stream: the interface is closed, and still reports
bytes to read and that it can send. -/
theorem queries_run_end_of_stream :
    RunAll WriteFits (init 4) [.read_pending (.ok (ascii "ab")), .read_pending (.ok [])] ∧
      ∃ s evs, (init 4).run [.read_pending (.ok (ascii "ab")), .read_pending (.ok [])] =
          some (s, evs) ∧
        (s.moretoread = true ↔ s.inBytes ≠ []) ∧ (s.moretowrite = true ↔ s.outBytes ≠ []) ∧
        (s.cansend = true ↔ s.mIsActive = true ∨ s.inBytes ≠ []) :=
  ⟨by decide, queries_run 4 _ (by decide)⟩

end RsFdBinInterface

end RetroShareTor

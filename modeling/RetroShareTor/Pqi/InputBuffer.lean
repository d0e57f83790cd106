import RetroShareTor.Pqi.FdBinInterface

/-!
# The inbound buffer

Over every run of an `RsFdBinInterface` with fewer than `2^31` bytes buffered:
`mTotalInBufferBytes` counts the bytes of the inbound segments, none of which is empty; the
bytes handed out by `readline` and `readdata`, followed by those still buffered, are the
bytes `read()` returned; and `readdata` and `readline` take exactly the prefix they
promise, wherever the segment boundaries fall (`input_run_law`).
-/

namespace RetroShareTor

namespace RsFdBinInterface

/-- The inbound bytes, in order. -/
def inBytes (s : RsFdBinInterface) : Bytes := s.in_buffer.flatten

/-- The inbound invariant: the counter counts the buffered bytes, and no segment is
empty. -/
def InInv (s : RsFdBinInterface) : Prop :=
  s.mTotalInBufferBytes = s.inBytes.length ∧ ∀ p ∈ s.in_buffer, p ≠ []

/-! ### `readdata` -/

/-- The loop of `readdata` copies the first `need` bytes of the segments and leaves the
rest, cut at any boundary. -/
lemma readLoop_spec : ∀ (ps : List Bytes) (need : Nat), (∀ p ∈ ps, p ≠ []) → 0 < need →
    need ≤ ps.flatten.length →
    ∃ left, readLoop ps need = some (ps.flatten.take need, left) ∧
      left.flatten = ps.flatten.drop need ∧ ∀ p ∈ left, p ≠ []
  | [], need, _, h0, hle => by simp at hle; omega
  | p :: ps, need, hne, h0, hle => by
    have hps : ∀ q ∈ ps, q ≠ [] := fun q hq => hne q (List.mem_cons_of_mem p hq)
    by_cases hp : need ≤ p.length
    · refine ⟨if p.length - need = 0 then ps else p.drop need :: ps, ?_, ?_, ?_⟩
      · simp [readLoop, hp, List.take_append_of_le_length hp]
      · have hd := @List.drop_append_of_le_length _ p ps.flatten need hp
        split
        · simp_all [show need = p.length by omega]
        · simp_all
      · split
        · exact hps
        · simp only [List.mem_cons, forall_eq_or_imp, ne_eq, List.drop_eq_nil_iff]
          exact ⟨by omega, hps⟩
    · simp only [List.flatten_cons, List.length_append] at hle
      obtain ⟨left, h1, h2, h3⟩ := readLoop_spec ps (need - p.length) hps (by omega) (by omega)
      refine ⟨left, ?_, ?_, h3⟩
      · simp [readLoop, hp, h1, List.take_append_eq_append_take,
          List.take_of_length_le (show p.length ≤ need by omega)]
      · simp [h2, List.drop_append_eq_append_drop,
          List.drop_of_length_le (show p.length ≤ need by omega)]

lemma toInt32_of_lt {x : Nat} (h : x < 2 ^ 31) : toInt32 x = x := by
  simp only [toInt32, Nat.mod_eq_of_lt (show x < 2 ^ 32 by omega), h, if_true]

/-- What `readdata(data, len)` does at `s`: with `len` bytes buffered it returns `len` and
hands out and consumes exactly the first `len`; otherwise it returns another value and
changes nothing. -/
def ReaddataSpec (s : RsFdBinInterface) (len : Nat) : Prop :=
  ∃ s' ret out, s.readdata len = some (s', ret, out) ∧ InInv s' ∧
    if len ≤ s.inBytes.length then
      ret = len ∧ out = s.inBytes.take len ∧ s'.inBytes = s.inBytes.drop len
    else ret ≠ len ∧ out = [] ∧ s' = s

lemma readdata_spec {s : RsFdBinInterface} (hinv : s.InInv) (hb : s.inBytes.length < 2 ^ 31)
    (len : Nat) : ReaddataSpec s len := by
  obtain ⟨hcount, hne⟩ := hinv
  have hcast : toInt32 s.mTotalInBufferBytes = s.inBytes.length := by
    rw [hcount, toInt32_of_lt hb]
  by_cases hle : len ≤ s.inBytes.length
  · rcases Nat.eq_zero_or_pos len with rfl | hlen
    · refine ⟨s, 0, [], ?_, ⟨hcount, hne⟩, by simp⟩
      have : ¬ (s.inBytes.length : Int) < 0 := by omega
      simp [readdata, hcast, this]
    obtain ⟨left, h1, h2, h3⟩ := readLoop_spec s.in_buffer len hne hlen hle
    refine ⟨{ s with in_buffer := left, mTotalInBufferBytes := s.mTotalInBufferBytes - len },
      len, s.inBytes.take len, ?_, ⟨?_, h3⟩, ?_⟩
    · simp only [readdata, hcast, h1]
      rw [if_neg (by omega), if_neg (by omega)]
      rfl
    · simp only [inBytes] at h2 ⊢
      simp [h2, hcount, inBytes]
    · rw [if_pos hle]
      exact ⟨rfl, rfl, h2⟩
  · refine ⟨s, s.inBytes.length, [], ?_, ⟨hcount, hne⟩, ?_⟩
    · simp only [readdata, hcast]
      rw [if_pos (by omega)]
    · simp only [hle, if_false, and_true]
      omega

lemma toInt32_le (x : Nat) : toInt32 x ≤ x := by
  have := Nat.mod_le x (2 ^ 32)
  simp only [toInt32]
  split <;> omega

/-- Whatever is buffered, `readdata` keeps the invariant and hands out a prefix of the
buffered bytes, which it consumes. -/
lemma readdata_flow {s : RsFdBinInterface} (hinv : s.InInv) (len : Nat) :
    ∃ s' ret out, s.readdata len = some (s', ret, out) ∧ InInv s' ∧
      out ++ s'.inBytes = s.inBytes := by
  obtain ⟨hcount, hne⟩ := hinv
  by_cases hlt : toInt32 s.mTotalInBufferBytes < len
  · exact ⟨s, toInt32 s.mTotalInBufferBytes, [], by simp [readdata, hlt], ⟨hcount, hne⟩,
      rfl⟩
  rcases Nat.eq_zero_or_pos len with rfl | hlen
  · exact ⟨s, 0, [], by rw [readdata, if_neg hlt, if_pos rfl], ⟨hcount, hne⟩, rfl⟩
  have hle : len ≤ s.inBytes.length := by
    have := toInt32_le s.mTotalInBufferBytes
    omega
  obtain ⟨left, h1, h2, h3⟩ := readLoop_spec s.in_buffer len hne hlen hle
  refine ⟨{ s with in_buffer := left, mTotalInBufferBytes := s.mTotalInBufferBytes - len },
    len, s.inBytes.take len, ?_, ⟨?_, h3⟩, ?_⟩
  · simp only [readdata, h1]
    rw [if_neg hlt, if_neg (by omega)]
    rfl
  · simp only [inBytes] at h2 ⊢
    simp [h2, hcount, inBytes]
  · simp only [inBytes] at h2 ⊢
    rw [h2, List.take_append_drop]

/-! ### `readline` -/

/-- Counting the bytes of `bs` from `n`: the `k`-th byte ends a line, being a newline, or
`k` is `len`. -/
def IsLineEndFrom (len n : Nat) (bs : Bytes) (k : Nat) : Prop :=
  n < k ∧ k ≤ n + bs.length ∧ (k = len ∨ bs[k - n - 1]? = some (byte '\n'))

/-- The prefix of length `k` of `F` ends in a newline or is `len` long. -/
def IsLineEnd (len : Nat) (F : Bytes) (k : Nat) : Prop :=
  0 < k ∧ k ≤ F.length ∧ (k = len ∨ F[k - 1]? = some (byte '\n'))

lemma isLineEndFrom_zero {len k : Nat} {F : Bytes} :
    IsLineEndFrom len 0 F k ↔ IsLineEnd len F k := by
  simp [IsLineEndFrom, IsLineEnd]

lemma isLineEndFrom_cons {len n j : Nat} {c : UInt8} {cs : Bytes} :
    IsLineEndFrom len n (c :: cs) j ↔
      (j = n + 1 ∧ (n + 1 = len ∨ c = byte '\n')) ∨ IsLineEndFrom len (n + 1) cs j := by
  unfold IsLineEndFrom
  rcases Nat.lt_or_ge (n + 1) j with hj | hj
  · have hidx : j - n - 1 = (j - (n + 1) - 1) + 1 := by omega
    simp only [List.length_cons, hidx, List.getElem?_cons_succ]
    constructor
    · rintro ⟨-, h2, h3⟩; exact .inr ⟨hj, by omega, h3⟩
    · rintro (⟨rfl, -⟩ | ⟨-, h2, h3⟩)
      · omega
      · exact ⟨by omega, by omega, h3⟩
  · constructor
    · rintro ⟨h1, -, h3⟩
      obtain rfl : j = n + 1 := by omega
      simpa using h3
    · rintro (⟨rfl, h⟩ | ⟨h1, -⟩)
      · simpa using h
      · omega

/-- The scan of `readline` stops at the first line end. -/
lemma lineLength_some {len : Nat} : ∀ {n : Nat} {bs : Bytes} {k : Nat},
    lineLength len n bs = some k →
      IsLineEndFrom len n bs k ∧ ∀ j < k, ¬ IsLineEndFrom len n bs j
  | _, [], _, h => by simp [lineLength] at h
  | n, c :: cs, k, h => by
    unfold lineLength at h
    split at h
    · cases h
      refine ⟨isLineEndFrom_cons.2 (.inl ⟨rfl, ‹_›⟩), fun j hj hend => ?_⟩
      exact absurd hend.1 (by omega)
    · obtain ⟨hk, hmin⟩ := lineLength_some h
      refine ⟨isLineEndFrom_cons.2 (.inr hk), fun j hj hend => ?_⟩
      rcases isLineEndFrom_cons.1 hend with ⟨rfl, hc⟩ | hend
      · exact ‹¬_› hc
      · exact hmin j hj hend

/-- The scan of `readline` finds nothing when no prefix ends a line. -/
lemma lineLength_none {len : Nat} : ∀ {n : Nat} {bs : Bytes},
    lineLength len n bs = none → ∀ k, ¬ IsLineEndFrom len n bs k
  | n, [], _, k, hend => by simp [IsLineEndFrom] at hend; omega
  | n, c :: cs, h, k, hend => by
    unfold lineLength at h
    split at h
    · cases h
    · rcases isLineEndFrom_cons.1 hend with ⟨-, hc⟩ | hend
      · exact ‹¬_› hc
      · exact lineLength_none h k hend

/-- What `readline(data, len)` does at `s`: it hands out and consumes the shortest buffered
prefix that ends in a newline or is `len` long, returning its length; without one it
returns `0` and changes nothing. -/
def ReadlineSpec (s : RsFdBinInterface) (len : Nat) : Prop :=
  ∃ s' ret out, s.readline len = some (s', ret, out) ∧ InInv s' ∧
    ((∃ k, IsLineEnd len s.inBytes k ∧ (∀ j < k, ¬ IsLineEnd len s.inBytes j) ∧
        ret = k ∧ out = s.inBytes.take k ∧ s'.inBytes = s.inBytes.drop k) ∨
      ((∀ k, ¬ IsLineEnd len s.inBytes k) ∧ ret = 0 ∧ out = [] ∧ s' = s))

lemma readline_spec {s : RsFdBinInterface} (hinv : s.InInv) (hb : s.inBytes.length < 2 ^ 31)
    (len : Nat) : ReadlineSpec s len := by
  cases h : lineLength len 0 s.in_buffer.flatten with
  | none =>
    refine ⟨s, 0, [], by simp [readline, h], hinv, .inr ⟨fun k hk => ?_, rfl, rfl, rfl⟩⟩
    exact lineLength_none h k (isLineEndFrom_zero.2 hk)
  | some k =>
    obtain ⟨hk, hmin⟩ := lineLength_some h
    rw [isLineEndFrom_zero] at hk
    obtain ⟨s', ret, out, hrd, hinv', hres⟩ := readdata_spec hinv hb k
    rw [if_pos (show k ≤ s.inBytes.length from hk.2.1)] at hres
    obtain ⟨rfl, rfl, hs'⟩ := hres
    refine ⟨s', k, _, by simpa [readline, h] using hrd, hinv',
      .inl ⟨k, hk, fun j hj hend => hmin j hj (isLineEndFrom_zero.2 hend), rfl, rfl, hs'⟩⟩

/-- Whatever is buffered, `readline` keeps the invariant and hands out a prefix of the
buffered bytes, which it consumes. -/
lemma readline_flow {s : RsFdBinInterface} (hinv : s.InInv) (len : Nat) :
    ∃ s' ret out, s.readline len = some (s', ret, out) ∧ InInv s' ∧
      out ++ s'.inBytes = s.inBytes := by
  cases h : lineLength len 0 s.in_buffer.flatten with
  | none => exact ⟨s, 0, [], by simp [readline, h], hinv, rfl⟩
  | some k =>
    obtain ⟨s', ret, out, hrd, hinv', hflow⟩ := readdata_flow hinv k
    exact ⟨s', ret, out, by simpa [readline, h] using hrd, hinv', hflow⟩

/-! ### Runs -/

/-- The bytes the consuming calls handed out, in order. -/
def handedBytes : List PipeEvent → Bytes
  | [] => []
  | .handed b :: evs => b ++ handedBytes evs
  | _ :: evs => handedBytes evs

/-- The bytes a call's `read()` returns, when the call makes one: `read_pending()`, and
`tick()` on an active interface. -/
def readBy (s : RsFdBinInterface) : PipeCall → Bytes
  | .read_pending (.ok b) => b
  | .tick (.ok b) _ => if s.mIsActive then b else []
  | _ => []

@[simp] lemma handedBytes_append (e₁ e₂ : List PipeEvent) :
    handedBytes (e₁ ++ e₂) = handedBytes e₁ ++ handedBytes e₂ := by
  induction e₁ with
  | nil => rfl
  | cons e es ih => cases e <;> simp [handedBytes, ih]

/-- `write_pending` hands out nothing. -/
lemma write_pending_in (s : RsFdBinInterface) (w : WriteResult) :
    handedBytes (s.write_pending w).2.2 = [] := by
  unfold write_pending
  split
  · rfl
  · split <;> rfl

/-- `read_pending` appends what `read()` returned. -/
lemma read_pending_in {s : RsFdBinInterface} (hinv : s.InInv) (r : ReadResult) :
    (s.read_pending r).1.InInv ∧ handedBytes (s.read_pending r).2.2 = [] ∧
      (s.read_pending r).1.inBytes = s.inBytes ++ readBy s (.read_pending r) := by
  obtain ⟨hcount, hne⟩ := hinv
  unfold read_pending
  split
  · exact ⟨⟨hcount, hne⟩, rfl, by simp [readBy, inBytes]⟩
  · exact ⟨⟨hcount, hne⟩, rfl, by simp [readBy, inBytes]⟩
  · refine ⟨⟨?_, ?_⟩, rfl, by simp [readBy, inBytes]⟩
    · simp [hcount, inBytes]
    · simpa [or_imp, forall_and] using ⟨hne, ‹_›⟩

/-- Every call keeps the inbound invariant, and the bytes it hands out followed by those
left are the bytes that were buffered followed by those its `read()` returned. -/
lemma step_in {s : RsFdBinInterface} (hinv : s.InInv) (c : PipeCall) :
    ∃ s' evs, s.step c = some (s', evs) ∧ s'.InInv ∧
      handedBytes evs ++ s'.inBytes = s.inBytes ++ readBy s c := by
  have frame : ∀ s' : RsFdBinInterface, s'.in_buffer = s.in_buffer →
      s'.mTotalInBufferBytes = s.mTotalInBufferBytes → s'.InInv ∧ s'.inBytes = s.inBytes :=
    fun s' h1 h2 =>
      ⟨⟨by rw [h2, hinv.1, inBytes, inBytes, h1], h1 ▸ hinv.2⟩, by simp [inBytes, h1]⟩
  cases c with
  | setSocket fd =>
    obtain ⟨h1, h2⟩ := frame (s.setSocket fd) (by simp) (by simp)
    exact ⟨_, [], rfl, h1, by simp [h2, handedBytes, readBy]⟩
  | close =>
    obtain ⟨h1, h2⟩ := frame s.close rfl rfl
    exact ⟨_, [], rfl, h1, by simp [h2, handedBytes, readBy]⟩
  | senddata data =>
    obtain ⟨h1, h2⟩ := frame (s.senddata data).1 (by simp) (by simp)
    exact ⟨_, [], rfl, h1, by simp [h2, handedBytes, readBy]⟩
  | write_pending w =>
    obtain ⟨h1, h2⟩ := frame (s.write_pending w).1 (by simp) (by simp)
    exact ⟨_, _, rfl, h1, by simp [h2, write_pending_in, readBy]⟩
  | read_pending r =>
    obtain ⟨h1, h2, h3⟩ := read_pending_in hinv r
    exact ⟨_, _, rfl, h1, by simp [h2, h3]⟩
  | tick r w =>
    by_cases ha : s.mIsActive
    · obtain ⟨h1, h2, h3⟩ := read_pending_in hinv r
      have hr : readBy s (.tick r w) = readBy s (.read_pending r) := by
        cases r <;> simp [readBy, ha]
      refine ⟨_, _, rfl, ?_, ?_⟩
      · simpa [tick, ha, InInv, inBytes] using h1
      · simp only [tick, ha, if_true, handedBytes_append, h2, write_pending_in, hr]
        simpa [inBytes] using h3
    · refine ⟨s, [], by simp [step, tick, ha], hinv, ?_⟩
      cases r <;> simp [handedBytes, readBy, ha]
  | readline len =>
    obtain ⟨s', ret, out, h, hinv', hflow⟩ := readline_flow hinv len
    exact ⟨s', [.handed out], by simp [step, h, handedOut], hinv',
      by simp [handedBytes, readBy, hflow]⟩
  | readdata len =>
    obtain ⟨s', ret, out, h, hinv', hflow⟩ := readdata_flow hinv len
    exact ⟨s', [.handed out], by simp [step, h, handedOut], hinv',
      by simp [handedBytes, readBy, hflow]⟩

lemma run_in : ∀ {s : RsFdBinInterface} (cs : List PipeCall), s.InInv →
    ∃ s' evs, s.run cs = some (s', evs) ∧ s'.InInv ∧
      handedBytes evs ++ s'.inBytes = s.inBytes ++ runBytes readBy s cs
  | s, [], hinv => ⟨s, [], rfl, hinv, by simp [handedBytes, runBytes]⟩
  | s, c :: cs, hinv => by
    obtain ⟨s₁, evs₁, h₁, hinv₁, hflow₁⟩ := step_in hinv c
    obtain ⟨s₂, evs₂, h₂, hinv₂, hflow₂⟩ := run_in cs hinv₁
    refine ⟨s₂, evs₁ ++ evs₂, by simp [run, h₁, h₂], hinv₂, ?_⟩
    calc handedBytes (evs₁ ++ evs₂) ++ s₂.inBytes
        = handedBytes evs₁ ++ (s₁.inBytes ++ runBytes readBy s₁ cs) := by simp [hflow₂]
      _ = s.inBytes ++ runBytes readBy s (c :: cs) := by
        rw [← List.append_assoc, hflow₁, runBytes_cons h₁]; simp

lemma init_inInv (fd : Int) : (init fd).InInv := by
  unfold init; split <;> simp [InInv, inBytes]

/-- Every run of an interface is defined; at its end the inbound counter and segments are
consistent, and what `readline` and `readdata` handed out followed by what is buffered is
what the `read()` calls of the run returned, in order. With fewer than `2^31` bytes
buffered, `readdata` and `readline` do what they promise. -/
theorem input_run_law (fd : Int) (cs : List PipeCall) :
    ∃ s evs, (init fd).run cs = some (s, evs) ∧ s.InInv ∧
      handedBytes evs ++ s.inBytes = runBytes readBy (init fd) cs ∧
      (s.inBytes.length < 2 ^ 31 → (∀ len, ReaddataSpec s len) ∧ (∀ len, ReadlineSpec s len)) := by
  obtain ⟨s, evs, h, hinv, hflow⟩ := run_in cs (init_inInv fd)
  have h0 : (init fd).inBytes = [] := by unfold init; split <;> rfl
  exact ⟨s, evs, h, hinv, by simpa [h0] using hflow,
    fun hb => ⟨readdata_spec hinv hb, readline_spec hinv hb⟩⟩

end RsFdBinInterface

end RetroShareTor

import RetroShareTor.Tor.StrUtil

/-!
# The scan of `splitQuotedStrings` over lists

`scanTokens` is the loop of `splitQuotedStrings` read over the bytes still to scan, with the
current token as a list of bytes instead of a start index. `splitLoop_eq_scanTokens` shows
that the index-by-index model computes it: the current token is always the slice of the
input from `start` to `i`, and the escape skip at the last byte of the input ends the loop
with `i` past the end. In particular the scan never reads past the end of its input
(`splitQuotedStringsScan_eq`): the separator test reads `input[i]` only outside a quote, and
`i` moves past the escaped byte only inside one.
-/

namespace RetroShareTor

/-- The loop of `splitQuotedStrings` over the bytes still to scan, with the quote flag, the
current token and the tokens cut so far; it ends with the tokens and the current token. -/
def scanTokens (separator : UInt8) : Bool → Bytes → Bytes → List Bytes → List Bytes × Bytes
  | _, [], tok, out => (out, tok)
  | inquote, c :: rest, tok, out =>
    let inquote := if c = byte '"' then !inquote else inquote
    if c = byte '\\' && inquote then
      match rest with
      | [] => (out, tok ++ [c])
      | d :: rest => scanTokens separator inquote rest (tok ++ [c, d]) out
    else if !inquote && c = separator then scanTokens separator inquote rest [] (out ++ [tok])
    else scanTokens separator inquote rest (tok ++ [c]) out

/-- One step of the scan; the escape's look-ahead is the match on the rest. -/
lemma scanTokens_cons (separator : UInt8) (inquote : Bool) (c : UInt8) (rest tok : Bytes)
    (out : List Bytes) :
    scanTokens separator inquote (c :: rest) tok out =
      let inquote := if c = byte '"' then !inquote else inquote
      if c = byte '\\' && inquote then
        match rest with
        | [] => (out, tok ++ [c])
        | d :: rest => scanTokens separator inquote rest (tok ++ [c, d]) out
      else if !inquote && c = separator then scanTokens separator inquote rest [] (out ++ [tok])
      else scanTokens separator inquote rest (tok ++ [c]) out := by
  cases rest <;> rfl

/-- The tokens of `scanTokens` over the whole input, the last token kept when it is not
empty. -/
def splitTokens (input : Bytes) (separator : UInt8) : List Bytes :=
  let r := scanTokens separator false input [] []
  if r.2 = [] then r.1 else r.1 ++ [r.2]

/-- The scan ends with a token, cut or current, once it has a token or a byte to scan. -/
lemma scanTokens_ne_nil (separator : UInt8) (inquote : Bool) (input tok : Bytes)
    (out : List Bytes) (h : out ≠ [] ∨ tok ≠ [] ∨ input ≠ []) :
    (scanTokens separator inquote input tok out).1 ≠ [] ∨
      (scanTokens separator inquote input tok out).2 ≠ [] := by
  induction inquote, input, tok, out using scanTokens.induct separator with
  | case1 q tok out => simpa [scanTokens] using h
  | case2 q c tok out q' he =>
    rw [scanTokens_cons]; dsimp only; rw [if_pos he]
    simp
  | case3 q c tok out q' he d rest ih =>
    rw [scanTokens_cons]; dsimp only; rw [if_pos he]
    exact ih (by simp)
  | case4 q c rest tok out q' he hs ih =>
    rw [scanTokens_cons]; dsimp only; rw [if_neg he, if_pos hs]
    exact ih (by simp)
  | case5 q c rest tok out q' he hs ih =>
    rw [scanTokens_cons]; dsimp only; rw [if_neg he, if_neg hs]
    exact ih (by simp)

/-- Only an empty input splits into no token. -/
lemma splitTokens_eq_nil_iff (input : Bytes) (separator : UInt8) :
    splitTokens input separator = [] ↔ input = [] := by
  constructor
  · intro h
    by_contra hne
    have := scanTokens_ne_nil separator false input [] [] (.inr (.inr hne))
    simp only [splitTokens] at h
    split at h <;> simp_all
  · rintro rfl; rfl

/-! ### The index model computes the list scan -/

/-- The slice of `input` from `start` to `i` grows by `input[i]`. -/
lemma slice_succ {input : Bytes} {start i : Nat} (hs : start ≤ i) (hi : i < input.length) :
    (input.drop start).take (i + 1 - start) =
      (input.drop start).take (i - start) ++ [input[i]] := by
  rw [show i + 1 - start = i - start + 1 by omega, List.take_succ, List.getElem?_drop,
    show start + (i - start) = i by omega, List.getElem?_eq_getElem hi]
  rfl

/-- Past the end of the input, the slice from `start` is the rest of the input. -/
lemma slice_of_le {input : Bytes} {start i : Nat} (hi : input.length ≤ i) :
    (input.drop start).take (i - start) = input.drop start :=
  List.take_of_length_le (by simp; omega)

/-- `mid(start, i - start)` is the slice from `start` to `i`. -/
lemma mid_slice {input : Bytes} {start i : Nat} (hs : start ≤ i) :
    ByteArray.mid input start (↑i - ↑start) = (input.drop start).take (i - start) := by
  rw [ByteArray.mid, if_pos (by omega), show (↑i - ↑start : Int) = ↑(i - start) by omega,
    Int.toNat_natCast]

/-- With fuel enough to reach the end of the input, `splitLoop` from position `i`, where the
current token runs from `start`, computes `scanTokens` over the rest of the input. -/
lemma splitLoop_eq_scanTokens (input : Bytes) (separator : UInt8) :
    ∀ (fuel i : Nat) (inquote : Bool) (start : Nat) (out : List Bytes),
      start ≤ i → input.length ≤ i + fuel →
      ∃ start', splitLoop input separator fuel i inquote start out =
          some ((scanTokens separator inquote (input.drop i)
            ((input.drop start).take (i - start)) out).1, start') ∧
        input.drop start' = (scanTokens separator inquote (input.drop i)
            ((input.drop start).take (i - start)) out).2 := by
  intro fuel
  induction fuel with
  | zero =>
    intro i inquote start out _ hfuel
    rw [List.drop_eq_nil_iff.mpr (by omega)]
    exact ⟨start, rfl, (slice_of_le (by omega)).symm⟩
  | succ fuel ih =>
    intro i inquote start out hs hfuel
    by_cases hi : i < input.length
    · rw [List.drop_eq_getElem_cons hi]
      simp only [splitLoop, dif_pos hi, scanTokens_cons]
      generalize (if input[i] = byte '"' then !inquote else inquote) = q
      by_cases he : (decide (input[i] = byte '\\') && q) = true
      · have hq : q = true := by simp at he; exact he.2
        subst hq
        simp only [he, if_true]
        obtain ⟨s', h, h'⟩ := ih (i + 1 + 1) true start out (by omega) (by omega)
        rcases Nat.lt_or_ge (i + 1) input.length with h1 | h1
        · rw [List.drop_eq_getElem_cons h1]
          rw [slice_succ (by omega) h1, slice_succ hs hi] at h h'
          simp only [List.append_assoc, List.singleton_append] at h h'
          exact ⟨s', h, h'⟩
        · have h2 : input.length ≤ i + 1 + 1 := by omega
          rw [List.drop_eq_nil_iff.mpr h1]
          rw [List.drop_eq_nil_iff.mpr h2, slice_of_le h2] at h h'
          rw [← slice_succ hs hi, slice_of_le h1]
          exact ⟨s', h, h'⟩
      · simp only [he, if_false, Bool.false_eq_true]
        rw [← slice_succ hs hi]
        cases q
        · simp only [List.getElem?_eq_getElem hi, Bool.not_false, Bool.true_and,
            decide_eq_true_eq, Bool.false_eq_true, if_false]
          by_cases hsep : input[i] = separator
          · obtain ⟨s', h, h'⟩ := ih (i + 1) false (i + 1)
              (out ++ [(input.drop start).take (i - start)]) le_rfl (by omega)
            simp only [Nat.sub_self, List.take_zero] at h h'
            simpa [hsep, mid_slice hs] using ⟨s', h, h'⟩
          · simpa [hsep] using ih (i + 1) false start out (by omega) (by omega)
        · simpa using ih (i + 1) true start out (by omega) (by omega)
    · rw [List.drop_eq_nil_iff.mpr (by omega)]
      refine ⟨start, ?_, (slice_of_le (by omega)).symm⟩
      simp [splitLoop, hi, scanTokens]

/-- The scan of `splitQuotedStrings` is `splitTokens`, and in particular never reads past the
end of its input. -/
lemma splitQuotedStringsScan_eq (input : Bytes) (separator : UInt8) :
    splitQuotedStringsScan input separator = some (splitTokens input separator) := by
  obtain ⟨start, h, h'⟩ :=
    splitLoop_eq_scanTokens input separator input.length 0 false 0 [] le_rfl (by omega)
  simp only [List.drop_zero, Nat.sub_zero, List.take_zero] at h h'
  simp only [splitQuotedStringsScan, h, Option.map_some', splitTokens, ← h', ByteArray.mid,
    List.drop_eq_nil_iff]
  by_cases hl : start < input.length
  · simp [hl, Nat.not_le.mpr hl]
  · simp [hl, Nat.not_lt.mp hl]

@[simp] lemma splitQuotedStrings_eq (input : Bytes) (separator : UInt8) :
    splitQuotedStrings input separator = splitTokens input separator := by
  simp [splitQuotedStrings, splitQuotedStringsScan_eq]

/-- `splitQuotedStrings` reads its input only below its size, for every input and every
separator. -/
theorem splitQuotedStrings_reads_in_bounds (input : Bytes) (separator : UInt8) :
    (splitQuotedStringsScan input separator).isSome := by
  simp [splitQuotedStringsScan_eq]

example : splitQuotedStringsScan (ascii "\"\\") (byte ' ') = some [ascii "\"\\"] := by decide

end RetroShareTor

import RetroShareTor.Tor.SplitScan

/-!
# Quoted strings

`unquotedString` reads back every `quotedString`, whatever bytes it holds
(`unquotedString_quotedString`): inside the quotes each `"` and `\` of the string is one
escaped pair. And `splitQuotedStrings` cuts a line joined from tokens exactly at the joins,
when each token is bytes free of the separator and of quotes, then possibly one quoted
string (`splitQuotedStrings_intercalate`): a separator, quote or backslash inside the
quotes neither cuts nor merges tokens.
-/

namespace RetroShareTor

lemma byte_quote_ne_backslash : byte '"' ≠ byte '\\' := by decide

/-! ### Unquoting -/

lemma unquoteLoop_cons (c : UInt8) (cs : Bytes) :
    unquoteLoop (c :: cs) =
      if c = byte '\\' then
        match cs with
        | [] => []
        | d :: ds => d :: unquoteLoop ds
      else if c = byte '"' then [] else c :: unquoteLoop cs := by
  cases cs <;> rfl

/-- The escaped bytes of `s` followed by the closing quote unquote to `s`. -/
lemma unquoteLoop_quoted (s rest : Bytes) :
    unquoteLoop (s.flatMap quoteByte ++ byte '"' :: rest) = s := by
  induction s with
  | nil => simp [unquoteLoop_cons, byte_quote_ne_backslash]
  | cons b s ih =>
    by_cases h1 : b = byte '"'
    · simp [quoteByte, h1, unquoteLoop_cons, ih]
    · by_cases h2 : b = byte '\\'
      · simp [quoteByte, h2, unquoteLoop_cons, ih, byte_quote_ne_backslash.symm]
      · simp [quoteByte, h1, h2, unquoteLoop_cons, ih]

@[simp] lemma unquotedString_quoted (s : Bytes) : unquotedString (quotedString s) = s := by
  simpa [unquotedString, quotedString] using unquoteLoop_quoted s []

/-- Unquoting reads back every quoted string, so quoting what it reads back gives the quoted
string again. -/
theorem unquotedString_quotedString (s : Bytes) :
    unquotedString (quotedString s) = s ∧
      quotedString (unquotedString (quotedString s)) = quotedString s := by
  simp

/-! ### Splitting joined tokens -/

section Split

variable {separator : UInt8}

/-- A token of bytes free of the separator and of quotes, then possibly one quoted string. -/
def QuotedToken (separator : UInt8) (t : Bytes) : Prop :=
  ∃ w q, t = w ++ q ∧ (∀ b ∈ w, b ≠ separator ∧ b ≠ byte '"') ∧
    (q = [] ∨ ∃ s, q = quotedString s)

/-- Outside a quote, bytes other than quotes and the separator join the current token. -/
lemma scanTokens_bare {w : Bytes} (hw : ∀ b ∈ w, b ≠ separator ∧ b ≠ byte '"')
    (rest tok : Bytes) (out : List Bytes) :
    scanTokens separator false (w ++ rest) tok out =
      scanTokens separator false rest (tok ++ w) out := by
  induction w generalizing tok with
  | nil => simp
  | cons b w ih =>
    obtain ⟨h1, h2⟩ := hw b (.head _)
    simp [scanTokens_cons, h1, h2, ih fun c hc => hw c (.tail _ hc)]

/-- Inside a quote, the escaped bytes of a string join the current token. -/
lemma scanTokens_escaped (s rest tok : Bytes) (out : List Bytes) :
    scanTokens separator true (s.flatMap quoteByte ++ rest) tok out =
      scanTokens separator true rest (tok ++ s.flatMap quoteByte) out := by
  induction s generalizing tok with
  | nil => simp
  | cons b s ih =>
    by_cases h1 : b = byte '"'
    · simp [quoteByte, h1, scanTokens_cons, ih, byte_quote_ne_backslash.symm]
    · by_cases h2 : b = byte '\\'
      · simp [quoteByte, h2, scanTokens_cons, ih, byte_quote_ne_backslash.symm]
      · simp [quoteByte, h1, h2, scanTokens_cons, ih]

/-- A quoted string is read as one piece of the current token. -/
lemma scanTokens_quoted (hsep : separator ≠ byte '"') (s rest tok : Bytes) (out : List Bytes) :
    scanTokens separator false (quotedString s ++ rest) tok out =
      scanTokens separator false rest (tok ++ quotedString s) out := by
  simp [quotedString, scanTokens_cons, byte_quote_ne_backslash, scanTokens_escaped,
    hsep.symm]

lemma scanTokens_token {t : Bytes} (hsep : separator ≠ byte '"') (ht : QuotedToken separator t)
    (rest tok : Bytes) (out : List Bytes) :
    scanTokens separator false (t ++ rest) tok out =
      scanTokens separator false rest (tok ++ t) out := by
  obtain ⟨w, q, rfl, hw, rfl | ⟨s, rfl⟩⟩ := ht
  · simpa using scanTokens_bare hw rest tok out
  · rw [List.append_assoc, scanTokens_bare hw, scanTokens_quoted hsep, List.append_assoc]

/-- Outside a quote, the separator ends the current token. -/
lemma scanTokens_separator (hsep : separator ≠ byte '"') (rest tok : Bytes) (out : List Bytes) :
    scanTokens separator false (separator :: rest) tok out =
      scanTokens separator false rest [] (out ++ [tok]) := by
  simp [scanTokens_cons, hsep]

lemma intercalate_cons_cons (sep t u : Bytes) (ts : List Bytes) :
    sep.intercalate (t :: u :: ts) = t ++ sep ++ sep.intercalate (u :: ts) := by
  simp [List.intercalate, List.intersperse]

/-- Scanning tokens joined by the separator cuts every token but the last, which is left
as the current token. -/
lemma scanTokens_intercalate (hsep : separator ≠ byte '"') (t : Bytes) (ts : List Bytes)
    (h : ∀ u ∈ t :: ts, QuotedToken separator u) (out : List Bytes) :
    scanTokens separator false ([separator].intercalate (t :: ts)) [] out =
      (out ++ (t :: ts).dropLast, (t :: ts).getLast (List.cons_ne_nil t ts)) := by
  induction ts generalizing t out with
  | nil =>
    simpa [List.intercalate] using scanTokens_token hsep (h t (.head _)) [] [] out
  | cons u ts ih =>
    rw [intercalate_cons_cons, List.append_assoc, List.singleton_append,
      scanTokens_token hsep (h t (.head _)), scanTokens_separator hsep,
      ih u fun v hv => h v (.tail _ hv)]
    simp

lemma splitTokens_intercalate (hsep : separator ≠ byte '"') {tokens : List Bytes}
    (hne : tokens ≠ []) (htok : ∀ t ∈ tokens, t ≠ [] ∧ QuotedToken separator t) :
    splitTokens ([separator].intercalate tokens) separator = tokens := by
  obtain ⟨t, ts, rfl⟩ := List.exists_cons_of_ne_nil hne
  have hlast := (htok _ (List.getLast_mem (List.cons_ne_nil t ts))).1
  simp only [splitTokens, scanTokens_intercalate hsep t ts (fun u hu => (htok u hu).2), hlast,
    if_false, List.nil_append, List.dropLast_append_getLast]

/-- Tokens joined by a separator other than the quote split back into the same tokens. -/
theorem splitQuotedStrings_intercalate (hsep : separator ≠ byte '"') (tokens : List Bytes)
    (hne : tokens ≠ []) (htok : ∀ t ∈ tokens, t ≠ [] ∧ QuotedToken separator t) :
    splitQuotedStrings ([separator].intercalate tokens) separator = tokens := by
  rw [splitQuotedStrings_eq, splitTokens_intercalate hsep hne htok]

/-- A bare token and a `key=` token with a quoted value holding a space and a quote, joined
by a space, split back into the two tokens. -/
theorem splitQuotedStrings_intercalate_key_value :
    byte ' ' ≠ byte '"' ∧ [ascii "a", ascii "K=" ++ quotedString (ascii "b \"c")] ≠ [] ∧
      (∀ t ∈ [ascii "a", ascii "K=" ++ quotedString (ascii "b \"c")],
        t ≠ [] ∧ QuotedToken (byte ' ') t) ∧
      splitQuotedStrings
          ([byte ' '].intercalate [ascii "a", ascii "K=" ++ quotedString (ascii "b \"c")])
          (byte ' ') =
        [ascii "a", ascii "K=" ++ quotedString (ascii "b \"c")] := by
  have htok : ∀ t ∈ [ascii "a", ascii "K=" ++ quotedString (ascii "b \"c")],
      t ≠ [] ∧ QuotedToken (byte ' ') t := by
    simp only [List.mem_cons, List.mem_singleton, List.not_mem_nil, or_false]
    rintro t (rfl | rfl)
    · exact ⟨by decide, ascii "a", [], by simp, by decide, .inl rfl⟩
    · exact ⟨by decide, ascii "K=", _, rfl, by decide, .inr ⟨_, rfl⟩⟩
  exact ⟨by decide, by decide, htok, splitQuotedStrings_intercalate (by decide) _ (by decide) htok⟩

end Split

/-! ### Splitting loses no byte -/

section Join

variable (separator : UInt8)

/-- The scan keeps every byte: the tokens it cuts, each followed by the separator that cut
it, then its current token, are the tokens and the token it started from followed by the
bytes it scanned. -/
lemma scanTokens_flatten (inquote : Bool) (input tok : Bytes) (out : List Bytes) :
    ((scanTokens separator inquote input tok out).1.map (· ++ [separator])).flatten ++
        (scanTokens separator inquote input tok out).2 =
      (out.map (· ++ [separator])).flatten ++ tok ++ input := by
  induction inquote, input, tok, out using scanTokens.induct separator with
  | case1 q tok out => simp [scanTokens]
  | case2 q c tok out q' he => rw [scanTokens_cons]; dsimp only; rw [if_pos he]; simp
  | case3 q c tok out q' he d rest ih =>
    rw [scanTokens_cons]; dsimp only; rw [if_pos he, ih]; simp
  | case4 q c rest tok out q' he hs ih =>
    rw [scanTokens_cons]; dsimp only; rw [if_neg he, if_pos hs, ih]
    simp only [Bool.and_eq_true, Bool.not_eq_true', decide_eq_true_eq] at hs
    simp [hs.2]
  | case5 q c rest tok out q' he hs ih =>
    rw [scanTokens_cons]; dsimp only; rw [if_neg he, if_neg hs, ih]; simp

/-- Tokens each followed by the separator, then a last token, are the tokens joined by the
separator. -/
lemma flatten_map_append_singleton (out : List Bytes) (tok : Bytes) :
    (out.map (· ++ [separator])).flatten ++ tok = [separator].intercalate (out ++ [tok]) := by
  induction out with
  | nil => simp [List.intercalate]
  | cons o out ih =>
    cases out with
    | nil => simp [List.intercalate, List.intersperse]
    | cons o' out =>
      rw [List.cons_append, List.cons_append, intercalate_cons_cons, ← List.cons_append, ← ih]
      simp

/-- `splitQuotedStrings` loses no byte: for every input and separator, its tokens joined by
the separator are the input, or the input without the separator that ends it. -/
theorem splitQuotedStrings_join (input : Bytes) :
    [separator].intercalate (splitQuotedStrings input separator) = input ∨
      [separator].intercalate (splitQuotedStrings input separator) ++ [separator] = input := by
  have h := scanTokens_flatten separator false input [] []
  rw [List.map_nil, List.flatten_nil, List.nil_append, List.nil_append] at h
  rw [splitQuotedStrings_eq, splitTokens]
  generalize scanTokens separator false input [] [] = r at h
  obtain ⟨out, tok⟩ := r
  dsimp only at h ⊢
  split
  · next htok =>
    subst htok
    rcases List.eq_nil_or_concat out with rfl | ⟨l, x, rfl⟩
    · exact .inl (by rw [← h]; rfl)
    · refine .inr ?_
      rw [← h, List.append_nil, List.concat_eq_append, ← flatten_map_append_singleton]
      simp
  · exact .inl (by rw [← flatten_map_append_singleton, h])

end Join

end RetroShareTor

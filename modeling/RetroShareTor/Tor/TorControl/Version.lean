import RetroShareTor.Tor.TorControl.State

/-!
# Comparing Tor versions

`torVersionAsNewAs(match)` splits the version Tor reported and `match` at `.` and `-`, then
walks both segment lists with two iterators. The loop stops with `false` as soon as the
version's segments are used up, and advances the iterator of `match` without looking at
its end. So equal versions compare as not new enough, contrary to the comment after the
loop ("Versions are equal, up to the length of match"), and a version that extends `match`
(`0.2.7.6` against `0.2.7`) dereferences the end of `match`'s list. The loop is modelled
with both dereferences explicit: `none` is a read past the end of a list. Before either end
is reached the comparison is the intended one: the first different segment decides
(`torVersionAsNewAs_first_difference`).
-/

namespace RetroShareTor

namespace Tor

/-- Modelled from the spec: `RsUtil::StringToInt` is not among the sources; a segment is a
number when it is a nonempty run of decimal digits. -/
def stringToInt (b : Bytes) : Option Nat :=
  if b ≠ [] ∧ b.all ByteArray.isDigit then some (ByteArray.digitsValue b 0) else none

/-- The loop of `torVersionAsNewAs`, after `i` equal segments out of `split_size`; the two
lists are the segments `b_split` and `b_matchsplit` point to and after. Both are
dereferenced before either is tested: `none` is a dereference past the end of a list. -/
def asNewAsLoop (split_size : Nat) : Nat → List Bytes → List Bytes → Option Bool
  | _, [], _ => none
  | _, _ :: _, [] => none
  | i, cur :: curs, m :: ms =>
    match stringToInt cur, stringToInt m with
    | some currentVal, some matchVal =>
      if currentVal > matchVal then some true
      else if currentVal < matchVal then some false
      else if i + 1 ≥ split_size then some false
      else asNewAsLoop split_size (i + 1) curs ms
    | _, _ => some false

/-- `torVersionAsNewAs(match)` for the version `torVersion`. -/
def torVersionAsNewAs (torVersion matchVersion : Bytes) : Option Bool :=
  let split := ByteArray.split torVersion (ascii ".-")
  let matchSplit := ByteArray.split matchVersion (ascii ".-")
  asNewAsLoop split.length 0 split matchSplit

/-- Past equal numeric segments, the first pair of different numeric segments decides the
loop, as long as the version has a segment there. -/
lemma asNewAsLoop_first_difference {n i : Nat} {pre pre' rest rest' : List Bytes} {c d : Bytes}
    {a b : Nat} (hpre : pre.map stringToInt = pre'.map stringToInt)
    (hnum : ∀ x ∈ pre, (stringToInt x).isSome) (hc : stringToInt c = some a)
    (hd : stringToInt d = some b) (hab : a ≠ b) (hn : i + pre.length < n) :
    asNewAsLoop n i (pre ++ c :: rest) (pre' ++ d :: rest') = some (decide (a > b)) := by
  induction pre generalizing pre' i with
  | nil =>
    cases pre' with
    | nil =>
      simp only [List.nil_append, asNewAsLoop, hc, hd]
      by_cases h : a > b
      · simp [h]
      · simp [h, show a < b by omega]
    | cons _ _ => simp at hpre
  | cons x xs ih =>
    cases pre' with
    | nil => simp at hpre
    | cons y ys =>
      simp only [List.map_cons, List.cons.injEq] at hpre
      obtain ⟨v, hv⟩ := Option.isSome_iff_exists.mp (hnum x (.head _))
      have hy : stringToInt y = some v := hpre.1 ▸ hv
      simp only [List.cons_append, asNewAsLoop, hv, hy, gt_iff_lt, lt_irrefl, if_false]
      rw [if_neg (by simp at hn; omega)]
      exact ih hpre.2 (fun z hz => hnum z (.tail _ hz)) (by simp at hn ⊢; omega)

/-- Segments that are equal numbers up to a position where both versions have different
numbers: the comparison is decided there. -/
theorem torVersionAsNewAs_first_difference {v m : Bytes} {pre pre' rest rest' : List Bytes}
    {c d : Bytes} {a b : Nat} (hv : ByteArray.split v (ascii ".-") = pre ++ c :: rest)
    (hm : ByteArray.split m (ascii ".-") = pre' ++ d :: rest')
    (hpre : pre.map stringToInt = pre'.map stringToInt)
    (hnum : ∀ x ∈ pre, (stringToInt x).isSome) (hc : stringToInt c = some a)
    (hd : stringToInt d = some b) (hab : a ≠ b) :
    torVersionAsNewAs v m = some (decide (a > b)) := by
  unfold torVersionAsNewAs
  rw [hv, hm]
  exact asNewAsLoop_first_difference hpre hnum hc hd hab (by simp)

/-- `0.4.8.9` against `0.2.7`: the second segments decide. -/
theorem torVersionAsNewAs_first_difference_second :
    ByteArray.split (ascii "0.4.8.9") (ascii ".-") = [ascii "0"] ++ ascii "4" :: [ascii "8", ascii "9"] ∧
      ByteArray.split (ascii "0.2.7") (ascii ".-") = [ascii "0"] ++ ascii "2" :: [ascii "7"] ∧
      (∀ x ∈ [ascii "0"], (stringToInt x).isSome) ∧ stringToInt (ascii "4") = some 4 ∧
      stringToInt (ascii "2") = some 2 ∧
      torVersionAsNewAs (ascii "0.4.8.9") (ascii "0.2.7") = some (decide (4 > 2)) :=
  ⟨by decide, by decide, by decide, by decide, by decide,
    @torVersionAsNewAs_first_difference _ _ [ascii "0"] [ascii "0"] [ascii "8", ascii "9"]
      [ascii "7"] (ascii "4") (ascii "2") 4 2 (by decide) (by decide) rfl (by decide) (by decide)
      (by decide) (by decide)⟩

/-- Over equal numeric segments the loop ends with `false` when the version's segments run
out, and reads past the end of `match`'s segments when they run out first. -/
lemma asNewAsLoop_equal_segments {pre pre' : List Bytes}
    (hpre : pre.map stringToInt = pre'.map stringToInt)
    (hnum : ∀ x ∈ pre, (stringToInt x).isSome) (i : Nat) :
    (pre ≠ [] → ∀ rest', asNewAsLoop (i + pre.length) i pre (pre' ++ rest') = some false) ∧
      (∀ rest, rest ≠ [] → asNewAsLoop (i + (pre ++ rest).length) i (pre ++ rest) pre' = none) := by
  induction pre generalizing pre' i with
  | nil =>
    cases pre' with
    | nil =>
      refine ⟨fun h => absurd rfl h, fun rest hr => ?_⟩
      obtain ⟨c, cs, rfl⟩ := List.exists_cons_of_ne_nil hr
      rfl
    | cons _ _ => simp at hpre
  | cons x xs ih =>
    cases pre' with
    | nil => simp at hpre
    | cons y ys =>
      simp only [List.map_cons, List.cons.injEq] at hpre
      obtain ⟨v, hv⟩ := Option.isSome_iff_exists.mp (hnum x (.head _))
      have hy : stringToInt y = some v := hpre.1 ▸ hv
      have ih' := ih hpre.2 (fun z hz => hnum z (.tail _ hz)) (i + 1)
      refine ⟨fun _ rest' => ?_, fun rest hr => ?_⟩
      · simp only [List.cons_append, asNewAsLoop, hv, hy, gt_iff_lt, lt_irrefl, if_false]
        cases xs with
        | nil => simp
        | cons _ _ =>
          rw [if_neg (by simp), ← ih'.1 (List.cons_ne_nil _ _) rest']
          simp only [List.length_cons]; congr 1; omega
      · simp only [List.cons_append, asNewAsLoop, hv, hy, gt_iff_lt, lt_irrefl, if_false]
        have := List.length_pos.mpr hr
        rw [if_neg (by simp only [List.length_cons, List.length_append]; omega), ← ih'.2 rest hr]
        simp only [List.length_cons, List.length_append]; congr 1; omega

/-- Where the two versions have equal numeric segments and one runs out: a version whose
segments all equal `match`'s first segments, equal versions among them, is not as new as
`match`, and a version that extends `match` reads past the end of `match`'s segments. -/
theorem torVersionAsNewAs_of_equal_segments {pre pre' : List Bytes}
    (hpre : pre.map stringToInt = pre'.map stringToInt)
    (hnum : ∀ x ∈ pre, (stringToInt x).isSome) :
    (∀ v m rest', pre ≠ [] → ByteArray.split v (ascii ".-") = pre →
      ByteArray.split m (ascii ".-") = pre' ++ rest' → torVersionAsNewAs v m = some false) ∧
    (∀ v m rest, rest ≠ [] → ByteArray.split v (ascii ".-") = pre ++ rest →
      ByteArray.split m (ascii ".-") = pre' → torVersionAsNewAs v m = none) := by
  have h := asNewAsLoop_equal_segments hpre hnum 0
  refine ⟨fun v m rest' hne hv hm => ?_, fun v m rest hr hv hm => ?_⟩
  · rw [torVersionAsNewAs, hv, hm, ← h.1 hne rest', Nat.zero_add]
  · rw [torVersionAsNewAs, hv, hm, ← h.2 rest hr, Nat.zero_add]

/-- `0.4.8` is not as new as `0.4.8.9`, and `0.4.8.9` against `0.4.8` reads past the end. -/
theorem torVersionAsNewAs_of_equal_segments_048 :
    [ascii "0", ascii "4", ascii "8"].map stringToInt =
        [ascii "0", ascii "4", ascii "8"].map stringToInt ∧
      (∀ x ∈ [ascii "0", ascii "4", ascii "8"], (stringToInt x).isSome) ∧
      torVersionAsNewAs (ascii "0.4.8") (ascii "0.4.8.9") = some false ∧
      torVersionAsNewAs (ascii "0.4.8.9") (ascii "0.4.8") = none :=
  have h := @torVersionAsNewAs_of_equal_segments [ascii "0", ascii "4", ascii "8"]
    [ascii "0", ascii "4", ascii "8"] rfl (by decide)
  ⟨rfl, by decide, h.1 _ _ [ascii "9"] (by decide) (by decide) (by decide),
    h.2 _ _ [ascii "9"] (by decide) (by decide) (by decide)⟩

/-- Equal versions are not as new as each other, and `0.2.7.6` against `0.2.7` reads past
the end of the segments of `0.2.7`. -/
theorem torVersionAsNewAs_equal_and_longer :
    torVersionAsNewAs (ascii "0.2.7") (ascii "0.2.7") = some false ∧
      torVersionAsNewAs (ascii "0.2.7.6") (ascii "0.2.7") = none := by
  decide

end Tor

end RetroShareTor

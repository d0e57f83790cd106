import Mathlib.Algebra.Group.Int
import Mathlib.Data.List.Basic

/-!
# Byte strings

The Tor control code works on `ByteArray`, a `std::vector<unsigned char>`, and on
`std::string`; both are byte sequences and the code converts between them without
changing a byte, so both are `Bytes` here. The header that declares `ByteArray` is not
among the sources: the members the modelled code calls are given the meaning the spec and
their call sites fix, each under its source name.
-/

namespace RetroShareTor

/-- A `ByteArray` or `std::string`. -/
abbrev Bytes := List UInt8

/-- The byte of an ASCII character. -/
def byte (c : Char) : UInt8 := c.toNat.toUInt8

/-- The bytes of an ASCII literal of the sources. -/
def ascii (s : String) : Bytes := s.toList.map byte

/-- Modelled from the spec: `RsUtil::NumberToString`, the decimal digits of `n`, after a
minus sign when `n < 0`. -/
def numberToString (n : Int) : Bytes := ascii (toString n)

namespace ByteArray

/-- Modelled from the spec: `indexOf(c)`, the first position of `c`, or `-1`. -/
def indexOf (b : Bytes) (c : UInt8) : Int :=
  if c ∈ b then b.indexOf c else -1

lemma indexOf_eq_zero_iff (b : Bytes) (c : UInt8) : indexOf b c = 0 ↔ b.head? = some c := by
  cases b with
  | nil => simp [indexOf]
  | cons d b =>
    by_cases h : d = c
    · simp [indexOf, h]
    · by_cases hc : c ∈ b
      · simp [indexOf, h, hc, List.indexOf_cons, Ne.symm h]
        omega
      · simp [indexOf, h, hc, Ne.symm h]

/-- Modelled from the spec: `mid(n, s)`, `s` bytes from position `n`, or all of them from `n`
when `s < 0`. -/
def mid (b : Bytes) (n : Nat) (s : Int) : Bytes :=
  if 0 ≤ s then (b.drop n).take s.toNat else b.drop n

/-- Modelled from the spec: `startsWith(s)`, whether the bytes begin with those of `s`. -/
def startsWith (b s : Bytes) : Bool := s.isPrefixOf b

/-- Modelled from the spec: `toLower()`; only `A`..`Z` change. -/
def toLower (b : Bytes) : Bytes :=
  b.map fun c => if byte 'A' ≤ c ∧ c ≤ byte 'Z' then c + 32 else c

/-- The bytes `trimmed()` removes: space, `\t`, `\n`, `\v`, `\f` and `\r`. -/
def isSpace (c : UInt8) : Bool := c = byte ' ' || (9 ≤ c && c ≤ 13)

/-- Modelled from the spec: `trimmed()`, the bytes without leading and trailing white
space. -/
def trimmed (b : Bytes) : Bytes :=
  ((b.dropWhile isSpace).reverse.dropWhile isSpace).reverse

lemma dropWhile_of_head {p : UInt8 → Bool} {b : Bytes} (h : ∀ c ∈ b.head?, p c = false) :
    b.dropWhile p = b := by
  cases b with
  | nil => rfl
  | cons c b => exact List.dropWhile_cons_of_neg (by simpa using h)

/-- `trimmed()` keeps a string that neither starts nor ends with white space. -/
lemma trimmed_of_ends {b : Bytes} (h₁ : ∀ c ∈ b.head?, isSpace c = false)
    (h₂ : ∀ c ∈ b.getLast?, isSpace c = false) : trimmed b = b := by
  rw [trimmed, dropWhile_of_head h₁, dropWhile_of_head (by rwa [List.head?_reverse]),
    List.reverse_reverse]

/-- A decimal digit. -/
def isDigit (c : UInt8) : Bool := byte '0' ≤ c && c ≤ byte '9'

/-- The value of the decimal digits at the start of `b`, read after `acc`. -/
def digitsValue : Bytes → Nat → Nat
  | [], acc => acc
  | c :: cs, acc => if isDigit c then digitsValue cs (acc * 10 + (c - byte '0').toNat) else acc

/-- Modelled from the spec: `toInt()`, an `istringstream >> int`: blanks, an optional sign
and decimal digits; `0` when no digit follows, and a value outside `int` is stored as the
nearest of `INT_MIN` and `INT_MAX`. -/
def toInt (b : Bytes) : Int :=
  let v : Int :=
    match b.dropWhile isSpace with
    | c :: cs =>
      if c = byte '-' then -(digitsValue cs 0 : Int)
      else if c = byte '+' then digitsValue cs 0
      else digitsValue (c :: cs) 0
    | [] => 0
  max (-2147483648) (min 2147483647 v)

example : toInt (ascii " 9050") = 9050 ∧ toInt (ascii "99999999999") = 2147483647 ∧
    toInt (ascii "-99999999999") = -2147483648 := by decide

/-- Modelled from the spec: `split(seps)`, the pieces between the bytes of `seps`, empty
pieces kept. -/
def split (b seps : Bytes) : List Bytes := b.splitOnP (· ∈ seps)

/-! ### Replacing -/

/-- The scan of `replace(before, after)`; the first `skip` bytes belong to an occurrence
already replaced. -/
def replaceFrom (before after : Bytes) : Nat → Bytes → Bytes
  | _, [] => []
  | skip + 1, _ :: cs => replaceFrom before after skip cs
  | 0, c :: cs =>
    if before ≠ [] ∧ before.isPrefixOf (c :: cs) then
      after ++ replaceFrom before after (before.length - 1) cs
    else c :: replaceFrom before after 0 cs

/-- Modelled from the spec: `replace(before, after)`, every occurrence of `before`, from the
left and without overlap, replaced by `after`. -/
def replace (b before after : Bytes) : Bytes := replaceFrom before after 0 b

lemma replaceFrom_skip (before after u rest : Bytes) :
    replaceFrom before after u.length (u ++ rest) = replace rest before after := by
  induction u with
  | nil => rfl
  | cons c u ih => exact ih

/-- An occurrence at the front is replaced, and the scan goes on after it. -/
lemma replace_prefix {before : Bytes} (h : before ≠ []) (rest after : Bytes) :
    replace (before ++ rest) before after = after ++ replace rest before after := by
  obtain ⟨c, cs, rfl⟩ := List.exists_cons_of_ne_nil h
  rw [replace, List.cons_append, replaceFrom, if_pos ⟨h, by simp [List.isPrefixOf_iff_prefix]⟩]
  simp only [List.length_cons, Nat.add_sub_cancel, replaceFrom_skip]

/-- A byte that does not start `before` is kept. -/
lemma replace_cons_of_head_ne {before : Bytes} {c : UInt8} (h : some c ≠ before.head?)
    (cs after : Bytes) :
    replace (c :: cs) before after = c :: replace cs before after := by
  rw [replace, replaceFrom, if_neg]
  · rfl
  rintro ⟨hne, hp⟩
  obtain ⟨d, ds, rfl⟩ := List.exists_cons_of_ne_nil hne
  simp only [List.isPrefixOf, Bool.and_eq_true, beq_iff_eq] at hp
  exact h (by simp [hp.1])

/-- A stretch of bytes none of which starts `before` is kept. -/
lemma replace_append_of_not_head {before u : Bytes} (h : ∀ c ∈ u, some c ≠ before.head?)
    (v after : Bytes) :
    replace (u ++ v) before after = u ++ replace v before after := by
  induction u with
  | nil => rfl
  | cons c u ih =>
    rw [List.cons_append, replace_cons_of_head_ne (h c (.head _)),
      ih fun d hd => h d (.tail _ hd), List.cons_append]

/-- Replacing one byte by nothing removes that byte. -/
lemma replace_singleton_nil (b : Bytes) (c : UInt8) : replace b [c] [] = b.filter (· ≠ c) := by
  induction b with
  | nil => rfl
  | cons d b ih =>
    by_cases h : d = c
    · subst h
      rw [← List.singleton_append, replace_prefix (List.cons_ne_nil _ _), ih]
      simp
    · rw [replace_cons_of_head_ne (by simpa using h), ih]
      simp [h]

/-! ### Hex -/

/-- The hex digits, lower case. -/
def hexDigits : Bytes := ascii "0123456789abcdef"

/-- Modelled from the spec: `toHex()`, two lower-case hex digits a byte, high digit first. -/
def toHex (b : Bytes) : Bytes :=
  b.flatMap fun x => [hexDigits.getD (x.toNat / 16) 0, hexDigits.getD (x.toNat % 16) 0]

/-- Modelled from the spec: `toUpper()`; only `a`..`z` change. -/
def toUpper (b : Bytes) : Bytes :=
  b.map fun c => if byte 'a' ≤ c ∧ c ≤ byte 'z' then c - 32 else c

end ByteArray

end RetroShareTor

import RetroShareTor.Util.ByteArray

/-!
# The hashed control password

`torControlHashedPassword` of `CryptoKey.cpp` computes Tor's `HashedControlPassword` form of a
password, the iterated and salted SHA-1 of Tor's S2K with the constant 96: SHA-1 is fed the
salt and the password repeated until 65536 bytes are fed.

The OpenSSL calls are modelled by the bytes they feed: `SHA1_Final` gives the SHA-1 of all
bytes given to `SHA1_Update` since `SHA1_Init`, which is `sha1` applied to their
concatenation. The salt of `RsRandom::random_bytes` is an input.

For every password and salt, the update loop ends, having fed the first 65536 bytes of the
salt and password repeated without end, and the result is `16:`, the salt in upper-case hex,
`60` and the digest in upper-case hex: 61 bytes whose salt field reads back as the salt
(`torControlHashedPassword_spec`).
-/

namespace RetroShareTor

/-- An 8-byte salt, as `RsRandom::random_bytes(&salt[0], 8)` fills it. -/
abbrev Salt := {s : Bytes // s.length = 8}

/-- A SHA-1 digest, the 20 bytes `SHA1_Final` writes. -/
abbrev Digest := {d : Bytes // d.length = 20}

/-- The byte count of the S2K with the constant 96, as the code computes it. -/
def s2kCount : UInt32 := ((16 : UInt32) + (96 &&& 15)) <<< (((96 : UInt32) >>> 4) + 6)

lemma s2kCount_eq : s2kCount = 65536 := rfl

/-- The update loop of `torControlHashedPassword`: `count` bytes are still to feed and `fed`
were fed; each turn feeds the first `min(count, tmp.size())` bytes of `tmp`. `none` when
the fuel runs out. -/
def updateLoop (tmp : Bytes) : Nat → UInt32 → Bytes → Option Bytes
  | 0, _, _ => none
  | fuel + 1, count, fed =>
    if count = 0 then some fed
    else
      let c := min count.toNat tmp.length
      updateLoop tmp fuel (count - c.toUInt32) (fed ++ tmp.take c)

/-- `torControlHashedPassword(password)`, with the drawn salt, SHA-1, and fuel for the update
loop. -/
def torControlHashedPassword (sha1 : Bytes → Digest) (salt : Salt) (password : Bytes)
    (fuel : Nat) : Option Bytes := do
  let tmp := salt.1 ++ password
  let fed ← updateLoop tmp fuel s2kCount []
  let md := sha1 fed
  some (ascii "16:" ++ ByteArray.toUpper (ByteArray.toHex salt.1) ++ ascii "60" ++
    ByteArray.toUpper (ByteArray.toHex md.1))

/-! ### What Tor's S2K asks for -/

/-- The first `n` bytes of `l` repeated without end: byte `i` is byte `i mod |l|` of `l`. -/
def cycleTake (l : Bytes) (n : Nat) : Bytes :=
  (List.range n).map fun i => l.getD (i % l.length) 0

/-- The upper-case hex digits. -/
def upperHexDigits : Bytes := ascii "0123456789ABCDEF"

/-- Two upper-case hex digits a byte, high digit first. -/
def upperHex (b : Bytes) : Bytes :=
  b.flatMap fun x =>
    [upperHexDigits.getD (x.toNat / 16) 0, upperHexDigits.getD (x.toNat % 16) 0]

/-- The value of an upper-case hex digit. -/
def hexValue (c : UInt8) : Nat := if c.toNat < 65 then c.toNat - 48 else c.toNat - 55

/-- Hex decoding, two digits a byte. -/
def fromHex : Bytes → Bytes
  | h :: l :: rest => (16 * hexValue h + hexValue l).toUInt8 :: fromHex rest
  | _ => []

/-! ### The repeated stream -/

section Cycle

variable {l : Bytes}

@[simp] lemma length_cycleTake (l : Bytes) (n : Nat) : (cycleTake l n).length = n := by
  simp [cycleTake]

lemma getElem_cycleTake (n i : Nat) (h : i < (cycleTake l n).length) :
    (cycleTake l n)[i] = l.getD (i % l.length) 0 := by
  simp [cycleTake]

/-- The stream is the string up to `n` bytes, then the stream again. -/
lemma cycleTake_eq_take_append (n : Nat) :
    cycleTake l n = l.take n ++ cycleTake l (n - l.length) := by
  apply List.ext_getElem
    (by simp only [length_cycleTake, List.length_append, List.length_take]; omega)
  intro i h₁ _
  rw [length_cycleTake] at h₁
  rw [getElem_cycleTake, List.getElem_append]
  by_cases hi : i < (l.take n).length
  · have hl : i < l.length := by rw [List.length_take] at hi; omega
    rw [dif_pos hi, List.getElem_take, Nat.mod_eq_of_lt hl, List.getD_eq_getElem?_getD,
      List.getElem?_eq_getElem hl, Option.getD_some]
  · have hl : l.length ≤ i := by rw [List.length_take] at hi; omega
    rw [dif_neg hi, getElem_cycleTake, List.length_take, Nat.min_eq_right (by omega),
      Nat.mod_eq_sub_mod hl]

end Cycle

/-- With fuel above the count, the update loop ends, having fed the first `count` bytes of
`tmp` repeated. -/
lemma updateLoop_eq {tmp : Bytes} (htmp : tmp ≠ []) :
    ∀ (fuel : Nat) (count : UInt32) (fed : Bytes), count.toNat < fuel →
      updateLoop tmp fuel count fed = some (fed ++ cycleTake tmp count.toNat) := by
  intro fuel
  induction fuel with
  | zero => intro _ _ h; omega
  | succ fuel ih =>
    intro count fed hfuel
    by_cases h0 : count = 0
    · subst h0
      simp [updateLoop, cycleTake]
    · have hpos : count.toNat ≠ 0 := fun h => h0 (UInt32.toNat.inj h)
      have hlen : 0 < tmp.length := List.length_pos.mpr htmp
      -- one turn feeds `c` bytes, at least one, and takes them off the count
      have hc : (min count.toNat tmp.length).toUInt32.toNat = min count.toNat tmp.length :=
        UInt32.toNat_ofNat_of_lt (by have := count.toNat_lt_size; omega)
      have hsub : (count - (min count.toNat tmp.length).toUInt32).toNat =
          count.toNat - min count.toNat tmp.length := by
        rw [UInt32.toNat_sub_of_le _ _ (by
          rw [UInt32.le_def, BitVec.le_def]
          show (min count.toNat tmp.length).toUInt32.toNat ≤ count.toNat
          omega), hc]
      have htake : tmp.take (min count.toNat tmp.length) = tmp.take count.toNat := by
        rw [← List.take_take, List.take_length]
      rw [updateLoop, if_neg h0, ih _ _ (by omega), hsub, List.append_assoc,
        cycleTake_eq_take_append count.toNat, htake,
        show count.toNat - min count.toNat tmp.length = count.toNat - tmp.length by omega]

/-! ### The hex fields -/

/-- `toUpper()` of the lower-case hex is the upper-case hex. -/
lemma toUpper_toHex (b : Bytes) : ByteArray.toUpper (ByteArray.toHex b) = upperHex b := by
  have hdigit : ∀ d : Fin 16, (if byte 'a' ≤ ByteArray.hexDigits.getD d 0 ∧
      ByteArray.hexDigits.getD d 0 ≤ byte 'z' then ByteArray.hexDigits.getD d 0 - 32
      else ByteArray.hexDigits.getD d 0) = upperHexDigits.getD d 0 := by decide
  induction b with
  | nil => rfl
  | cons x b ih =>
    have hx := x.toNat_lt_size
    simp only [UInt8.size] at hx
    have h₁ := hdigit ⟨x.toNat / 16, by omega⟩
    have h₂ := hdigit ⟨x.toNat % 16, by omega⟩
    simp only [ByteArray.toUpper, ByteArray.toHex, upperHex, List.flatMap_cons, List.map_append,
      List.map_cons, List.map_nil] at ih h₁ h₂ ⊢
    rw [h₁, h₂, ih]

@[simp] lemma length_upperHex (b : Bytes) : (upperHex b).length = 2 * b.length := by
  induction b with
  | nil => rfl
  | cons x b ih => simp [upperHex] at ih ⊢; omega

/-- Upper-case hex reads back as the bytes it was written from. -/
lemma fromHex_upperHex (b : Bytes) : fromHex (upperHex b) = b := by
  have hdigit : ∀ d : Fin 16, hexValue (upperHexDigits.getD d 0) = d := by decide
  induction b with
  | nil => rfl
  | cons x b ih =>
    have hx := x.toNat_lt_size
    simp only [UInt8.size] at hx
    have h₁ := hdigit ⟨x.toNat / 16, by omega⟩
    have h₂ := hdigit ⟨x.toNat % 16, by omega⟩
    simp only at h₁ h₂
    simp only [upperHex, List.flatMap_cons, List.cons_append, List.nil_append] at ih ⊢
    rw [fromHex, h₁, h₂, ih, Nat.div_add_mod]
    exact congrArg (· :: b) (UInt8.toNat.inj (UInt8.toNat_ofNat_of_lt (by simpa using hx)))

/-- For every password and salt, with fuel above the count: the loop ends having fed SHA-1
the first 65536 bytes of the salt and password repeated, and the result is `16:`, the
upper-case hex of the salt, `60` and the upper-case hex of the digest, 61 bytes whose salt
field reads back as the salt. -/
theorem torControlHashedPassword_spec (sha1 : Bytes → Digest) (salt : Salt) (password : Bytes)
    (fuel : Nat) (hfuel : 65536 < fuel) :
    updateLoop (salt.1 ++ password) fuel s2kCount [] =
        some (cycleTake (salt.1 ++ password) 65536) ∧
      ∃ hash, torControlHashedPassword sha1 salt password fuel = some hash ∧
        hash = ascii "16:" ++ upperHex salt.1 ++ ascii "60" ++
          upperHex (sha1 (cycleTake (salt.1 ++ password) 65536)).1 ∧
        hash.length = 61 ∧ fromHex ((hash.drop 3).take 16) = salt.1 := by
  have hloop : updateLoop (salt.1 ++ password) fuel s2kCount [] =
      some (cycleTake (salt.1 ++ password) 65536) := by
    rw [updateLoop_eq (by simp [← List.length_pos, salt.2]) fuel s2kCount [] (by
      rw [s2kCount_eq]; exact hfuel), s2kCount_eq, List.nil_append]
    rfl
  refine ⟨hloop, _, ?_, rfl, ?_, ?_⟩
  · simp only [torControlHashedPassword, hloop, Option.bind_eq_bind, Option.some_bind,
      toUpper_toHex]
  · simp only [List.length_append, length_upperHex, salt.2, (sha1 _).2]
    rfl
  · have hsalt : (upperHex salt.1).length = 16 := by simp [salt.2]
    rw [List.append_assoc, List.append_assoc, List.drop_left' (show (ascii "16:").length = 3
      from rfl), List.take_left' hsalt, fromHex_upperHex]

/-- A password and salt, with the loop given one turn more than the count. -/
theorem torControlHashedPassword_of_secret :
    65536 < 65537 ∧
      updateLoop (ascii "saltsalt" ++ ascii "secret") 65537 s2kCount [] =
          some (cycleTake (ascii "saltsalt" ++ ascii "secret") 65536) ∧
        ∃ hash, torControlHashedPassword (fun _ => ⟨List.replicate 20 0, rfl⟩)
            ⟨ascii "saltsalt", rfl⟩ (ascii "secret") 65537 = some hash ∧
          hash = ascii "16:" ++ upperHex (ascii "saltsalt") ++ ascii "60" ++
            upperHex (List.replicate 20 0) ∧
          hash.length = 61 ∧ fromHex ((hash.drop 3).take 16) = ascii "saltsalt" :=
  ⟨by decide, torControlHashedPassword_spec (fun _ => ⟨List.replicate 20 0, rfl⟩)
    ⟨ascii "saltsalt", rfl⟩ (ascii "secret") 65537 (by decide)⟩

end RetroShareTor

import LogSift.Outcome
import LogSift.Text.Utf8

/-!
# Reading what has been encoded

* `scan_encodeChar`: the octets of a character are read as this character, whatever follows.
* `decode_encode`: a text is what its octets encode.
* `decodeLossy_of_decode`: where there is no failure nothing is replaced.
-/

namespace LogSift.Text.Utf8

variable {position : Nat} {b : UInt8} {p : Pending}

/-! ## First octets -/

theorem announce_one (h : b.toNat < 0x80) :
    announce position b = .inl (.char (Char.ofNat b.toNat)) := by
  unfold announce
  exact if_pos h

theorem announce_two (hlow : 0xC2 ≤ b.toNat) (hhigh : b.toNat < 0xE0) :
    announce position b = .inr ⟨position, b, 1, 1, 0x80, 0xBF, b.toNat - 0xC0⟩ := by
  unfold announce
  dsimp only
  rw [if_neg (by omega), if_neg (by omega), if_pos hhigh]

theorem announce_three (hlow : 0xE0 ≤ b.toNat) (hhigh : b.toNat < 0xF0) :
    announce position b = .inr ⟨position, b, 1, 2, if b.toNat = 0xE0 then 0xA0 else 0x80,
      if b.toNat = 0xED then 0x9F else 0xBF, b.toNat - 0xE0⟩ := by
  unfold announce
  dsimp only
  rw [if_neg (by omega), if_neg (by omega), if_neg (by omega), if_pos hhigh]

theorem announce_four (hlow : 0xF0 ≤ b.toNat) (hhigh : b.toNat < 0xF5) :
    announce position b = .inr ⟨position, b, 1, 3, if b.toNat = 0xF0 then 0x90 else 0x80,
      if b.toNat = 0xF4 then 0x8F else 0xBF, b.toNat - 0xF0⟩ := by
  unfold announce
  dsimp only
  rw [if_neg (by omega), if_neg (by omega), if_neg (by omega), if_neg (by omega), if_pos hhigh]

/-! ## Further octets -/

theorem scan_announced (h : announce position b = .inr p) (rest : List UInt8) :
    scan position none (b :: rest) = scan (position + 1) (some p) rest := by
  simp [scan, h]

/-- An octet within the bounds goes on with a character. -/
theorem scan_next (hlow : p.low ≤ b.toNat) (hhigh : b.toNat ≤ p.high) (howed : p.owed ≠ 1)
    (rest : List UInt8) :
    scan position (some p) (b :: rest) =
      scan (position + 1) (some ⟨p.position, p.first, p.taken + 1, p.owed - 1, 0x80, 0xBF,
        p.bits * 64 + (b.toNat - 0x80)⟩) rest := by
  simp [scan, hlow, hhigh, howed]

/-- The last octet that is owed completes a character. -/
theorem scan_last (hlow : p.low ≤ b.toNat) (hhigh : b.toNat ≤ p.high) (howed : p.owed = 1)
    (rest : List UInt8) :
    scan position (some p) (b :: rest) =
      .char (Char.ofNat (p.bits * 64 + (b.toNat - 0x80))) :: scan (position + 1) none rest := by
  simp [scan, hlow, hhigh, howed]

/-! ## Characters -/

theorem toNat_ofNat {n : Nat} (h : n < 256) : (UInt8.ofNat n).toNat = n := by
  simp [Nat.mod_eq_of_lt h]

theorem scan_one {n : Nat} (h : n < 0x80) (position : Nat) (rest : List UInt8) :
    scan position none (UInt8.ofNat n :: rest) =
      .char (Char.ofNat n) :: scan (position + 1) none rest := by
  have hb : (UInt8.ofNat n).toNat = n := toNat_ofNat (by omega)
  have hannounce : announce position (UInt8.ofNat n) = .inl (.char (Char.ofNat n)) := by
    rw [announce_one (by omega), hb]
  simp [scan, hannounce]

theorem scan_two {n : Nat} (hlow : 0x80 ≤ n) (hhigh : n < 0x800) (position : Nat)
    (rest : List UInt8) :
    scan position none (UInt8.ofNat (n / 64 % 32 + 192) :: UInt8.ofNat (n % 64 + 128) :: rest) =
      .char (Char.ofNat n) :: scan (position + 2) none rest := by
  have h₀ : (UInt8.ofNat (n / 64 % 32 + 192)).toNat = n / 64 + 192 := by
    rw [toNat_ofNat (by omega)]
    omega
  have h₁ : (UInt8.ofNat (n % 64 + 128)).toNat = n % 64 + 128 := toNat_ofNat (by omega)
  have hbits : (n / 64 + 192 - 0xC0) * 64 + (n % 64 + 128 - 0x80) = n := by omega
  rw [scan_announced (announce_two (by omega) (by omega)),
    scan_last (by dsimp only; omega) (by dsimp only; omega) rfl, h₀, h₁, hbits]

theorem scan_three {n : Nat} (hlow : 0x800 ≤ n) (hhigh : n < 0x10000)
    (hvalid : n < 0xD800 ∨ 0xDFFF < n) (position : Nat) (rest : List UInt8) :
    scan position none (UInt8.ofNat (n / 4096 % 16 + 224) :: UInt8.ofNat (n / 64 % 64 + 128) ::
      UInt8.ofNat (n % 64 + 128) :: rest) =
        .char (Char.ofNat n) :: scan (position + 3) none rest := by
  have h₀ : (UInt8.ofNat (n / 4096 % 16 + 224)).toNat = n / 4096 + 224 := by
    rw [toNat_ofNat (by omega)]
    omega
  have h₁ : (UInt8.ofNat (n / 64 % 64 + 128)).toNat = n / 64 % 64 + 128 := toNat_ofNat (by omega)
  have h₂ : (UInt8.ofNat (n % 64 + 128)).toNat = n % 64 + 128 := toNat_ofNat (by omega)
  have hbits : ((n / 4096 + 224 - 0xE0) * 64 + (n / 64 % 64 + 128 - 0x80)) * 64 +
      (n % 64 + 128 - 0x80) = n := by omega
  -- The bounds of the second octet leave out what would be too long and the surrogates.
  rw [scan_announced (announce_three (by omega) (by omega)),
    scan_next (by dsimp only; split <;> omega) (by dsimp only; split <;> omega) (by simp),
    scan_last (by dsimp only; omega) (by dsimp only; omega) rfl, h₀, h₁, h₂, hbits]

theorem scan_four {n : Nat} (hlow : 0x10000 ≤ n) (hhigh : n < 0x110000) (position : Nat)
    (rest : List UInt8) :
    scan position none (UInt8.ofNat (n / 262144 % 8 + 240) :: UInt8.ofNat (n / 4096 % 64 + 128) ::
      UInt8.ofNat (n / 64 % 64 + 128) :: UInt8.ofNat (n % 64 + 128) :: rest) =
        .char (Char.ofNat n) :: scan (position + 4) none rest := by
  have h₀ : (UInt8.ofNat (n / 262144 % 8 + 240)).toNat = n / 262144 + 240 := by
    rw [toNat_ofNat (by omega)]
    omega
  have h₁ : (UInt8.ofNat (n / 4096 % 64 + 128)).toNat = n / 4096 % 64 + 128 :=
    toNat_ofNat (by omega)
  have h₂ : (UInt8.ofNat (n / 64 % 64 + 128)).toNat = n / 64 % 64 + 128 := toNat_ofNat (by omega)
  have h₃ : (UInt8.ofNat (n % 64 + 128)).toNat = n % 64 + 128 := toNat_ofNat (by omega)
  have hbits : (((n / 262144 + 240 - 0xF0) * 64 + (n / 4096 % 64 + 128 - 0x80)) * 64 +
      (n / 64 % 64 + 128 - 0x80)) * 64 + (n % 64 + 128 - 0x80) = n := by omega
  rw [scan_announced (announce_four (by omega) (by omega)),
    scan_next (by dsimp only; split <;> omega) (by dsimp only; split <;> omega) (by simp),
    scan_next (by dsimp only; omega) (by dsimp only; omega) (by simp),
    scan_last (by dsimp only; omega) (by dsimp only; omega) rfl, h₀, h₁, h₂, h₃, hbits]

/-- The octets of a character are read as this character, and then what follows is read. -/
theorem scan_encodeChar (c : Char) (position : Nat) (rest : List UInt8) :
    ∃ next, scan position none (String.utf8EncodeChar c ++ rest) =
      .char c :: scan next none rest := by
  have hvalid : c.val.toNat < 0xD800 ∨ 0xDFFF < c.val.toNat ∧ c.val.toNat < 0x110000 := c.valid
  have hchar : Char.ofNat c.val.toNat = c := Char.ofNat_toNat c
  unfold String.utf8EncodeChar
  dsimp only
  split
  · have hone := scan_one (n := c.val.toNat) (by omega) position rest
    rw [hchar] at hone
    exact ⟨_, hone⟩
  split
  · have htwo := scan_two (n := c.val.toNat) (by omega) (by omega) position rest
    rw [hchar] at htwo
    exact ⟨_, htwo⟩
  split
  · have hthree := scan_three (n := c.val.toNat) (by omega) (by omega) (by omega) position rest
    rw [hchar] at hthree
    exact ⟨_, hthree⟩
  · have hfour := scan_four (n := c.val.toNat) (by omega) (by omega) position rest
    rw [hchar] at hfour
    exact ⟨_, hfour⟩

/-! ## Texts -/

theorem collect_scan_flatMap (cs : List Char) (position : Nat) :
    collect (scan position none (cs.flatMap String.utf8EncodeChar)) = .ok cs := by
  induction cs generalizing position with
  | nil => rfl
  | cons c cs ih =>
    obtain ⟨next, hnext⟩ := scan_encodeChar c position (cs.flatMap String.utf8EncodeChar)
    rw [List.flatMap_cons, hnext, collect, ih]
    rfl

theorem toList_loop (octets : ByteArray) (i : Nat) (taken : List UInt8) :
    ByteArray.toList.loop octets i taken = taken.reverse ++ octets.data.toList.drop i := by
  fun_induction ByteArray.toList.loop octets i taken with
  | case1 i taken h ih =>
    have hi : i < octets.data.toList.length := by simpa using h
    rw [ih, List.drop_eq_getElem_cons hi]
    simp [ByteArray.get!, h]
  | case2 i taken h =>
    rw [List.drop_eq_nil_of_le (by simpa using Nat.le_of_not_lt h), List.append_nil]

/-- The octets of a text are those of its characters. -/
theorem encode_eq_flatMap (s : String) : encode s = s.toList.flatMap String.utf8EncodeChar := by
  have hbytes : s.toByteArray = s.toList.utf8Encode := by
    rw [← String.toByteArray_ofList, String.ofList_toList]
  unfold encode String.toUTF8 ByteArray.toList
  rw [toList_loop, hbytes, List.utf8Encode, List.toList_data_toByteArray]
  rfl

/-- A text is what its octets encode. -/
theorem decode_encode (s : String) : decode (encode s) = .ok s := by
  rw [decode, encode_eq_flatMap, collect_scan_flatMap]
  exact congrArg Except.ok String.ofList_toList

theorem map_charOrReplacement {pieces : List Piece} {cs : List Char} (h : collect pieces = .ok cs) :
    pieces.map Piece.charOrReplacement = cs := by
  induction pieces generalizing cs with
  | nil =>
    cases h
    rfl
  | cons piece pieces ih =>
    cases piece with
    | char c =>
      obtain ⟨more, hmore, rfl⟩ := Outcome.map_eq_ok.1 h
      exact congrArg (c :: ·) (ih hmore)
    | bad f => cases h

/-- Octets without a failure encode the same text when failures would be replaced. -/
theorem decodeLossy_of_decode {octets : List UInt8} {s : String} (h : decode octets = .ok s) :
    decodeLossy octets = s := by
  obtain ⟨cs, hcs, rfl⟩ := Outcome.map_eq_ok.1 h
  rw [decodeLossy, map_charOrReplacement hcs]

end LogSift.Text.Utf8

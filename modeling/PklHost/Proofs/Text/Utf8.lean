import PklHost.Text.Utf8

/-!
# Text that is well formed

The UTF-8 octets of a text are cut into its characters, with no broken piece (`pieces_ofText`), so that
nothing is replaced where they are made a text again (`lossyText_ofText`).
-/

namespace PklHost.Utf8

/-! ## One octet -/

theorem toNat_ofNat_of_lt {n : Nat} (h : n < 256) : (UInt8.ofNat n).toNat = n := by
  simp [Nat.mod_eq_of_lt h]

theorem piecesFrom_of_longer {b : UInt8} {u : Unfinished} (h : start b = .longer u) (rest : Bytes) :
    piecesFrom none (b :: rest) = piecesFrom (some u) rest := by
  rw [piecesFrom, h]

section

variable {octets : Bytes} {n low high : Nat} (hlow : low ≤ n % 64 + 128) (hhigh : n % 64 + 128 ≤ high)
  (rest : Bytes)

include hlow hhigh

/-- An octet with the next six bits, where more are to come. -/
theorem piecesFrom_continued (lacks : Nat) :
    piecesFrom (some ⟨octets, n / 64, lacks + 2, low, high⟩) (UInt8.ofNat (n % 64 + 128) :: rest) =
      piecesFrom (some ⟨UInt8.ofNat (n % 64 + 128) :: octets, n, lacks + 1, 0x80, 0xbf⟩) rest := by
  have hbits : n / 64 * 0x40 + (n % 64 + 128) % 0x40 = n := by omega
  rw [piecesFrom]
  simp only [toNat_ofNat_of_lt (show n % 64 + 128 < 256 by omega)]
  rw [if_pos ⟨hlow, hhigh⟩, if_neg (by omega), hbits]
  rfl

/-- An octet with the last six bits. -/
theorem piecesFrom_finished :
    piecesFrom (some ⟨octets, n / 64, 1, low, high⟩) (UInt8.ofNat (n % 64 + 128) :: rest) =
      .char (Char.ofNat n) (octets.length + 1) :: piecesFrom none rest := by
  have hbits : n / 64 * 0x40 + (n % 64 + 128) % 0x40 = n := by omega
  rw [piecesFrom]
  simp only [toNat_ofNat_of_lt (show n % 64 + 128 < 256 by omega)]
  rw [if_pos ⟨hlow, hhigh⟩, if_pos trivial, hbits]

end

/-! ## First octets -/

theorem start_one {v : Nat} (h : v < 0x80) : start (UInt8.ofNat v) = .whole (Char.ofNat v) := by
  unfold start
  rw [toNat_ofNat_of_lt (by omega)]
  dsimp only
  rw [if_pos h]

theorem start_two {v : Nat} (hlow : 0x80 ≤ v) (hhigh : v < 0x800) :
    start (UInt8.ofNat (v / 64 % 32 + 192)) =
      .longer ⟨[UInt8.ofNat (v / 64 % 32 + 192)], v / 64, 1, 0x80, 0xbf⟩ := by
  have hbits : (v / 64 % 32 + 192) % 0x20 = v / 64 := by omega
  unfold start
  rw [toNat_ofNat_of_lt (by omega)]
  dsimp only
  rw [if_neg (by omega), if_neg (by omega), if_pos (by omega), hbits]

theorem start_three {v : Nat} (hlow : 0x800 ≤ v) (hhigh : v < 0x10000) :
    start (UInt8.ofNat (v / 64 / 64 % 16 + 224)) =
      .longer ⟨[UInt8.ofNat (v / 64 / 64 % 16 + 224)], v / 64 / 64, 2,
        if v / 64 / 64 = 0 then 0xa0 else 0x80, if v / 64 / 64 = 0xd then 0x9f else 0xbf⟩ := by
  have hsmall : v / 64 / 64 < 16 := by omega
  unfold start
  generalize v / 64 / 64 = top at hsmall ⊢
  rw [Nat.mod_eq_of_lt hsmall, toNat_ofNat_of_lt (by omega)]
  dsimp only
  have hbits : (top + 224) % 0x10 = top := by omega
  rw [if_neg (by omega), if_neg (by omega), if_neg (by omega), if_pos (by omega), hbits]
  simp only [show top + 224 = 0xe0 ↔ top = 0 by omega, show top + 224 = 0xed ↔ top = 0xd by omega]

theorem start_four {v : Nat} (hlow : 0x10000 ≤ v) (hhigh : v < 0x110000) :
    start (UInt8.ofNat (v / 64 / 64 / 64 % 8 + 240)) =
      .longer ⟨[UInt8.ofNat (v / 64 / 64 / 64 % 8 + 240)], v / 64 / 64 / 64, 3,
        if v / 64 / 64 / 64 = 0 then 0x90 else 0x80, if v / 64 / 64 / 64 = 4 then 0x8f else 0xbf⟩ := by
  have hsmall : v / 64 / 64 / 64 < 5 := by omega
  unfold start
  generalize v / 64 / 64 / 64 = top at hsmall ⊢
  rw [Nat.mod_eq_of_lt (by omega), toNat_ofNat_of_lt (by omega)]
  dsimp only
  have hbits : (top + 240) % 0x08 = top := by omega
  rw [if_neg (by omega), if_neg (by omega), if_neg (by omega), if_neg (by omega), if_pos (by omega), hbits]
  simp only [show top + 240 = 0xf0 ↔ top = 0 by omega, show top + 240 = 0xf4 ↔ top = 4 by omega]

/-! ## Texts -/

/-- No character is a surrogate, and none is past the last code point. -/
theorem toNat_char (c : Char) : c.val.toNat < 0xd800 ∨ 0xdfff < c.val.toNat ∧ c.val.toNat < 0x110000 :=
  c.valid

/-- The octets of one character are one piece. -/
theorem piecesFrom_utf8EncodeChar (c : Char) (rest : Bytes) :
    piecesFrom none (String.utf8EncodeChar c ++ rest) =
      .char c (String.utf8EncodeChar c).length :: piecesFrom none rest := by
  have hchar : Char.ofNat c.val.toNat = c := Char.ofNat_toNat c
  have hvalid := toNat_char c
  unfold String.utf8EncodeChar
  generalize c.val.toNat = v at hchar hvalid
  have htwice : v / 4096 = v / 64 / 64 := by omega
  have hthrice : v / 262144 = v / 64 / 64 / 64 := by omega
  dsimp only
  rw [htwice, hthrice]
  split
  · rw [List.cons_append, List.nil_append, piecesFrom, start_one (by omega), hchar]
    rfl
  · split
    · simp only [List.cons_append, List.nil_append]
      rw [piecesFrom_of_longer (start_two (by omega) (by omega)),
        piecesFrom_finished (by omega) (by omega), hchar]
      rfl
    · split
      -- what the second octet may be rules out overlong forms and surrogates
      · simp only [List.cons_append, List.nil_append]
        rw [piecesFrom_of_longer (start_three (by omega) (by omega)),
          piecesFrom_continued (by split <;> omega) (by split <;> omega),
          piecesFrom_finished (by omega) (by omega), hchar]
        rfl
      · simp only [List.cons_append, List.nil_append]
        rw [piecesFrom_of_longer (start_four (by omega) (by omega)),
          piecesFrom_continued (by split <;> omega) (by split <;> omega),
          piecesFrom_continued (by omega) (by omega),
          piecesFrom_finished (by omega) (by omega), hchar]
        rfl

theorem ofText_eq (s : String) : Bytes.ofText s = s.toList.flatMap String.utf8EncodeChar := by
  obtain ⟨cs, rfl⟩ : ∃ cs, s = String.ofList cs := ⟨s.toList, String.ofList_toList.symm⟩
  rw [Bytes.ofText, String.toByteArray_ofList, List.utf8Encode, String.toList_ofList]
  exact List.toList_data_toByteArray

theorem pieces_ofText (s : String) :
    pieces (Bytes.ofText s) = s.toList.map fun c => .char c (String.utf8EncodeChar c).length := by
  rw [ofText_eq, pieces]
  induction s.toList with
  | nil => rfl
  | cons c cs ih => rw [List.flatMap_cons, piecesFrom_utf8EncodeChar, ih, List.map_cons]

theorem lossyText_ofText (s : String) : lossyText (Bytes.ofText s) = s := by
  rw [lossyText, pieces_ofText, List.map_map]
  exact (congrArg String.ofList (List.map_id _)).trans String.ofList_toList

end PklHost.Utf8

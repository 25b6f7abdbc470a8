import ContainerBuild.Proofs.Text.Splitting
import Mathlib.Tactic.SplitIfs

/-!
# Bytes shown as text

Bytes that are no text can still be shown, with a replacement character for each broken run. The
bytes of a text are shown as the text. A slash is a character of its own wherever it stands, since
it neither starts nor continues a longer one, so bytes may be cut at slashes before or after they
are shown.

* `Utf8.pieces_encodeChar` — the bytes of a character are read as that character.
* `Utf8.decodeLossy_encode` — the bytes of a text are shown as the text.
* `Utf8.decodeLossy_append_slash` — what stands before and after a slash is shown on its own.
* `Utf8.slash_mem_of_decodeLossy` — a slash is shown only where there is one.
-/

namespace ContainerBuild.Utf8

/-! ### Reading one character -/

theorem isTail_iff (low high b : UInt8) :
    isTail low high b = true ↔ low.toNat ≤ b.toNat ∧ b.toNat ≤ high.toNat := by
  simp [isTail, UInt8.le_iff_toNat_le]

/-- The second bytes that may follow a byte: all that continue a character, except that four of the
leading bytes rule out characters that are too small, surrogates, or too great. -/
theorem isTail_secondBounds_iff (a b : UInt8) :
    isTail (secondBounds a).1 (secondBounds a).2 b = true ↔
      0x80 ≤ b.toNat ∧ b.toNat ≤ 0xBF ∧ (a.toNat = 0xE0 → 0xA0 ≤ b.toNat) ∧
        (a.toNat = 0xED → b.toNat ≤ 0x9F) ∧ (a.toNat = 0xF0 → 0x90 ≤ b.toNat) ∧
          (a.toNat = 0xF4 → b.toNat ≤ 0x8F) := by
  have ha (n : UInt8) : (a == n) = true ↔ a.toNat = n.toNat := by
    rw [beq_iff_eq, UInt8.toNat_inj]
  unfold secondBounds
  simp only [ha]
  split_ifs <;> simp only [isTail_iff] <;> simp_all <;> omega

section Lengths

variable {a b c d : UInt8} (rest : Bytes)

theorem pieces_one (ha : a.toNat < 0x80) :
    pieces (a :: rest) = .char (Char.ofNat a.toNat) :: pieces rest := by
  have hsmall : a < 0x80 := ha
  conv => lhs; rw [pieces.eq_def]
  simp only [hsmall, if_true]

/-- A byte that starts a character of several bytes is neither a character nor broken. -/
theorem leads_of_bounds (ha : 0xC2 ≤ a.toNat) (ha' : a.toNat ≤ 0xF4) :
    ¬a < 0x80 ∧ (a < 0xC2 || 0xF4 < a) = false := by
  simp [UInt8.lt_iff_toNat_lt]
  omega

theorem pieces_two (ha : 0xC2 ≤ a.toNat) (ha' : a.toNat < 0xE0)
    (hb : isTail (secondBounds a).1 (secondBounds a).2 b = true) :
    pieces (a :: b :: rest) =
      .char (Char.ofNat ((a.toNat - 0xC0) * 64 + (b.toNat - 0x80))) :: pieces rest := by
  obtain ⟨hlarge, hleads⟩ := leads_of_bounds ha (by omega)
  have htwo : a < 0xE0 := ha'
  conv => lhs; rw [pieces.eq_def]
  simp only [hlarge, hleads, hb, htwo, if_true, if_false, Bool.not_true, Bool.false_eq_true]
  rfl

theorem pieces_three (ha : 0xE0 ≤ a.toNat) (ha' : a.toNat < 0xF0)
    (hb : isTail (secondBounds a).1 (secondBounds a).2 b = true)
    (hc : isTail 0x80 0xBF c = true) :
    pieces (a :: b :: c :: rest) =
      .char (Char.ofNat (((a.toNat - 0xE0) * 64 + (b.toNat - 0x80)) * 64 + (c.toNat - 0x80))) ::
        pieces rest := by
  obtain ⟨hlarge, hleads⟩ := leads_of_bounds (a := a) (by omega) (by omega)
  have htwo : ¬a < 0xE0 := Nat.not_lt.2 ha
  have hthree : a < 0xF0 := ha'
  conv => lhs; rw [pieces.eq_def]
  simp only [hlarge, hleads, hb, hc, htwo, hthree, if_true, if_false, Bool.not_true,
    Bool.false_eq_true]
  rfl

theorem pieces_four (ha : 0xF0 ≤ a.toNat) (ha' : a.toNat ≤ 0xF4)
    (hb : isTail (secondBounds a).1 (secondBounds a).2 b = true)
    (hc : isTail 0x80 0xBF c = true) (hd : isTail 0x80 0xBF d = true) :
    pieces (a :: b :: c :: d :: rest) =
      .char (Char.ofNat ((((a.toNat - 0xF0) * 64 + (b.toNat - 0x80)) * 64 + (c.toNat - 0x80)) * 64 +
        (d.toNat - 0x80))) :: pieces rest := by
  obtain ⟨hlarge, hleads⟩ := leads_of_bounds (a := a) (by omega) ha'
  have htwo : ¬a < 0xE0 := Nat.not_lt.2 (Nat.le_trans (by decide) ha)
  have hthree : ¬a < 0xF0 := Nat.not_lt.2 ha
  conv => lhs; rw [pieces.eq_def]
  simp only [hlarge, hleads, hb, hc, hd, htwo, hthree, if_false, Bool.not_true,
    Bool.false_eq_true]
  rfl

end Lengths

/-- The bytes of a character are read as that character. -/
theorem pieces_encodeChar (c : Char) (rest : Bytes) :
    pieces (String.utf8EncodeChar c ++ rest) = .char c :: pieces rest := by
  have hvalid : c.val.toNat < 0xD800 ∨ 0xDFFF < c.val.toNat ∧ c.val.toNat < 0x110000 := c.valid
  have hchar : Char.ofNat c.val.toNat = c := Char.ofNat_toNat c
  unfold String.utf8EncodeChar
  generalize c.val.toNat = v at hvalid hchar
  dsimp only
  -- no byte that is written overflows, and all but the first continue a character
  have hbyte {n : Nat} (hn : n < 256) : (UInt8.ofNat n).toNat = n := by
    rw [UInt8.toNat_ofNat', Nat.mod_eq_of_lt hn]
  have htail (n : Nat) : (UInt8.ofNat (n % 64 + 128)).toNat = n % 64 + 128 := hbyte (by omega)
  have hisTail (n : Nat) : isTail 0x80 0xBF (UInt8.ofNat (n % 64 + 128)) = true := by
    rw [isTail_iff, htail]
    exact ⟨Nat.le_add_left _ _, by show _ ≤ 191; omega⟩
  -- the four lengths of an encoding
  split
  next hone =>
    have ha : (UInt8.ofNat v).toNat = v := hbyte (by omega)
    rw [List.singleton_append, pieces_one rest (by omega), ha, hchar]
  split
  next htwo =>
    have ha : (UInt8.ofNat (v / 64 % 32 + 192)).toNat = v / 64 % 32 + 192 := hbyte (by omega)
    refine (pieces_two rest (by omega) (by omega) ?_).trans ?_
    · rw [isTail_secondBounds_iff, ha, htail]
      omega
    · have hv : (v / 64 % 32 + 192 - 0xC0) * 64 + (v % 64 + 128 - 0x80) = v := by omega
      rw [ha, htail, hv, hchar]
  split
  next hthree =>
    have ha : (UInt8.ofNat (v / 4096 % 16 + 224)).toNat = v / 4096 % 16 + 224 := hbyte (by omega)
    refine (pieces_three rest (by omega) (by omega) ?_ (hisTail v)).trans ?_
    · rw [isTail_secondBounds_iff, ha, htail]
      omega
    · have hv : ((v / 4096 % 16 + 224 - 0xE0) * 64 + (v / 64 % 64 + 128 - 0x80)) * 64 +
          (v % 64 + 128 - 0x80) = v := by omega
      rw [ha, htail, htail, hv, hchar]
  next hfour =>
    have ha : (UInt8.ofNat (v / 262144 % 8 + 240)).toNat = v / 262144 % 8 + 240 :=
      hbyte (by omega)
    refine (pieces_four rest (by omega) (by omega) ?_ (hisTail (v / 64)) (hisTail v)).trans ?_
    · rw [isTail_secondBounds_iff, ha, htail]
      omega
    · have hv : (((v / 262144 % 8 + 240 - 0xF0) * 64 + (v / 4096 % 64 + 128 - 0x80)) * 64 +
          (v / 64 % 64 + 128 - 0x80)) * 64 + (v % 64 + 128 - 0x80) = v := by omega
      rw [ha, htail, htail, htail, hv, hchar]

/-- The bytes of a text are shown as the text. -/
theorem decodeLossy_encode (s : String) : decodeLossy (encode s) = s := by
  have hpieces (cs : List Char) : pieces (cs.flatMap String.utf8EncodeChar) = cs.map .char := by
    induction cs with
    | nil => rfl
    | cons c rest ih => rw [List.flatMap_cons, pieces_encodeChar, ih, List.map_cons]
  rw [decodeLossy, encode, hpieces, List.map_map]
  simp [Function.comp_def, Piece.char?]

/-! ### Slashes -/

/-- A slash continues no character, so it is read as a character of its own. -/
theorem pieces_append_slash (before after : Bytes) :
    pieces (before ++ 0x2F :: after) = pieces before ++ .char '/' :: pieces after := by
  have hslash : pieces (0x2F :: after) = .char '/' :: pieces after := pieces_one after (by decide)
  have hsecond (a : UInt8) : isTail (secondBounds a).1 (secondBounds a).2 0x2F = false := by
    rw [← Bool.not_eq_true, isTail_secondBounds_iff]
    exact fun h => absurd h.1 (by decide)
  have htail : isTail 0x80 0xBF 0x2F = false := rfl
  fun_induction pieces before with
  | case1 => exact hslash
  | _ =>
    -- the step that reads the first bytes is the same with the slash behind them
    simp only [List.cons_append, List.nil_append] at *
    conv => lhs; rw [pieces.eq_def]
    simp [*]

/-- What stands before and after a slash is shown on its own. -/
theorem decodeLossy_append_slash (before after : Bytes) :
    decodeLossy (before ++ 0x2F :: after) = decodeLossy before ++ "/" ++ decodeLossy after := by
  apply String.toList_inj.1
  simp [decodeLossy, pieces_append_slash, Piece.char?]

theorem eq_of_ofNat_eq_slash {n : Nat} (h : Char.ofNat n = '/') : n = 0x2F := by
  by_cases hvalid : n.isValidChar
  · rw [Char.ofNat, dif_pos hvalid] at h
    exact congrArg Char.toNat h
  · rw [Char.ofNat, dif_neg hvalid] at h
    cases h

/-- A slash is read only where there is one: longer characters are greater. -/
theorem slash_mem_of_mem_pieces {bytes : Bytes} (h : Piece.char '/' ∈ pieces bytes) :
    0x2F ∈ bytes := by
  have hbounds {a : UInt8} (hleads : ¬(a < 0xC2 || 0xF4 < a) = true) :
      0xC2 ≤ a.toNat ∧ a.toNat ≤ 0xF4 := by
    simpa [UInt8.le_iff_toNat_le] using hleads
  have hsecond {a b : UInt8} (hb : ¬(!isTail (secondBounds a).1 (secondBounds a).2 b) = true) :
      0x80 ≤ b.toNat ∧ (a.toNat = 0xE0 → 0xA0 ≤ b.toNat) ∧ (a.toNat = 0xF0 → 0x90 ≤ b.toNat) := by
    rw [Bool.not_eq_true, Bool.not_eq_false', isTail_secondBounds_iff] at hb
    exact ⟨hb.1, hb.2.2.1, hb.2.2.2.2.1⟩
  -- a character with another number is none, and the slash comes later
  have hlater {n : Nat} {rest : List Piece}
      (h : Piece.char '/' ∈ .char (Char.ofNat n) :: rest) (hn : n ≠ 0x2F) :
      Piece.char '/' ∈ rest :=
    (List.mem_cons.1 h).resolve_left fun heq =>
      hn (eq_of_ofNat_eq_slash (Piece.char.inj heq).symm)
  fun_induction pieces bytes with
  | case1 => cases h
  | case2 a rest ha ih =>
    by_cases hslash : a.toNat = 0x2F
    · have heq : a = 0x2F := UInt8.toNat_inj.1 hslash
      exact heq ▸ List.mem_cons_self
    · exact List.mem_cons_of_mem _ (ih (hlater h hslash))
  | case6 a ha hleads b rest hb _ ih =>
    have hrest := hlater h (by
      have hbounds := hbounds hleads
      simp only [List.foldl_cons, List.foldl_nil]
      omega)
    simp [ih hrest]
  | case9 a ha hleads b hb htwo c rest hc hthree ih =>
    have hrest := hlater h (by
      have hbounds := hbounds hleads
      have hsecond := hsecond hb
      have htwo : 0xE0 ≤ a.toNat := Nat.not_lt.1 htwo
      simp only [List.foldl_cons, List.foldl_nil]
      omega)
    simp [ih hrest]
  | case12 a ha hleads b hb _ c hc hthree d rest hd ih =>
    have hrest := hlater h (by
      have hbounds := hbounds hleads
      have hsecond := hsecond hb
      have hthree : 0xF0 ≤ a.toNat := Nat.not_lt.1 hthree
      simp only [List.foldl_cons, List.foldl_nil]
      omega)
    simp [ih hrest]
  | _ => simp_all

/-- A slash is shown only where there is one. -/
theorem slash_mem_of_decodeLossy {bytes : Bytes} (h : '/' ∈ (decodeLossy bytes).toList) :
    0x2F ∈ bytes := by
  rw [decodeLossy, String.toList_ofList, List.mem_map] at h
  obtain ⟨piece, hmem, hshown⟩ := h
  cases piece with
  | char c =>
    obtain rfl : c = '/' := hshown
    exact slash_mem_of_mem_pieces hmem
  | broken bytes => cases hshown

end ContainerBuild.Utf8

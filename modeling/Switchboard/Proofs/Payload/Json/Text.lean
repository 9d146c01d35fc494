import Switchboard.Proofs.Payload.Basic
import Switchboard.Proofs.Text.Utf8

/-!
# Texts in JSON are read back

What stands between the quotes is taken piece by piece: the bytes that need no escape, and the
escapes, each of which gives the bytes of its character.
-/

namespace Switchboard.Json

/-! ## Pieces of a text -/

/-- Whether some bytes within quotes stand for others. -/
def StandsFor (bs text : Bytes) : Prop :=
  ∀ rest more tail : Bytes, readBody rest = .ok (more, tail) →
    readBody (bs ++ rest) = .ok (text ++ more, tail)

theorem standsFor_nil : StandsFor [] [] :=
  fun _ _ _ h => h

theorem StandsFor.append {xs ys text text' : Bytes} (hx : StandsFor xs text)
    (hy : StandsFor ys text') : StandsFor (xs ++ ys) (text ++ text') := by
  intro rest more tail h
  rw [List.append_assoc, List.append_assoc]
  exact hx _ _ _ (hy _ _ _ h)

theorem readBody_quote (rest : Bytes) : readBody (0x22 :: rest) = .ok ([], rest) := by
  rw [readBody, if_pos rfl]

/-- Whether a byte needs no escape. -/
def IsPlain (b : UInt8) : Prop :=
  0x20 ≤ b.toNat ∧ b ≠ 0x22 ∧ b ≠ 0x5c

theorem standsFor_plain {b : UInt8} (h : IsPlain b) : StandsFor [b] [b] := by
  obtain ⟨hlow, hquote, hbackslash⟩ := h
  intro rest more tail hrest
  have hcontrol : ¬ b < 0x20 := by
    rw [UInt8.lt_iff_toNat_lt]
    exact Nat.not_lt.mpr hlow
  rw [List.singleton_append, readBody, if_neg hquote, if_neg hbackslash, if_neg hcontrol, hrest]
  rfl

theorem standsFor_all_plain {bs : Bytes} (h : ∀ b ∈ bs, IsPlain b) : StandsFor bs bs := by
  induction bs with
  | nil => exact standsFor_nil
  | cons b bs ih =>
    have hrest := ih fun x hx => h x (List.mem_cons_of_mem _ hx)
    exact (standsFor_plain (h b List.mem_cons_self)).append hrest

theorem standsFor_escape {escape : Bytes} {c : Char}
    (h : ∀ rest, ∃ r, readEscape (escape ++ rest) = .ok (c, r) ∧ r.1 = rest) :
    StandsFor (0x5c :: escape) (Utf8.encodeChar c) := by
  intro rest more tail hrest
  obtain ⟨taken, hescape, htaken⟩ := h rest
  rw [List.cons_append, readBody, if_neg (by decide), if_pos rfl]
  split
  · next herr => rw [hescape] at herr; cases herr
  · next hok =>
    rw [hescape] at hok
    cases hok
    dsimp only at htaken
    rw [htaken, hrest]
    rfl

/-! ## Escapes -/

theorem standsFor_shortEscape {b : UInt8} {c : Char} (h : shortEscape? b = some c) :
    StandsFor [0x5c, b] (Utf8.encodeChar c) := by
  refine standsFor_escape fun rest => ?_
  rw [List.singleton_append]
  unfold readEscape
  dsimp only
  rw [h]
  exact ⟨_, rfl, rfl⟩

theorem hexValue?_hexDigit {n : Nat} (h : n < 16) : hexValue? (hexDigit n) = some n := by
  revert n
  decide

/-- Four digits give their number. -/
theorem readHex4_digits {n : Nat} (h : n < 0x100) (rest : Bytes) :
    ∃ r, readHex4 (0x30 :: 0x30 :: hexDigit (n / 16) :: hexDigit (n % 16) :: rest) = .ok (n, r) ∧
      r.1 = rest := by
  have hhigh := hexValue?_hexDigit (show n / 16 < 16 by omega)
  have hlow := hexValue?_hexDigit (show n % 16 < 16 by omega)
  have hzero : hexValue? 0x30 = some 0 := rfl
  unfold readHex4
  dsimp only
  rw [hhigh, hlow, hzero]
  dsimp only
  rw [show 0 * 4096 + 0 * 256 + n / 16 * 16 + n % 16 = n by omega]
  exact ⟨_, rfl, rfl⟩

theorem readUnicode_digits {n : Nat} (h : n < 0x20) (rest : Bytes) :
    ∃ r, readUnicode (0x30 :: 0x30 :: hexDigit (n / 16) :: hexDigit (n % 16) :: rest) =
      .ok (Char.ofNat n, r) ∧ r.1 = rest := by
  obtain ⟨taken, hhex, htaken⟩ := readHex4_digits (show n < 0x100 by omega) rest
  -- A control is no half of a surrogate pair.
  have hlow : isLowSurrogate n = false := by
    simp [isLowSurrogate]
    omega
  have hhigh : isHighSurrogate n = false := by
    simp [isHighSurrogate]
    omega
  refine ⟨taken, bind_eq_ok_iff.mpr ⟨_, hhex, ?_⟩, htaken⟩
  dsimp only
  rw [hlow, hhigh]
  rfl

theorem standsFor_unicodeEscape {n : Nat} (h : n < 0x20) :
    StandsFor [0x5c, 0x75, 0x30, 0x30, hexDigit (n / 16), hexDigit (n % 16)]
      (Utf8.encodeChar (Char.ofNat n)) := by
  refine standsFor_escape fun rest => ?_
  obtain ⟨taken, hunicode, htaken⟩ := readUnicode_digits h rest
  refine ⟨_, bind_eq_ok_iff.mpr ⟨_, hunicode, rfl⟩, htaken⟩

/-- Every character is written so that it stands for its bytes. -/
theorem standsFor_escapeChar (c : Char) : StandsFor (escapeChar c) (Utf8.encodeChar c) := by
  have hback : Char.ofNat c.toNat = c := Char.ofNat_toNat c
  unfold escapeChar
  split
  · next h => exact standsFor_shortEscape (by rw [← hback, h]; rfl)
  · next h => exact standsFor_shortEscape (by rw [← hback, h]; rfl)
  · next h => exact standsFor_shortEscape (by rw [← hback, h]; rfl)
  · next h => exact standsFor_shortEscape (by rw [← hback, h]; rfl)
  · next h => exact standsFor_shortEscape (by rw [← hback, h]; rfl)
  · next h => exact standsFor_shortEscape (by rw [← hback, h]; rfl)
  · next h => exact standsFor_shortEscape (by rw [← hback, h]; rfl)
  · next hquote hbackslash _ _ _ _ _ =>
    split
    · next hcontrol =>
      have hescape := standsFor_unicodeEscape hcontrol
      rw [hback] at hescape
      exact hescape
    · next hcontrol =>
      refine standsFor_all_plain fun b hb => ?_
      rcases Utf8.mem_encodeChar hb with hsame | hhigh
      · refine ⟨by omega, ?_, ?_⟩
        · rintro rfl
          exact hquote hsame.symm
        · rintro rfl
          exact hbackslash hsame.symm
      · refine ⟨by omega, ?_, ?_⟩
        · rintro rfl
          exact absurd hhigh (by decide)
        · rintro rfl
          exact absurd hhigh (by decide)

theorem standsFor_escapeChars (cs : List Char) :
    StandsFor (cs.flatMap escapeChar) (Utf8.encode cs) := by
  induction cs with
  | nil => exact standsFor_nil
  | cons c cs ih =>
    rw [List.flatMap_cons]
    exact (standsFor_escapeChar c).append ih

/-! ## Whole texts -/

/-- A written text behind its opening quote. -/
def textTail (s : String) : Bytes :=
  s.toList.flatMap escapeChar ++ [0x22]

theorem writeText_eq (s : String) : writeText s = 0x22 :: textTail s :=
  rfl

/-- A text is read back. -/
theorem readText_textTail (s : String) (rest : Bytes) :
    readText (textTail s ++ rest) = .ok (s, rest) := by
  have hbody := standsFor_escapeChars s.toList _ _ _ (readBody_quote rest)
  rw [List.append_nil] at hbody
  rw [textTail, List.append_assoc]
  refine bind_eq_ok_iff.mpr ⟨_, hbody, ?_⟩
  dsimp only
  rw [← Utf8.ofString, Utf8.toString?_ofString]

end Switchboard.Json

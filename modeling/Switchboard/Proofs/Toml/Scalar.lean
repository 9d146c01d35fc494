import Mathlib.Data.List.TakeDrop
import Switchboard.Proofs.Payload.Json.Number
import Switchboard.Proofs.Toml.Text
import Switchboard.Toml.Reader

/-!
# Values in a document are read back

A value that was written at the end of a line is read back, if it is a text, a truth value or a
whole number of at most 63 bits. Digits alone are never taken for a date or a time of day.
-/

namespace Switchboard.Toml

/-! ## Digits -/

/-- Whether some characters are digits, and there is one. -/
structure AreDigits (cs : List Char) : Prop where
  ne : cs ≠ []
  digits : ∀ c ∈ cs, c.isDigit = true

theorem not_isDigit_of_mem {cs : List Char} (h : ∀ c ∈ cs, c.isDigit = true) {x : Char}
    (hx : x.isDigit = false) : x ∉ cs := by
  intro hmem
  rw [h x hmem] at hx
  cases hx

theorem digits?_of_areDigits {cs : List Char} (h : AreDigits cs) :
    digits? Char.isDigit cs = some cs := by
  obtain ⟨hne, hdigits⟩ := h
  induction cs with
  | nil => exact absurd rfl hne
  | cons c cs ih =>
    have hc := hdigits c List.mem_cons_self
    have hcs (x : Char) (hx : x ∈ cs) := hdigits x (List.mem_cons_of_mem _ hx)
    cases cs with
    | nil => simp [digits?, hc]
    | cons d ds =>
      have hscore : d ≠ '_' := by
        rintro rfl
        exact not_isDigit_of_mem hcs (by decide) List.mem_cons_self
      rw [digits?.eq_def]
      dsimp only
      rw [if_pos hc]
      split
      · next heq => cases heq
      · next heq =>
        cases heq
        exact absurd rfl hscore
      · rw [ih (by simp) hcs]
        rfl

theorem after?_of_digits {cs : List Char} (h : ∀ c ∈ cs, c.isDigit = true) {x : Char}
    (hx : x.isDigit = false) : after? x cs = none := by
  cases cs with
  | nil => rfl
  | cons c cs =>
    rw [after?, if_neg]
    rintro rfl
    exact not_isDigit_of_mem h hx List.mem_cons_self

theorem subset_of_twoDigits? {low high n : Nat} {cs rest : List Char}
    (h : twoDigits? low high cs = some (n, rest)) : rest ⊆ cs := by
  unfold twoDigits? at h
  split at h
  · dsimp only at h
    split at h
    · cases h
      intro x hx
      exact List.mem_cons_of_mem _ (List.mem_cons_of_mem _ hx)
    · cases h
  · cases h

/-- Digits have no colon and no dash, so they are neither a time of day nor a date. -/
theorem isMoment_of_digits {cs : List Char} (h : ∀ c ∈ cs, c.isDigit = true) :
    isMoment cs = false := by
  have htime : time? cs = none := by
    unfold time?
    rcases hhour : twoDigits? 0 23 cs with _ | ⟨n, rest⟩
    · rfl
    · have hrest := after?_of_digits (fun c hc => h c (subset_of_twoDigits? hhour hc))
        (x := ':') (by decide)
      simp [hrest]
  have hdate : date? cs = none := by
    have hrest := after?_of_digits (fun c hc => h c (List.drop_subset 4 cs hc))
      (x := '-') (by decide)
    unfold date?
    rw [hrest]
    exact Option.bind_fun_none _
  simp [isMoment, htime, hdate]

/-! ## Numbers -/

theorem char_of_digit {n : Nat} (h : n < 10) :
    (Char.ofNat (0x30 + n)).isDigit = true ∧ digitValue? (Char.ofNat (0x30 + n)) = some n := by
  revert n
  decide

theorem digit_cases {b : UInt8} (h : Decimal.isDigit b = true) :
    ∃ n, n < 10 ∧ b.toNat = 0x30 + n ∧ Decimal.digit b = n := by
  obtain ⟨hlow, hhigh⟩ := Decimal.isDigit_iff.mp h
  exact ⟨b.toNat - 0x30, by omega, by omega, rfl⟩

theorem areDigits_writeNat (n : Nat) : AreDigits (writeNat n) := by
  constructor
  · obtain ⟨d, ds, hds, -⟩ := Decimal.ofNat_eq_cons n
    simp [writeNat, hds]
  · intro c hc
    obtain ⟨b, hb, rfl⟩ := List.mem_map.mp hc
    obtain ⟨k, hk, hbk, -⟩ := digit_cases (Decimal.isDigit_of_mem_ofNat hb)
    rw [hbk]
    exact (char_of_digit hk).1

theorem number_map {bs : Bytes} (h : ∀ b ∈ bs, Decimal.isDigit b = true) :
    number 10 (bs.map fun b => Char.ofNat b.toNat) = Decimal.toNat bs := by
  rw [number, Decimal.toNat, List.foldl_map]
  apply List.foldl_ext
  intro m b hb
  obtain ⟨k, hk, hbk, hdigit⟩ := digit_cases (h b hb)
  rw [hbk, (char_of_digit hk).2, hdigit]
  rfl

theorem number_writeNat (n : Nat) : number 10 (writeNat n) = n := by
  rw [writeNat, number_map fun b hb => Decimal.isDigit_of_mem_ofNat hb, Decimal.toNat_ofNat]

theorem writeNat_zero : writeNat 0 = ['0'] := by
  rw [writeNat, Decimal.ofNat]
  rfl

/-- Only zero begins with a zero. -/
theorem writeNat_cons_zero {n : Nat} {cs : List Char} (h : writeNat n = '0' :: cs) : cs = [] := by
  obtain ⟨d, ds, hds, hzero⟩ := Decimal.ofNat_eq_cons n
  have hdigit : Decimal.isDigit d = true := Decimal.isDigit_of_mem_ofNat (hds ▸ List.mem_cons_self)
  obtain ⟨k, hk, hdk, -⟩ := digit_cases hdigit
  rw [writeNat, hds, List.map_cons] at h
  obtain ⟨hd, -⟩ := List.cons.inj h
  have hd0 : d = 0x30 := by
    apply UInt8.toNat_inj.mp
    have hvalue := (char_of_digit hk).2
    rw [← hdk, hd] at hvalue
    have : k = 0 := (Option.some.inj hvalue).symm
    rw [hdk, this]
    rfl
  have hn := hzero hd0
  subst hn
  have hnil := writeNat_zero
  rw [writeNat, hds, List.map_cons, hd] at hnil
  rw [← (List.cons.inj h).2]
  exact (List.cons.inj hnil).2

theorem decimal?_writeNat (n : Nat) : decimal? (writeNat n) = some (writeNat n) := by
  unfold decimal?
  split
  · next heq =>
    have := writeNat_cons_zero heq
    cases this
  · exact digits?_of_areDigits (areDigits_writeNat n)

theorem signed_of_digits {cs : List Char} (h : ∀ c ∈ cs, c.isDigit = true) :
    signed cs = (false, cs) := by
  unfold signed
  split
  · exact absurd List.mem_cons_self (not_isDigit_of_mem h (by decide))
  · exact absurd List.mem_cons_self (not_isDigit_of_mem h (by decide))
  · rfl

/-- The largest whole number that a document can hold. -/
def largestWhole : Nat :=
  9223372036854775807

theorem bounded?_of_le {n : Nat} (h : n ≤ largestWhole) : bounded? n = some (.whole n) := by
  have hmin : Int64.minValue.toInt = -9223372036854775808 := by decide
  have hmax : Int64.maxValue.toInt = 9223372036854775807 := by decide
  have hn : n ≤ 9223372036854775807 := h
  rw [bounded?, hmin, hmax, if_pos]
  omega

theorem whole?_writeNat {n : Nat} (h : n ≤ largestWhole) :
    whole? (writeNat n) = some (.whole n) := by
  have hdigits := (areDigits_writeNat n).digits
  unfold whole?
  dsimp only
  -- A mark behind the first zero is no digit.
  split
  · next heq =>
    have := writeNat_cons_zero heq
    cases this
  · next heq =>
    have := writeNat_cons_zero heq
    cases this
  · next heq =>
    have := writeNat_cons_zero heq
    cases this
  · rw [signed_of_digits hdigits]
    simp [decimal?_writeNat, number_writeNat, bounded?_of_le h]

/-! ## Values at the end of a line -/

theorem span_isToken {token : List Char} (h : ∀ c ∈ token, isToken c = true) (rest : List Char) :
    (token ++ '\n' :: rest).span isToken = (token, '\n' :: rest) := by
  have hline : isToken '\n' = false := by decide
  rw [List.span_eq_takeWhile_dropWhile, List.takeWhile_append_of_pos h,
    List.dropWhile_append_of_pos h]
  simp [hline]

theorem readScalar_line {token : List Char} (h : ∀ c ∈ token, isToken c = true) {v : Value}
    (hv : scalar? token = some v) (rest : List Char) :
    readScalar (token ++ '\n' :: rest) = some (v, '\n' :: rest) := by
  unfold readScalar
  rw [span_isToken h]
  simp [hv]

theorem isToken_of_isDigit {c : Char} (h : c.isDigit = true) : isToken c = true := by
  simp [isToken, isBare, Char.isAlphanum, h]

theorem scalar?_writeNat {n : Nat} (h : n ≤ largestWhole) :
    scalar? (writeNat n) = some (.whole n) := by
  have hdigits := (areDigits_writeNat n).digits
  have word {cs : List Char} {x : Char} (hx : x.isDigit = false) (hmem : x ∈ cs) :
      writeNat n ≠ cs := by
    rintro rfl
    exact not_isDigit_of_mem hdigits hx hmem
  rw [scalar?, if_neg (word (x := 'e') (by decide) (by decide)),
    if_neg (word (x := 'e') (by decide) (by decide)), isMoment_of_digits hdigits,
    whole?_writeNat h]
  rfl

/-- The value that is read for a setting. -/
def Setting.value : Setting → Value
  | .text s => .text s
  | .whole n => .whole n
  | .boolean b => .boolean b

/-- Whether a document can hold a setting. -/
def Setting.Fits : Setting → Prop
  | .whole n => n ≤ largestWhole
  | _ => True

theorem value?_of_scalar (depth : Nat) {c : Char} {cs : List Char} (hquote : c ≠ '"' ∧ c ≠ '\'')
    (hbracket : c ≠ '[') (hbrace : c ≠ '{') : value? depth (c :: cs) = readScalar (c :: cs) := by
  rw [value?.eq_def]
  dsimp only
  rw [if_neg (by simp [hquote]), if_neg hbracket, if_neg hbrace]

theorem value?_token (depth : Nat) {token : List Char} (hne : token ≠ [])
    (h : ∀ c ∈ token, isToken c = true) {v : Value} (hv : scalar? token = some v)
    (rest : List Char) : value? depth (token ++ '\n' :: rest) = some (v, '\n' :: rest) := by
  have hread := readScalar_line h hv rest
  obtain ⟨c, cs, rfl⟩ := List.exists_cons_of_ne_nil hne
  have hc := h c List.mem_cons_self
  have other {x : Char} (hx : isToken x = false) : c ≠ x := by
    rintro rfl
    rw [hc] at hx
    cases hx
  rw [List.cons_append] at hread ⊢
  rw [value?_of_scalar depth ⟨other (by decide), other (by decide)⟩ (other (by decide))
    (other (by decide)), hread]

theorem unquoted_line (rest : List Char) : Unquoted ('\n' :: rest) := by
  constructor <;> intro c hc <;> cases hc <;> decide

theorem writeText_eq_cons (s : List Char) :
    ∃ c cs, writeText s = c :: cs ∧ (c = '"' ∨ c = '\'') := by
  unfold writeText
  split <;> simp

theorem value?_text (depth : Nat) (s : String) (rest : List Char) :
    value? depth (writeText s.toList ++ '\n' :: rest) = some (.text s, '\n' :: rest) := by
  have hread := text?_writeText s.toList (unquoted_line rest)
  obtain ⟨c, cs, hcs, hquote⟩ := writeText_eq_cons s.toList
  rw [hcs, List.cons_append] at hread ⊢
  rw [value?.eq_def]
  dsimp only
  rw [if_pos hquote, hread]
  simp

/-- The value of a setting is read back at the end of a line. -/
theorem value?_write (depth : Nat) {v : Setting} (hv : v.Fits) (rest : List Char) :
    value? depth (v.write ++ '\n' :: rest) = some (v.value, '\n' :: rest) := by
  cases v with
  | text s => exact value?_text depth s rest
  | whole n =>
    have hdigits := areDigits_writeNat n
    exact value?_token depth hdigits.ne (fun c hc => isToken_of_isDigit (hdigits.digits c hc))
      (scalar?_writeNat hv) rest
  | boolean b =>
    cases b with
    | false => exact value?_token depth (by decide) (List.all_eq_true.mp rfl) rfl rest
    | true => exact value?_token depth (by decide) (List.all_eq_true.mp rfl) rfl rest

end Switchboard.Toml

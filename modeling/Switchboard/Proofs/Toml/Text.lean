import Switchboard.Toml.Text
import Switchboard.Toml.Writer

/-!
# Texts in a document are read back

Whatever form a text is written in, it is read back as it was, if no further quote follows it. In a
form of several lines the end is told by what follows each quote: three quotes end the text unless
it goes on, and up to two more of them still belong to it. So the writer never puts three plain
quotes next to each other.
-/

namespace Switchboard.Toml

/-! ## One character -/

theorem push_some (c : Char) (s rest : List Char) :
    push c (some (s, rest)) = some (c :: s, rest) :=
  rfl

/-- What may follow a text: anything but another quote of its kind. -/
def NoQuote (quote : Char) (rest : List Char) : Prop :=
  ∀ c ∈ rest.head?, c ≠ quote

/-- Whether what follows a backslash stands for a character. -/
def Escapes (body : List Char) (c : Char) : Prop :=
  ∀ rest, escape? (body ++ rest) = some (c, rest) ∧ continuation? (body ++ rest) = none

theorem continuation?_of_letter {c : Char} (hblank : isBlank c = false) (hline : c ≠ '\n')
    (hreturn : c ≠ '\r') (rest : List Char) : continuation? (c :: rest) = none := by
  have hskip : skipBlanks (c :: rest) = c :: rest := by
    simp [skipBlanks, hblank]
  rw [continuation?, hskip, newline?.eq_3]
  · rfl
  · intro _ h
    exact hline (List.cons.inj h).1
  · intro _ h
    exact hreturn (List.cons.inj h).1

theorem escapes_quote : Escapes ['"'] '"' := by
  intro rest
  exact ⟨rfl, continuation?_of_letter rfl (by decide) (by decide) rest⟩

theorem hexNumber?_hexDigit {n : Nat} (h : n < 128) :
    hexNumber? ['0', '0', hexDigit (n / 16), hexDigit (n % 16)] = some n := by
  revert n
  decide

theorem escapes_codePoint {c : Char} (h : c.toNat < 128) :
    Escapes ['u', '0', '0', hexDigit (c.toNat / 16), hexDigit (c.toNat % 16)] c := by
  intro rest
  refine ⟨?_, continuation?_of_letter rfl (by decide) (by decide) _⟩
  have hvalid : c.toNat.isValidChar := c.valid
  show codePoint? 4 ('0' :: '0' :: hexDigit (c.toNat / 16) :: hexDigit (c.toNat % 16) :: rest) = _
  simp [codePoint?, hexNumber?_hexDigit h, hvalid]

/-- A character other than a quote is written as an escape or as it is. -/
theorem escaped_cases (c : Char) :
    (∃ body, escaped c = '\\' :: body ∧ Escapes body c) ∨
      (escaped c = [c] ∧ c ≠ '\\' ∧ (isPlain c = true ∨ c = '\n')) := by
  have letter (x : Char) (hx : ∀ rest, escape? (x :: rest) = some (c, rest))
      (hblank : isBlank x = false) (hline : x ≠ '\n') (hreturn : x ≠ '\r') : Escapes [x] c :=
    fun rest => ⟨hx rest, continuation?_of_letter hblank hline hreturn rest⟩
  unfold escaped
  split
  · next h =>
    subst h
    exact .inl ⟨_, rfl, letter 'b' (fun _ => rfl) rfl (by decide) (by decide)⟩
  split
  · next h =>
    subst h
    exact .inl ⟨_, rfl, letter 't' (fun _ => rfl) rfl (by decide) (by decide)⟩
  split
  · next h =>
    subst h
    exact .inl ⟨_, rfl, letter 'f' (fun _ => rfl) rfl (by decide) (by decide)⟩
  split
  · next h =>
    subst h
    exact .inl ⟨_, rfl, letter 'r' (fun _ => rfl) rfl (by decide) (by decide)⟩
  split
  · next h =>
    subst h
    exact .inl ⟨_, rfl, letter '\\' (fun _ => rfl) rfl (by decide) (by decide)⟩
  split
  · next h =>
    refine .inl ⟨_, rfl, escapes_codePoint ?_⟩
    simp only [needsEscape, Bool.or_eq_true, Bool.and_eq_true, decide_eq_true_eq] at h
    rcases h with ⟨⟨hlow, -⟩, -⟩ | rfl
    · omega
    · decide
  · next _ _ _ _ hbackslash hescape =>
    refine .inr ⟨rfl, hbackslash, ?_⟩
    simp only [needsEscape, Bool.or_eq_true, Bool.and_eq_true, decide_eq_true_eq, not_or,
      not_and] at hescape
    simp only [isPlain, Bool.or_eq_true, Bool.and_eq_true, decide_eq_true_eq]
    by_cases hline : c = '\n'
    · exact .inr hline
    · left
      by_cases htab : c = '\t'
      · exact .inl htab
      · exact .inr ⟨Nat.le_of_not_lt fun hlow => hescape.1 ⟨hlow, htab⟩ hline, hescape.2⟩

/-! ## Texts on one line -/

theorem basic_quote (rest : List Char) : basic ('"' :: rest) = some ([], rest) := by
  rw [basic, if_pos rfl]

theorem basic_escape {body : List Char} {c : Char} (h : Escapes body c) (rest : List Char) :
    basic ('\\' :: (body ++ rest)) = push c (basic rest) := by
  rw [basic, if_neg (by decide), if_pos rfl]
  have hread := (h rest).1
  split
  · next hnone =>
    rw [hread] at hnone
    cases hnone
  · next hsome =>
    rw [hread] at hsome
    cases hsome
    rfl

theorem basic_plain {c : Char} (hquote : c ≠ '"') (hbackslash : c ≠ '\\') (h : isPlain c = true)
    (rest : List Char) : basic (c :: rest) = push c (basic rest) := by
  rw [basic, if_neg hquote, if_neg hbackslash, if_pos h]

theorem basic_escaped {c : Char} (hquote : c ≠ '"') (hline : c ≠ '\n') (rest : List Char) :
    basic (escaped c ++ rest) = push c (basic rest) := by
  rcases escaped_cases c with ⟨body, hbody, h⟩ | ⟨hself, hbackslash, hplain⟩
  · rw [hbody, List.cons_append]
    exact basic_escape h rest
  · rw [hself, List.singleton_append]
    exact basic_plain hquote hbackslash (hplain.resolve_right hline) rest

/-- A text without a line end, between double quotes. -/
theorem basic_basicBody {s : List Char} (hline : '\n' ∉ s) (rest : List Char) :
    basic (basicBody s ++ '"' :: rest) = some (s, rest) := by
  induction s with
  | nil => exact basic_quote rest
  | cons c s ih =>
    obtain ⟨hc, hs⟩ : '\n' ≠ c ∧ '\n' ∉ s := by simpa using hline
    rw [basicBody, List.flatMap_cons, ← basicBody, List.append_assoc]
    by_cases hquote : c = '"'
    · subst hquote
      rw [if_pos rfl]
      have hread := basic_escape escapes_quote (basicBody s ++ '"' :: rest)
      rw [ih hs] at hread
      exact hread
    · rw [if_neg hquote, basic_escaped hquote (Ne.symm hc), ih hs, push_some]

/-- A text that needs no escape, between single quotes. -/
theorem literal_append {s : List Char} (hplain : ∀ c ∈ s, isPlain c = true) (hquote : '\'' ∉ s)
    (rest : List Char) : literal (s ++ '\'' :: rest) = some (s, rest) := by
  induction s with
  | nil => simp [literal]
  | cons c s ih =>
    obtain ⟨hc, hs⟩ : '\'' ≠ c ∧ '\'' ∉ s := by simpa using hquote
    rw [List.cons_append, literal, if_neg (Ne.symm hc), if_pos (hplain c List.mem_cons_self),
      ih (fun x hx => hplain x (List.mem_cons_of_mem _ hx)) hs, push_some]

/-! ## The end of a text of several lines -/

/-- Three quotes, of which the first is taken already, and up to two quotes of the text in front
of them. -/
theorem closing?_quotes {quote : Char} {more : Nat} (hmore : more ≤ 2) {rest : List Char}
    (hrest : NoQuote quote rest) :
    closing? quote (List.replicate more quote ++ quote :: quote :: rest) =
      some (List.replicate more quote, rest) := by
  have hnone : rest.takeWhile (· = quote) = [] := by
    cases rest with
    | nil => rfl
    | cons c rest => simp [hrest c rfl]
  have hcases : more = 0 ∨ more = 1 ∨ more = 2 := by omega
  rcases hcases with rfl | rfl | rfl <;> simp [closing?, hnone]

/-- A quote is followed by two more only at the end. -/
theorem closing?_eq_none {quote : Char} {cs : List Char} (h : cs.take 2 ≠ [quote, quote]) :
    closing? quote cs = none :=
  if_neg h

/-! ## Several lines between double quotes -/

/-- A quote ends the text if two more follow, and belongs to it otherwise. -/
theorem multiBasic_quote (cs : List Char) :
    multiBasic ('"' :: cs) = (closing? '"' cs).or (push '"' (multiBasic cs)) := by
  rw [multiBasic, if_pos rfl]
  cases closing? '"' cs <;> rfl

theorem multiBasic_escape {body : List Char} {c : Char} (h : Escapes body c) (rest : List Char) :
    multiBasic ('\\' :: (body ++ rest)) = push c (multiBasic rest) := by
  obtain ⟨hread, hline⟩ := h rest
  rw [multiBasic, if_neg (by decide), if_pos rfl]
  split
  · next hsome =>
    rw [hline] at hsome
    cases hsome
  · split
    · next hnone =>
      rw [hread] at hnone
      cases hnone
    · next hsome =>
      rw [hread] at hsome
      cases hsome
      rfl

theorem multiBasic_plain {c : Char} (hquote : c ≠ '"') (hbackslash : c ≠ '\\')
    (h : isPlain c = true ∨ c = '\n') (rest : List Char) :
    multiBasic (c :: rest) = push c (multiBasic rest) := by
  rw [multiBasic, if_neg hquote, if_neg hbackslash]
  rcases h with h | rfl
  · rw [if_pos h]
  · rw [if_neg (by decide)]
    split
    · next hnone => cases hnone
    · next hsome =>
      cases hsome
      rfl

theorem multiBasic_escaped {c : Char} (hquote : c ≠ '"') (rest : List Char) :
    multiBasic (escaped c ++ rest) = push c (multiBasic rest) := by
  rcases escaped_cases c with ⟨body, hbody, h⟩ | ⟨hself, hbackslash, hplain⟩
  · rw [hbody, List.cons_append]
    exact multiBasic_escape h rest
  · rw [hself, List.singleton_append]
    exact multiBasic_plain hquote hbackslash hplain rest

theorem head?_escaped {c : Char} (hquote : c ≠ '"') (rest : List Char) :
    NoQuote '"' (escaped c ++ rest) := by
  intro x hx
  rcases escaped_cases c with ⟨body, hbody, -⟩ | ⟨hself, -, -⟩
  · rw [hbody] at hx
    cases hx
    decide
  · rw [hself] at hx
    cases hx
    exact hquote

theorem multiBody_cons (quotes : Nat) (c : Char) (s : List Char) :
    multiBody quotes (c :: s) =
      if c = '"' then
        if 2 ≤ quotes then '\\' :: '"' :: multiBody 0 s else '"' :: multiBody (quotes + 1) s
      else escaped c ++ multiBody 0 s :=
  rfl

/-- Where a text has no quote, or gets an escape for it, no plain quote stands. -/
theorem multiBody_noQuote {quotes : Nat} {s : List Char} (hs : s ≠ [])
    (h : 2 ≤ quotes ∨ NoQuote '"' s) (rest : List Char) :
    NoQuote '"' (multiBody quotes s ++ rest) := by
  cases s with
  | nil => exact absurd rfl hs
  | cons c s =>
    rw [multiBody_cons]
    by_cases hc : c = '"'
    · rcases h with h | h
      · rw [if_pos hc, if_pos h]
        intro x hx
        cases hx
        decide
      · exact absurd hc (h c rfl)
    · rw [if_neg hc, List.append_assoc]
      exact head?_escaped hc _

/-- A plain quote of a text that goes on does not end it. -/
theorem closing?_multiBody {quotes : Nat} {s : List Char} (hs : s ≠ [])
    (hlast : quotes = 1 → s ≠ ['"']) (hquotes : 1 ≤ quotes) (rest : List Char) :
    closing? '"' (multiBody quotes s ++ rest) = none := by
  apply closing?_eq_none
  by_cases h : 2 ≤ quotes ∨ NoQuote '"' s
  · have hhead := multiBody_noQuote hs h rest
    rcases hcs : multiBody quotes s ++ rest with _ | ⟨x, cs⟩
    · simp
    · rw [hcs] at hhead
      simp [hhead x rfl]
  · -- The next quote is plain as well, and then the text goes on once more.
    rw [not_or, Nat.not_le] at h
    obtain ⟨hlt, hquote⟩ := h
    obtain rfl : quotes = 1 := by omega
    rcases s with _ | ⟨c, s⟩
    · exact absurd rfl hs
    · have hc : c = '"' := by
        simpa [NoQuote] using hquote
      subst hc
      have hmore : s ≠ [] := fun hnil => hlast rfl (by rw [hnil])
      have htwo : 2 ≤ 2 ∨ NoQuote '"' s := .inl (Nat.le_refl 2)
      have hhead := multiBody_noQuote hmore htwo rest
      rw [multiBody_cons, if_pos rfl, if_neg (by decide), List.cons_append]
      rcases hcs : multiBody (1 + 1) s ++ rest with _ | ⟨x, cs⟩
      · simp
      · rw [hcs] at hhead
        simp [hhead x rfl]

/-- Any text, between three double quotes. -/
theorem multiBasic_multiBody (quotes : Nat) (s : List Char) {rest : List Char}
    (hrest : NoQuote '"' rest) :
    multiBasic (multiBody quotes s ++ '"' :: '"' :: '"' :: rest) = some (s, rest) := by
  have ends {more : Nat} (hmore : more ≤ 2) :
      multiBasic ('"' :: (List.replicate more '"' ++ '"' :: '"' :: rest)) =
        some (List.replicate more '"', rest) := by
    rw [multiBasic_quote, closing?_quotes hmore hrest, Option.some_or]
  induction s generalizing quotes with
  | nil => exact ends (Nat.zero_le 2)
  | cons c s ih =>
    rw [multiBody_cons]
    by_cases hc : c = '"'
    · subst hc
      rw [if_pos rfl]
      by_cases hescape : 2 ≤ quotes
      · rw [if_pos hescape]
        have hread := multiBasic_escape escapes_quote (multiBody 0 s ++ '"' :: '"' :: '"' :: rest)
        rw [ih] at hread
        exact hread
      · rw [if_neg hescape, List.cons_append]
        by_cases hnil : s = []
        · subst hnil
          exact ends (show 1 ≤ 2 by decide)
        · by_cases hlast : quotes + 1 = 1 ∧ s = ['"']
          · obtain ⟨hzero, rfl⟩ := hlast
            rw [hzero]
            exact ends (show 2 ≤ 2 by decide)
          · have hgoes := closing?_multiBody hnil (fun hone hs => hlast ⟨hone, hs⟩)
              (Nat.le_add_left 1 quotes) ('"' :: '"' :: '"' :: rest)
            rw [multiBasic_quote, hgoes, Option.none_or, ih, push_some]
    · rw [if_neg hc, List.append_assoc, multiBasic_escaped hc, ih, push_some]

/-! ## Several lines between single quotes -/

theorem multiLiteral_quote (cs : List Char) :
    multiLiteral ('\'' :: cs) = (closing? '\'' cs).or (push '\'' (multiLiteral cs)) := by
  rw [multiLiteral, if_pos rfl]
  cases closing? '\'' cs <;> rfl

theorem multiLiteral_plain {c : Char} (hquote : c ≠ '\'') (h : isPlain c = true ∨ c = '\n')
    (rest : List Char) : multiLiteral (c :: rest) = push c (multiLiteral rest) := by
  rw [multiLiteral, if_neg hquote]
  rcases h with h | rfl
  · rw [if_pos h]
  · rw [if_neg (by decide)]
    split
    · next hnone => cases hnone
    · next hsome =>
      cases hsome
      rfl

theorem longestRun_cons (q c : Char) (run : Nat) (s : List Char) :
    longestRun q run (c :: s) =
      if c = q then longestRun q (run + 1) s else max run (longestRun q 0 s) :=
  rfl

theorem le_longestRun (q : Char) (run : Nat) (s : List Char) : run ≤ longestRun q run s := by
  induction s generalizing run with
  | nil => exact Nat.le_refl run
  | cons c s ih =>
    rw [longestRun_cons]
    split
    · exact Nat.le_trans (Nat.le_succ run) (ih (run + 1))
    · exact Nat.le_max_left _ _

theorem longestRun_mono (q : Char) {run more : Nat} (h : run ≤ more) (s : List Char) :
    longestRun q run s ≤ longestRun q more s := by
  induction s generalizing run more with
  | nil => exact h
  | cons c s ih =>
    rw [longestRun_cons, longestRun_cons]
    split
    · exact ih (Nat.succ_le_succ h)
    · exact Nat.max_le.mpr ⟨Nat.le_trans h (Nat.le_max_left _ _), Nat.le_max_right _ _⟩

theorem longestRun_tail_le (q c : Char) (s : List Char) :
    longestRun q 0 s ≤ longestRun q 0 (c :: s) := by
  rw [longestRun_cons]
  split
  · exact longestRun_mono q (Nat.zero_le 1) s
  · exact Nat.le_max_right _ _

/-- Three quotes next to each other are too many. -/
theorem two_lt_longestRun (q : Char) (s : List Char) : 2 < longestRun q 0 (q :: q :: q :: s) := by
  simp only [longestRun_cons, if_true]
  exact le_longestRun q 3 s

/-- A text with at most two quotes next to each other that needs no escape, between three single
quotes. -/
theorem multiLiteral_append {s : List Char} (hplain : ∀ c ∈ s, isPlain c = true ∨ c = '\n')
    (hrun : longestRun '\'' 0 s ≤ 2) {rest : List Char} (hrest : NoQuote '\'' rest) :
    multiLiteral (s ++ '\'' :: '\'' :: '\'' :: rest) = some (s, rest) := by
  have ends {more : Nat} (hmore : more ≤ 2) :
      multiLiteral ('\'' :: (List.replicate more '\'' ++ '\'' :: '\'' :: rest)) =
        some (List.replicate more '\'', rest) := by
    rw [multiLiteral_quote, closing?_quotes hmore hrest, Option.some_or]
  induction s with
  | nil => exact ends (Nat.zero_le 2)
  | cons c s ih =>
    have hread := ih (fun x hx => hplain x (List.mem_cons_of_mem _ hx))
      (Nat.le_trans (longestRun_tail_le _ c s) hrun)
    by_cases hc : c = '\''
    · subst hc
      rcases s with _ | ⟨x, s⟩
      · exact ends (show 1 ≤ 2 by decide)
      · by_cases hlast : x :: s = ['\'']
        · rw [hlast]
          exact ends (show 2 ≤ 2 by decide)
        · -- The text goes on, and not with two quotes.
          have hgoes : ((x :: s) ++ '\'' :: '\'' :: '\'' :: rest).take 2 ≠ ['\'', '\''] := by
            intro htake
            rcases s with _ | ⟨y, s⟩
            · obtain rfl : x = '\'' := by simpa using htake
              exact hlast rfl
            · obtain ⟨rfl, rfl⟩ : x = '\'' ∧ y = '\'' := by simpa using htake
              exact absurd hrun (Nat.not_le.mpr (two_lt_longestRun '\'' s))
          rw [List.cons_append, multiLiteral_quote, closing?_eq_none hgoes, Option.none_or, hread,
            push_some]
    · rw [List.cons_append, multiLiteral_plain hc (hplain c List.mem_cons_self), hread, push_some]

/-! ## Any text -/

/-- A line end behind the opening quotes is put there exactly if the text has one. -/
theorem skipNewline_opening {s body : List Char}
    (h : '\n' ∉ s → ∀ c ∈ body.head?, c ≠ '\n' ∧ c ≠ '\r') :
    skipNewline (opening s ++ body) = body := by
  unfold opening
  split
  · rfl
  · next hline =>
    have hhead := h (by simpa using hline)
    rw [List.nil_append, skipNewline]
    rcases body with _ | ⟨c, body⟩
    · rfl
    · obtain ⟨hnewline, hreturn⟩ := hhead c rfl
      rw [newline?.eq_3]
      · rfl
      · intro _ heq
        exact hnewline (List.cons.inj heq).1
      · intro _ heq
        exact hreturn (List.cons.inj heq).1

theorem isPlain_of_not_needsEscape {c : Char} (h : needsEscape c = false) :
    isPlain c = true ∨ c = '\n' := by
  simp only [needsEscape, isPlain, Bool.or_eq_false_iff, Bool.and_eq_false_iff, Bool.or_eq_true,
    Bool.and_eq_true, decide_eq_true_eq, decide_eq_false_iff_not] at h ⊢
  obtain ⟨hlow, hdelete⟩ := h
  by_cases hline : c = '\n'
  · exact .inr hline
  · by_cases htab : c = '\t'
    · exact .inl (.inl htab)
    · refine .inl (.inr ⟨?_, hdelete⟩)
      simp_all

/-- What the form of a text promises. -/
inductive Fits (s : List Char) : TextForm → Prop
  | basic (line : '\n' ∉ s) : Fits s .basic
  | literal (plain : ∀ c ∈ s, isPlain c = true) (quote : '\'' ∉ s) (ne : s ≠ []) : Fits s .literal
  | multiBasic : Fits s .multiBasic
  | multiLiteral (plain : ∀ c ∈ s, needsEscape c = false) (run : longestRun '\'' 0 s ≤ 2) :
      Fits s .multiLiteral

theorem fits_of (s : List Char) : Fits s (TextForm.of s) := by
  unfold TextForm.of
  dsimp only
  split
  · next h =>
    refine .basic ?_
    simp_all
  split
  · next hplain h =>
    simp only [Bool.and_eq_true, Bool.not_eq_true', List.any_eq_false, List.contains_eq_mem,
      decide_eq_false_iff_not] at h
    refine .literal ?_ h.2 ?_
    · intro c hc
      refine (isPlain_of_not_needsEscape (by simpa using h.1.1 c hc)).resolve_right ?_
      rintro rfl
      exact h.1.2 hc
    · rintro rfl
      simp at hplain
  split
  · exact .multiBasic
  split
  · next h =>
    simp only [Bool.and_eq_true, Bool.not_eq_true', List.any_eq_false, decide_eq_true_eq] at h
    exact .multiLiteral (fun c hc => by simpa using h.1 c hc) h.2
  split
  · next h =>
    refine .basic ?_
    simp_all
  · exact .multiBasic

/-- What may follow a text of any form. -/
def Unquoted (rest : List Char) : Prop :=
  NoQuote '"' rest ∧ NoQuote '\'' rest

theorem head_ne_of_noQuote {quote x : Char} {cs rest : List Char} (h : NoQuote quote rest)
    (hcs : rest = x :: cs) : x ≠ quote := by
  subst hcs
  exact h x rfl

theorem text?_basic {s rest : List Char} (hline : '\n' ∉ s) (hrest : NoQuote '"' rest) :
    text? ('"' :: (basicBody s ++ '"' :: rest)) = some (s, rest) := by
  -- The quote that ends an empty text is not taken for the second of three.
  have hfirst : ('"' :: (basicBody s ++ '"' :: rest)).take 3 ≠ ['"', '"', '"'] := by
    cases s with
    | nil =>
      cases rest with
      | nil => simp [basicBody]
      | cons x rest => simp [basicBody, hrest x rfl]
    | cons c s =>
      by_cases hc : c = '"'
      · simp [basicBody, hc]
      · have hbody : basicBody (c :: s) ++ '"' :: rest =
            escaped c ++ (basicBody s ++ '"' :: rest) := by
          simp [basicBody, hc]
        have hhead := head?_escaped hc (basicBody s ++ '"' :: rest)
        rw [hbody]
        rcases hcs : escaped c ++ (basicBody s ++ '"' :: rest) with _ | ⟨x, cs⟩
        · simp
        · simp [head_ne_of_noQuote hhead hcs]
  rw [text?, if_neg hfirst, if_neg (by simp)]
  exact basic_basicBody hline rest

theorem text?_literal {s : List Char} (hplain : ∀ c ∈ s, isPlain c = true) (hquote : '\'' ∉ s)
    (hne : s ≠ []) (rest : List Char) : text? ('\'' :: (s ++ '\'' :: rest)) = some (s, rest) := by
  obtain ⟨c, s, rfl⟩ := List.exists_cons_of_ne_nil hne
  have hc : c ≠ '\'' := by
    rintro rfl
    simp at hquote
  rw [text?, if_neg (by simp), if_neg (by simp [hc])]
  exact literal_append hplain hquote rest

theorem isPlain_return : isPlain '\r' = false := by
  decide

/-- The text itself does not begin with a line end if it has none. -/
theorem head?_multiBody {s : List Char} (hline : '\n' ∉ s) (rest : List Char) :
    ∀ c ∈ (multiBody 0 s ++ '"' :: rest).head?, c ≠ '\n' ∧ c ≠ '\r' := by
  intro x hx
  cases s with
  | nil =>
    cases hx
    decide
  | cons c s =>
    rw [multiBody_cons] at hx
    by_cases hc : c = '"'
    · rw [if_pos hc, if_neg (by decide)] at hx
      cases hx
      decide
    · rw [if_neg hc] at hx
      rcases escaped_cases c with ⟨body, hbody, -⟩ | ⟨hself, -, hplain⟩
      · rw [hbody] at hx
        cases hx
        decide
      · rw [hself] at hx
        obtain rfl : x = c := by simpa [eq_comm] using hx
        have hne : x ≠ '\n' := by
          rintro rfl
          simp at hline
        refine ⟨hne, ?_⟩
        rintro rfl
        rw [isPlain_return] at hplain
        simp at hplain

theorem text?_multiBasic (s : List Char) {rest : List Char} (hrest : NoQuote '"' rest) :
    text? ('"' :: '"' :: '"' :: (opening s ++ (multiBody 0 s ++ '"' :: '"' :: '"' :: rest))) =
      some (s, rest) := by
  have hopen := skipNewline_opening (s := s) fun hline => head?_multiBody hline ('"' :: '"' :: rest)
  rw [text?, if_pos (by simp)]
  show multiBasic (skipNewline (opening s ++ (multiBody 0 s ++ _))) = _
  rw [hopen, multiBasic_multiBody 0 s hrest]

theorem text?_multiLiteral {s : List Char} (hplain : ∀ c ∈ s, needsEscape c = false)
    (hrun : longestRun '\'' 0 s ≤ 2) {rest : List Char} (hrest : NoQuote '\'' rest) :
    text? ('\'' :: '\'' :: '\'' :: (opening s ++ (s ++ '\'' :: '\'' :: '\'' :: rest))) =
      some (s, rest) := by
  have hread (c : Char) (hc : c ∈ s) := isPlain_of_not_needsEscape (hplain c hc)
  have hopen : skipNewline (opening s ++ (s ++ '\'' :: '\'' :: '\'' :: rest)) =
      s ++ '\'' :: '\'' :: '\'' :: rest := by
    apply skipNewline_opening
    intro hline x hx
    cases s with
    | nil =>
      cases hx
      decide
    | cons c s =>
      cases hx
      constructor
      · rintro rfl
        simp at hline
      · rintro rfl
        have hreturn := hread _ List.mem_cons_self
        rw [isPlain_return] at hreturn
        simp at hreturn
  rw [text?, if_neg (by simp), if_pos (by simp)]
  show multiLiteral (skipNewline (opening s ++ (s ++ _))) = _
  rw [hopen, multiLiteral_append hread hrun hrest]

/-- A text is read back, whichever form it is written in. -/
theorem text?_writeText (s : List Char) {rest : List Char} (hrest : Unquoted rest) :
    text? (writeText s ++ rest) = some (s, rest) := by
  have hfits := fits_of s
  unfold writeText
  generalize TextForm.of s = form at hfits
  cases hfits with
  | basic line => simpa using text?_basic line hrest.1
  | literal plain quote ne => simpa using text?_literal plain quote ne rest
  | multiBasic => simpa using text?_multiBasic s hrest.1
  | multiLiteral plain run => simpa using text?_multiLiteral plain run hrest.2

end Switchboard.Toml

import Switchboard.Proofs.Toml.Scalar

/-!
# Documents are read back

A document that was written from sections, with bare names and with settings that a document can
hold, is read line by line as it was written, and gives one table for each section.
-/

namespace Switchboard.Toml

/-! ## Keys -/

/-- Whether a key needs no quotes. -/
def IsBareKey (key : String) : Prop :=
  key.toList ≠ [] ∧ ∀ c ∈ key.toList, isBare c = true

instance (key : String) : Decidable (IsBareKey key) :=
  decidable_of_iff (key.toList ≠ [] ∧ key.toList.all isBare = true)
    (and_congr_right fun _ => List.all_eq_true)

theorem ne_of_isBare {c x : Char} (hc : isBare c = true) (hx : isBare x = false) : c ≠ x := by
  rintro rfl
  rw [hc] at hx
  cases hx

theorem isBlank_of_isBare {c : Char} (hc : isBare c = true) : isBlank c = false := by
  have hspace := ne_of_isBare hc (x := ' ') (by decide)
  have htab := ne_of_isBare hc (x := '\t') (by decide)
  simp [isBlank, hspace, htab]

theorem skipBlanks_cons {c : Char} (h : isBlank c = false) (cs : List Char) :
    skipBlanks (c :: cs) = c :: cs := by
  simp [skipBlanks, h]

/-- A bare key does not begin like anything else. -/
theorem IsBareKey.exists_cons {key : String} (h : IsBareKey key) :
    ∃ c cs, key.toList = c :: cs ∧ isBare c = true := by
  obtain ⟨c, cs, hcs⟩ := List.exists_cons_of_ne_nil h.1
  exact ⟨c, cs, hcs, h.2 c (hcs ▸ List.mem_cons_self)⟩

theorem line?_of_isBare {c : Char} (hc : isBare c = true) (cs : List Char) :
    line? (c :: cs) = none := by
  unfold line?
  split
  · next heq => exact absurd (List.cons.inj heq).1 (ne_of_isBare hc (by decide))
  · next heq => exact absurd (List.cons.inj heq).1 (ne_of_isBare hc (by decide))
  · rfl

theorem key?_bare {key : String} (h : IsBareKey key) {x : Char} (hx : isBare x = false)
    (rest : List Char) : key? (key.toList ++ x :: rest) = some (key, x :: rest) := by
  obtain ⟨c, cs, hcs, hc⟩ := h.exists_cons
  have hspan : (key.toList ++ x :: rest).span isBare = (key.toList, x :: rest) := by
    rw [List.span_eq_takeWhile_dropWhile, List.takeWhile_append_of_pos h.2,
      List.dropWhile_append_of_pos h.2]
    simp [hx]
  have hquote : line? (key.toList ++ x :: rest) = none := by
    rw [hcs]
    exact line?_of_isBare hc _
  rw [key?, hquote, hspan]
  simp [h.1]

theorem path?_bare {key : String} (h : IsBareKey key) {x : Char} (hx : isBare x = false)
    (rest : List Char) (hdot : ∀ c ∈ (skipBlanks (x :: rest)).head?, c ≠ '.') :
    path? (key.toList ++ x :: rest) = some (⟨[], key⟩, skipBlanks (x :: rest)) := by
  have hskip : skipBlanks (key.toList ++ x :: rest) = key.toList ++ x :: rest := by
    obtain ⟨c, cs, hcs, hc⟩ := h.exists_cons
    rw [hcs]
    exact skipBlanks_cons (isBlank_of_isBare hc) _
  have hkeys : keys? (key.toList ++ x :: rest) = some ([key], skipBlanks (x :: rest)) := by
    rw [keys?, hskip, key?_bare h hx]
    dsimp only
    split
    · next heq =>
      rw [heq] at hdot
      exact absurd rfl (hdot '.' rfl)
    · rfl
  rw [path?, hkeys]
  rfl

/-! ## Lines -/

theorem lineEnd?_line (rest : List Char) : lineEnd? ('\n' :: rest) = some rest := by
  rfl

/-- A line that begins with something is not empty. -/
theorem lineEnd?_eq_none {c : Char} (hblank : isBlank c = false) (hcomment : c ≠ '#')
    (hline : c ≠ '\n') (hreturn : c ≠ '\r') (cs : List Char) : lineEnd? (c :: cs) = none := by
  have hskip : skipComment (c :: cs) = c :: cs := by
    unfold skipComment
    split
    · next heq => exact absurd (List.cons.inj heq).1 hcomment
    · rfl
  rw [lineEnd?, skipBlanks_cons hblank, hskip]
  dsimp only
  rw [newline?.eq_3]
  · intro _ heq
    exact hline (List.cons.inj heq).1
  · intro _ heq
    exact hreturn (List.cons.inj heq).1

theorem readLine_header {name : String} (h : IsBareKey name) (rest : List Char) :
    readLine ('[' :: (name.toList ++ ']' :: '\n' :: rest)) =
      some (some (.header (.table ⟨[], name⟩)), rest) := by
  have hpath := path?_bare h (x := ']') (by decide) ('\n' :: rest)
    (by rw [skipBlanks_cons (by decide)]; simp)
  rw [skipBlanks_cons (by decide)] at hpath
  have hheader : header? [']'] (name.toList ++ ']' :: '\n' :: rest) = some (⟨[], name⟩, rest) := by
    simp [header?, hpath, lineEnd?_line]
  rw [readLine, lineEnd?_eq_none (by decide) (by decide) (by decide) (by decide),
    skipBlanks_cons (by decide)]
  obtain ⟨c, cs, hcs, hc⟩ := h.exists_cons
  dsimp only
  split
  · next heq =>
    rw [hcs] at heq
    exact absurd (List.cons.inj (List.cons.inj heq).2).1 (ne_of_isBare hc (by decide))
  · next heq =>
    rw [← (List.cons.inj heq).2, hheader]
    rfl
  · next hother => exact absurd rfl (hother _)

theorem write_eq_cons (v : Setting) : ∃ c cs, v.write = c :: cs ∧ isBlank c = false := by
  cases v with
  | text s =>
    obtain ⟨c, cs, hcs, rfl | rfl⟩ := writeText_eq_cons s.toList
    · exact ⟨_, cs, hcs, by decide⟩
    · exact ⟨_, cs, hcs, by decide⟩
  | whole n =>
    have hdigits := areDigits_writeNat n
    obtain ⟨c, cs, hcs⟩ := List.exists_cons_of_ne_nil hdigits.ne
    have hc := hdigits.digits c (hcs ▸ List.mem_cons_self)
    exact ⟨c, cs, hcs, isBlank_of_isBare (by simp [isBare, Char.isAlphanum, hc])⟩
  | boolean b => cases b <;> exact ⟨_, _, rfl, by decide⟩

theorem readLine_setting {key : String} (h : IsBareKey key) {v : Setting} (hv : v.Fits)
    (rest : List Char) :
    readLine (writeSetting key v ++ rest) = some (some (.pair ⟨[], key⟩ v.value), rest) := by
  obtain ⟨x, xs, hwrite, hx⟩ := write_eq_cons v
  have hline : writeSetting key v ++ rest =
      key.toList ++ ' ' :: '=' :: ' ' :: (v.write ++ '\n' :: rest) := by
    simp [writeSetting]
  have hskip (cs : List Char) : skipBlanks (' ' :: cs) = skipBlanks cs := by
    simp [skipBlanks, isBlank]
  have hequal (cs : List Char) : skipBlanks ('=' :: cs) = '=' :: cs :=
    skipBlanks_cons (by decide) cs
  have hvalue : skipBlanks (v.write ++ '\n' :: rest) = v.write ++ '\n' :: rest := by
    rw [hwrite]
    exact skipBlanks_cons hx _
  have hpath := path?_bare h (x := ' ') (by decide)
    ('=' :: ' ' :: (v.write ++ '\n' :: rest)) (by simp [hskip, hequal])
  have hpair : pair? (value? nestingLimit)
      (key.toList ++ ' ' :: '=' :: ' ' :: (v.write ++ '\n' :: rest)) =
        some ((⟨[], key⟩, v.value), '\n' :: rest) := by
    simp [pair?, hpath, hskip, hequal, hvalue, value?_write _ hv]
  rw [hline]
  obtain ⟨c, cs, hcs, hc⟩ := h.exists_cons
  have other {y : Char} (hy : isBare y = false) : c ≠ y := ne_of_isBare hc hy
  rw [hcs, List.cons_append] at hpair ⊢
  have hblank := isBlank_of_isBare hc
  rw [readLine, lineEnd?_eq_none hblank (other (by decide)) (other (by decide))
    (other (by decide)), skipBlanks_cons hblank]
  dsimp only
  split
  · next heq => exact absurd (List.cons.inj heq).1 (other (by decide))
  · next heq => exact absurd (List.cons.inj heq).1 (other (by decide))
  · simp [hpair, lineEnd?_line]

/-! ## Sections -/

/-- Whether a document can hold a section. -/
structure Section.Fits (s : Section) : Prop where
  name : IsBareKey s.name
  settings : ∀ e ∈ s.settings, IsBareKey e.1 ∧ e.2.Fits
  distinct : (s.settings.map Prod.fst).Nodup

def Section.pairs (s : Section) : List (KeyPath × Value) :=
  s.settings.map fun e => (⟨[], e.1⟩, e.2.value)

def Section.lines (s : Section) : List Line :=
  .header (.table ⟨[], s.name⟩) :: s.pairs.map fun p => .pair p.1 p.2

theorem readLines_of_readLine {cs rest : List Char} {line : Option Line}
    (h : readLine cs = some (line, rest)) (hshort : rest.length < cs.length) :
    readLines cs = (readLines rest).map (line.toList ++ ·) := by
  have hne : cs ≠ [] := by
    rintro rfl
    simp at hshort
  rw [readLines, if_neg hne, h]
  exact if_pos hshort

theorem readLines_settings {settings : List (String × Setting)}
    (h : ∀ e ∈ settings, IsBareKey e.1 ∧ e.2.Fits) (rest : List Char) :
    readLines (settings.flatMap (fun e => writeSetting e.1 e.2) ++ rest) =
      (readLines rest).map (settings.map (fun e => Line.pair ⟨[], e.1⟩ e.2.value) ++ ·) := by
  induction settings with
  | nil => simp
  | cons e settings ih =>
    obtain ⟨hkey, hv⟩ := h e List.mem_cons_self
    have hread := readLine_setting hkey hv
      (settings.flatMap (fun e => writeSetting e.1 e.2) ++ rest)
    rw [List.flatMap_cons, List.append_assoc, readLines_of_readLine hread,
      ih fun x hx => h x (List.mem_cons_of_mem _ hx)]
    · simp [Function.comp_def]
    · simp [writeSetting]
      omega

theorem readLines_section {s : Section} (h : s.Fits) (rest : List Char) :
    readLines (s.write ++ rest) = (readLines rest).map (s.lines ++ ·) := by
  have hwrite : s.write ++ rest = '[' :: (s.name.toList ++ ']' :: '\n' ::
      (s.settings.flatMap (fun e => writeSetting e.1 e.2) ++ rest)) := by
    simp [Section.write]
  rw [hwrite, readLines_of_readLine (readLine_header h.name _), readLines_settings h.settings]
  · simp [Section.lines, Section.pairs, Function.comp_def]
  · simp
    omega

theorem readLines_blank (rest : List Char) : readLines ('\n' :: rest) = readLines rest := by
  have hread : readLine ('\n' :: rest) = some (none, rest) := by
    rw [readLine, lineEnd?_line]
  rw [readLines_of_readLine hread (by simp)]
  simp

theorem readLines_writeSections {ss : List Section} (h : ∀ s ∈ ss, s.Fits) (rest : List Char) :
    readLines (writeSections ss ++ rest) =
      (readLines rest).map (ss.flatMap Section.lines ++ ·) := by
  induction ss with
  | nil => simp [writeSections]
  | cons s ss ih =>
    have hs := h s List.mem_cons_self
    have hss := ih fun x hx => h x (List.mem_cons_of_mem _ hx)
    cases ss with
    | nil => simpa [writeSections] using readLines_section hs rest
    | cons t ss =>
      rw [writeSections, List.append_assoc, List.cons_append, readLines_section hs,
        readLines_blank, hss]
      · simp [Function.comp_def]
      · simp

theorem sections_pairs (pairs : List (KeyPath × Value)) (more : List Line) :
    sections (pairs.map (fun p => Line.pair p.1 p.2) ++ more) =
      (pairs ++ (sections more).1, (sections more).2) := by
  induction pairs with
  | nil => rfl
  | cons p pairs ih =>
    rw [List.map_cons, List.cons_append, sections, ih]
    rfl

theorem sections_lines (ss : List Section) :
    sections (ss.flatMap Section.lines) =
      ([], ss.map fun s => (.table ⟨[], s.name⟩, s.pairs)) := by
  induction ss with
  | nil => rfl
  | cons s ss ih =>
    rw [List.flatMap_cons, Section.lines, List.cons_append, sections, sections_pairs, ih]
    simp

/-! ## Tables -/

theorem lookup_eq_none_iff {β : Type} {es : List (String × β)} {key : String} :
    es.lookup key = none ↔ key ∉ es.map Prod.fst := by
  induction es with
  | nil => simp
  | cons e es ih =>
    obtain ⟨k, v⟩ := e
    by_cases h : key = k
    · simp [h]
    · simp [List.lookup_cons, h, beq_eq_false_iff_ne.mpr h, ih]

theorem put_new {es : Entries} {key : String} (h : key ∉ es.map Prod.fst) (v : Value) :
    es.put ⟨[], key⟩ v = some (es ++ [(key, .value v)]) := by
  have hnone := lookup_eq_none_iff.mpr h
  simp [Entries.put, Entries.changeAt, hnone]

/-- Values under new and distinct keys are all added. -/
theorem putAll_new {es : Entries} {settings : List (String × Setting)}
    (hdistinct : (settings.map Prod.fst).Nodup)
    (hnew : ∀ key ∈ settings.map Prod.fst, key ∉ es.map Prod.fst) :
    es.putAll (settings.map fun e => (⟨[], e.1⟩, e.2.value)) =
      some (es ++ settings.map fun e => (e.1, .value e.2.value)) := by
  induction settings generalizing es with
  | nil => simp [Entries.putAll]
  | cons e settings ih =>
    rw [List.map_cons, List.nodup_cons] at hdistinct
    have hput := put_new (hnew e.1 (by simp)) e.2.value
    have hnext : ∀ key ∈ settings.map Prod.fst,
        key ∉ (es ++ [(e.1, Node.value e.2.value)]).map Prod.fst := by
      intro key hkey hmem
      rw [List.map_append, List.mem_append] at hmem
      rcases hmem with hold | hlast
      · exact hnew key (List.mem_cons_of_mem _ hkey) hold
      · obtain rfl : key = e.1 := by simpa using hlast
        exact hdistinct.1 hkey
    have hrest := ih hdistinct.2 hnext
    rw [Entries.putAll] at hrest ⊢
    rw [List.map_cons, List.foldlM_cons, hput]
    simp [hrest]

theorem addSection_new {root : Entries} {s : Section} (h : s.Fits)
    (hnew : s.name ∉ root.map Prod.fst) :
    root.addSection (.table ⟨[], s.name⟩) s.pairs =
      some (root ++
        [(s.name, .table .named (s.settings.map fun e => (e.1, .value e.2.value)))]) := by
  have hnone := lookup_eq_none_iff.mpr hnew
  have hempty : ∀ key ∈ s.settings.map Prod.fst, key ∉ ([] : Entries).map Prod.fst := by simp
  have hput := putAll_new h.distinct hempty
  rw [List.nil_append] at hput
  simp [Entries.addSection, Entries.changeAt, hnone, Section.pairs, hput]

/-- The nodes of some sections. -/
def nodes (ss : List Section) : Entries :=
  ss.map fun s => (s.name, .table .named (s.settings.map fun e => (e.1, .value e.2.value)))

theorem foldlM_addSection {root : Entries} {ss : List Section} (h : ∀ s ∈ ss, s.Fits)
    (hdistinct : (ss.map Section.name).Nodup)
    (hnew : ∀ name ∈ ss.map Section.name, name ∉ root.map Prod.fst) :
    (ss.map fun s => (Header.table ⟨[], s.name⟩, s.pairs)).foldlM
      (fun root s => root.addSection s.1 s.2) root = some (root ++ nodes ss) := by
  induction ss generalizing root with
  | nil => simp [nodes]
  | cons s ss ih =>
    rw [List.map_cons, List.nodup_cons] at hdistinct
    have hadd := addSection_new (h s List.mem_cons_self) (hnew s.name (by simp))
    rw [List.map_cons, List.foldlM_cons, hadd]
    refine (ih (fun x hx => h x (List.mem_cons_of_mem _ hx)) hdistinct.2 ?_).trans ?_
    · intro name hname hmem
      rw [List.map_append, List.mem_append] at hmem
      rcases hmem with hold | hlast
      · exact hnew name (List.mem_cons_of_mem _ hname) hold
      · obtain rfl : name = s.name := by simpa using hlast
        exact hdistinct.1 hname
    · simp [nodes]

/-- The entry of a section in a document. -/
def Section.entry (s : Section) : String × Value :=
  (s.name, .table (s.settings.map fun e => (e.1, e.2.value)))

theorem entriesToValues_values (settings : List (String × Setting)) :
    entriesToValues (settings.map fun e => (e.1, .value e.2.value)) =
      settings.map fun e => (e.1, e.2.value) := by
  induction settings with
  | nil => rfl
  | cons e settings ih => rw [List.map_cons, entriesToValues, ih, Node.toValue, List.map_cons]

theorem toValues_nodes (ss : List Section) : (nodes ss).toValues = ss.map Section.entry := by
  induction ss with
  | nil => rfl
  | cons s ss ih =>
    show (s.name, Value.table (entriesToValues _)) :: entriesToValues (nodes ss) = _
    rw [entriesToValues_values]
    exact congrArg (s.entry :: ·) ih

/-! ## Documents -/

theorem readLines_blanks (n : Nat) : readLines (List.replicate n '\n') = some [] := by
  induction n with
  | zero => rw [List.replicate_zero, readLines, if_pos rfl]
  | succ n ih => rw [List.replicate_succ, readLines_blank, ih]

theorem head?_writeSections (ss : List Section) (n : Nat) :
    ∀ c ∈ (writeSections ss ++ List.replicate n '\n').head?, c ≠ '\ufeff' := by
  intro c hc
  cases ss with
  | nil =>
    cases n with
    | zero => cases hc
    | succ n =>
      cases hc
      decide
  | cons s ss =>
    cases ss <;> cases hc <;> decide

/-- What was written is read, also with empty lines behind it. -/
theorem read?_write {ss : List Section} (h : ∀ s ∈ ss, s.Fits)
    (hdistinct : (ss.map Section.name).Nodup) (n : Nat) :
    read? (String.ofList (writeSections ss ++ List.replicate n '\n')) =
      some (ss.map Section.entry) := by
  have hmark := head?_writeSections ss n
  have hlines : readLines (writeSections ss ++ List.replicate n '\n') =
      some (ss.flatMap Section.lines) := by
    rw [readLines_writeSections h, readLines_blanks]
    simp
  have htable : ofLines? (ss.flatMap Section.lines) = some (nodes ss) := by
    have hempty : ∀ name ∈ ss.map Section.name, name ∉ ([] : Entries).map Prod.fst := by simp
    have hfold := foldlM_addSection h hdistinct hempty
    rw [ofLines?, sections_lines]
    simpa [Entries.putAll] using hfold
  rw [read?, String.toList_ofList]
  generalize writeSections ss ++ List.replicate n '\n' = cs at hmark hlines
  split
  · exact absurd rfl (hmark _ rfl)
  · simp [hlines, htable, toValues_nodes]

end Switchboard.Toml

import Switchboard.Proofs.Payload.Json.Number
import Switchboard.Proofs.Payload.Json.Text
import Switchboard.Proofs.Schema.Table

/-!
# Values in JSON are read back

Every value that can be written is read back from its text, whatever ends the value behind it. The
proof follows the shape: a list is read item by item, an object entry by entry, each entry leading
from one state to the next.
-/

namespace Switchboard

namespace Json

variable {α β σ : Type}

/-! ## What a value begins with -/

theorem skipBlank_cons {b : UInt8} (h : isBlank b = false) (rest : Bytes) :
    skipBlank (b :: rest) = b :: rest := by
  rw [skipBlank, List.dropWhile_cons_of_neg (by simp [h])]

/-- A value as a reader takes it from its text: it does not begin with a blank or a closing bracket,
and with the letter of `null` only if it may be that. -/
structure WrittenAs (r : Reader α) (nullable : Bool) (bs : Bytes) (a : α) : Prop where
  opens : ∃ b tail, bs = b :: tail ∧ isBlank b = false ∧ b ≠ 0x5d ∧ (b = 0x6e → nullable = true)
  reads : ∀ rest, Stops rest → r (bs ++ rest) = .ok (a, rest)

/-! ## Single values -/

theorem writtenAs_bool (b : Bool) :
    WrittenAs readBool false (Bytes.ofAscii (if b then "true" else "false")) b := by
  cases b
  · exact ⟨⟨0x66, _, rfl, rfl, by decide, by decide⟩, fun _ _ => rfl⟩
  · exact ⟨⟨0x74, _, rfl, rfl, by decide, by decide⟩, fun _ _ => rfl⟩

theorem writtenAs_int (k : IntKind) (v : k.Value) :
    WrittenAs (readInt k) false (Decimal.ofInt (k.toInt v)) v := by
  obtain ⟨hlow, hhigh⟩ := k.toInt_mem_range v
  obtain ⟨hleast, hgreatest⟩ := k.range_le
  obtain ⟨b, tail, hcons, hb⟩ := ofInt_eq_cons (k.toInt v)
  have hblank := isBlank_of_startsNumber hb
  refine ⟨⟨b, tail, hcons, hblank, startsNumber_ne hb rfl, ?_⟩, fun rest hrest => ?_⟩
  · intro hnull
    exact absurd hnull (startsNumber_ne hb rfl)
  · have hnumber := readNumber_ofInt (Int.le_trans hleast hlow) (Int.le_trans hhigh hgreatest) hrest
    rw [hcons, List.cons_append] at hnumber ⊢
    unfold readInt
    rw [skipBlank_cons hblank]
    dsimp only
    rw [if_pos hb]
    refine bind_eq_ok_iff.mpr ⟨_, hnumber, ?_⟩
    dsimp only
    rw [k.ofInt?_toInt]

theorem readQuoted_writeText (expected s : String) (rest : Bytes) :
    readQuoted expected (writeText s ++ rest) = .ok (s, rest) :=
  readText_textTail s rest

theorem writtenAs_text (s : String) : WrittenAs (readQuoted "a string") false (writeText s) s :=
  ⟨⟨0x22, _, rfl, rfl, by decide, by decide⟩, fun rest _ => readQuoted_writeText _ s rest⟩

theorem writtenAs_char (c : Char) : WrittenAs readChar false (writeText (String.singleton c)) c := by
  refine ⟨⟨0x22, _, rfl, rfl, by decide, by decide⟩, fun rest _ => ?_⟩
  refine bind_eq_ok_iff.mpr ⟨_, readQuoted_writeText _ _ rest, ?_⟩
  dsimp only
  rw [String.toList_singleton]

theorem writtenAs_null (name : String) : WrittenAs (readNull name) true null () :=
  ⟨⟨0x6e, _, rfl, rfl, by decide, fun _ => rfl⟩, fun _ _ => rfl⟩

theorem writtenAs_none {item : Reader α} : WrittenAs (readOption item) true null none :=
  ⟨⟨0x6e, _, rfl, rfl, by decide, fun _ => rfl⟩, fun _ _ => rfl⟩

/-- A value that is not `null` is not mistaken for none. -/
theorem WrittenAs.some {item : Reader α} {bs : Bytes} {a : α} (h : WrittenAs item false bs a) :
    WrittenAs (readOption item) true bs (some a) := by
  obtain ⟨⟨b, tail, rfl, hblank, hbracket, hnull⟩, hreads⟩ := h
  refine ⟨⟨b, tail, rfl, hblank, hbracket, fun _ => rfl⟩, fun rest hrest => ?_⟩
  have hitem := hreads rest hrest
  unfold readOption
  rw [List.cons_append] at hitem ⊢
  rw [skipBlank_cons hblank]
  split
  · next heq =>
    cases heq
    exact absurd (hnull rfl) (by decide)
  · exact bind_eq_ok_iff.mpr ⟨_, hitem, rfl⟩

/-! ## Lists -/

/-- Items with a separator between them are the first one, and the others behind separators. -/
theorem separated_cons (separator : UInt8) (bs : Bytes) (more : List Bytes) :
    separated separator (bs :: more) = bs ++ more.flatMap (separator :: ·) := by
  induction more generalizing bs with
  | nil => exact (List.append_nil bs).symm
  | cons next more ih => rw [separated, ih, List.flatMap_cons, List.cons_append]

theorem length_le_separated (separator : UInt8) (bss : List Bytes) :
    bss.length ≤ (separated separator bss).length + 1 := by
  have hlength (more : List Bytes) : more.length ≤ (more.flatMap (separator :: ·)).length := by
    induction more with
    | nil => exact Nat.le_refl 0
    | cons bs more ih =>
      rw [List.flatMap_cons, List.length_append, List.length_cons, List.length_cons]
      omega
  cases bss with
  | nil => exact Nat.zero_le _
  | cons bs more =>
    have hmore := hlength more
    rw [separated_cons, List.length_append, List.length_cons]
    omega

/-- What follows an item of a list ends it. -/
theorem stops_items (more : List Bytes) (rest : Bytes) :
    Stops (more.flatMap (0x2c :: ·) ++ 0x5d :: rest) := by
  rcases more with _ | ⟨bs, more⟩
  · exact stops_bracket rest
  · rw [List.flatMap_cons, List.append_assoc]
    exact stops_comma _

theorem nextItem?_first {b : UInt8} (hblank : isBlank b = false) (hbracket : b ≠ 0x5d)
    (rest : Bytes) : nextItem? true (b :: rest) = .ok (true, b :: rest) := by
  rw [nextItem?, skipBlank_cons hblank]
  dsimp only
  rw [if_neg hbracket]
  rfl

theorem nextItem?_comma {b : UInt8} (hblank : isBlank b = false) (hbracket : b ≠ 0x5d)
    (rest : Bytes) : nextItem? false (0x2c :: b :: rest) = .ok (true, b :: rest) := by
  rw [nextItem?, skipBlank_cons rfl]
  dsimp only
  rw [if_neg (by decide), if_neg (by decide), if_pos rfl, skipBlank_cons hblank]
  dsimp only
  rw [if_neg hbracket]

variable {item : Reader α} {nullable : Bool}

theorem readItems_more {fuel : Nat} {bss : List Bytes} {as : List α}
    (h : List.Forall₂ (WrittenAs item nullable) bss as) (hfuel : as.length < fuel) (rest : Bytes) :
    readItems item fuel false (bss.flatMap (0x2c :: ·) ++ 0x5d :: rest) =
      .ok (as, 0x5d :: rest) := by
  -- Every item takes one of the fuel, and seeing the bracket takes the last.
  induction h generalizing fuel with
  | nil =>
    obtain ⟨fuel, rfl⟩ := Nat.exists_eq_add_one_of_ne_zero (Nat.ne_zero_of_lt hfuel)
    rfl
  | @cons bs a bss as h _ ih =>
    obtain ⟨fuel, rfl⟩ := Nat.exists_eq_add_one_of_ne_zero (Nat.ne_zero_of_lt hfuel)
    obtain ⟨⟨b, tail, rfl, hblank, hbracket, -⟩, hreads⟩ := h
    have hitem := hreads _ (stops_items bss rest)
    have hmore := ih (Nat.lt_of_succ_lt_succ hfuel)
    rw [List.flatMap_cons, List.append_assoc, List.cons_append]
    refine bind_eq_ok_iff.mpr ⟨_, nextItem?_comma hblank hbracket _, ?_⟩
    refine bind_eq_ok_iff.mpr ⟨_, hitem, ?_⟩
    exact bind_eq_ok_iff.mpr ⟨_, hmore, rfl⟩

theorem readItems_separated {fuel : Nat} {bss : List Bytes} {as : List α}
    (h : List.Forall₂ (WrittenAs item nullable) bss as) (hfuel : as.length < fuel) (rest : Bytes) :
    readItems item fuel true (separated 0x2c bss ++ 0x5d :: rest) = .ok (as, 0x5d :: rest) := by
  obtain ⟨fuel, rfl⟩ := Nat.exists_eq_add_one_of_ne_zero (Nat.ne_zero_of_lt hfuel)
  -- No comma stands in front of the first item, so it is not one of those above.
  cases h with
  | nil => rfl
  | @cons bs a bss as h hmore =>
    obtain ⟨⟨b, tail, rfl, hblank, hbracket, -⟩, hreads⟩ := h
    have hitem := hreads _ (stops_items bss rest)
    have hmore := readItems_more hmore (Nat.lt_of_succ_lt_succ hfuel) rest
    rw [separated_cons, List.append_assoc]
    refine bind_eq_ok_iff.mpr ⟨_, nextItem?_first hblank hbracket _, ?_⟩
    refine bind_eq_ok_iff.mpr ⟨_, hitem, ?_⟩
    exact bind_eq_ok_iff.mpr ⟨_, hmore, rfl⟩

theorem writtenAs_list {bss : List Bytes} {as : List α}
    (h : List.Forall₂ (WrittenAs item nullable) bss as) :
    WrittenAs (readList item) false (writeList bss) as := by
  refine ⟨⟨0x5b, _, rfl, rfl, by decide, by decide⟩, fun rest _ => ?_⟩
  have hlength := length_le_separated 0x2c bss
  rw [h.length_eq] at hlength
  rw [writeList, List.cons_append, List.append_assoc]
  refine bind_eq_ok_iff.mpr ⟨_, readItems_separated h ?_ rest, rfl⟩
  rw [List.length_append, List.length_append]
  exact Nat.lt_succ_of_le (Nat.le_trans hlength (by simp))

/-! ## Pairs -/

theorem writtenAs_pair {first : Reader α} {second : Reader β} {xs ys : Bytes} {a : α} {b : β}
    {nullable' : Bool} (ha : WrittenAs first nullable xs a) (hb : WrittenAs second nullable' ys b) :
    WrittenAs (readPair first second) false (writeList [xs, ys]) (a, b) := by
  refine ⟨⟨0x5b, _, rfl, rfl, by decide, by decide⟩, fun rest _ => ?_⟩
  obtain ⟨⟨x, xtail, rfl, hxblank, hxbracket, -⟩, hfirst⟩ := ha
  obtain ⟨⟨y, ytail, rfl, hyblank, hybracket, -⟩, hsecond⟩ := hb
  have ha := hfirst (0x2c :: y :: ytail ++ 0x5d :: rest) (stops_comma _)
  have hb := hsecond (0x5d :: rest) (stops_bracket rest)
  have hbytes : writeList [x :: xtail, y :: ytail] ++ rest =
      0x5b :: (x :: xtail ++ (0x2c :: y :: ytail ++ 0x5d :: rest)) := by
    simp [writeList, separated]
  rw [hbytes]
  refine bind_eq_ok_iff.mpr ⟨_, bind_eq_ok_iff.mpr ⟨_, nextItem?_first hxblank hxbracket _, ha⟩, ?_⟩
  refine bind_eq_ok_iff.mpr ⟨_, bind_eq_ok_iff.mpr ⟨_, nextItem?_comma hyblank hybracket _, hb⟩, ?_⟩
  rfl

/-! ## Objects -/

/-- What follows the key of an entry and then the entry itself ends it. -/
theorem stops_entries (more : List Bytes) (rest : Bytes) :
    Stops (more.flatMap (0x2c :: ·) ++ 0x7d :: rest) := by
  rcases more with _ | ⟨bs, more⟩
  · exact stops_brace rest
  · rw [List.flatMap_cons, List.append_assoc]
    exact stops_comma _

/-- Entries under some keys, read one after the other, lead from one state to another. -/
inductive Fills (entry : String → σ → Reader σ) :
    List String → σ → List (Bytes × Bytes) → σ → Prop
  | nil {s : σ} : Fills entry [] s [] s
  | cons {key : String} {value : Bytes} {keys : List String} {s t u : σ}
      {more : List (Bytes × Bytes)}
      (head : ∀ rest, Stops rest → entry key s (0x3a :: (value ++ rest)) = .ok (t, rest))
      (tail : Fills entry keys t more u) :
      Fills entry (key :: keys) s ((writeText key, value) :: more) u

/-- The text of an entry. -/
def entryText (e : Bytes × Bytes) : Bytes :=
  e.1 ++ 0x3a :: e.2

variable {entry : String → σ → Reader σ} {keys : List String} {s t : σ} {es : List (Bytes × Bytes)}

theorem readEntries_more (h : Fills entry keys s es t) {fuel : Nat} (hfuel : es.length < fuel)
    (rest : Bytes) :
    readEntries entry fuel false s ((es.map entryText).flatMap (0x2c :: ·) ++ 0x7d :: rest) =
      .ok (t, 0x7d :: rest) := by
  induction h generalizing fuel with
  | nil =>
    obtain ⟨fuel, rfl⟩ := Nat.exists_eq_add_one_of_ne_zero (Nat.ne_zero_of_lt hfuel)
    rfl
  | @cons key value keys s t u more head _ ih =>
    obtain ⟨fuel, rfl⟩ := Nat.exists_eq_add_one_of_ne_zero (Nat.ne_zero_of_lt hfuel)
    have hentry := head _ (stops_entries (more.map entryText) rest)
    have hmore := ih (Nat.lt_of_succ_lt_succ hfuel)
    have hbytes : (((writeText key, value) :: more).map entryText).flatMap (0x2c :: ·) ++
          0x7d :: rest =
        0x2c :: 0x22 :: (textTail key ++
          (0x3a :: (value ++ ((more.map entryText).flatMap (0x2c :: ·) ++ 0x7d :: rest)))) := by
      simp [entryText, writeText_eq]
    rw [hbytes]
    refine bind_eq_ok_iff.mpr ⟨(true, _), rfl, ?_⟩
    refine bind_eq_ok_iff.mpr ⟨_, readText_textTail key _, ?_⟩
    exact bind_eq_ok_iff.mpr ⟨_, hentry, hmore⟩

theorem readEntries_separated (h : Fills entry keys s es t) {fuel : Nat} (hfuel : es.length < fuel)
    (rest : Bytes) :
    readEntries entry fuel true s (separated 0x2c (es.map entryText) ++ 0x7d :: rest) =
      .ok (t, 0x7d :: rest) := by
  obtain ⟨fuel, rfl⟩ := Nat.exists_eq_add_one_of_ne_zero (Nat.ne_zero_of_lt hfuel)
  cases h with
  | nil => rfl
  | @cons key value keys s t u more head tail =>
    have hentry := head _ (stops_entries (more.map entryText) rest)
    have hmore := readEntries_more tail (Nat.lt_of_succ_lt_succ hfuel) rest
    have hbytes : separated 0x2c (((writeText key, value) :: more).map entryText) ++
          0x7d :: rest =
        0x22 :: (textTail key ++
          (0x3a :: (value ++ ((more.map entryText).flatMap (0x2c :: ·) ++ 0x7d :: rest)))) := by
      rw [List.map_cons, separated_cons]
      simp [entryText, writeText_eq]
    rw [hbytes]
    refine bind_eq_ok_iff.mpr ⟨(true, _), rfl, ?_⟩
    refine bind_eq_ok_iff.mpr ⟨_, readText_textTail key _, ?_⟩
    exact bind_eq_ok_iff.mpr ⟨_, hentry, hmore⟩

/-- The fuel that an object is read with is enough for its entries. -/
theorem length_lt_of_object (es : List (Bytes × Bytes)) (rest : Bytes) :
    es.length < (separated 0x2c (es.map entryText) ++ 0x7d :: rest).length + 1 := by
  have hlength := length_le_separated 0x2c (es.map entryText)
  rw [List.length_map] at hlength
  rw [List.length_append]
  exact Nat.lt_succ_of_le (Nat.le_trans hlength (by simp))

theorem writeObject_append (es : List (Bytes × Bytes)) (rest : Bytes) :
    writeObject es ++ rest = 0x7b :: (separated 0x2c (es.map entryText) ++ 0x7d :: rest) := by
  rw [writeObject, List.cons_append, List.append_assoc]
  rfl

/-- An object is read if its entries lead from nothing to all fields. -/
theorem writtenAs_record {what : String} {fs : Fields}
    {entry : String → fs.Partial → Reader fs.Partial} {items : Nat → String → Reader fs.Val}
    {p : fs.Partial} {v : fs.Val} (h : Fills entry keys fs.unread es p) (hp : fs.complete p = .ok v) :
    WrittenAs (readRecord what fs entry items) false (writeObject es) v := by
  refine ⟨⟨0x7b, _, rfl, rfl, by decide, by decide⟩, fun rest _ => ?_⟩
  rw [writeObject_append]
  refine bind_eq_ok_iff.mpr ⟨_, readEntries_separated h (length_lt_of_object es rest) rest, ?_⟩
  dsimp only
  rw [hp]
  rfl

/-! ## Maps -/

/-- A key that can be written is read back from its text. -/
theorem readKey_of_writeKey? : (k : KeyShape) → {key : k.Key} → {bs : Bytes} →
    writeKey? k key = some bs →
      ∃ text, bs = writeText text ∧ ∀ rest, readKey k text rest = .ok key
  | .text, key, _, h => by
    cases h
    exact ⟨key, rfl, fun _ => rfl⟩
  | .pair, _, _, h => nomatch h

/-- The entry of a map under the key of a text. -/
def mapEntry (k : KeyShape) (item : Reader α) (text : String) (t : Table k.order α) :
    Reader (Table k.order α) := fun rest => do
  let key ← readKey k text rest
  let (a, rest) ← item (← readColon rest)
  .ok (t.insert key a, rest)

variable {k : KeyShape} {out : List (Bytes × Bytes)}

theorem fills_mapEntry {es : List (k.Key × α)}
    (h : List.Forall₂ (fun e o => writeKey? k e.1 = some o.1 ∧ WrittenAs item nullable o.2 e.2)
      es out) (done : List (k.Key × α)) :
    ∃ keys, Fills (mapEntry k item) keys (Binary.tableOf done) out
      (Binary.tableOf (done ++ es)) := by
  induction h generalizing done with
  | nil =>
    rw [List.append_nil]
    exact ⟨[], .nil⟩
  | @cons e o es out h _ ih =>
    obtain ⟨key, value⟩ := o
    obtain ⟨text, rfl, hkey⟩ := readKey_of_writeKey? k h.1
    obtain ⟨keys, hmore⟩ := ih (done ++ [e])
    rw [List.append_assoc, List.singleton_append] at hmore
    refine ⟨text :: keys, .cons (fun rest hrest => ?_) hmore⟩
    -- What is read so far is the table of `done`, and this entry is put behind it.
    have hitem := h.2.reads rest hrest
    rw [Table.tableOf_append]
    refine bind_eq_ok_iff.mpr ⟨_, hkey _, bind_eq_ok_iff.mpr ⟨_, rfl, ?_⟩⟩
    exact bind_eq_ok_iff.mpr ⟨_, hitem, rfl⟩

theorem writtenAs_map {t : Table k.order α}
    (h : List.Forall₂ (fun e o => writeKey? k e.1 = some o.1 ∧ WrittenAs item nullable o.2 e.2)
      t.entries out) : WrittenAs (readMap k item) false (writeObject out) t := by
  refine ⟨⟨0x7b, _, rfl, rfl, by decide, by decide⟩, fun rest _ => ?_⟩
  obtain ⟨keys, hfills⟩ := fills_mapEntry h []
  rw [List.nil_append, Table.tableOf_entries] at hfills
  rw [writeObject_append]
  exact bind_eq_ok_iff.mpr
    ⟨_, readEntries_separated hfills (length_lt_of_object out rest) rest, rfl⟩

/-! ## Alternatives -/

/-- The text of an alternative leads to its contents. -/
inductive Chosen (read : String → Bool → Mismatch → Reader α) (names : List String) :
    Bytes → α → Prop
  | bare {name : String} {a : α} (mem : name ∈ names)
      (reads : ∀ unknown rest, read name false unknown rest = .ok (a, rest)) :
      Chosen read names (writeText name) a
  | filled {name : String} {value : Bytes} {a : α} (mem : name ∈ names)
      (reads : ∀ unknown rest, Stops rest →
        read name true unknown (0x3a :: (value ++ rest)) = .ok (a, rest)) :
      Chosen read names (writeObject [(writeText name, value)]) a

/-- Another alternative comes before. -/
theorem Chosen.next {read : String → Bool → Mismatch → Reader α}
    {read' : String → Bool → Mismatch → Reader β} {names : List String} {bs : Bytes} {a : α}
    {f : α → β} {other : String} (h : Chosen read names bs a) (hother : other ∉ names)
    (hread : ∀ name filled unknown bs, name ≠ other → read' name filled unknown bs = (do
      let (a, rest) ← read name filled unknown bs
      .ok (f a, rest))) : Chosen read' (other :: names) bs (f a) := by
  cases h with
  | @bare name _ mem reads =>
    have hne : name ≠ other := fun heq => hother (heq ▸ mem)
    refine .bare (List.mem_cons_of_mem _ mem) fun unknown rest => ?_
    rw [hread _ _ _ _ hne, reads]
    rfl
  | @filled name value _ mem reads =>
    have hne : name ≠ other := fun heq => hother (heq ▸ mem)
    refine .filled (List.mem_cons_of_mem _ mem) fun unknown rest hrest => ?_
    rw [hread _ _ _ _ hne, reads unknown rest hrest]
    rfl

theorem writtenAs_choice {read : String → Bool → Mismatch → Reader α} {names : List String}
    {bs : Bytes} {a : α} (h : Chosen read names bs a) (unknown : String → Mismatch) :
    WrittenAs (readChoice fun name filled => read name filled (unknown name)) false bs a := by
  cases h with
  | @bare name _ mem reads =>
    refine ⟨⟨0x22, _, rfl, rfl, by decide, by decide⟩, fun rest _ => ?_⟩
    exact bind_eq_ok_iff.mpr ⟨_, readText_textTail name rest, reads _ rest⟩
  | @filled name value _ mem reads =>
    refine ⟨⟨0x7b, _, rfl, rfl, by decide, by decide⟩, fun rest _ => ?_⟩
    have hbytes : writeObject [(writeText name, value)] ++ rest =
        0x7b :: (writeText name ++ (0x3a :: (value ++ 0x7d :: rest))) := by
      simp [writeObject, separated]
    rw [hbytes]
    refine bind_eq_ok_iff.mpr ⟨_, readQuoted_writeText _ name _, ?_⟩
    exact bind_eq_ok_iff.mpr ⟨_, reads _ _ (stops_brace rest), rfl⟩

end Json

open Json

/-! ## Fields -/

namespace Fields

/-- All fields read. -/
def filled : (fs : Fields) → fs.Val → fs.Partial
  | .nil, _ => ()
  | .cons _ _ rest, v => (some v.1, rest.filled v.2)

theorem complete_filled : (fs : Fields) → (v : fs.Val) → fs.complete (fs.filled v) = .ok v
  | .nil, _ => rfl
  | .cons _ _ rest, v => by
    have hrest := rest.complete_filled v.2
    simp only [filled, complete, Option.orElse_some, hrest]
    rfl

/-- Entries under other names leave the first field alone. -/
theorem fills_cons {name : String} {s : Shape} {rest : Fields} {keys : List String}
    {p q : rest.Partial} {es : List (Bytes × Bytes)} (h : Fills rest.readEntry keys p es q)
    (hname : name ∉ keys) (first : Option s.Val) :
    Fills (Fields.cons name s rest).readEntry keys (first, p) es (first, q) := by
  induction h with
  | nil => exact .nil
  | @cons key value keys p q u more head _ ih =>
    have hne : key ≠ name := fun heq => hname (heq ▸ List.mem_cons_self)
    refine .cons (fun rest hrest => ?_) (ih fun hmem => hname (List.mem_cons_of_mem _ hmem))
    rw [Fields.readEntry]
    dsimp only
    rw [if_neg hne]
    exact bind_eq_ok_iff.mpr ⟨_, head rest hrest, rfl⟩

end Fields

/-! ## All values -/

mutual

/-- A value that can be written is read back. -/
theorem Shape.writtenAs_toJson : (s : Shape) → s.isLegible = true → {v : s.Val} → {bs : Bytes} →
    s.toJson? v = some bs → WrittenAs s.readJson s.isNullable bs v
  | .bool, _, b, _, h => by
    cases h
    exact writtenAs_bool b
  | .int k, _, v, _, h => by
    cases h
    exact writtenAs_int k v
  | .char, _, c, _, h => by
    cases h
    exact writtenAs_char c
  | .text, _, t, _, h => by
    cases h
    exact writtenAs_text t
  | .unit name, _, _, _, h => by
    cases h
    exact writtenAs_null name
  | .option s, _, none, _, h => by
    cases h
    exact writtenAs_none
  | .option s, hs, some v, bs, h => by
    simp only [Shape.isLegible, Bool.and_eq_true, Bool.not_eq_true'] at hs
    have hv := s.writtenAs_toJson hs.2 h
    -- The value is not `null`, or it would be taken for none.
    rw [hs.1] at hv
    exact hv.some
  | .list s, hs, vs, _, h => by
    obtain ⟨items, hitems, rfl⟩ := Option.map_eq_some_iff.mp h
    have hwritten : List.Forall₂ (fun v bs => WrittenAs s.readJson s.isNullable bs v) vs items :=
      (forall₂_of_mapM hitems).imp fun v bs hv => s.writtenAs_toJson hs hv
    exact writtenAs_list hwritten.flip
  | .map k s, hs, t, _, h => by
    obtain ⟨out, hout, rfl⟩ := Option.map_eq_some_iff.mp h
    have hwritten : List.Forall₂ (fun e o => writeKey? k e.1 = some o.1 ∧
        WrittenAs s.readJson s.isNullable o.2 e.2) t.entries out := by
      refine (forall₂_of_mapM hout).imp fun e o he => ?_
      obtain ⟨key, hkey, he⟩ := Option.bind_eq_some_iff.mp he
      obtain ⟨value, hvalue, he⟩ := Option.bind_eq_some_iff.mp he
      cases he
      exact ⟨hkey, s.writtenAs_toJson hs hvalue⟩
    exact writtenAs_map hwritten
  | .pair a b, hs, v, _, h => by
    simp only [Shape.isLegible, Bool.and_eq_true] at hs
    obtain ⟨first, hfirst, h⟩ := Option.bind_eq_some_iff.mp h
    obtain ⟨second, hsecond, h⟩ := Option.bind_eq_some_iff.mp h
    cases h
    exact writtenAs_pair (a.writtenAs_toJson hs.1 hfirst) (b.writtenAs_toJson hs.2 hsecond)
  | .record _ fs, hs, v, _, h => by
    obtain ⟨es, hes, rfl⟩ := Option.map_eq_some_iff.mp h
    exact writtenAs_record (fs.fills_toJson hs hes) (fs.complete_filled v)
  | .choice name vs, hs, v, _, h =>
    writtenAs_choice (vs.chosen_toJson hs name h) fun variant => .unknownVariant variant vs.names

/-- The entries of a record lead from no field to all of them. -/
theorem Fields.fills_toJson : (fs : Fields) → fs.isLegible = true → {v : fs.Val} →
    {es : List (Bytes × Bytes)} → fs.toJson? v = some es →
      Fills fs.readEntry fs.names fs.unread es (fs.filled v)
  | .nil, _, _, _, h => by
    cases h
    exact .nil
  | .cons name s rest, hs, v, _, h => by
    simp only [Fields.isLegible, Bool.and_eq_true, Bool.not_eq_true', List.contains_eq_mem,
      decide_eq_false_iff_not] at hs
    obtain ⟨⟨hname, hs⟩, hrest⟩ := hs
    obtain ⟨value, hvalue, h⟩ := Option.bind_eq_some_iff.mp h
    obtain ⟨more, hmore, h⟩ := Option.bind_eq_some_iff.mp h
    cases h
    have hv := s.writtenAs_toJson hs hvalue
    -- The first entry fills the first field; the others have other names.
    refine .cons (fun bs hbs => ?_) (Fields.fills_cons (rest.fills_toJson hrest hmore) hname (some v.1))
    have hread := hv.reads bs hbs
    rw [Fields.readEntry]
    dsimp only
    rw [if_pos rfl]
    exact bind_eq_ok_iff.mpr ⟨_, rfl, bind_eq_ok_iff.mpr ⟨_, hread, rfl⟩⟩

/-- The text of a choice leads to the alternative. -/
theorem Variants.chosen_toJson : (vs : Variants) → vs.isLegible = true → (choice : String) →
    {v : vs.Val} → {bs : Bytes} → vs.toJson? v = some bs →
      Chosen (vs.readNamed choice) vs.names bs v
  | .nil, _, _, v, _, _ => nomatch v
  | .bare name rest, hs, choice, .inl (), _, h => by
    cases h
    refine .bare List.mem_cons_self fun unknown bs => ?_
    rw [Variants.readNamed]
    dsimp only
    rw [if_pos rfl]
    rfl
  | .single name s rest, hs, choice, .inl v, _, h => by
    simp only [Variants.isLegible, Bool.and_eq_true] at hs
    obtain ⟨value, hvalue, rfl⟩ := Option.map_eq_some_iff.mp h
    have hv := s.writtenAs_toJson hs.1.2 hvalue
    refine .filled List.mem_cons_self fun unknown bs hbs => ?_
    have hread := hv.reads bs hbs
    rw [Variants.readNamed]
    dsimp only
    rw [if_pos rfl]
    exact bind_eq_ok_iff.mpr ⟨_, bind_eq_ok_iff.mpr ⟨_, rfl, hread⟩, rfl⟩
  | .fields name fs rest, hs, choice, .inl v, _, h => by
    simp only [Variants.isLegible, Bool.and_eq_true] at hs
    obtain ⟨es, hes, rfl⟩ := Option.map_eq_some_iff.mp h
    have hfills := fs.fills_toJson hs.1.2 hes
    refine .filled List.mem_cons_self fun unknown bs hbs => ?_
    rw [Variants.readNamed]
    dsimp only
    rw [if_pos rfl]
    refine bind_eq_ok_iff.mpr ⟨(v, bs), bind_eq_ok_iff.mpr ⟨_, rfl, ?_⟩, rfl⟩
    exact (writtenAs_record hfills (fs.complete_filled v)).reads bs hbs
  | .bare name rest, hs, choice, .inr v, _, h => by
    simp only [Variants.isLegible, Bool.and_eq_true, Bool.not_eq_true', List.contains_eq_mem,
      decide_eq_false_iff_not] at hs
    refine (rest.chosen_toJson hs.2 choice h).next hs.1 fun key filled unknown bs hne => ?_
    rw [Variants.readNamed]
    dsimp only
    rw [if_neg hne]
  | .single name s rest, hs, choice, .inr v, _, h => by
    simp only [Variants.isLegible, Bool.and_eq_true, Bool.not_eq_true', List.contains_eq_mem,
      decide_eq_false_iff_not] at hs
    refine (rest.chosen_toJson hs.2 choice h).next hs.1.1 fun key filled unknown bs hne => ?_
    rw [Variants.readNamed]
    dsimp only
    rw [if_neg hne]
  | .fields name fs rest, hs, choice, .inr v, _, h => by
    simp only [Variants.isLegible, Bool.and_eq_true, Bool.not_eq_true', List.contains_eq_mem,
      decide_eq_false_iff_not] at hs
    refine (rest.chosen_toJson hs.2 choice h).next hs.1.1 fun key filled unknown bs hne => ?_
    rw [Variants.readNamed]
    dsimp only
    rw [if_neg hne]

end

/-- The text of a value holds that value and nothing else. -/
theorem Shape.ofJson_of_toJson {s : Shape} (hs : s.isLegible = true) {v : s.Val} {bs : Bytes}
    (h : s.toJson? v = some bs) : s.ofJson bs = .ok v := by
  have hread := (s.writtenAs_toJson hs h).reads [] stops_nil
  rw [List.append_nil] at hread
  unfold ofJson
  dsimp only
  rw [hread]
  rfl

end Switchboard

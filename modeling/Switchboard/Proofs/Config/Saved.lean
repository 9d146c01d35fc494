import Switchboard.Program
import Switchboard.Proofs.Config.Completion

/-!
# What was saved is loaded

Settings whose numbers fit are written as a document that gives every key, so loading it leaves
nothing to the defaults. Settings with a number that does not fit leave the files as they are.
-/

namespace Switchboard.Config

variable {c : Config} {files : FileTree} {hostName path text : String}

/-- Whether a number of the settings is too large for a document. -/
def TooLarge (c : Config) : Prop :=
  9223372036854775807 < c.protocol.maxFrameSize.toNat ∨
    9223372036854775807 < c.network.connectTimeoutMs.toNat ∨
    9223372036854775807 < c.router.workers.toNat

theorem isWritable_iff : c.IsWritable ↔ ¬c.TooLarge := by
  have hbound : wholeBound = 9223372036854775808 := by decide
  simp only [IsWritable, TooLarge, hbound]
  omega

theorem text?_eq_none_iff : c.text? = none ↔ c.TooLarge := by
  rw [text?]
  split
  · next h => simpa using isWritable_iff.mp h
  · next h => simpa using not_not.mp (mt isWritable_iff.mpr h)

/-! ## The document of all settings -/

/-- The document of settings gives these settings, also with empty lines behind it. -/
theorem parse_text (h : c.text? = some text) (n : Nat) :
    parse hostName (text ++ String.ofList (List.replicate n '\n')) = .ok c := by
  rw [text?] at h
  split at h
  · next hwritable =>
    cases h
    have hread := read?_selection hwritable (K := SettingKey.all) (by decide)
      ["general", "protocol", "network", "router"] (by decide) (by decide) n
    have hsets : c.Sets SettingKey.all _ :=
      sets_selection ["general", "protocol", "network", "router"] (by decide)
    rw [← sections_eq] at hread hsets
    rw [String.ofList_append] at hread
    rw [Toml.write, parse_of_sets hread hsets, if_neg, completed_of_forall SettingKey.mem_all]
    exact fun hunnamed => hunnamed.2 (SettingKey.mem_all _)
  · cases h

/-- A file that holds the document gives the settings. -/
theorem load_text {h : Host} (hc : c.text? = some text) (n : Nat)
    (hfile : h.files.readText (FilePath.ofString path) =
      .ok (text ++ String.ofList (List.replicate n '\n'))) : load h path = .ok c := by
  rw [load_of_readText hfile, parse_text hc]
  rfl

/-! ## Saving -/

theorem save_of_none (h : c.text? = none) : c.save files path = (.error .unwritable, files) := by
  rw [save, h]

/-- Settings that can be written are saved, or the operating system refuses. -/
theorem save_cases (files : FileTree) (path : String) (h : c.text? = some text) :
    (∃ e, (c.save files path).1 = .error (.io e)) ∨
      ∃ t t', files.makeParents (FilePath.ofString path) = (.ok (), t) ∧
        t.write (FilePath.ofString path) (Utf8.ofString text) = .ok t' ∧
        c.save files path = (.ok (), t') := by
  rw [save, h]
  dsimp only
  rcases hparents : files.makeParents (FilePath.ofString path) with ⟨e | ⟨⟩, t⟩
  · exact .inl ⟨e, rfl⟩
  · dsimp only
    cases hwrite : t.write (FilePath.ofString path) (Utf8.ofString text) with
    | error e => exact .inl ⟨e, rfl⟩
    | ok t' => exact .inr ⟨t, t', rfl, hwrite, rfl⟩

theorem save_eq_unwritable_iff : (c.save files path).1 = .error .unwritable ↔ c.text? = none := by
  cases htext : c.text? with
  | none => simp [save_of_none htext]
  | some text =>
    rcases save_cases files path htext with ⟨e, herror⟩ | ⟨t, t', -, -, hsave⟩
    · simp [herror]
    · simp [hsave]

theorem save_of_accepts (h : c.text? = some text)
    (hpath : files.Accepts (FilePath.ofString path)) : (c.save files path).1 = .ok () := by
  obtain ⟨hparents, place, hopen⟩ := hpath
  rw [save, h]
  dsimp only
  rcases hmade : files.makeParents (FilePath.ofString path) with ⟨result, t⟩
  rw [hmade] at hparents hopen
  cases hparents
  simp [FileTree.write, hopen, bind, Except.bind, pure, Except.pure]

/-- A file that was saved holds the document. -/
theorem readText_save (h : (c.save files path).1 = .ok ()) :
    ∃ text, c.text? = some text ∧
      (c.save files path).2.readText (FilePath.ofString path) = .ok text := by
  cases htext : c.text? with
  | none =>
    rw [save_of_none htext] at h
    cases h
  | some text =>
    refine ⟨text, rfl, ?_⟩
    rcases save_cases files path htext with ⟨e, herror⟩ | ⟨t, t', -, hwrite, hsave⟩
    · rw [herror] at h
      cases h
    · rw [hsave]
      exact FileTree.readText_write hwrite

/-- Saving settings and loading them, and printing them into a file and loading it. -/
theorem load_save (c : Config) (h : Host) (path : String) :
    ((c.save h.files path).1 = .error .unwritable ↔ c.TooLarge) ∧
    (c.TooLarge → (c.save h.files path).2 = h.files) ∧
    (¬c.TooLarge → h.files.Accepts (FilePath.ofString path) →
      (c.save h.files path).1 = .ok ()) ∧
    ((c.save h.files path).1 = .ok () →
      load { h with files := (c.save h.files path).2 } path = .ok c) ∧
    (c.text? = none ↔ c.TooLarge) ∧
    ∀ text, c.text? = some text →
      Program.showConfig c = Program.succeed (text ++ "\n") ∧
      ∀ h' : Host, h'.files.readText (FilePath.ofString path) = .ok text ∨
        h'.files.readText (FilePath.ofString path) = .ok (text ++ "\n") → load h' path = .ok c := by
  refine ⟨save_eq_unwritable_iff.trans text?_eq_none_iff, ?_, ?_, ?_, text?_eq_none_iff, ?_⟩
  · intro hlarge
    rw [save_of_none (text?_eq_none_iff.mpr hlarge)]
  · intro hfits hpath
    obtain ⟨text, htext⟩ := Option.ne_none_iff_exists'.mp (mt text?_eq_none_iff.mp hfits)
    exact save_of_accepts htext hpath
  · intro hsaved
    obtain ⟨text, htext, hfile⟩ := readText_save hsaved
    exact load_text htext 0 (by simpa using hfile)
  · intro text htext
    constructor
    · simp [Program.showConfig, htext, CommandLine.unlines, String.join]
    · rintro h' (hfile | hfile)
      · exact load_text htext 0 (by simpa using hfile)
      · exact load_text htext 1 (by simpa using hfile)

theorem load_save_sample :
    FileTree.empty.Accepts (FilePath.ofString "c.toml") ∧ ¬sample.TooLarge ∧
      load { Host.offline "lobby" .empty none with
        files := (sample.save .empty "c.toml").2 } "c.toml" = .ok sample := by
  have haccepts : FileTree.empty.Accepts (FilePath.ofString "c.toml") := by
    have hopen : FileTree.empty.openFile ⟨false, ["c.toml"], false⟩ = .ok ["c.toml"] := by
      simp [FileTree.openFile, locate_settingsFile, FileTree.newName?, FileTree.get?,
        FileTree.empty, Place.working, Place.outermost, bind, Except.bind, pure, Except.pure]
    have hparents : FileTree.empty.makeParents ⟨false, ["c.toml"], false⟩ = (.ok (), .empty) := by
      simp [FileTree.makeParents, FilePath.parent?, FileTree.makeDirectories, FilePath.isEmpty]
    rw [ofString_settingsFile, FileTree.Accepts, hparents]
    exact ⟨rfl, _, hopen⟩
  have hfits : ¬sample.TooLarge := isWritable_iff.mp (by decide)
  obtain ⟨-, -, hsaves, hloads, -, -⟩ :=
    load_save sample (Host.offline "lobby" .empty none) "c.toml"
  exact ⟨haccepts, hfits, hloads (hsaves hfits haccepts)⟩

end Switchboard.Config

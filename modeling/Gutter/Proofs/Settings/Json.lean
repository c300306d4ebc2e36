import Gutter.Issue.Json
import Gutter.Proofs.Json.Shape
import Gutter.Proofs.Path
import Gutter.Settings.Json

/-!
# Settings and issues as JSON

What is written for settings, for a command or for an issue is read back as the same.
-/

namespace Gutter

/-! ## Sorted maps -/

namespace SortedTable

variable {κ α : Type} [LT κ] [LE κ] [DecidableLT κ] [DecidableEq κ] [Std.IsLinearOrder κ]
  [Std.LawfulOrderLT κ]

theorem alterPairs_of_lt {k : κ} {f : Option α → α} {xs : List (κ × α)}
    (h : ∀ x ∈ xs, x.1 < k) : alterPairs k f xs = xs ++ [(k, f none)] := by
  induction xs with
  | nil => rfl
  | cons x xs ih =>
      obtain ⟨hx, hxs⟩ := List.forall_mem_cons.mp h
      have hne : k ≠ x.1 := fun h => Std.lt_irrefl (h ▸ hx)
      rw [alterPairs, if_neg fun h => Std.lt_irrefl (Std.lt_trans h hx), if_neg hne, ih hxs, List.cons_append]

/-- Pairs in ascending order are put behind one another. -/
theorem pairs_foldl_insert {t : SortedTable κ α} {xs : List (κ × α)}
    (h : ((t.pairs ++ xs).map Prod.fst).Pairwise (· < ·)) :
    (xs.foldl (fun t x => t.insert x.1 x.2) t).pairs = t.pairs ++ xs := by
  induction xs generalizing t with
  | nil => rw [List.foldl_nil, List.append_nil]
  | cons x xs ih =>
      have hlt : ∀ y ∈ t.pairs, y.1 < x.1 := by
        rw [List.map_append, List.pairwise_append] at h
        exact fun y hy => h.2.2 _ (List.mem_map_of_mem hy) _ List.mem_cons_self
      have hinsert : (t.insert x.1 x.2).pairs = t.pairs ++ [x] := alterPairs_of_lt hlt
      have happend : (t.insert x.1 x.2).pairs ++ xs = t.pairs ++ x :: xs := by
        rw [hinsert, List.append_assoc, List.singleton_append]
      rw [List.foldl_cons, ih (happend ▸ h), happend]

theorem ofList_pairs (t : SortedTable κ α) : ofList t.pairs = t := by
  have h : (ofList t.pairs).pairs = t.pairs := pairs_foldl_insert t.ascending
  generalize ofList t.pairs = u at h
  obtain ⟨pairs, hpairs⟩ := u
  subst h
  rfl

end SortedTable

open Json Value

/-! ## Commands -/

namespace Command

/-- A command that can be written down: the directory to start in is text. -/
def IsReadable (c : Command) : Prop := ∀ p ∈ c.cwd, p.text?.isSome

theorem isWhole_toJson (c : Command) : c.toJson.IsWhole := by
  have henv : ∀ m ∈ c.env.pairs.map fun x => (x.1, Value.string x.2), m.2.IsWhole := by
    intro m hm
    obtain ⟨x, -, rfl⟩ := List.mem_map.mp hm
    exact isWhole_string x.2
  simp only [toJson, isWhole_object, List.forall_mem_cons, isWhole_string, isWhole_texts, true_and]
  exact ⟨henv, isWhole_optional c.cwd fun p => isWhole_string p.display, List.forall_mem_nil _⟩

theorem reads_cwd (p : Option Path) :
    Reads (.optional (.textAs "path string")) 0 (.optional (p.map fun p => .string p.display))
      (p.map Path.display) := by
  have h : Reads (.optional (.textAs "path string")) 0
      (.optional ((p.map Path.display).map .string)) (p.map Path.display) :=
    reads_optional fun s _ => ⟨reads_textAs "path string" s, nofun⟩
  rwa [Option.map_map] at h

theorem reads_toJson {c : Command} (h : c.IsReadable) : Reads shape.reader 2 c.toJson c := by
  have hcwd : (c.cwd.map Path.display).map Path.ofString = c.cwd := by
    cases hp : c.cwd with
    | none => rfl
    | some p => exact congrArg some (Path.ofString_display (h p hp))
  refine Shape.reads_of_fills 
    (.field rfl rfl (reads_field ((reads_text c.program).mono (Nat.zero_le 1))) <|
      .field rfl rfl (reads_field (reads_texts c.args)) <|
      .field rfl rfl (reads_field (reads_members fun x _ => reads_text x.2)) <|
      .field rfl rfl (reads_field ((reads_cwd c.cwd).mono (Nat.zero_le 1))) .nil)
    (by decide) (by decide) ?_
  show Command.mk c.program c.args (.ofList c.env.pairs) ((c.cwd.map Path.display).map Path.ofString)
    = c
  rw [SortedTable.ofList_pairs, hcwd]

/-- The directory of a command that is read is text, for it was read as one. -/
theorem isReadable_of_reader {depth : Nat} {d : Draft} {c : Command}
    (h : shape.reader depth d = .ok c) : c.IsReadable := by
  have hkeeps : shape.Keeps IsReadable := by
    intro f hf depth d u hu c hc
    simp only [shape, List.mem_cons, List.not_mem_nil, or_false] at hf
    rcases hf with rfl | rfl | rfl | rfl <;> obtain ⟨x, -, rfl⟩ := eq_store_of_field hu
    case inr.inr.inr =>
      intro p hp
      obtain ⟨t, -, rfl⟩ := Option.map_eq_some_iff.mp hp
      rw [Path.text?_ofString]
      rfl
    all_goals exact hc
  exact hkeeps.of_reader nofun h

end Command

/-! ## Settings -/

namespace Locale

theorem isCanonical_english : IsCanonical .english := by
  rw [IsCanonical]
  decide +kernel

theorem isCanonical_default : IsCanonical default := by
  rw [IsCanonical]
  decide +kernel

theorem isCanonical_ofCode (code : String) : (ofCode code).IsCanonical := by
  by_cases h : code.map Char.toLower = "en"
  · have henglish : ofCode code = .english := if_pos h
    rw [henglish]
    exact isCanonical_english
  · have hother : ofCode code = .other code := if_neg h
    rw [hother]
    exact hother

end Locale

namespace Settings

/-- Settings that can be read: their language is one that a code stands for, and their command can
be read. -/
structure IsReadable (s : Settings) : Prop where
  locale : s.locale.IsCanonical
  command : ∀ c ∈ s.command, c.IsReadable

theorem isWhole_toJson (s : Settings) : s.toJson.IsWhole := by
  have hlevel : s.severityLevel.toNat < UInt64.size :=
    Nat.lt_trans s.severityLevel.toNat_lt_size (by decide)
  simp only [toJson, isWhole_object, List.forall_mem_cons, isWhole_string, isWhole_texts,
    isWhole_natural, true_and]
  exact ⟨hlevel, s.debounceMs.toNat_lt_size, s.evictionSlack.toNat_lt_size,
    isWhole_optional s.command Command.isWhole_toJson, List.forall_mem_nil _⟩

theorem reads_toJson {s : Settings} (h : s.IsReadable) : Reads shape.reader 3 s.toJson s := by
  have hcommand : Reads (.optional Command.shape.reader) 2
      (.optional (s.command.map Command.toJson)) s.command :=
    reads_optional fun c hc => ⟨Command.reads_toJson (h.command c hc), nofun⟩
  refine Shape.reads_of_fills 
    (.field rfl rfl (reads_field ((reads_text s.locale.code).mono (Nat.zero_le 2))) <|
      .field rfl rfl (reads_field ((reads_byte s.severityLevel).mono (Nat.zero_le 2))) <|
      .field rfl rfl (reads_field ((reads_texts s.jsLikeExt).mono (Nat.le_succ 1))) <|
      .field rfl rfl (reads_field ((reads_texts s.cssLikeExt).mono (Nat.le_succ 1))) <|
      .field rfl rfl (reads_field ((reads_texts s.htmlLikeExt).mono (Nat.le_succ 1))) <|
      .field rfl rfl (reads_field ((reads_text s.errorColor).mono (Nat.zero_le 2))) <|
      .field rfl rfl (reads_field ((reads_text s.warningColor).mono (Nat.zero_le 2))) <|
      .field rfl rfl (reads_field ((reads_word64 "u64" s.debounceMs).mono (Nat.zero_le 2))) <|
      .field rfl rfl (reads_field ((reads_word64 "usize" s.evictionSlack).mono (Nat.zero_le 2))) <|
      .field rfl rfl (reads_field hcommand) .nil)
    (by decide) (by decide) ?_
  show { s with locale := .ofCode s.locale.code } = s
  rw [h.locale]

theorem isReadable_of_reader {depth : Nat} {d : Draft} {s : Settings}
    (h : shape.reader depth d = .ok s) : s.IsReadable := by
  have hkeeps : shape.Keeps IsReadable := by
    intro f hf depth d u hu s hs
    simp only [shape, List.mem_cons, List.not_mem_nil, or_false] at hf
    rcases hf with rfl | rfl | rfl | rfl | rfl | rfl | rfl | rfl | rfl | rfl <;>
      obtain ⟨x, hx, rfl⟩ := eq_store_of_field hu
    case inl => exact ⟨Locale.isCanonical_ofCode x, hs.command⟩
    case inr.inr.inr.inr.inr.inr.inr.inr.inr =>
      refine ⟨hs.locale, ?_⟩
      rintro c rfl
      exact Command.isReadable_of_reader (optional_eq_some hx)
    all_goals exact ⟨hs.locale, hs.command⟩
  exact hkeeps.of_reader ⟨Locale.isCanonical_default, nofun⟩ h

end Settings

/-! ## Issues -/

namespace Issue

theorem isWhole_toJson (i : Issue) : i.toJson.IsWhole := by
  simp only [toJson, Severity.toJson, isWhole_object, List.forall_mem_cons, isWhole_string,
    isWhole_natural, true_and]
  exact ⟨i.line.toNat_lt_size, i.column.toNat_lt_size, isWhole_optional i.rule isWhole_string,
    List.forall_mem_nil _⟩

theorem reads_severity (s : Severity) : Reads Severity.reader 0 s.toJson s := by
  intro depth _
  cases s <;> rfl

theorem reads_toJson (i : Issue) : Reads shape.reader 1 i.toJson i :=
  Shape.reads_of_fills 
    (.field rfl rfl (reads_field (reads_word64 "usize" i.line)) <|
      .field rfl rfl (reads_field (reads_word64 "usize" i.column)) <|
      .field rfl rfl (reads_field (reads_text i.message)) <|
      .field rfl rfl (reads_field (reads_optional fun r _ => ⟨reads_text r, nofun⟩)) <|
      .field rfl rfl (reads_field (reads_severity i.severity)) .nil)
    (by decide) (by decide) rfl

end Issue

/-! ## Round trips -/

/-- Settings and commands that can be read, such as all settings that are read, and all issues are
read back from what is written for them. -/
theorem ofJson_toJson :
    (∀ bytes s, Settings.ofJson bytes = .ok s → s.IsReadable) ∧
    (∀ s : Settings, s.IsReadable → Settings.ofJson (Text.Utf8.encode s.toJson.text) = .ok s) ∧
    (∀ c : Command, c.IsReadable → Command.ofJson (Text.Utf8.encode c.toJson.text) = .ok c) ∧
    ∀ i : Issue, Issue.ofJson (Text.Utf8.encode i.toJson.text) = .ok i := by
  refine ⟨fun bytes s h => ?_, fun s h => ?_, fun c h => ?_, fun i => ?_⟩
  · obtain ⟨d, hread, -⟩ := exists_draft_of_read h
    exact Settings.isReadable_of_reader hread
  · exact (Settings.reads_toJson h).read_text s.isWhole_toJson (by decide)
  · exact (Command.reads_toJson h).read_text c.isWhole_toJson (by decide)
  · exact (Issue.reads_toJson i).read_text i.isWhole_toJson (by decide)

/-- A command with a quote in a variable and a directory, in settings with a language in capitals
and a list without extensions. -/
theorem ofJson_toJson_of_command :
    let command : Command :=
      ⟨"lint", ["{type}"], .ofList [("B", "\""), ("A", "")], some (.ofString "dir")⟩
    let settings : Settings := { Settings.default with
      locale := .ofCode "EN", cssLikeExt := [], command := some command }
    Settings.ofJson (Text.Utf8.encode settings.toJson.text) = .ok settings ∧
      Command.ofJson (Text.Utf8.encode command.toJson.text) = .ok command := by
  intro command settings
  have hcommand : command.IsReadable := by
    intro p hp
    cases hp
    rw [Path.text?_ofString]
    rfl
  refine ⟨ofJson_toJson.2.1 settings ⟨Locale.isCanonical_ofCode "EN", ?_⟩,
    ofJson_toJson.2.2.1 command hcommand⟩
  intro c hc
  cases hc
  exact hcommand

end Gutter

import Gutter.Proofs.Json.Changes
import Gutter.Settings.Json

/-!
# Settings on top of the defaults

A text that describes some settings changes these settings and no others, whatever the order of its
members and whatever else it holds.
-/

namespace Gutter

open Json

/-! ## Commands -/

namespace Command

/-- What a member of a command says. -/
inductive Part where
  | program (x : String)
  | args (xs : List String)
  | env (xs : List (String × String))
  | cwd (dir : Option String)

/-- How a part is told, and what it makes of a command. -/
def Part.change : Part → Change Command
  | .program x => .of "program" (.string x) fun c => { c with program := x }
  | .args xs => .of "args" (.texts xs) fun c => { c with args := xs }
  | .env xs => .of "env" (.object (xs.map fun x => (x.1, .string x.2))) fun c =>
      { c with env := .ofList xs }
  | .cwd dir => .of "cwd" (.optional (dir.map .string)) fun c =>
      { c with cwd := dir.map Path.ofString }

def keys : List String := ["program", "args", "env", "cwd"]

def ofParts (parts : List Part) : Command :=
  Change.applyAll (parts.map Part.change) (.ofProgram "")

/-- A draft describes a command. An object tells the program and any other parts, and a list tells
the parts in their order from the program on. -/
inductive DescribedBy : Command → Draft → Prop where
  | object {parts : List Part} {ms : List (Draft × Draft)}
      (hkeys : ((parts.map Part.change).map Change.key).Nodup)
      (hprogram : "program" ∈ (parts.map Part.change).map Change.key)
      (htold : Change.AreTold id keys (parts.map Part.change) ms) :
      DescribedBy (ofParts parts) (.object ms .closed)
  | list {parts : List Part} {ds : List Draft} (hne : parts ≠ [])
      (hkeys : (parts.map Part.change).map Change.key <+: keys)
      (htold : List.Forall₂ Change.IsTold (parts.map Part.change) ds) :
      DescribedBy (ofParts parts) (.list ds .closed)

theorem calls_shape : shape.Calls id := by
  refine Shape.calls_of fun f hf name => ?_
  have halias : f.alias? = none := by
    simp only [shape, List.mem_cons, List.not_mem_nil, or_false] at hf
    rcases hf with rfl | rfl | rfl | rfl <;> rfl
  rw [Shape.answers_iff, halias, or_iff_left nofun, id]

theorem Part.fits (p : Part) : p.change.Fits shape 1 := by
  cases p with
  | program x => exact Change.fits_of rfl (reads_field ((reads_text x).mono (Nat.zero_le 1)))
  | args xs => exact Change.fits_of rfl (reads_field (reads_texts xs))
  | env xs => exact Change.fits_of rfl (reads_field (reads_members fun x _ => reads_text x.2))
  | cwd dir =>
      have h : Reads (.optional (.textAs "path string")) 0 (.optional (dir.map .string)) dir :=
        reads_optional fun s _ => ⟨reads_textAs "path string" s, nofun⟩
      exact Change.fits_of rfl (reads_field (h.mono (Nat.zero_le 1)))

theorem Part.comm {p p' : Part} (h : p.change.key ≠ p'.change.key) (c : Command) :
    p.change.apply (p'.change.apply c) = p'.change.apply (p.change.apply c) := by
  cases p <;> cases p' <;> first | rfl | exact absurd rfl h

theorem accepts_of_describedBy {c : Command} {d : Draft} (h : c.DescribedBy d)
    (hskim : d.skim = .ok ()) : Accepts shape.reader 2 d c := by
  cases h with
  | @object parts ms hkeys hprogram htold =>
      refine Shape.accepts_of_areTold calls_shape ?_ ?_ hkeys ?_ htold (skim_of_mem_object hskim)
      · exact List.forall_mem_map.mpr fun p _ => p.fits
      · simp only [List.forall_mem_map]
        exact fun p _ p' _ hne c => Part.comm hne c
      · intro f hf hrefused
        simp only [shape, List.mem_cons, List.not_mem_nil, or_false] at hf
        rcases hf with rfl | rfl | rfl | rfl
        · exact hprogram
        all_goals cases hrefused
  | @list parts ds hne hkeys htold =>
      refine Shape.accepts_list (by decide) ?_ hkeys ?_ htold (skim_of_mem_list hskim)
      · exact List.forall_mem_map.mpr fun p _ => p.fits
      · -- only the program is needed, and it is the first field
        obtain ⟨p, parts, rfl⟩ := List.exists_cons_of_ne_nil hne
        intro f hf
        have hmem : f ∈ shape.fields.drop 1 := by
          rw [List.map_cons, List.length_cons, Nat.add_comm, ← List.drop_drop] at hf
          exact List.mem_of_mem_drop hf
        simp only [shape, List.drop_succ_cons, List.drop_zero, List.mem_cons, List.not_mem_nil,
          or_false] at hmem
        rcases hmem with rfl | rfl | rfl <;> rfl

end Command

/-! ## Settings -/

namespace Settings

/-- What a member of the settings says. -/
inductive Part where
  | locale (code : String)
  | severityLevel (n : UInt8)
  | jsLikeExt (exts : List String)
  | cssLikeExt (exts : List String)
  | htmlLikeExt (exts : List String)
  | errorColor (color : String)
  | warningColor (color : String)
  | debounceMs (n : UInt64)
  | evictionSlack (n : UInt64)
  | command (c : Option Command)

/-- How a part is told, and what it makes of the settings. -/
def Part.change : Part → Change Settings
  | .locale code => .of "locale" (.string code) fun s => { s with locale := .ofCode code }
  | .severityLevel n => .of "severityLevel" (.natural n.toNat) fun s =>
      { s with severityLevel := n }
  | .jsLikeExt exts => .of "jsLikeExt" (.texts exts) fun s => { s with jsLikeExt := exts }
  | .cssLikeExt exts => .of "cssLikeExt" (.texts exts) fun s => { s with cssLikeExt := exts }
  | .htmlLikeExt exts => .of "htmlLikeExt" (.texts exts) fun s => { s with htmlLikeExt := exts }
  | .errorColor color => .of "errorColor" (.string color) fun s => { s with errorColor := color }
  | .warningColor color => .of "warningColor" (.string color) fun s =>
      { s with warningColor := color }
  | .debounceMs n => .of "debounceMs" (.natural n.toNat) fun s => { s with debounceMs := n }
  | .evictionSlack n => .of "evictionSlack" (.natural n.toNat) fun s =>
      { s with evictionSlack := n }
  | .command c => ⟨"command", c.elim (· = Value.null.draft) Command.DescribedBy, fun s =>
      { s with command := c }⟩

def keys : List String :=
  ["locale", "severityLevel", "jsLikeExt", "cssLikeExt", "htmlLikeExt", "errorColor",
    "warningColor", "debounceMs", "evictionSlack", "command"]

/-- The setting that a name means: the level of severity has two names. -/
def meaning (name : String) : String := if name = "level" then "severityLevel" else name

theorem calls_shape : shape.Calls meaning := by
  refine Shape.calls_of fun f hf name => ?_
  simp only [shape, List.mem_cons, List.not_mem_nil, or_false] at hf
  by_cases hname : name = "level"
  · subst hname
    rcases hf with rfl | rfl | rfl | rfl | rfl | rfl | rfl | rfl | rfl | rfl <;> decide
  · have halias : f.alias? = none ∨ f.alias? = some "level" := by
      rcases hf with rfl | rfl | rfl | rfl | rfl | rfl | rfl | rfl | rfl | rfl <;>
        first | exact .inl rfl | exact .inr rfl
    have hne : f.alias? ≠ some name := by
      rcases halias with h | h
      · rw [h]
        nofun
      · rw [h]
        exact fun h => hname (Option.some.inj h).symm
    rw [Shape.answers_iff, or_iff_left hne, meaning, if_neg hname]

theorem accepts_command {c : Option Command} {d : Draft}
    (h : c.elim (· = Value.null.draft) Command.DescribedBy d) (hskim : d.skim = .ok ()) :
    Accepts (.optional Command.shape.reader) 2 d c := by
  intro depth hdepth
  cases c with
  | none =>
      cases h
      rfl
  | some c =>
      have hread := Command.accepts_of_describedBy h hskim hdepth
      cases h with
      | object | list =>
          rw [Reader.optional, hread, Except.map]
          intro hword
          cases hword

theorem Part.fits (p : Part) : p.change.Fits shape 2 := by
  cases p with
  | locale code | errorColor code | warningColor code =>
      exact Change.fits_of rfl (reads_field ((reads_text code).mono (Nat.zero_le 2)))
  | severityLevel n => exact Change.fits_of rfl (reads_field ((reads_byte n).mono (Nat.zero_le 2)))
  | jsLikeExt exts | cssLikeExt exts | htmlLikeExt exts =>
      exact Change.fits_of rfl (reads_field ((reads_texts exts).mono (Nat.le_succ 1)))
  | debounceMs n | evictionSlack n =>
      exact Change.fits_of rfl (reads_field ((reads_word64 _ n).mono (Nat.zero_le 2)))
  | command c =>
      refine ⟨_, rfl, fun d hd hskim depth hdepth => ?_⟩
      simp only [Field.of, accepts_command hd hskim hdepth, Except.map]
      rfl

theorem Part.comm {p p' : Part} (h : p.change.key ≠ p'.change.key) (s : Settings) :
    p.change.apply (p'.change.apply s) = p'.change.apply (p.change.apply s) := by
  cases p <;> cases p' <;> first | rfl | exact absurd rfl h

theorem accepts_of_areTold {parts : List Part} {ms : List (Draft × Draft)}
    (hkeys : ((parts.map Part.change).map Change.key).Nodup)
    (htold : Change.AreTold meaning keys (parts.map Part.change) ms)
    (hskim : ∀ m ∈ ms, m.2.skim = .ok ()) :
    Accepts shape.reader 3 (.object ms .closed)
      (Change.applyAll (parts.map Part.change) .default) := by
  refine Shape.accepts_of_areTold calls_shape ?_ ?_ hkeys ?_ htold hskim
  · exact List.forall_mem_map.mpr fun p _ => p.fits
  · simp only [List.forall_mem_map]
    exact fun p _ p' _ hne s => Part.comm hne s
  · intro f hf hrefused
    simp only [shape, List.mem_cons, List.not_mem_nil, or_false] at hf
    rcases hf with rfl | rfl | rfl | rfl | rfl | rfl | rfl | rfl | rfl | rfl <;> cases hrefused

/-- Settings are the defaults with the parts that are told in their places, a key means the same
under each of its names, and no key may stand twice. -/
theorem ofJson_overlay :
    (∀ (parts : List Part) (ms : List (Draft × Draft)) (text : List UInt8),
      SpellsPadded (.object ms .closed) text →
      ((parts.map Part.change).map Change.key).Nodup →
      Change.AreTold meaning keys (parts.map Part.change) ms →
      ofJson text = .ok (Change.applyAll (parts.map Part.change) .default)) ∧
    (∀ (ms ms' : List (Draft × Draft)) (text text' : List UInt8),
      SpellsPadded (.object ms .closed) text → SpellsPadded (.object ms' .closed) text' →
      List.Forall₂ (fun m m' => m.1.key.map meaning = m'.1.key.map meaning ∧ m.2 = m'.2) ms ms' →
      ofJson text = ofJson text') ∧
    ∀ (ms : List (Draft × Draft)) (text : List UInt8), SpellsPadded (.object ms .closed) text →
      Repeats meaning keys ms → ∃ e, ofJson text = .error e := by
  refine ⟨fun parts ms text htext hkeys htold => ?_, fun ms ms' text text' htext htext' hms => ?_,
    fun ms text htext hrepeats => ?_⟩
  · rw [ofJson, read_of_spells htext]
    exact accepts_of_areTold hkeys htold (skim_of_mem_object htext.skim) (by decide)
  · rw [ofJson, ofJson, read_of_spells htext, read_of_spells htext']
    exact Shape.reader_congr calls_shape hms depthLimit .closed
  · rw [ofJson, read_of_spells htext]
    exact Shape.exists_error_of_repeats calls_shape hrepeats .closed

def scattered (level : String) : List (String × Value) :=
  [("x", .list [.null]), ("command", .object [("env", .object []), ("program", .string "lint")]),
    (level, .natural 2), ("locale", .string "en")]

/-- Scattered members change three settings under either name of the level, and under both names at
once they are refused. -/
theorem ofJson_overlay_of_scattered :
    ofJson (Text.Utf8.encode (Value.object (scattered "level")).text) =
        .ok { Settings.default with
          locale := .ofCode "en", severityLevel := 2, command := some (.ofProgram "lint") } ∧
      ofJson (Text.Utf8.encode (Value.object (scattered "level")).text) =
        ofJson (Text.Utf8.encode (Value.object (scattered "severityLevel")).text) ∧
      ∃ e, ofJson (Text.Utf8.encode
        (Value.object (("level", .natural 2) :: scattered "severityLevel")).text) = .error e := by
  have hwhole : ∀ level, (Value.object (scattered level)).IsWhole := by
    simp [scattered, UInt64.size, Value.IsWhole, Value.MembersAreWhole, Value.AreWhole]
  have hcommand : Command.DescribedBy (.ofParts [.env [], .program "lint"])
      (Value.object [("env", .object []), ("program", .string "lint")]).draft :=
    .object (by decide) (by decide) ⟨_, [], .of_eq (List.append_nil _).symm,
      .cons ⟨"env", rfl, rfl, rfl⟩ (.cons ⟨"program", rfl, rfl, rfl⟩ .nil), List.forall_mem_nil _⟩
  refine ⟨?_, ?_, ?_⟩
  · have htold : Change.AreTold meaning keys
        ([.locale "en", .severityLevel 2, .command (some (.ofProgram "lint"))].map Part.change)
        (Value.memberDrafts (scattered "level")) := by
      refine ⟨(Value.memberDrafts (scattered "level")).tail.reverse,
        Value.memberDrafts [("x", .list [.null])], (List.reverse_perm _).symm, ?_, ?_⟩
      · exact .cons ⟨"locale", rfl, rfl, rfl⟩ <| .cons ⟨"level", rfl, rfl, rfl⟩ <|
          .cons ⟨"command", rfl, rfl, hcommand⟩ .nil
      · exact List.forall_mem_singleton.mpr ⟨"x", rfl, by decide⟩
    exact ofJson_overlay.1 _ _ _ (Value.spelled_text (hwhole "level")) (by decide) htold
  · exact ofJson_overlay.2.1 _ _ _ _ (Value.spelled_text (hwhole "level"))
      (Value.spelled_text (hwhole "severityLevel"))
      (.cons ⟨rfl, rfl⟩ <| .cons ⟨rfl, rfl⟩ <| .cons ⟨rfl, rfl⟩ <| .cons ⟨rfl, rfl⟩ .nil)
  · have htwice : (Value.object (("level", .natural 2) :: scattered "severityLevel")).IsWhole :=
      Value.isWhole_object.mpr (List.forall_mem_cons.mpr
        ⟨by simp [UInt64.size], Value.isWhole_object.mp (hwhole "severityLevel")⟩)
    have hsub : (Value.memberDrafts [("level", .natural 2), ("severityLevel", .natural 2)]).Sublist
        (Value.memberDrafts (("level", .natural 2) :: scattered "severityLevel")) :=
      .cons_cons _ (.cons _ (.cons _ (.cons_cons _ (List.nil_sublist _))))
    exact ofJson_overlay.2.2 _ _ (Value.spelled_text htwice)
      ⟨_, _, hsub, "level", "severityLevel", rfl, rfl, rfl, by decide⟩

end Settings

end Gutter

import Gutter.Linter.Report
import Gutter.Proofs.Json.Members

/-!
# What a report is read as

Which objects describe a record, and what is made of a text that lists records, files or other
objects.
-/

namespace Gutter

open Json

/-! ## Records -/

namespace Record

def members (r : Record) : List (String × Value) :=
  [("line", .natural r.line.toNat), ("column", .natural r.column.toNat),
    ("message", .string r.message), ("rule", .optional (r.rule.map .string)),
    ("severity", .natural r.severity.toNat)]

def defaults : List (String × Value) :=
  [("column", .natural 0), ("rule", .null), ("severity", .natural 0)]

/-- The members of an object describe the record. -/
def DescribedBy (r : Record) (ms : List (String × Value)) : Prop :=
  Carries ms r.members defaults

theorem toJson_eq (r : Record) : r.toJson = .object r.members := rfl

end Record

namespace Report

variable {α : Type} {v : Value} {ms : List (String × Value)}

/-- A field is read from the one member that has its name, or stands at its initial value. -/
theorem field?_eq_some_iff {name : String} {initial : Option α} {reader : Value → Option α}
    {a : α} : field? name initial reader ms = some a ↔
      (∃ v, named name ms = [(name, v)] ∧ reader v = some a) ∨
        named name ms = [] ∧ initial = some a := by
  rw [field?, ← named]
  have hnames : ∀ m ∈ named name ms, m.1 = name := fun m hm =>
    of_decide_eq_true (List.mem_filter.mp hm).2
  generalize named name ms = found at hnames ⊢
  rcases found with _ | ⟨⟨k, v⟩, _ | ⟨_, _⟩⟩
  · simp
  · obtain rfl : k = name := hnames (k, v) List.mem_cons_self
    simp
  · simp

theorem natural?_eq_some_iff {bound n : Nat} :
    natural? bound v = some n ↔ v = .natural n ∧ n < bound := by
  unfold natural?
  split
  case h_1 i =>
    rw [Value.natural, Value.number.injEq, Number.integer.injEq, Option.ite_none_right_eq_some]
    grind
  case h_2 h =>
    constructor
    · intro hnone
      cases hnone
    · rintro ⟨rfl, -⟩
      exact absurd rfl (h n)

theorem word64?_eq_some_iff {n : UInt64} :
    word64? v = some n ↔ v = .natural n.toNat := by
  rw [word64?, Option.map_eq_some_iff]
  constructor
  · rintro ⟨k, hk, rfl⟩
    obtain ⟨rfl, hlt⟩ := natural?_eq_some_iff.mp hk
    rw [UInt64.toNat_ofNat_of_lt' hlt]
  · rintro rfl
    exact ⟨n.toNat, natural?_eq_some_iff.mpr ⟨rfl, n.toNat_lt_size⟩, UInt64.ofNat_toNat⟩

theorem byte?_eq_some_iff {n : UInt8} : byte? v = some n ↔ v = .natural n.toNat := by
  rw [byte?, Option.map_eq_some_iff]
  constructor
  · rintro ⟨k, hk, rfl⟩
    obtain ⟨rfl, hlt⟩ := natural?_eq_some_iff.mp hk
    rw [UInt8.toNat_ofNat_of_lt' hlt]
  · rintro rfl
    exact ⟨n.toNat, natural?_eq_some_iff.mpr ⟨rfl, n.toNat_lt_size⟩, UInt8.ofNat_toNat⟩

theorem text?_eq_some_iff {s : String} : text? v = some s ↔ v = .string s := by
  cases v <;> simp [text?]

theorem textOrNull?_eq_some_iff {s : Option String} :
    textOrNull? v = some s ↔ v = .optional (s.map .string) := by
  cases v <;> cases s <;> simp [textOrNull?, Value.optional]

theorem field?_eq_some_iff_named {name : String} {initial : Option α} {reader : Value → Option α}
    {a : α} (hreader : ∀ w, reader w = some a ↔ w = v) :
    field? name initial reader ms = some a ↔
      named name ms = [(name, v)] ∨ named name ms = [] ∧ initial = some a := by
  simp only [field?_eq_some_iff, hreader, exists_eq_right]

theorem record?_object_eq_some_iff_fields {r : Record} :
    record? (.object ms) = some r ↔
      field? "line" none word64? ms = some r.line ∧
      field? "column" (some 0) word64? ms = some r.column ∧
      field? "message" none text? ms = some r.message ∧
      field? "rule" (some none) textOrNull? ms = some r.rule ∧
      field? "severity" (some 0) byte? ms = some r.severity := by
  obtain ⟨line, column, message, rule, severity⟩ := r
  simp only [record?, members?, bind, Option.bind_some, Option.bind_eq_some_iff, pure,
    Option.some.injEq, Record.mk.injEq]
  grind

/-- An object is read as the record that it describes, if there is one. -/
theorem record?_object_eq_some_iff {r : Record} :
    record? (.object ms) = some r ↔ r.DescribedBy ms := by
  have hkeys : (r.members.map Prod.fst).Nodup := by simp [Record.members]
  rw [Record.DescribedBy, carries_iff hkeys, record?_object_eq_some_iff_fields,
    field?_eq_some_iff_named fun _ => word64?_eq_some_iff,
    field?_eq_some_iff_named fun _ => word64?_eq_some_iff,
    field?_eq_some_iff_named fun _ => text?_eq_some_iff,
    field?_eq_some_iff_named fun _ => textOrNull?_eq_some_iff,
    field?_eq_some_iff_named fun _ => byte?_eq_some_iff]
  have hrule : Value.optional (r.rule.map .string) = .null ↔ none = r.rule := by
    cases r.rule <;> simp [Value.optional]
  simp [Record.members, Record.defaults, Value.natural_inj, ← UInt64.toNat_inj, ← UInt8.toNat_inj,
    eq_comm (a := 0), hrule, and_comm]

/-! ## Lists of objects -/

theorem mapM_eq_some_iff {β : Type} {f : α → Option β} {xs : List α} {ys : List β} :
    xs.mapM f = some ys ↔ List.Forall₂ (fun y x => f x = some y) ys xs := by
  induction xs generalizing ys with
  | nil => simp [eq_comm]
  | cons x xs ih =>
      rw [List.mapM_cons, List.forall₂_cons_right_iff]
      simp only [bind, pure, Option.bind_eq_some_iff, ih, Option.some.injEq]
      grind

theorem exists_forall₂ {β : Type} {R : α → β → Prop} {ys : List β} (h : ∀ y ∈ ys, ∃ x, R x y) :
    ∃ xs, List.Forall₂ R xs ys := by
  induction ys with
  | nil => exact ⟨[], .nil⟩
  | cons y ys ih =>
      obtain ⟨x, hx⟩ := h y List.mem_cons_self
      obtain ⟨xs, hxs⟩ := ih fun y hy => h y (List.mem_cons_of_mem _ hy)
      exact ⟨x :: xs, .cons hx hxs⟩

variable {records : List Record} {objects files : List (List (String × Value))}
  {file : List (String × Value)} {bytes : List UInt8}

theorem records?_objects_eq_some_iff :
    records? (.list (objects.map .object)) = some records ↔
      List.Forall₂ Record.DescribedBy records objects := by
  simp only [records?, mapM_eq_some_iff, List.forall₂_map_right_iff, record?_object_eq_some_iff]

/-- The members of an object describe a file with the records: among them is one list `errors` that
holds them, and none is named `line`. -/
def IsFile (records : List Record) (ms : List (String × Value)) : Prop :=
  "line" ∉ ms.map Prod.fst ∧ ∃ objects, List.Forall₂ Record.DescribedBy records objects ∧
    Carries ms [("errors", .list (objects.map .object))] []

theorem file?_of_isFile (h : IsFile records ms) : file? (.object ms) = some records := by
  obtain ⟨-, objects, hrecords, hcarries⟩ := h
  rw [carries_iff (by simp), List.forall_mem_singleton] at hcarries
  obtain hnamed | ⟨habsurd, -⟩ := hcarries
  · exact field?_eq_some_iff.mpr
      (.inl ⟨_, hnamed, records?_objects_eq_some_iff.mpr hrecords⟩)
  · exact absurd habsurd List.not_mem_nil

theorem line_mem_of_describedBy {r : Record} (h : r.DescribedBy ms) :
    "line" ∈ ms.map Prod.fst := by
  obtain ⟨own, extra, hperm, -, hneeded, -⟩ := h
  have hline : ("line", Value.natural r.line.toNat) ∈ own :=
    hneeded _ List.mem_cons_self (by simp [Record.defaults])
  exact List.mem_map_of_mem (hperm.mem_iff.mpr (List.mem_append_left extra hline))

/-- A list whose first object is a file is not read as records, but as this file. -/
theorem ofValue?_of_isFile (hfile : IsFile records file)
    (hfiles : ∀ f ∈ files, ∃ rs, IsFile rs f) :
    ofValue? (.list ((file :: files).map .object)) = some records := by
  have hrecords : records? (.list ((file :: files).map .object)) = none := by
    refine Option.eq_none_iff_forall_ne_some.mpr fun rs hrs => ?_
    cases records?_objects_eq_some_iff.mp hrs with
    | cons hr _ => exact hfile.1 (line_mem_of_describedBy hr)
  obtain ⟨rest, hrest⟩ : ∃ rest, (files.map Value.object).mapM file? = some rest := by
    obtain ⟨rest, hrest⟩ := exists_forall₂ hfiles
    refine ⟨rest, mapM_eq_some_iff.mpr (List.forall₂_map_right_iff.mpr ?_)⟩
    exact hrest.imp fun _ _ => file?_of_isFile
  rw [ofValue?, hrecords]
  simp [firstFile?, file?_of_isFile hfile, hrest]

theorem firstFile?_of_objects (h : ∀ ms ∈ objects, "errors" ∉ ms.map Prod.fst) :
    firstFile? (.list (objects.map .object)) = some [] := by
  have hfiles : (objects.map Value.object).mapM file? = some (objects.map fun _ => []) := by
    rw [mapM_eq_some_iff, List.forall₂_map_left_iff, List.forall₂_map_right_iff,
      List.forall₂_same]
    exact fun ms hms => field?_eq_some_iff.mpr (.inr ⟨named_eq_nil (h ms hms), rfl⟩)
  rw [firstFile?, hfiles]
  cases objects <;> rfl

/-! ## Texts -/

/-- No value starts in a blank text. -/
theorem exists_ofBytes_eq_gap (h : isBlank bytes = true) :
    ∃ fault, Draft.ofBytes bytes = (.gap fault, none) := by
  rw [Draft.ofBytes, Draft.value]
  cases hskip : skipGap bytes with
  | nil => exact ⟨_, rfl⟩
  | cons b rest =>
      have hb : isBlankByte b = true :=
        List.all_eq_true.mp h b ((List.dropWhile_sublist _).subset
          (show b ∈ skipGap bytes from hskip ▸ List.mem_cons_self))
      have hgap : ¬ isGap b = true := by
        have hhead := List.head?_dropWhile_not isGap bytes
        rw [← skipGap, hskip] at hhead
        simpa using hhead
      -- of the blank bytes, only the form feed is no gap
      obtain rfl : b = 0x0C := by
        simp only [isBlankByte, isGap, Bool.or_eq_true, decide_eq_true_eq] at hb hgap
        grind
      exact ⟨_, rfl⟩

theorem isBlank_of_ofBytes (h : Value.ofBytes bytes = .ok v) : isBlank bytes = false := by
  by_contra hblank
  obtain ⟨fault, hgap⟩ := exists_ofBytes_eq_gap (by simpa using hblank)
  rw [Value.ofBytes, Json.read, hgap] at h
  cases h

theorem ofBytes_of_value (h : Value.ofBytes bytes = .ok v) {records : List Record}
    (hv : ofValue? v = some records) : ofBytes bytes = .ok records := by
  obtain ⟨d, hd, hread⟩ := exists_draft_of_read h
  rw [ofBytes, if_neg (by simp [isBlank_of_ofBytes h]), hread, reader, hd]
  simp only [bind, Except.bind, hv]

/-- A list of objects without `errors` is never refused. It is read as one record for each object
or, if one of them describes no record, as a report without records. -/
theorem objects_accepted (h : Value.ofBytes bytes = .ok (.list (objects.map .object)))
    (herrors : ∀ ms ∈ objects, "errors" ∉ ms.map Prod.fst) :
    (∃ records, List.Forall₂ Record.DescribedBy records objects ∧
        ofBytes bytes = .ok records) ∨
      (∃ ms ∈ objects, ∀ r : Record, ¬ r.DescribedBy ms) ∧ ofBytes bytes = .ok [] := by
  cases hrecords : records? (.list (objects.map .object)) with
  | some records =>
      exact .inl ⟨records, records?_objects_eq_some_iff.mp hrecords,
        ofBytes_of_value h (by rw [ofValue?, hrecords])⟩
  | none =>
      have hclean : ofValue? (.list (objects.map .object)) = some [] := by
        rw [ofValue?, hrecords]
        exact firstFile?_of_objects herrors
      refine .inr ⟨?_, ofBytes_of_value h hclean⟩
      by_contra! hall
      obtain ⟨records, hall⟩ := exists_forall₂ hall
      rw [records?_objects_eq_some_iff.mpr hall] at hrecords
      cases hrecords

def severe : List (String × Value) :=
  [("line", .natural 1), ("message", .string "m"), ("severity", .natural 300)]

theorem not_describedBy_severe (r : Record) : ¬ r.DescribedBy severe := fun h => by
  have hread := record?_object_eq_some_iff.mpr h
  cases hread

/-- A report of one record that is no record passes as a report without records. -/
theorem objects_accepted_of_severe :
    Value.ofBytes (Text.Utf8.encode (Value.list [.object severe]).text) =
        .ok (.list [.object severe]) ∧
      ("line" ∈ severe.map Prod.fst ∧ "message" ∈ severe.map Prod.fst ∧
        "errors" ∉ severe.map Prod.fst) ∧
      ofBytes (Text.Utf8.encode (Value.list [.object severe]).text) = .ok [] := by
  have hvalue := Value.ofBytes_of_spelled (v := .list [.object severe])
    (Value.spelled_text (by simp [severe, UInt64.size])) (by decide)
  have hnames : "line" ∈ severe.map Prod.fst ∧ "message" ∈ severe.map Prod.fst ∧
      "errors" ∉ severe.map Prod.fst := by decide
  refine ⟨hvalue, hnames, ?_⟩
  have hlist : Value.ofBytes (Text.Utf8.encode (Value.list [.object severe]).text) =
      .ok (.list ([severe].map .object)) := hvalue
  rcases objects_accepted hlist (by simpa using hnames.2.2) with
    ⟨records, hrecords, -⟩ | ⟨-, hclean⟩
  · cases hrecords with
    | cons hr _ => exact absurd hr (not_describedBy_severe _)
  · exact hclean

/-! ## What was reported -/

theorem describedBy_members (r : Record) : r.DescribedBy r.members :=
  ⟨r.members, [], by simp, .refl _, fun _ hm _ => hm, by simp⟩

/-- Records that are written spell the list of their members. -/
theorem spelled_records (records : List Record) :
    (Value.list ((records.map Record.members).map .object)).Spelled
      (Text.Utf8.encode (Value.list (records.map Record.toJson)).text) := by
  have hlist : (records.map Record.members).map Value.object = records.map Record.toJson :=
    List.map_map
  rw [hlist]
  refine Value.spelled_text (Value.isWhole_list.mpr fun v hv => ?_)
  obtain ⟨r, -, rfl⟩ := List.mem_map.mp hv
  rw [r.toJson_eq, Value.isWhole_object]
  have hseverity : r.severity.toNat < UInt64.size :=
    Nat.lt_trans r.severity.toNat_lt_size (by decide)
  simp [Record.members, r.line.toNat_lt_size, r.column.toNat_lt_size, hseverity,
    Value.isWhole_optional r.rule Value.isWhole_string]

theorem nesting_records (records : List Record) :
    (Value.list ((records.map Record.members).map .object)).nesting < depthLimit := by
  rw [Value.nesting, List.map_map]
  have hitems : Value.nestingItems (records.map (Value.object ∘ Record.members)) ≤ 1 := by
    refine Value.nestingItems_le.mpr fun v hv => ?_
    obtain ⟨r, -, rfl⟩ := List.mem_map.mp hv
    rw [Function.comp_apply, Value.nesting, Nat.succ_le_succ_iff, Value.nestingMembers_le]
    cases hrule : r.rule <;> simp [Record.members, Value.natural, Value.optional, Value.nesting, hrule]
  exact Nat.lt_of_le_of_lt (Nat.succ_le_succ hitems) (by decide)

/-- Decoding recovers what was reported: records from what is written for them, records from any
text that spells objects that describe them, and the records of the first file from any text that
spells a list of files. -/
theorem ofBytes_recovers :
    (∀ records : List Record,
      ofBytes (Text.Utf8.encode (Value.list (records.map Record.toJson)).text) = .ok records) ∧
    (∀ records objects text, List.Forall₂ Record.DescribedBy records objects →
      (Value.list (objects.map .object)).Spelled text →
      (Value.list (objects.map .object)).nesting < depthLimit → ofBytes text = .ok records) ∧
    ∀ records file files text, IsFile records file → (∀ f ∈ files, ∃ rs, IsFile rs f) →
      (Value.list ((file :: files).map .object)).Spelled text →
      (Value.list ((file :: files).map .object)).nesting < depthLimit →
      ofBytes text = .ok records := by
  have hrecords : ∀ records objects text, List.Forall₂ Record.DescribedBy records objects →
      (Value.list (objects.map .object)).Spelled text →
      (Value.list (objects.map .object)).nesting < depthLimit → ofBytes text = .ok records := by
    intro records objects text hdescribed hspelled hnesting
    refine ofBytes_of_value (Value.ofBytes_of_spelled hspelled hnesting) ?_
    rw [ofValue?, records?_objects_eq_some_iff.mpr hdescribed]
  refine ⟨fun records => ?_, hrecords, ?_⟩
  · exact hrecords records (records.map Record.members) _
      (List.forall₂_map_right_iff.mpr (List.forall₂_same.mpr fun r _ => describedBy_members r))
      (spelled_records records) (nesting_records records)
  · intro records file files text hfile hfiles hspelled hnesting
    exact ofBytes_of_value (Value.ofBytes_of_spelled hspelled hnesting)
      (ofValue?_of_isFile hfile hfiles)

def scattered : List (String × Value) :=
  [("errors", .list []), ("message", .string "m"), ("severity", .natural 2), ("line", .natural 7)]

/-- Scattered members, alone between gaps and in a file that has a path, still give the record. -/
theorem ofBytes_recovers_scattered :
    ofBytes ([0x20] ++ (Value.bytesOf (Value.list [.object scattered]).write ++ [0x0A])) =
        .ok [⟨7, 0, "m", none, 2⟩] ∧
      ofBytes (Text.Utf8.encode (Value.list
        [.object [("path", .string "a.js"), ("errors", .list [.object scattered])]]).text) =
        .ok [⟨7, 0, "m", none, 2⟩] := by
  have hdescribed : List.Forall₂ Record.DescribedBy [⟨7, 0, "m", none, 2⟩] [scattered] :=
    .cons (record?_object_eq_some_iff.mp rfl) .nil
  have hfile : IsFile [⟨7, 0, "m", none, 2⟩]
      [("path", .string "a.js"), ("errors", .list [.object scattered])] := by
    refine ⟨by decide, [scattered], hdescribed, (carries_iff (by simp)).mpr ?_⟩
    exact List.forall_mem_singleton.mpr (.inl rfl)
  constructor
  · refine ofBytes_recovers.2.1 _ [scattered] _ hdescribed ?_ (by decide)
    refine .gaps (by simp [IsGap, isGap]) (Value.spells_write _ ?_) (by simp [IsGap, isGap])
    simp [scattered, UInt64.size]
  · refine ofBytes_recovers.2.2 _ _ [] _ hfile (by simp) (Value.spelled_text ?_) (by decide)
    simp [scattered, UInt64.size]

end Report

end Gutter

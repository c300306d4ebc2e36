import Gutter.Path
import Mathlib.Data.List.Basic

/-!
# File names

A path and the text that spells it, and which name the file at a path has: the last part between
slashes that is neither empty nor a dot, unless it leads up.
-/

namespace Gutter

/-! ## Text -/

theorem Text.Utf8.decode?_eq_some_iff {bytes : List UInt8} {s : String} :
    decode? bytes = some s ↔ bytes = encode s := by
  constructor
  · intro h
    rw [decode?, String.fromUTF8?] at h
    split at h
    · cases h
      rfl
    · cases h
  · rintro rfl
    exact decode?_encode s

namespace Path

theorem ofString_of_text? {p : Path} {s : String} (h : p.text? = some s) : ofString s = p :=
  congrArg Path.mk (Text.Utf8.decode?_eq_some_iff.mp h).symm

theorem text?_ofString (s : String) : (ofString s).text? = some s :=
  Text.Utf8.decode?_encode s

theorem ofString_display {p : Path} (h : p.text?.isSome) : ofString p.display = p := by
  obtain ⟨s, hs⟩ := Option.isSome_iff_exists.mp h
  rw [← ofString_of_text? hs]
  exact congrArg ofString (Text.Utf8.decodeLossy_encode s)

/-! ## The parts between slashes -/

variable {x y name piece bytes : List UInt8} {l r : List (List UInt8)}

@[simp] theorem pieces_slash (rest : List UInt8) : pieces (0x2F :: rest) = [] :: pieces rest := by
  rw [pieces, if_pos rfl]

theorem pieces_ne_nil (bytes : List UInt8) : pieces bytes ≠ [] := by
  cases bytes with
  | nil => exact List.cons_ne_nil _ _
  | cons b rest =>
      rw [pieces]
      split
      · exact List.cons_ne_nil _ _
      · split <;> exact List.cons_ne_nil _ _

theorem pieces_cons {b : UInt8} {rest : List UInt8} (hb : b ≠ 0x2F)
    (h : pieces rest = piece :: l) : pieces (b :: rest) = (b :: piece) :: l := by
  rw [pieces, if_neg hb, h]

theorem exists_pieces_cons {b : UInt8} (hb : b ≠ 0x2F) (rest : List UInt8) :
    ∃ piece l, pieces rest = piece :: l ∧ pieces (b :: rest) = (b :: piece) :: l := by
  obtain ⟨piece, l, h⟩ := List.exists_cons_of_ne_nil (pieces_ne_nil rest)
  exact ⟨piece, l, h, pieces_cons hb h⟩

theorem pieces_append_slash (x y : List UInt8) :
    pieces (x ++ 0x2F :: y) = pieces x ++ pieces y := by
  induction x with
  | nil => exact pieces_slash y
  | cons b x ih =>
      by_cases hb : b = 0x2F
      · subst hb
        rw [List.cons_append, pieces_slash, pieces_slash, ih, List.cons_append]
      · obtain ⟨piece, l, hx, hbx⟩ := exists_pieces_cons hb x
        rw [hx, List.cons_append] at ih
        rw [List.cons_append, pieces_cons hb ih, hbx, List.cons_append]

theorem pieces_eq_singleton_iff : pieces bytes = [name] ↔ bytes = name ∧ 0x2F ∉ name := by
  induction bytes generalizing name with
  | nil =>
      constructor
      · intro h
        cases h
        exact ⟨rfl, List.not_mem_nil⟩
      · rintro ⟨rfl, -⟩
        rfl
  | cons b rest ih =>
      by_cases hb : b = 0x2F
      · subst hb
        simp only [pieces_slash, List.cons.injEq, pieces_ne_nil, and_false, false_iff, not_and]
        rintro rfl
        simp
      · obtain ⟨piece, l, hrest, hpieces⟩ := exists_pieces_cons hb rest
        rw [hpieces]
        constructor
        · intro h
          obtain ⟨rfl, rfl⟩ := List.cons_eq_cons.mp h
          obtain ⟨rfl, hslash⟩ := ih.mp hrest
          exact ⟨rfl, by simp [Ne.symm hb, hslash]⟩
        · rintro ⟨rfl, hslash⟩
          rw [List.mem_cons, not_or] at hslash
          rw [ih.mpr ⟨rfl, hslash.2⟩] at hrest
          obtain ⟨rfl, rfl⟩ := List.cons_eq_cons.mp hrest
          rfl

/-- Where the parts are divided stands a slash. -/
theorem exists_of_pieces_eq_append (hl : l ≠ []) (hr : r ≠ []) (h : pieces bytes = l ++ r) :
    ∃ x y, bytes = x ++ 0x2F :: y ∧ pieces x = l ∧ pieces y = r := by
  obtain ⟨first, l, rfl⟩ := List.exists_cons_of_ne_nil hl
  induction bytes generalizing first l with
  | nil =>
      obtain ⟨-, happend⟩ := List.cons_eq_cons.mp h
      exact absurd (List.append_eq_nil_iff.mp happend.symm).2 hr
  | cons b rest ih =>
      by_cases hb : b = 0x2F
      · subst hb
        rw [pieces_slash, List.cons_append] at h
        obtain ⟨rfl, hrest⟩ := List.cons_eq_cons.mp h
        cases l with
        | nil => exact ⟨[], rest, rfl, rfl, hrest⟩
        | cons second l =>
            obtain ⟨x, y, rfl, hx, hy⟩ := ih second l (List.cons_ne_nil _ _) hrest
            exact ⟨0x2F :: x, y, rfl, by rw [pieces_slash, hx], hy⟩
      · obtain ⟨piece, more, hrest, hpieces⟩ := exists_pieces_cons hb rest
        rw [hpieces, List.cons_append] at h
        obtain ⟨rfl, rfl⟩ := List.cons_eq_cons.mp h
        obtain ⟨x, y, rfl, hx, hy⟩ := ih piece l (List.cons_ne_nil _ _) hrest
        exact ⟨b :: x, y, rfl, pieces_cons hb hx, hy⟩

/-! ## What follows the file name -/

/-- Bytes that add no step to a path: slashes, each perhaps with a dot. -/
inductive Trailing : List UInt8 → Prop where
  | nil : Trailing []
  | slash {rest : List UInt8} : Trailing rest → Trailing (0x2F :: rest)
  | dot {rest : List UInt8} : Trailing rest → Trailing (0x2F :: 0x2E :: rest)

namespace Component

theorem ofPiece?_eq_none_iff : ofPiece? piece = none ↔ piece = [] ∨ piece = [0x2E] := by
  rw [ofPiece?]
  split
  · next h => simpa using h
  · next h =>
      have hne : ¬ (piece = [] ∨ piece = [0x2E]) := by simpa using h
      split <;> simp only [reduceCtorEq, hne]

/-- A part that is a step by name is this name. -/
theorem ofPiece?_eq_normal_iff : ofPiece? piece = some (.normal name) ↔
    piece = name ∧ name ≠ [] ∧ name ≠ [0x2E] ∧ name ≠ [0x2E, 0x2E] := by
  constructor
  · intro h
    rw [ofPiece?] at h
    split at h
    · cases h
    · next hnot =>
        split at h
        · cases h
        · next hparent =>
            cases h
            have hne : ¬ (name = [] ∨ name = [0x2E]) := by simpa using hnot
            exact ⟨rfl, fun h => hne (.inl h), fun h => hne (.inr h), hparent⟩
  · rintro ⟨rfl, hnil, hdot, hparent⟩
    simp [ofPiece?, hnil, hdot, hparent]

end Component

/-- Behind whatever stands before them, trailing bytes add parts that count for nothing. -/
theorem Trailing.exists_pieces {tail : List UInt8} (h : Trailing tail) :
    ∃ more, (∀ piece ∈ more, Component.ofPiece? piece = none) ∧
      ∀ x, pieces (x ++ tail) = pieces x ++ more := by
  induction h with
  | nil => exact ⟨[], List.forall_mem_nil _, fun x => by rw [List.append_nil, List.append_nil]⟩
  | slash _ ih =>
      obtain ⟨more, hmore, hpieces⟩ := ih
      refine ⟨[] :: more, List.forall_mem_cons.mpr ⟨rfl, hmore⟩, fun x => ?_⟩
      have hrest := hpieces []
      rw [List.nil_append] at hrest
      rw [pieces_append_slash, hrest]
      rfl
  | dot _ ih =>
      obtain ⟨more, hmore, hpieces⟩ := ih
      refine ⟨[0x2E] :: more, List.forall_mem_cons.mpr ⟨rfl, hmore⟩, fun x => ?_⟩
      have hrest := hpieces [0x2E]
      rw [List.singleton_append] at hrest
      rw [pieces_append_slash, hrest]
      rfl

theorem Trailing.of_pieces (hpiece : Component.ofPiece? piece = none)
    (hr : ∀ q ∈ r, Component.ofPiece? q = none) (h : pieces bytes = piece :: r) :
    Trailing (0x2F :: bytes) := by
  induction r generalizing piece bytes with
  | nil =>
      obtain ⟨rfl, -⟩ := pieces_eq_singleton_iff.mp h
      obtain rfl | rfl := Component.ofPiece?_eq_none_iff.mp hpiece
      · exact .slash .nil
      · exact .dot .nil
  | cons q r ih =>
      obtain ⟨hq, hr⟩ := List.forall_mem_cons.mp hr
      obtain ⟨x, y, rfl, hx, hy⟩ := exists_of_pieces_eq_append (l := [piece])
        (List.cons_ne_nil _ _) (List.cons_ne_nil _ _) h
      obtain ⟨rfl, -⟩ := pieces_eq_singleton_iff.mp hx
      have hrest : Trailing (0x2F :: y) := ih hq hr hy
      obtain rfl | rfl := Component.ofPiece?_eq_none_iff.mp hpiece
      · exact .slash hrest
      · exact .dot hrest

/-! ## The file name -/

/-- A path ends in a name: it is the first or follows a slash, and nothing that counts comes after
it. -/
structure IsNamed (p : Path) (name : List UInt8) : Prop where
  place : ∃ dir tail, p.bytes = dir ++ name ++ tail ∧ (∀ b ∈ dir.getLast?, b = 0x2F) ∧
    Trailing tail
  slash : 0x2F ∉ name
  step : name ≠ [] ∧ name ≠ [0x2E] ∧ name ≠ [0x2E, 0x2E]

/-- The file name is the last part that counts. -/
theorem fileName?_eq_some_iff {p : Path} : p.fileName? = some name ↔
    ∃ l r, pieces p.bytes = l ++ name :: r ∧ Component.ofPiece? name = some (.normal name) ∧
      ∀ piece ∈ r, Component.ofPiece? piece = none := by
  have hlast : p.fileName? = some name ↔
      ((pieces p.bytes).filterMap Component.ofPiece?).getLast? = some (.normal name) := by
    rw [fileName?, components, List.getLast?_append]
    cases ((pieces p.bytes).filterMap Component.ofPiece?).getLast? with
    | some c => cases c <;> simp
    | none =>
        split
        · next c hstart =>
            split at hstart <;> simp at hstart
        · simp
  rw [hlast, List.getLast?_filterMap, List.findSome?_eq_some_iff]
  constructor
  · rintro ⟨r, piece, l, hpieces, hpiece, hr⟩
    obtain ⟨rfl, -⟩ := Component.ofPiece?_eq_normal_iff.mp hpiece
    refine ⟨l.reverse, r.reverse, ?_, hpiece, fun q hq => hr q (List.mem_reverse.mp hq)⟩
    rw [← List.reverse_reverse (pieces p.bytes), hpieces]
    simp
  · rintro ⟨l, r, hpieces, hname, hr⟩
    refine ⟨r.reverse, name, l.reverse, ?_, hname, fun q hq => hr q (List.mem_reverse.mp hq)⟩
    rw [hpieces]
    simp

theorem isNamed_of_pieces (dir : List UInt8) (hdir : ∀ b ∈ dir.getLast?, b = 0x2F)
    (hname : Component.ofPiece? name = some (.normal name))
    (hr : ∀ piece ∈ r, Component.ofPiece? piece = none) (h : pieces bytes = name :: r) :
    IsNamed ⟨dir ++ bytes⟩ name := by
  obtain ⟨-, hstep⟩ := Component.ofPiece?_eq_normal_iff.mp hname
  cases r with
  | nil =>
      obtain ⟨rfl, hslash⟩ := pieces_eq_singleton_iff.mp h
      exact ⟨⟨dir, [], (List.append_nil _).symm, hdir, .nil⟩, hslash, hstep⟩
  | cons q r =>
      obtain ⟨hq, hr⟩ := List.forall_mem_cons.mp hr
      obtain ⟨x, y, rfl, hx, hy⟩ := exists_of_pieces_eq_append (l := [name])
        (List.cons_ne_nil _ _) (List.cons_ne_nil _ _) h
      obtain ⟨rfl, hslash⟩ := pieces_eq_singleton_iff.mp hx
      exact ⟨⟨dir, 0x2F :: y, (List.append_assoc _ _ _).symm, hdir, .of_pieces hq hr hy⟩, hslash,
        hstep⟩

/-- A path has a file name exactly when it ends in this name. -/
theorem fileName?_eq_some_iff_isNamed {p : Path} : p.fileName? = some name ↔ p.IsNamed name := by
  rw [fileName?_eq_some_iff]
  constructor
  · rintro ⟨l, r, hpieces, hname, hr⟩
    obtain ⟨bytes⟩ := p
    by_cases hl : l = []
    · subst hl
      exact isNamed_of_pieces [] (by simp) hname hr hpieces
    · obtain ⟨x, y, rfl, -, hy⟩ :=
        exists_of_pieces_eq_append hl (List.cons_ne_nil name r) hpieces
      have hnamed := isNamed_of_pieces (x ++ [0x2F]) (by simp) hname hr hy
      rwa [List.append_assoc, List.singleton_append] at hnamed
  · rintro ⟨⟨dir, tail, hbytes, hdir, htail⟩, hslash, hstep⟩
    obtain ⟨r, hr, hpieces⟩ := htail.exists_pieces
    have hname : pieces (name ++ tail) = name :: r := by
      rw [hpieces, pieces_eq_singleton_iff.mpr ⟨rfl, hslash⟩, List.singleton_append]
    have hnormal := Component.ofPiece?_eq_normal_iff.mpr ⟨rfl, hstep⟩
    rw [hbytes, List.append_assoc]
    obtain rfl | ⟨dir, b, rfl⟩ := List.eq_nil_or_concat dir
    · exact ⟨[], r, hname, hnormal, hr⟩
    · obtain rfl : b = 0x2F := hdir b (by simp)
      refine ⟨pieces dir, r, ?_, hnormal, hr⟩
      rw [List.concat_eq_append, List.append_assoc, List.singleton_append, pieces_append_slash,
        hname]

/-! ## Its extension -/

theorem afterLastDot?_eq_none_iff {cs : List Char} : afterLastDot? cs = none ↔ '.' ∉ cs := by
  induction cs with
  | nil => simp [afterLastDot?]
  | cons c rest ih =>
      rw [afterLastDot?, List.mem_cons, not_or]
      cases h : afterLastDot? rest with
      | some ext => simp [← ih, h]
      | none => simp [← ih, h, eq_comm]

theorem afterLastDot?_eq_some_iff {cs ext : List Char} :
    afterLastDot? cs = some ext ↔ ∃ stem, cs = stem ++ '.' :: ext ∧ '.' ∉ ext := by
  constructor
  · intro h
    induction cs with
    | nil => cases h
    | cons c rest ih =>
        rw [afterLastDot?] at h
        cases hrest : afterLastDot? rest with
        | some found =>
            rw [hrest] at h
            cases h
            obtain ⟨stem, rfl, hdot⟩ := ih hrest
            exact ⟨c :: stem, rfl, hdot⟩
        | none =>
            rw [hrest] at h
            obtain ⟨rfl, hext⟩ := Option.ite_none_right_eq_some.mp h
            cases hext
            exact ⟨[], rfl, afterLastDot?_eq_none_iff.mp hrest⟩
  · rintro ⟨stem, rfl, hdot⟩
    induction stem with
    | nil => rw [List.nil_append, afterLastDot?, afterLastDot?_eq_none_iff.mpr hdot, if_pos rfl]
    | cons c stem ih => rw [List.cons_append, afterLastDot?, ih]

/-- The extension of a path stands behind the last dot of its name. -/
theorem extension?_eq_some_iff {p : Path} {ext : String} :
    p.extension? = some ext ↔ (∃ stem, p.IsNamed (Text.Utf8.encode (stem ++ "." ++ ext))) ∧
      ext ≠ "" ∧ '.' ∉ ext.toList := by
  have hsteps : p.extension? = some ext ↔ ∃ name, p.IsNamed (Text.Utf8.encode name) ∧
      ∃ cs, afterLastDot? name.toList = some cs ∧ cs ≠ [] ∧ .ofList cs = ext := by
    simp only [extension?, Option.bind_eq_bind, Option.bind_eq_some_iff,
      fileName?_eq_some_iff_isNamed, Text.Utf8.decode?_eq_some_iff]
    simp only [List.isEmpty_iff, Option.ite_none_left_eq_some, Option.some.injEq]
    constructor
    · rintro ⟨_, hnamed, name, rfl, cs, hcs⟩
      exact ⟨name, hnamed, cs, hcs⟩
    · rintro ⟨name, hnamed, cs, hcs⟩
      exact ⟨_, hnamed, name, rfl, cs, hcs⟩
  rw [hsteps]
  constructor
  · rintro ⟨name, hnamed, cs, hcs, hne, rfl⟩
    obtain ⟨stem, hname, hdot⟩ := afterLastDot?_eq_some_iff.mp hcs
    have hspelled : name = .ofList stem ++ "." ++ .ofList cs := by
      rw [← String.toList_inj, hname]
      simp
    rw [hspelled] at hnamed
    exact ⟨⟨_, hnamed⟩, by simpa using hne, by simpa using hdot⟩
  · rintro ⟨⟨stem, hnamed⟩, hne, hdot⟩
    refine ⟨_, hnamed, ext.toList, afterLastDot?_eq_some_iff.mpr ⟨stem.toList, by simp, hdot⟩, ?_,
      String.ofList_toList⟩
    simpa using hne

end Path

end Gutter

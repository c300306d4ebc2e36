import Gutter.Linter.Command
import Mathlib.Data.List.Forall2
import Mathlib.Data.List.Infix
import Mathlib.Logic.Function.Basic

/-!
# Placeholders

The arguments of a command are filled in by two replacements, one after the other. The kind is put
in first, and no letter of it can be part of a placeholder; the locale may spell anything, but is
put in last. So the result is that of a single pass over the argument.
-/

namespace Gutter

/-! ## Replacing -/

namespace Text

variable {pattern value : List Char}

theorem substituteChars_skip (taken rest : List Char) :
    substituteChars pattern value taken.length (taken ++ rest) =
      substituteChars pattern value 0 rest := by
  induction taken with
  | nil => rfl
  | cons c taken ih => exact ih

/-- An occurrence is replaced as a whole. -/
theorem substituteChars_append (h : pattern ≠ []) (rest : List Char) :
    substituteChars pattern value 0 (pattern ++ rest) =
      value ++ substituteChars pattern value 0 rest := by
  cases pattern with
  | nil => exact absurd rfl h
  | cons c taken =>
      have hprefix : (c :: taken).isPrefixOf (c :: (taken ++ rest)) = true :=
        List.isPrefixOf_iff_prefix.mpr (List.prefix_append (c :: taken) rest)
      rw [List.cons_append, substituteChars, if_pos hprefix, List.length_cons, Nat.add_sub_cancel,
        substituteChars_skip]

theorem substituteChars_cons {c : Char} {rest : List Char} (h : ¬ pattern <+: c :: rest) :
    substituteChars pattern value 0 (c :: rest) = c :: substituteChars pattern value 0 rest := by
  rw [substituteChars, if_neg (mt List.isPrefixOf_iff_prefix.mp h)]

end Text

namespace Command

open Text

/-! ## The pieces of an argument -/

/-- A placeholder. -/
inductive Mark where
  | kind
  | locale
  deriving DecidableEq, Repr

def Mark.spelling : Mark → List Char
  | .kind => "{type}".toList
  | .locale => "{locale}".toList

def Mark.value (kind : DocKind) (locale : Locale) : Mark → List Char
  | .kind => kind.name.toList
  | .locale => locale.code.toList

/-- A part of an argument. -/
inductive Piece where
  | mark (m : Mark)
  | plain (c : Char)
  deriving DecidableEq, Repr

def Piece.fill (value : Mark → List Char) : Piece → List Char
  | .mark m => value m
  | .plain c => [c]

/-- The pieces of an argument, in one pass from left to right. -/
def pieces : List Char → List Piece
  | '\x7b' :: 't' :: 'y' :: 'p' :: 'e' :: '\x7d' :: rest => .mark .kind :: pieces rest
  | '\x7b' :: 'l' :: 'o' :: 'c' :: 'a' :: 'l' :: 'e' :: '\x7d' :: rest =>
    .mark .locale :: pieces rest
  | c :: rest => .plain c :: pieces rest
  | [] => []

theorem pieces_mark (m : Mark) (rest : List Char) :
    pieces (m.spelling ++ rest) = .mark m :: pieces rest := by
  cases m <;> rfl

theorem pieces_plain {c : Char} {rest : List Char} (h : ∀ m : Mark, ¬ m.spelling <+: c :: rest) :
    pieces (c :: rest) = .plain c :: pieces rest := by
  rw [pieces]
  · rintro tail rfl rfl
    exact h .kind ⟨tail, rfl⟩
  · rintro tail rfl rfl
    exact h .locale ⟨tail, rfl⟩

/-- Every text ends, or starts with a placeholder or with a character that starts none. -/
theorem pieces_induction {motive : List Char → Prop} (nil : motive [])
    (mark : ∀ (m : Mark) (rest), motive rest → motive (m.spelling ++ rest))
    (plain : ∀ c rest, (∀ m : Mark, ¬ m.spelling <+: c :: rest) → motive rest →
      motive (c :: rest)) (text : List Char) : motive text := by
  induction text using pieces.induct with
  | case1 rest ih => exact mark .kind rest ih
  | case2 rest ih => exact mark .locale rest ih
  | case3 c rest hkind hlocale ih =>
      refine plain c rest (fun m hm => ?_) ih
      obtain ⟨tail, htail⟩ := hm
      cases m with
      | kind =>
          obtain ⟨hc, hrest⟩ := List.cons_eq_cons.mp htail
          exact hkind tail hc.symm hrest.symm
      | locale =>
          obtain ⟨hc, hrest⟩ := List.cons_eq_cons.mp htail
          exact hlocale tail hc.symm hrest.symm
  | case4 => exact nil

theorem flatMap_spelling_pieces (text : List Char) :
    (pieces text).flatMap (Piece.fill Mark.spelling) = text := by
  induction text using pieces_induction with
  | nil => rfl
  | mark m rest ih => rw [pieces_mark, List.flatMap_cons, Piece.fill, ih]
  | plain c rest h ih =>
      rw [pieces_plain h, List.flatMap_cons, Piece.fill, ih, List.singleton_append]

theorem spelling_ne_nil (m : Mark) : m.spelling ≠ [] := by
  cases m <;> decide

theorem substituteChars_mark (m : Mark) (value : List Char) (n : Mark) (rest : List Char) :
    substituteChars m.spelling value 0 (n.spelling ++ rest) =
      Function.update Mark.spelling m value n ++ substituteChars m.spelling value 0 rest := by
  by_cases h : n = m
  · subst h
    rw [substituteChars_append (spelling_ne_nil n), Function.update_self]
  · rw [Function.update_of_ne h]
    cases n <;> cases m <;> first | rfl | exact absurd rfl h

/-- To replace one placeholder is to fill it in and to leave the other pieces as they are. -/
theorem substituteChars_eq (m : Mark) (value text : List Char) :
    substituteChars m.spelling value 0 text =
      (pieces text).flatMap (Piece.fill (Function.update Mark.spelling m value)) := by
  induction text using pieces_induction with
  | nil => rfl
  | mark n rest ih =>
      rw [substituteChars_mark, pieces_mark, List.flatMap_cons, Piece.fill, ih]
  | plain c rest h ih =>
      rw [substituteChars_cons (h m), pieces_plain h, List.flatMap_cons, Piece.fill, ih,
        List.singleton_append]

/-! ## What the first replacement does to the pieces -/

theorem brace_notMem_tail (m : Mark) : '\x7b' ∉ m.spelling.tail := by
  cases m <;> decide

theorem exists_spelling (m : Mark) : ∃ tail, m.spelling = '\x7b' :: tail := by
  cases m <;> exact ⟨_, rfl⟩

/-- A text without braces has no placeholder. -/
theorem pieces_append_of_notMem {text : List Char} (h : '\x7b' ∉ text) (rest : List Char) :
    pieces (text ++ rest) = text.map .plain ++ pieces rest := by
  induction text with
  | nil => rfl
  | cons c text ih =>
      rw [List.mem_cons, not_or] at h
      obtain ⟨hc, htext⟩ := h
      have hplain : ∀ m : Mark, ¬ m.spelling <+: c :: (text ++ rest) := by
        intro m hm
        obtain ⟨tail, htail⟩ := exists_spelling m
        rw [htail, List.cons_prefix_cons] at hm
        exact hc hm.1
      rw [List.cons_append, pieces_plain hplain, ih htext, List.map_cons, List.cons_append]

theorem brace_notMem_name (kind : DocKind) : '\x7b' ∉ kind.name.toList := by
  cases kind <;> decide

theorem not_prefix_name (m : Mark) (kind : DocKind) : ∀ u ∈ m.spelling.tail.tails, u ≠ [] →
    ¬ u <+: kind.name.toList ∧ ¬ kind.name.toList <+: u := by
  cases m <;> cases kind <;> decide

def fillKind (kind : DocKind) (text : List Char) : List Char :=
  substituteChars Mark.kind.spelling kind.name.toList 0 text

/-- Filling in the kind does not complete a placeholder. -/
theorem prefix_of_prefix_fillKind {m : Mark} {kind : DocKind} {u text : List Char}
    (hu : u <:+ m.spelling.tail) (h : u <+: fillKind kind text) : u <+: text := by
  induction u generalizing text with
  | nil => exact List.nil_prefix
  | cons a u ih =>
      have hsuffix : u <:+ m.spelling.tail := (List.suffix_cons a u).trans hu
      have ha : a ≠ '\x7b' := by
        rintro rfl
        exact brace_notMem_tail m (hu.subset List.mem_cons_self)
      induction text using pieces_induction with
      | nil => exact absurd h (by simp [fillKind, substituteChars])
      | mark n rest =>
          rw [fillKind, substituteChars_mark] at h
          cases n with
          | kind =>
              rw [Function.update_self] at h
              have hname := not_prefix_name m kind (a :: u) ((List.mem_tails _ _).mpr hu) (by simp)
              rcases List.prefix_or_prefix_of_prefix h (List.prefix_append _ _) with hle | hle
              · exact absurd hle hname.1
              · exact absurd hle hname.2
          | locale =>
              exact absurd (List.cons_prefix_cons.mp h).1 ha
      | plain c rest hc =>
          rw [fillKind, substituteChars_cons (hc .kind), List.cons_prefix_cons] at h
          obtain ⟨rfl, hrest⟩ := h
          exact List.cons_prefix_cons.mpr ⟨rfl, ih hsuffix hrest⟩

def Piece.settle (kind : DocKind) : Piece → List Piece
  | .mark .kind => kind.name.toList.map .plain
  | p => [p]

/-- Filling in the kind makes plain letters of it, and leaves every other part. -/
theorem pieces_fillKind (kind : DocKind) (text : List Char) :
    pieces (fillKind kind text) = (pieces text).flatMap (Piece.settle kind) := by
  induction text using pieces_induction with
  | nil => rfl
  | mark m rest ih =>
      rw [fillKind, substituteChars_mark, pieces_mark, List.flatMap_cons, ← ih]
      cases m with
      | kind => exact pieces_append_of_notMem (brace_notMem_name kind) _
      | locale => exact pieces_mark .locale _
  | plain c rest h ih =>
      have hplain : ∀ m : Mark, ¬ m.spelling <+: c :: fillKind kind rest := by
        intro m hm
        obtain ⟨tail, htail⟩ := exists_spelling m
        rw [htail, List.cons_prefix_cons] at hm
        obtain ⟨rfl, hm⟩ := hm
        have hsuffix : tail <:+ m.spelling.tail := by rw [htail]; exact List.suffix_refl tail
        refine h m ?_
        rw [htail, List.cons_prefix_cons]
        exact ⟨rfl, prefix_of_prefix_fillKind hsuffix hm⟩
      rw [pieces_plain h, List.flatMap_cons, ← ih, fillKind, substituteChars_cons (h .kind)]
      exact pieces_plain hplain

/-! ## Occurrences -/

/-- A placeholder is found wherever it stands. -/
theorem pieces_append_mark (m : Mark) (before after : List Char) :
    pieces (before ++ (m.spelling ++ after)) = pieces before ++ .mark m :: pieces after := by
  induction before using pieces_induction with
  | nil => exact pieces_mark m after
  | mark n before ih => rw [List.append_assoc, pieces_mark, pieces_mark, ih, List.cons_append]
  | plain c before h ih =>
      have hplain : ∀ n : Mark, ¬ n.spelling <+: c :: (before ++ (m.spelling ++ after)) := by
        intro n hn
        rcases List.prefix_or_prefix_of_prefix hn
          (List.prefix_append (c :: before) (m.spelling ++ after)) with hle | ⟨rest, hrest⟩
        · exact h n hle
        · -- the placeholder would have another brace where the next one opens
          have hlonger : rest ≠ [] := by
            rintro rfl
            exact h n (by rw [← hrest, List.append_nil])
          obtain ⟨tail, htail⟩ := exists_spelling m
          rw [← hrest, ← List.cons_append, List.prefix_append_right_inj, htail] at hn
          obtain ⟨b, rest, rfl⟩ := List.exists_cons_of_ne_nil hlonger
          obtain ⟨rfl, -⟩ := List.cons_prefix_cons.mp hn
          refine brace_notMem_tail n ?_
          rw [← hrest]
          simp
      rw [List.cons_append, pieces_plain hplain, ih, pieces_plain h, List.cons_append]

/-- A placeholder that is found stands in the text. -/
theorem exists_of_pieces_eq {m : Mark} {text : List Char} {l r : List Piece}
    (h : pieces text = l ++ .mark m :: r) :
    ∃ before after, text = before ++ (m.spelling ++ after) ∧ pieces before = l ∧
      pieces after = r := by
  induction text using pieces_induction generalizing l with
  | nil => simp [pieces] at h
  | mark n rest ih =>
      rw [pieces_mark] at h
      cases l with
      | nil =>
          obtain ⟨hm, hr⟩ := List.cons_eq_cons.mp h
          obtain rfl : n = m := by simpa using hm
          exact ⟨[], rest, rfl, rfl, hr⟩
      | cons x l =>
          obtain ⟨rfl, hl⟩ := List.cons_eq_cons.mp h
          obtain ⟨before, after, rfl, hbefore, hafter⟩ := ih hl
          refine ⟨n.spelling ++ before, after, by simp, ?_, hafter⟩
          rw [pieces_mark, hbefore]
  | plain c rest hc ih =>
      rw [pieces_plain hc] at h
      cases l with
      | nil => simp at h
      | cons x l =>
          obtain ⟨rfl, hl⟩ := List.cons_eq_cons.mp h
          obtain ⟨before, after, rfl, hbefore, hafter⟩ := ih hl
          have hplain : ∀ n : Mark, ¬ n.spelling <+: c :: before := fun n hn =>
            hc n (hn.trans (List.prefix_append (c :: before) _))
          refine ⟨c :: before, after, rfl, ?_, hafter⟩
          rw [pieces_plain hplain, hbefore]

theorem exists_eq_append_of_notMem {α : Type} {xs ys l r : List α} {a : α} (ha : a ∉ xs)
    (h : xs ++ ys = l ++ a :: r) : ∃ more, l = xs ++ more ∧ ys = more ++ a :: r := by
  rcases List.append_eq_append_iff.mp h with hmore | ⟨more, rfl, hr⟩
  · exact hmore
  · cases more with
    | nil => exact ⟨[], by simp, hr.symm⟩
    | cons b more =>
        obtain ⟨rfl, -⟩ := List.cons_eq_cons.mp hr
        exact absurd (by simp) ha

/-- Filling in the kind makes no place for the locale. -/
theorem exists_of_flatMap_settle_eq {kind : DocKind} {ps l r : List Piece}
    (h : ps.flatMap (Piece.settle kind) = l ++ .mark .locale :: r) :
    ∃ before after, ps = before ++ .mark .locale :: after ∧
      before.flatMap (Piece.settle kind) = l ∧ after.flatMap (Piece.settle kind) = r := by
  induction ps generalizing l with
  | nil => simp at h
  | cons p ps ih =>
      rw [List.flatMap_cons] at h
      by_cases hp : p = .mark .locale ∧ l = []
      · obtain ⟨rfl, rfl⟩ := hp
        exact ⟨[], ps, rfl, rfl, (List.cons_eq_cons.mp h).2⟩
      · have hsettled : ∃ more, l = p.settle kind ++ more ∧
            ps.flatMap (Piece.settle kind) = more ++ .mark .locale :: r := by
          by_cases hlocale : p = .mark .locale
          · subst hlocale
            obtain ⟨x, l, rfl⟩ := List.exists_cons_of_ne_nil fun hl => hp ⟨rfl, hl⟩
            obtain ⟨rfl, hrest⟩ := List.cons_eq_cons.mp h
            exact ⟨l, rfl, hrest⟩
          · refine exists_eq_append_of_notMem (fun hmem => ?_) h
            rcases p with (_ | _) | c <;> simp_all [Piece.settle]
        obtain ⟨more, rfl, hrest⟩ := hsettled
        obtain ⟨before, after, rfl, rfl, rfl⟩ := ih hrest
        exact ⟨p :: before, after, rfl, List.flatMap_cons, rfl⟩

theorem fillKind_eq (kind : DocKind) (text : List Char) :
    fillKind kind text =
      ((pieces text).flatMap (Piece.settle kind)).flatMap (Piece.fill Mark.spelling) := by
  rw [← pieces_fillKind, flatMap_spelling_pieces]

/-- Where the locale is to stand is the same before and after the kind is filled in. -/
theorem fillKind_eq_append_iff {kind : DocKind} {text before after : List Char} :
    fillKind kind text = before ++ (Mark.locale.spelling ++ after) ↔
      ∃ b a, text = b ++ (Mark.locale.spelling ++ a) ∧ before = fillKind kind b ∧
        after = fillKind kind a := by
  constructor
  · intro h
    have hparts := pieces_fillKind kind text
    rw [h, pieces_append_mark] at hparts
    obtain ⟨l, r, htext, hl, hr⟩ := exists_of_flatMap_settle_eq hparts.symm
    obtain ⟨b, a, rfl, rfl, rfl⟩ := exists_of_pieces_eq htext
    refine ⟨b, a, rfl, ?_, ?_⟩
    · rw [fillKind_eq, hl, flatMap_spelling_pieces]
    · rw [fillKind_eq, hr, flatMap_spelling_pieces]
  · rintro ⟨b, a, rfl, rfl, rfl⟩
    rw [fillKind_eq, pieces_append_mark, fillKind_eq, fillKind_eq]
    simp [Piece.settle, Piece.fill]

/-! ## The expanded arguments -/

/-- What an argument is expanded to: one pass over it tells the result, and nothing that is put in
is read again, so that the kind makes no new place for the locale. -/
structure Expands (kind : DocKind) (locale : Locale) (arg result : String) : Prop where
  onePass : result = .ofList ((pieces arg.toList).flatMap (Piece.fill (Mark.value kind locale)))
  places : ∀ before after : String,
    substitute "{type}" kind.name arg = before ++ "{locale}" ++ after ↔
      ∃ b a : String, arg = b ++ "{locale}" ++ a ∧ before = substitute "{type}" kind.name b ∧
        after = substitute "{type}" kind.name a

theorem substitute_eq_fillKind (kind : DocKind) (text : String) :
    substitute "{type}" kind.name text = .ofList (fillKind kind text.toList) := rfl

theorem expandArg_eq (kind : DocKind) (locale : Locale) (arg : String) :
    expandArg kind locale arg = .ofList (substituteChars Mark.locale.spelling locale.code.toList 0
      (fillKind kind arg.toList)) := by
  rw [expandArg, substitute_eq_fillKind]
  exact congrArg (fun text => String.ofList (substituteChars _ _ 0 text)) String.toList_ofList

theorem eq_append_mark_iff {text before after : String} :
    text = before ++ "{locale}" ++ after ↔
      text.toList = before.toList ++ (Mark.locale.spelling ++ after.toList) := by
  rw [← String.toList_inj, String.toList_append, String.toList_append, List.append_assoc]
  rfl

theorem expands_expandArg (kind : DocKind) (locale : Locale) (arg : String) :
    Expands kind locale arg (expandArg kind locale arg) where
  onePass := by
    rw [expandArg_eq, substituteChars_eq, pieces_fillKind, List.flatMap_assoc]
    refine congrArg String.ofList (List.flatMap_congr fun p _ => ?_)
    rcases p with (_ | _) | c
    · simp [Piece.settle, Piece.fill, Mark.value, List.flatMap_map]
    · simp [Piece.settle, Piece.fill, Mark.value]
    · simp [Piece.settle, Piece.fill]
  places before after := by
    rw [eq_append_mark_iff, substitute_eq_fillKind, String.toList_ofList, fillKind_eq_append_iff]
    constructor
    · rintro ⟨b, a, harg, hbefore, hafter⟩
      refine ⟨.ofList b, .ofList a, ?_, ?_, ?_⟩
      · rw [eq_append_mark_iff, harg, String.toList_ofList, String.toList_ofList]
      · rw [substitute_eq_fillKind, String.toList_ofList, ← hbefore, String.ofList_toList]
      · rw [substitute_eq_fillKind, String.toList_ofList, ← hafter, String.ofList_toList]
    · rintro ⟨b, a, harg, rfl, rfl⟩
      refine ⟨b.toList, a.toList, eq_append_mark_iff.mp harg, ?_, ?_⟩
      · rw [substitute_eq_fillKind, String.toList_ofList]
      · rw [substitute_eq_fillKind, String.toList_ofList]

/-- Each argument is expanded in one pass. -/
theorem expandArgs_onePass (c : Command) (kind : DocKind) (locale : Locale) :
    List.Forall₂ (Expands kind locale) c.args (c.expandArgs kind locale) :=
  List.forall₂_map_right_iff.mpr <| List.forall₂_same.mpr fun arg _ =>
    expands_expandArg kind locale arg

/-- A kind between the halves of a locale stays there, and a locale may look like a placeholder. -/
example : expandArg .css (.other "{type}") "\x7bloc{type}ale\x7d{locale}" =
    "\x7bloccssale\x7d{type}" := by
  cbv

end Command
end Gutter

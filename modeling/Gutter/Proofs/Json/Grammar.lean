import Gutter.Proofs.Json.Lexeme

/-!
# The grammar of JSON texts

Which texts spell a draft, with any gaps between their parts, and why each of them is read as the
draft that it spells.
-/

namespace Gutter.Json

/-! ## The grammar -/

def IsGap (g : List UInt8) : Prop := ∀ b ∈ g, isGap b = true

def Word.bytes : Word → List UInt8
  | .null => [0x6E, 0x75, 0x6C, 0x6C]
  | .boolean true => [0x74, 0x72, 0x75, 0x65]
  | .boolean false => [0x66, 0x61, 0x6C, 0x73, 0x65]

/-- The texts of a key, with the gaps around it. -/
inductive SpellsKey : Draft → List UInt8 → Prop where
  | string {g t g'} (hg : IsGap g) (ht : StringTail t) (hg' : IsGap g') :
      SpellsKey (.string (scanString t).value (.ok ())) (g ++ (0x22 :: t ++ g'))

mutual

/-- The texts of a draft. -/
inductive Spells : Draft → List UInt8 → Prop where
  | word (w : Word) : Spells (.word (.ok w)) w.bytes
  | positive {whole fraction exponent t u} (hw : Numeral.Whole whole)
      (ht : Numeral.Fraction fraction t) (hu : Numeral.Exponent exponent u) :
      Spells (.number (Numeral.value ⟨false, whole, fraction, exponent⟩) (.ok ()))
        (whole ++ (t ++ u))
  | negative {whole fraction exponent t u} (hw : Numeral.Whole whole)
      (ht : Numeral.Fraction fraction t) (hu : Numeral.Exponent exponent u) :
      Spells (.number (Numeral.value ⟨true, whole, fraction, exponent⟩) (.ok ()))
        (0x2D :: (whole ++ (t ++ u)))
  | string {t} (ht : StringTail t) : Spells (.string (scanString t).value (.ok ())) (0x22 :: t)
  | emptyList {g} (hg : IsGap g) : Spells (.list [] .closed) (0x5B :: (g ++ [0x5D]))
  | list {items t} (ht : SpellsItems items t) : Spells (.list items .closed) (0x5B :: t)
  | emptyObject {g} (hg : IsGap g) : Spells (.object [] .closed) (0x7B :: (g ++ [0x7D]))
  | object {members t} (ht : SpellsMembers members t) :
      Spells (.object members .closed) (0x7B :: t)

/-- The texts of a draft with gaps around it. -/
inductive SpellsPadded : Draft → List UInt8 → Prop where
  | gaps {d g t g'} (hg : IsGap g) (ht : Spells d t) (hg' : IsGap g') :
      SpellsPadded d (g ++ (t ++ g'))

/-- The texts of the items of a list and its closing bracket. -/
inductive SpellsItems : List Draft → List UInt8 → Prop where
  | last {d t} (ht : SpellsPadded d t) : SpellsItems [d] (t ++ [0x5D])
  | more {d ds t u} (ht : SpellsPadded d t) (hu : SpellsItems ds u) :
      SpellsItems (d :: ds) (t ++ 0x2C :: u)

/-- The texts of the members of an object and its closing bracket. -/
inductive SpellsMembers : List (Draft × Draft) → List UInt8 → Prop where
  | last {key d k t} (hk : SpellsKey key k) (ht : SpellsPadded d t) :
      SpellsMembers [(key, d)] (k ++ 0x3A :: (t ++ [0x7D]))
  | more {key d ms k t u} (hk : SpellsKey key k) (ht : SpellsPadded d t)
      (hu : SpellsMembers ms u) :
      SpellsMembers ((key, d) :: ms) (k ++ 0x3A :: (t ++ 0x2C :: u))

end

/-! ## Gaps -/

theorem skipGap_append {g : List UInt8} (hg : IsGap g) (rest : List UInt8) :
    skipGap (g ++ rest) = skipGap rest :=
  List.dropWhile_append_of_pos hg

theorem skipGap_cons {b : UInt8} (hb : isGap b = false) (rest : List UInt8) :
    skipGap (b :: rest) = b :: rest :=
  List.dropWhile_cons_of_neg (by simp [hb])

theorem skipGap_skipGap (bytes : List UInt8) : skipGap (skipGap bytes) = skipGap bytes := by
  have hgap : IsGap (bytes.takeWhile isGap) := fun b hb =>
    List.all_eq_true.mp List.all_takeWhile b hb
  have hparts : bytes.takeWhile isGap ++ skipGap bytes = bytes := List.takeWhile_append_dropWhile
  exact (skipGap_append hgap _).symm.trans (congrArg skipGap hparts)

theorem value_skipGap (fuel : Nat) (bytes : List UInt8) :
    Draft.value fuel (skipGap bytes) = Draft.value fuel bytes := by
  cases fuel with
  | zero => rfl
  | succ fuel => rw [Draft.value, Draft.value, skipGap_skipGap]

theorem items_skipGap (fuel : Nat) (bytes : List UInt8) :
    Draft.items fuel (skipGap bytes) = Draft.items fuel bytes := by
  cases fuel with
  | zero => rfl
  | succ fuel => rw [Draft.items, Draft.items, value_skipGap]

theorem members_skipGap (fuel : Nat) (bytes : List UInt8) :
    Draft.members fuel (skipGap bytes) = Draft.members fuel bytes := by
  cases fuel with
  | zero => rfl
  | succ fuel => rw [Draft.members, Draft.members, value_skipGap]

/-! ## How a value starts -/

def startsValue (b : UInt8) : Bool :=
  isDigit b || [0x6E, 0x74, 0x66, 0x22, 0x5B, 0x7B, 0x2D].contains b

theorem ne_of_isDigit {b c : UInt8} (hb : isDigit b = true) (hc : isDigit c = false) : b ≠ c := by
  rintro rfl
  rw [hb] at hc
  cases hc

theorem startsValue_facts {b : UInt8} (hb : startsValue b = true) :
    isGap b = false ∧ b ≠ 0x5D ∧ b ≠ 0x7D := by
  simp only [startsValue, Bool.or_eq_true, List.contains_iff_mem, List.mem_cons, List.not_mem_nil,
    or_false] at hb
  rcases hb with hb | rfl | rfl | rfl | rfl | rfl | rfl | rfl
  · have hne : ∀ c, isDigit c = false → b ≠ c := fun c => ne_of_isDigit hb
    refine ⟨?_, hne _ (by decide), hne _ (by decide)⟩
    simp only [isGap, Bool.or_eq_false_iff, decide_eq_false_iff_not]
    exact ⟨⟨⟨hne _ (by decide), hne _ (by decide)⟩, hne _ (by decide)⟩, hne _ (by decide)⟩
  all_goals decide

theorem Spells.exists_start {d : Draft} {t : List UInt8} (h : Spells d t) :
    ∃ b u, t = b :: u ∧ startsValue b = true := by
  cases h with
  | word w =>
      rcases w with _ | _ | _
      all_goals exact ⟨_, _, rfl, by decide⟩
  | positive hw =>
      cases hw with
      | zero => exact ⟨_, _, rfl, by decide⟩
      | digits hd => exact ⟨_, _, rfl, Bool.or_eq_true_iff.mpr (.inl hd)⟩
  | _ => exact ⟨_, _, rfl, by decide⟩

theorem value_digit {b : UInt8} (hb : isDigit b = true) (fuel : Nat) (rest : List UInt8) :
    Draft.value (fuel + 1) (b :: rest) =
      Draft.ofPart .number (Numeral.scan false (b :: rest)) := by
  have hne : ∀ c, isDigit c = false → b ≠ c := fun c => ne_of_isDigit hb
  have hgap := (startsValue_facts (Bool.or_eq_true_iff.mpr (.inl hb))).1
  rw [Draft.value, skipGap_cons hgap]
  split
  case h_1 h => cases h
  case h_9 h =>
    obtain ⟨rfl, rfl⟩ := List.cons_eq_cons.mp h
    rw [if_pos hb]
  all_goals
    next h => exact absurd (List.cons_eq_cons.mp h).1 (hne _ (by decide))

/-! ## Reading what is spelled -/

def Starts (bytes : List UInt8) : Prop :=
  ∃ b rest, skipGap bytes = b :: rest ∧ startsValue b = true

theorem SpellsPadded.starts {d : Draft} {t : List UInt8} (h : SpellsPadded d t)
    (rest : List UInt8) : Starts (t ++ rest) := by
  cases h with
  | gaps hg ht hg' =>
      obtain ⟨b, u, rfl, hb⟩ := ht.exists_start
      rw [List.append_assoc, List.append_assoc, List.cons_append]
      exact ⟨b, _, (skipGap_append hg _).trans (skipGap_cons (startsValue_facts hb).1 _), hb⟩

theorem SpellsKey.starts {key : Draft} {k : List UInt8} (h : SpellsKey key k)
    (rest : List UInt8) : Starts (k ++ rest) := by
  cases h with
  | string hg ht hg' =>
      rw [List.append_assoc]
      exact ⟨0x22, _, (skipGap_append hg _).trans (skipGap_cons (by decide) _), by decide⟩

theorem SpellsItems.starts {ds : List Draft} {t : List UInt8} (h : SpellsItems ds t)
    (rest : List UInt8) : Starts (t ++ rest) := by
  cases h with
  | last ht =>
      rw [List.append_assoc]
      exact ht.starts _
  | more ht =>
      rw [List.append_assoc]
      exact ht.starts _

theorem SpellsMembers.starts {ms : List (Draft × Draft)} {t : List UInt8} (h : SpellsMembers ms t)
    (rest : List UInt8) : Starts (t ++ rest) := by
  cases h with
  | last hk =>
      rw [List.append_assoc]
      exact hk.starts _
  | more hk =>
      rw [List.append_assoc]
      exact hk.starts _

variable {fuel : Nat} {d key : Draft} {ds : List Draft} {ms : List (Draft × Draft)}
  {k t u rest : List UInt8}

def ReadsUpTo (fuel : Nat) (d : Draft) (t rest : List UInt8) : Prop :=
  ∃ g, IsGap g ∧ Draft.value fuel (t ++ rest) = (d, some (g ++ rest))

theorem value_word (w : Word) : Draft.value (fuel + 1) (w.bytes ++ rest) =
    (.word (.ok w), some rest) := by
  rcases w with _ | _ | _ <;> rfl

theorem value_string (ht : StringTail t) : Draft.value (fuel + 1) (0x22 :: (t ++ rest)) =
    (.string (scanString t).value (.ok ()), some rest) := by
  rw [Draft.value, skipGap_cons (by decide)]
  simp only [Draft.ofPart, ht.scan]
  rfl

theorem value_list (hstart : Starts (t ++ rest))
    (h : Draft.items fuel (t ++ rest) = (ds, .closed, some rest)) :
    Draft.value (fuel + 1) (0x5B :: (t ++ rest)) = (.list ds .closed, some rest) := by
  obtain ⟨b, u, hskip, hb⟩ := hstart
  rw [← items_skipGap, hskip] at h
  rw [Draft.value, skipGap_cons (by decide)]
  simp only [hskip]
  split
  · next h' => cases h'
  · next h' => exact absurd (List.cons_eq_cons.mp h').1 (startsValue_facts hb).2.1
  · rw [h]

theorem items_last (h : ReadsUpTo fuel d t (0x5D :: rest)) :
    Draft.items (fuel + 1) (t ++ 0x5D :: rest) = ([d], .closed, some rest) := by
  obtain ⟨g, hg, hvalue⟩ := h
  rw [Draft.items, hvalue]
  simp only [skipGap_append hg, skipGap_cons (show isGap 0x5D = false by decide)]

theorem items_more (h : ReadsUpTo fuel d t (0x2C :: (u ++ rest))) (hstart : Starts (u ++ rest))
    (hu : Draft.items fuel (u ++ rest) = (ds, .closed, some rest)) :
    Draft.items (fuel + 1) (t ++ 0x2C :: (u ++ rest)) = (d :: ds, .closed, some rest) := by
  obtain ⟨g, hg, hvalue⟩ := h
  obtain ⟨b, v, hskip, hb⟩ := hstart
  rw [← items_skipGap, hskip] at hu
  rw [Draft.items, hvalue]
  simp only [skipGap_append hg, skipGap_cons (show isGap 0x2C = false by decide), hskip]
  split
  · next h' => cases h'
  · next h' => exact absurd (List.cons_eq_cons.mp h').1 (startsValue_facts hb).2.1
  · rw [hu]

theorem value_object (hstart : Starts (t ++ rest))
    (h : Draft.members fuel (t ++ rest) = (ms, .closed, some rest)) :
    Draft.value (fuel + 1) (0x7B :: (t ++ rest)) = (.object ms .closed, some rest) := by
  obtain ⟨b, u, hskip, hb⟩ := hstart
  rw [← members_skipGap, hskip] at h
  rw [Draft.value, skipGap_cons (by decide)]
  simp only [hskip]
  split
  · next h' => cases h'
  · next h' => exact absurd (List.cons_eq_cons.mp h').1 (startsValue_facts hb).2.2
  · rw [h]

theorem members_last {content : Except Fault String} {skim : Except Fault Unit}
    (hk : ReadsUpTo fuel (.string content skim) k (0x3A :: (t ++ 0x7D :: rest)))
    (h : ReadsUpTo fuel d t (0x7D :: rest)) :
    Draft.members (fuel + 1) (k ++ 0x3A :: (t ++ 0x7D :: rest)) =
      ([(.string content skim, d)], .closed, some rest) := by
  obtain ⟨g, hg, hkey⟩ := hk
  obtain ⟨g', hg', hvalue⟩ := h
  rw [Draft.members, hkey]
  simp only [skipGap_append hg, skipGap_append hg', hvalue,
    skipGap_cons (show isGap 0x3A = false by decide),
    skipGap_cons (show isGap 0x7D = false by decide)]

theorem members_more {content : Except Fault String} {skim : Except Fault Unit}
    (hk : ReadsUpTo fuel (.string content skim) k (0x3A :: (t ++ 0x2C :: (u ++ rest))))
    (h : ReadsUpTo fuel d t (0x2C :: (u ++ rest))) (hstart : Starts (u ++ rest))
    (hu : Draft.members fuel (u ++ rest) = (ms, .closed, some rest)) :
    Draft.members (fuel + 1) (k ++ 0x3A :: (t ++ 0x2C :: (u ++ rest))) =
      ((.string content skim, d) :: ms, .closed, some rest) := by
  obtain ⟨g, hg, hkey⟩ := hk
  obtain ⟨g', hg', hvalue⟩ := h
  obtain ⟨b, v, hskip, hb⟩ := hstart
  rw [← members_skipGap, hskip] at hu
  rw [Draft.members, hkey]
  simp only [skipGap_append hg, skipGap_append hg', hvalue,
    skipGap_cons (show isGap 0x3A = false by decide),
    skipGap_cons (show isGap 0x2C = false by decide), hskip]
  split
  · next h' => cases h'
  · next h' => exact absurd (List.cons_eq_cons.mp h').1 (startsValue_facts hb).2.2
  · rw [hu]

theorem SpellsKey.reads (h : SpellsKey key k) (fuel : Nat) (rest : List UInt8) :
    ∃ content skim, key = .string content skim ∧ ReadsUpTo (fuel + 1) key k rest := by
  cases h with
  | string hg ht hg' =>
      refine ⟨_, _, rfl, _, hg', ?_⟩
      rw [← value_skipGap, List.append_assoc, skipGap_append hg, value_skipGap, List.cons_append,
        List.cons_append, List.append_assoc]
      exact value_string ht

theorem endsNumber_cons {b : UInt8} (hb : continuesNumber b = false) (rest : List UInt8) :
    EndsNumber (b :: rest) := by
  intro c hc
  rw [← Option.some.inj hc]
  exact hb

/-- No number goes on after a gap. -/
theorem endsNumber_append {g : List UInt8} (hg : IsGap g) (hrest : EndsNumber rest) :
    EndsNumber (g ++ rest) := by
  cases g with
  | nil => exact hrest
  | cons b g =>
      refine endsNumber_cons ?_ _
      have hb := hg b (by simp)
      simp only [isGap, Bool.or_eq_true, decide_eq_true_eq] at hb
      rcases hb with ((rfl | rfl) | rfl) | rfl <;> decide

/-- A bracket with a gap in it. -/
theorem value_empty {g : List UInt8} (hg : IsGap g) :
    Draft.value (fuel + 1) (0x5B :: (g ++ 0x5D :: rest)) = (.list [] .closed, some rest) ∧
      Draft.value (fuel + 1) (0x7B :: (g ++ 0x7D :: rest)) =
        (.object [] .closed, some rest) := by
  constructor
  · rw [Draft.value, skipGap_cons (by decide)]
    simp only [skipGap_append hg, skipGap_cons (show isGap 0x5D = false by decide)]
  · rw [Draft.value, skipGap_cons (by decide)]
    simp only [skipGap_append hg, skipGap_cons (show isGap 0x7D = false by decide)]

theorem value_number {whole : List UInt8} {fraction : Option (List UInt8)}
    {exponent : Option (Bool × List UInt8)} (hw : Numeral.Whole whole)
    (ht : Numeral.Fraction fraction t) (hu : Numeral.Exponent exponent u)
    (hrest : EndsNumber rest) :
    Draft.value (fuel + 1) (whole ++ (t ++ (u ++ rest))) =
      (.number (Numeral.value ⟨false, whole, fraction, exponent⟩) (.ok ()), some rest) ∧
    Draft.value (fuel + 1) (0x2D :: (whole ++ (t ++ (u ++ rest)))) =
      (.number (Numeral.value ⟨true, whole, fraction, exponent⟩) (.ok ()), some rest) := by
  constructor
  · have hscan := Numeral.scan_append false hw ht hu hrest
    obtain ⟨b, v, hwhole, hb⟩ : ∃ b v, whole = b :: v ∧ isDigit b = true := by
      cases hw with
      | zero => exact ⟨_, _, rfl, by decide⟩
      | digits hd => exact ⟨_, _, rfl, hd⟩
    rw [hwhole] at hscan ⊢
    rw [List.cons_append] at hscan ⊢
    rw [value_digit hb, hscan]
    rfl
  · rw [Draft.value, skipGap_cons (by decide)]
    simp only [Numeral.scan_append true hw ht hu hrest]
    rfl

mutual

/-- A value is read to its end. A number ends where no byte goes on with it. -/
theorem Spells.value {d : Draft} {t : List UInt8} : Spells d t → ∀ {fuel rest},
    2 * t.length < fuel → EndsNumber rest → Draft.value fuel (t ++ rest) = (d, some rest)
  | .word w, fuel + 1, rest, _, _ => value_word w
  | .positive hw ht hu, fuel + 1, rest, _, hrest => by
      rw [List.append_assoc, List.append_assoc]
      exact (value_number hw ht hu hrest).1
  | .negative hw ht hu, fuel + 1, rest, _, hrest => by
      rw [List.cons_append, List.append_assoc, List.append_assoc]
      exact (value_number hw ht hu hrest).2
  | .string ht, fuel + 1, rest, _, _ => value_string ht
  | .emptyList hg, fuel + 1, rest, _, _ => by
      rw [List.cons_append, List.append_assoc]
      exact (value_empty hg).1
  | .list ht, fuel + 1, rest, hf, _ => by
      rw [List.length_cons] at hf
      exact value_list (ht.starts rest) (ht.items (by omega))
  | .emptyObject hg, fuel + 1, rest, _, _ => by
      rw [List.cons_append, List.append_assoc]
      exact (value_empty hg).2
  | .object ht, fuel + 1, rest, hf, _ => by
      rw [List.length_cons] at hf
      exact value_object (ht.starts rest) (ht.members (by omega))

theorem SpellsPadded.value {d : Draft} {t : List UInt8} : SpellsPadded d t → ∀ {fuel rest},
    2 * t.length < fuel → EndsNumber rest → ReadsUpTo fuel d t rest
  | @SpellsPadded.gaps _ g u g' hg ht hg', fuel, rest, hf, hrest => by
      refine ⟨g', hg', ?_⟩
      simp only [List.length_append] at hf
      rw [← value_skipGap, List.append_assoc, skipGap_append hg, value_skipGap, List.append_assoc]
      exact ht.value (by omega) (endsNumber_append hg' hrest)

theorem SpellsItems.items {ds : List Draft} {t : List UInt8} : SpellsItems ds t → ∀ {fuel rest},
    2 * t.length ≤ fuel → Draft.items fuel (t ++ rest) = (ds, .closed, some rest)
  | .last ht, fuel, rest, hf => by
      rw [List.length_append, List.length_singleton] at hf
      obtain ⟨fuel, rfl⟩ := Nat.exists_eq_succ_of_ne_zero (show fuel ≠ 0 by omega)
      rw [List.append_assoc]
      exact items_last (ht.value (by omega) (endsNumber_cons (by decide) rest))
  | .more ht hu, fuel, rest, hf => by
      rw [List.length_append, List.length_cons] at hf
      obtain ⟨fuel, rfl⟩ := Nat.exists_eq_succ_of_ne_zero (show fuel ≠ 0 by omega)
      rw [List.append_assoc, List.cons_append]
      exact items_more (ht.value (by omega) (endsNumber_cons (by decide) _)) (hu.starts rest)
        (hu.items (by omega))

theorem SpellsMembers.members {ms : List (Draft × Draft)} {t : List UInt8} :
    SpellsMembers ms t → ∀ {fuel rest}, 2 * t.length ≤ fuel →
      Draft.members fuel (t ++ rest) = (ms, .closed, some rest)
  | .last hk ht, fuel, rest, hf => by
      rw [List.length_append, List.length_cons, List.length_append, List.length_singleton] at hf
      obtain ⟨fuel, rfl⟩ := Nat.exists_eq_add_of_le' (show 2 ≤ fuel by omega)
      obtain ⟨content, skim, rfl, hkey⟩ := hk.reads fuel _
      rw [List.append_assoc, List.cons_append, List.append_assoc]
      exact members_last hkey (ht.value (by omega) (endsNumber_cons (by decide) rest))
  | .more hk ht hu, fuel, rest, hf => by
      rw [List.length_append, List.length_cons, List.length_append, List.length_cons] at hf
      obtain ⟨fuel, rfl⟩ := Nat.exists_eq_add_of_le' (show 2 ≤ fuel by omega)
      obtain ⟨content, skim, rfl, hkey⟩ := hk.reads fuel _
      rw [List.append_assoc, List.cons_append, List.append_assoc, List.cons_append]
      exact members_more hkey (ht.value (by omega) (endsNumber_cons (by decide) _))
        (hu.starts rest) (hu.members (by omega))

end

/-- What a text describes is told by the draft that it spells. -/
theorem read_of_spells {α : Type} {reader : Reader α} (h : SpellsPadded d t) :
    read reader t = reader depthLimit d := by
  obtain ⟨g, hg, hvalue⟩ := h.value (show 2 * t.length < 2 * t.length + 2 by omega)
    (show EndsNumber [] by simp [EndsNumber])
  rw [List.append_nil, List.append_nil] at hvalue
  have hgap : skipGap g = [] := List.append_nil g ▸ skipGap_append hg []
  rw [read, Draft.ofBytes, hvalue]
  simp only [Option.getD_some, hgap]
  cases reader depthLimit d <;> rfl

theorem bind_eq_ok_iff {ε α β : Type} {x : Except ε α} {f : α → Except ε β} {b : β} :
    (x >>= f) = .ok b ↔ ∃ a, x = .ok a ∧ f a = .ok b := by
  cases x <;> simp [bind, Except.bind]

/-- A text that one reader accepts is read from one draft by every reader. -/
theorem exists_draft_of_read {α : Type} {reader : Reader α} {a : α} (h : read reader t = .ok a) :
    ∃ d, reader depthLimit d = .ok a ∧
      ∀ {β : Type} (other : Reader β), read other t = other depthLimit d := by
  rw [read] at h
  obtain ⟨d, rest, hdraft⟩ : ∃ d rest, Draft.ofBytes t = (d, rest) := ⟨_, _, rfl⟩
  rw [hdraft] at h
  obtain ⟨a', hreader, h⟩ := bind_eq_ok_iff.mp h
  split at h
  case h_1 hgap =>
    refine ⟨d, hreader.trans h, fun other => ?_⟩
    rw [read, hdraft]
    simp only [hgap]
    cases other depthLimit d <;> rfl
  case h_2 => cases h

end Gutter.Json

import Gutter.Proofs.Json.Grammar

/-!
# Values and their texts

A text that spells a value is read as this value unless its brackets are nested too deeply, and what
is written for a value spells it.
-/

namespace Gutter.Json

namespace Value

/-! ## The draft of a value -/

mutual

/-- The draft that shows a value. -/
def draft : Value → Draft
  | .null => .word (.ok .null)
  | .boolean b => .word (.ok (.boolean b))
  | .number n => .number (.ok n) (.ok ())
  | .string s => .string (.ok s) (.ok ())
  | .list vs => .list (drafts vs) .closed
  | .object ms => .object (memberDrafts ms) .closed

def drafts : List Value → List Draft
  | [] => []
  | v :: vs => v.draft :: drafts vs

def memberDrafts : List (String × Value) → List (Draft × Draft)
  | [] => []
  | (k, v) :: ms => (.string (.ok k) (.ok ()), v.draft) :: memberDrafts ms

end

/-- The text spells the value, with any gaps between its parts. -/
def Spelled (v : Value) (t : List UInt8) : Prop := SpellsPadded v.draft t

mutual

def nesting : Value → Nat
  | .list vs => nestingItems vs + 1
  | .object ms => nestingMembers ms + 1
  | _ => 0

def nestingItems : List Value → Nat
  | [] => 0
  | v :: vs => max v.nesting (nestingItems vs)

def nestingMembers : List (String × Value) → Nat
  | [] => 0
  | (_, v) :: ms => max v.nesting (nestingMembers ms)

end

theorem nestingItems_le {vs : List Value} {n : Nat} :
    nestingItems vs ≤ n ↔ ∀ v ∈ vs, v.nesting ≤ n := by
  induction vs with
  | nil => simp [nestingItems]
  | cons v vs ih => rw [nestingItems, Nat.max_le, ih, List.forall_mem_cons]

theorem nestingMembers_le {ms : List (String × Value)} {n : Nat} :
    nestingMembers ms ≤ n ↔ ∀ m ∈ ms, m.2.nesting ≤ n := by
  induction ms with
  | nil => simp [nestingMembers]
  | cons m ms ih => rw [nestingMembers, Nat.max_le, ih, List.forall_mem_cons]

theorem enter_of_lt {n depth : Nat} (h : n + 1 < depth) :
    enter depth = .ok (depth - 1) ∧ n < depth - 1 := by
  rw [enter, if_neg (by omega)]
  exact ⟨rfl, by omega⟩

mutual

/-- The draft of a value shows it to a reader who may go deep enough. -/
theorem toValue_draft : (v : Value) → ∀ {depth}, v.nesting < depth →
    v.draft.toValue depth = .ok v
  | .null, _, _ => rfl
  | .boolean _, _, _ => rfl
  | .number _, _, _ => rfl
  | .string _, _, _ => rfl
  | .list vs, depth, h => by
      obtain ⟨henter, hlt⟩ := enter_of_lt h
      rw [draft, Draft.toValue, henter]
      simp only [bind, Except.bind, toValues_drafts vs hlt]
      rfl
  | .object ms, depth, h => by
      obtain ⟨henter, hlt⟩ := enter_of_lt h
      rw [draft, Draft.toValue, henter]
      simp only [bind, Except.bind, toMembers_memberDrafts ms hlt]
      rfl

theorem toValues_drafts : (vs : List Value) → ∀ {depth}, nestingItems vs < depth →
    Draft.toValues depth (drafts vs) = .ok vs
  | [], _, _ => rfl
  | v :: vs, depth, h => by
      obtain ⟨hv, hvs⟩ := Nat.max_lt.mp h
      rw [drafts, Draft.toValues]
      simp only [bind, Except.bind, toValue_draft v hv, toValues_drafts vs hvs]
      rfl

theorem toMembers_memberDrafts : (ms : List (String × Value)) → ∀ {depth},
    nestingMembers ms < depth → Draft.toMembers depth (memberDrafts ms) = .ok ms
  | [], _, _ => rfl
  | (k, v) :: ms, depth, h => by
      obtain ⟨hv, hms⟩ := Nat.max_lt.mp h
      rw [memberDrafts, Draft.toMembers]
      simp only [bind, Except.bind, Draft.key, toValue_draft v hv, toMembers_memberDrafts ms hms]
      rfl

end

theorem ofBytes_of_spelled {v : Value} {t : List UInt8} (h : v.Spelled t)
    (hn : v.nesting < depthLimit) : Value.ofBytes t = .ok v := by
  rw [Value.ofBytes, read_of_spells h, Reader.any, toValue_draft v hn]
  rfl

/-! ## What is written -/

mutual

/-- Every number in a value is a natural number of 64 bits. -/
def IsWhole : Value → Prop
  | .number n => ∃ k < UInt64.size, n = .integer k
  | .list vs => AreWhole vs
  | .object ms => MembersAreWhole ms
  | _ => True

def AreWhole : List Value → Prop
  | [] => True
  | v :: vs => v.IsWhole ∧ AreWhole vs

def MembersAreWhole : List (String × Value) → Prop
  | [] => True
  | (_, v) :: ms => v.IsWhole ∧ MembersAreWhole ms

end

theorem areWhole_iff {vs : List Value} : AreWhole vs ↔ ∀ v ∈ vs, v.IsWhole := by
  induction vs with
  | nil => simp [AreWhole]
  | cons v vs ih => simp [AreWhole, ih]

theorem membersAreWhole_iff {ms : List (String × Value)} :
    MembersAreWhole ms ↔ ∀ m ∈ ms, m.2.IsWhole := by
  induction ms with
  | nil => simp [MembersAreWhole]
  | cons m ms ih => simp [MembersAreWhole, ih]

theorem natural_inj {m n : Nat} : natural m = natural n ↔ m = n := by
  rw [natural, natural, number.injEq, Number.integer.injEq, Int.natCast_inj]

@[simp] theorem isWhole_string (s : String) : (Value.string s).IsWhole := trivial

@[simp] theorem isWhole_natural {n : Nat} : (natural n).IsWhole ↔ n < UInt64.size := by
  simp only [natural, IsWhole, Number.integer.injEq, Int.natCast_inj]
  exact ⟨fun ⟨_, hk, hn⟩ => hn ▸ hk, fun h => ⟨n, h, rfl⟩⟩

@[simp] theorem isWhole_list {vs : List Value} : (Value.list vs).IsWhole ↔ ∀ v ∈ vs, v.IsWhole :=
  areWhole_iff

@[simp] theorem isWhole_object {ms : List (String × Value)} :
    (Value.object ms).IsWhole ↔ ∀ m ∈ ms, m.2.IsWhole :=
  membersAreWhole_iff

@[simp] theorem isWhole_texts (xs : List String) : (texts xs).IsWhole := by
  simp [texts]

theorem isWhole_optional {α : Type} {write : α → Value} (o : Option α)
    (h : ∀ a, (write a).IsWhole) : (optional (o.map write)).IsWhole := by
  cases o with
  | none => trivial
  | some a => exact h a

abbrev bytesOf (cs : List Char) : List UInt8 := cs.flatMap String.utf8EncodeChar

theorem spells_writeString (s : String) :
    Spells (.string (.ok s) (.ok ())) (bytesOf (writeString s)) := by
  obtain ⟨t, hbytes, ht, hvalue⟩ := exists_stringTail s
  rw [bytesOf, hbytes, ← hvalue]
  exact .string ht

theorem bytesOf_write_natural (k : Nat) :
    bytesOf (Number.write (.integer k)) = decimalBytes k := by
  have hdigits : (toString (k : Int)).toList = Nat.toDigits 10 k := String.toList_ofList
  rw [Number.write, hdigits]
  rfl

theorem spells_write_natural {k : Nat} (hk : k < UInt64.size) :
    Spells (.number (.ok (.integer k)) (.ok ())) (bytesOf (Number.write (.integer k))) := by
  have h := Spells.positive (whole_decimalBytes k) .absent .absent
  rwa [List.append_nil, List.append_nil, value_decimalBytes hk, ← bytesOf_write_natural] at h

theorem isGap_nil : IsGap [] := fun _ hb => absurd hb List.not_mem_nil

theorem spellsPadded {d : Draft} {t : List UInt8} (h : Spells d t) : SpellsPadded d t := by
  have hpadded := SpellsPadded.gaps isGap_nil h isGap_nil
  rwa [List.nil_append, List.append_nil] at hpadded

theorem spellsKey_writeString (s : String) :
    SpellsKey (.string (.ok s) (.ok ())) (bytesOf (writeString s)) := by
  obtain ⟨t, hbytes, ht, hvalue⟩ := exists_stringTail s
  have hkey := SpellsKey.string isGap_nil ht isGap_nil
  rwa [List.nil_append, List.append_nil, hvalue, ← hbytes] at hkey

mutual

/-- What is written for a value spells it. -/
theorem spells_write : (v : Value) → v.IsWhole → Spells v.draft (bytesOf v.write)
  | .null, _ => .word .null
  | .boolean true, _ => .word (.boolean true)
  | .boolean false, _ => .word (.boolean false)
  | .number n, h => by
      obtain ⟨k, hk, rfl⟩ := h
      exact spells_write_natural hk
  | .string s, _ => spells_writeString s
  | .list [], _ => .emptyList isGap_nil
  | .list (v :: vs), h => by
      rw [write, List.cons_append, bytesOf, List.flatMap_cons, List.flatMap_append]
      exact .list (spells_writeItems vs h.2 (spellsPadded (spells_write v h.1)))
  | .object [], _ => .emptyObject isGap_nil
  | .object ((k, v) :: ms), h => by
      rw [write, List.append_assoc, List.cons_append, List.cons_append, bytesOf, List.flatMap_cons,
        List.flatMap_append, List.flatMap_cons, List.flatMap_append]
      exact .object (spells_writeMembers ms h.2 (spellsKey_writeString k)
        (spellsPadded (spells_write v h.1)))

theorem spells_writeItems : (vs : List Value) → AreWhole vs → ∀ {d t}, SpellsPadded d t →
    SpellsItems (d :: drafts vs) (t ++ bytesOf (writeItems vs))
  | [], _, _, _, ht => .last ht
  | v :: vs, h, _, _, ht => by
      rw [writeItems, List.cons_append, bytesOf, List.flatMap_cons, List.flatMap_append]
      exact .more ht (spells_writeItems vs h.2 (spellsPadded (spells_write v h.1)))

theorem spells_writeMembers : (ms : List (String × Value)) → MembersAreWhole ms →
    ∀ {key d k t}, SpellsKey key k → SpellsPadded d t →
      SpellsMembers ((key, d) :: memberDrafts ms) (k ++ 0x3A :: (t ++ bytesOf (writeMembers ms)))
  | [], _, _, _, _, _, hk, ht => .last hk ht
  | (k, v) :: ms, h, _, _, _, _, hk, ht => by
      rw [writeMembers, List.append_assoc, List.cons_append, List.cons_append, bytesOf,
        List.flatMap_cons, List.flatMap_append, List.flatMap_cons, List.flatMap_append]
      exact .more hk ht (spells_writeMembers ms h.2 (spellsKey_writeString k)
        (spellsPadded (spells_write v h.1)))

end

theorem spelled_text {v : Value} (h : v.IsWhole) : v.Spelled (Text.Utf8.encode v.text) := by
  rw [text, Text.Utf8.encode_ofList]
  exact spellsPadded (spells_write v h)

theorem read_text {α : Type} {reader : Reader α} {v : Value} (h : v.IsWhole) :
    read reader (Text.Utf8.encode v.text) = reader depthLimit v.draft :=
  read_of_spells (spelled_text h)

end Value

end Gutter.Json

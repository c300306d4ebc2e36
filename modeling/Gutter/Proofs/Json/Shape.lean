import Gutter.Json.Shape
import Gutter.Proofs.Json.Value

/-!
# What the readers make of a value

Each reader of texts, numbers, lists, maps and records on the draft of a value that suits it. A
record is read from an object by the names of its members, whatever their order.
-/

namespace Gutter.Json

open Value

variable {α σ : Type} {n : Nat} {v : Value} {a : α} {reader : Reader α}

theorem lift_ok {α : Type} (a : α) : lift (.ok a) = .ok a := rfl

def Reads (reader : Reader α) (n : Nat) (v : Value) (a : α) : Prop :=
  ∀ ⦃depth⦄, n < depth → reader depth v.draft = .ok a

def Accepts (reader : Reader α) (n : Nat) (d : Draft) (a : α) : Prop :=
  ∀ ⦃depth⦄, n < depth → reader depth d = .ok a

theorem Reads.read_text (h : Reads reader n v a) (hv : v.IsWhole) (hn : n < depthLimit) :
    read reader (Text.Utf8.encode v.text) = .ok a :=
  (Value.read_text hv).trans (h hn)

theorem Reads.mono {m : Nat} (h : Reads reader m v a) (hmn : m ≤ n) : Reads reader n v a :=
  fun _ hn => h (Nat.lt_of_le_of_lt hmn hn)

/-! ## Readers -/

theorem draft_eq_null {v : Value} : v.draft = .word (.ok .null) ↔ v = .null := by
  cases v <;> simp [Value.draft]

theorem reads_textAs (wanted s : String) : Reads (.textAs wanted) 0 (.string s) s := fun _ _ => rfl

theorem reads_text (s : String) : Reads .text 0 (.string s) s := reads_textAs "a string" s

theorem reads_natural (wanted : String) {bound k : Nat} (hk : k < bound) :
    Reads (.natural wanted bound) 0 (natural k) k := by
  intro depth _
  have hrange : (0 ≤ (k : Int) && (k : Int) < bound) = true := by simpa using hk
  simp only [natural, Value.draft, Reader.natural, lift_ok, bind, Except.bind, hrange,
    if_true, Int.toNat_natCast]

theorem reads_byte (k : UInt8) : Reads .byte 0 (natural k.toNat) k := by
  intro depth hdepth
  rw [Reader.byte, reads_natural "u8" k.toNat_lt_size hdepth, Except.map, UInt8.ofNat_toNat]

theorem reads_word64 (wanted : String) (k : UInt64) :
    Reads (.word64 wanted) 0 (natural k.toNat) k := by
  intro depth hdepth
  rw [Reader.word64, reads_natural wanted k.toNat_lt_size hdepth, Except.map, UInt64.ofNat_toNat]

/-- A value that may be `null`, if what is written for the others is not. -/
theorem reads_optional {write : α → Value} {o : Option α}
    (h : ∀ a ∈ o, Reads reader n (write a) a ∧ write a ≠ .null) :
    Reads (.optional reader) n (.optional (o.map write)) o := by
  intro depth hdepth
  cases o with
  | none => rfl
  | some a =>
      obtain ⟨hread, hnull⟩ := h a rfl
      rw [Option.map_some, Value.optional, Option.getD_some, Reader.optional, hread hdepth,
        Except.map]
      exact fun hdraft => hnull (draft_eq_null.mp hdraft)

theorem each_drafts {write : α → Value} {as : List α} {depth : Nat}
    (h : ∀ a ∈ as, reader depth (write a).draft = .ok a) :
    Reader.each (reader depth) (drafts (as.map write)) = .ok as := by
  induction as with
  | nil => rfl
  | cons a as ih =>
      obtain ⟨ha, has⟩ := List.forall_mem_cons.mp h
      simp only [List.map_cons, drafts, Reader.each, ha, ih has, bind, Except.bind, pure,
        Except.pure]

theorem reads_list {write : α → Value} {as : List α}
    (h : ∀ a ∈ as, Reads reader n (write a) a) :
    Reads (.list reader) (n + 1) (.list (as.map write)) as := by
  intro depth hdepth
  obtain ⟨henter, hlt⟩ := enter_of_lt hdepth
  simp only [Value.draft, Reader.list, henter, lift_ok, bind, Except.bind,
    each_drafts fun a ha => h a ha hlt]
  rfl

theorem reads_texts (xs : List String) : Reads (.list .text) 1 (.texts xs) xs :=
  reads_list fun s _ => reads_text s

theorem eachMember_memberDrafts {write : α → Value} {as : List (String × α)} {depth : Nat}
    (h : ∀ a ∈ as, reader depth (write a.2).draft = .ok a.2) :
    Reader.eachMember (reader depth) (memberDrafts (as.map fun a => (a.1, write a.2))) =
      .ok as := by
  induction as with
  | nil => rfl
  | cons a as ih =>
      obtain ⟨ha, has⟩ := List.forall_mem_cons.mp h
      simp only [List.map_cons, memberDrafts, Reader.eachMember, Draft.key, lift_ok,
        ha, ih has, bind, Except.bind, pure, Except.pure]

theorem reads_members {write : α → Value} {as : List (String × α)}
    (h : ∀ a ∈ as, Reads reader n (write a.2) a.2) :
    Reads (.members reader) (n + 1) (.object (as.map fun a => (a.1, write a.2))) as := by
  intro depth hdepth
  obtain ⟨henter, hlt⟩ := enter_of_lt hdepth
  simp only [Value.draft, Reader.members, henter, lift_ok, bind, Except.bind,
    eachMember_memberDrafts fun a ha => h a ha hlt]
  rfl

theorem mismatch_ne_ok {wanted : String} {d : Draft} :
    Reader.mismatch wanted d ≠ (.ok a : Except Error α) := fun h => by
  cases d with
  | gap fault | list ds close | object ms close => cases h
  | word value | number value skim | string value skim => cases value <;> cases h

theorem optional_eq_some {depth : Nat} {d : Draft}
    (h : Reader.optional reader depth d = .ok (some a)) : reader depth d = .ok a := by
  unfold Reader.optional at h
  split at h
  · cases h
  · cases hread : reader depth d with
    | error e => simp [hread, Except.map] at h
    | ok b => simpa [hread, Except.map] using h

/-! ## Records -/

theorem reads_field {name : String} {alias? : Option String} {absence : Absence}
    {store : α → σ → σ} (h : Reads reader n v a) :
    Reads { Field.of name absence reader store with alias? }.set n v (store a) :=
  fun _ hdepth => by simp only [Field.of, h hdepth, Except.map]

theorem eq_store_of_field {name : String} {absence : Absence} {store : α → σ → σ}
    {alias? : Option String} {depth : Nat} {d : Draft} {u : σ → σ}
    (h : { Field.of name absence reader store with alias? }.set depth d = .ok u) :
    ∃ a, reader depth d = .ok a ∧ u = store a := by
  simp only [Field.of] at h
  cases hread : reader depth d with
  | error e => simp [hread, Except.map] at h
  | ok a =>
      rw [hread, Except.map, Except.ok.injEq] at h
      exact ⟨a, rfl, h.symm⟩

namespace Shape

/-- The members of an object name some fields of a record and do some updates to it; the others are
no fields. -/
inductive Fills (s : Shape σ) (n : Nat) :
    List (Draft × Draft) → (names : List String) → (updates : List (σ → σ)) → Prop where
  | nil : Fills s n [] [] []
  | field {key d name f u ms names updates} (hkey : key.key = .ok name)
      (hf : s.fields.find? (fun f => f.answers name) = some f) (hu : Accepts f.set n d u)
      (hms : Fills s n ms names updates) :
      Fills s n ((key, d) :: ms) (f.name :: names) (u :: updates)
  | other {key d name ms names updates} (hkey : key.key = .ok name)
      (hf : s.fields.find? (fun f => f.answers name) = none) (hd : d.skim = .ok ())
      (hms : Fills s n ms names updates) : Fills s n ((key, d) :: ms) names updates

variable {s : Shape σ} {ms ms' : List (Draft × Draft)} {names : List String}
  {updates : List (σ → σ)}

/-- Members in another order do the same updates in another order. -/
theorem Fills.perm (h : s.Fills n ms names updates) (hperm : ms.Perm ms') :
    ∃ names' updates', s.Fills n ms' names' updates' ∧ names.Perm names' ∧
      updates.Perm updates' := by
  induction hperm generalizing names updates with
  | nil => exact ⟨names, updates, h, .refl _, .refl _⟩
  | cons m _ ih =>
      cases h with
      | field hkey hf hu hms =>
          obtain ⟨names', updates', hms', hnames, hupdates⟩ := ih hms
          exact ⟨_, _, .field hkey hf hu hms', hnames.cons _, hupdates.cons _⟩
      | other hkey hf hd hms =>
          obtain ⟨names', updates', hms', hnames, hupdates⟩ := ih hms
          exact ⟨names', updates', .other hkey hf hd hms', hnames, hupdates⟩
  | swap m m' l =>
      cases h with
      | field hkey hf hu hms =>
          cases hms with
          | field hkey' hf' hu' hms =>
              exact ⟨_, _, .field hkey' hf' hu' (.field hkey hf hu hms), .swap _ _ _, .swap _ _ _⟩
          | other hkey' hf' hd' hms =>
              exact ⟨_, _, .other hkey' hf' hd' (.field hkey hf hu hms), .refl _, .refl _⟩
      | other hkey hf hd hms =>
          cases hms with
          | field hkey' hf' hu' hms =>
              exact ⟨_, _, .field hkey' hf' hu' (.other hkey hf hd hms), .refl _, .refl _⟩
          | other hkey' hf' hd' hms =>
              exact ⟨_, _, .other hkey' hf' hd' (.other hkey hf hd hms), .refl _, .refl _⟩
  | trans _ _ ih ih' =>
      obtain ⟨names', updates', hms', hnames, hupdates⟩ := ih h
      obtain ⟨names'', updates'', hms'', hnames', hupdates'⟩ := ih' hms'
      exact ⟨names'', updates'', hms'', hnames.trans hnames', hupdates.trans hupdates'⟩

theorem readMembers_of_fills (h : s.Fills n ms names updates) (hnames : names.Nodup) {depth : Nat}
    (hdepth : n < depth) {seen : List String} (hseen : ∀ name ∈ names, name ∉ seen) (r : σ) :
    s.readMembers depth ms seen r =
      .ok (names.reverse ++ seen, updates.foldl (fun r u => u r) r) := by
  -- the names that were seen grow, and no later member has one of them
  induction h generalizing seen r with
  | nil => rfl
  | @field key d name f u ms names updates hkey hf hu hms ih =>
      rw [List.nodup_cons] at hnames
      obtain ⟨hnew, hseen⟩ := List.forall_mem_cons.mp hseen
      have hseen' : ∀ x ∈ names, x ∉ f.name :: seen := fun x hx => by
        rw [List.mem_cons, not_or]
        exact ⟨fun h => hnames.1 (h ▸ hx), hseen x hx⟩
      have hrest := ih hnames.2 hseen' (u r)
      simp only [readMembers, hkey, lift_ok, bind, Except.bind, hf, if_neg hnew, hu hdepth, hrest,
        List.reverse_cons, List.append_assoc, List.singleton_append, List.foldl_cons]
  | other hkey hf hd hms ih =>
      simp only [readMembers, hkey, lift_ok, bind, Except.bind, hf, hd, ih hnames hseen r]

/-- A record is read from an object that names each field at most once and no needed field never. -/
theorem accepts_of_fills (h : s.Fills n ms names updates) (hnames : names.Nodup)
    (hneeded : ∀ f ∈ s.fields, f.absence = .refused → f.name ∈ names) {r : σ}
    (hr : updates.foldl (fun r u => u r) s.initial = r) :
    Accepts s.reader (n + 1) (.object ms .closed) r := by
  intro depth hdepth
  obtain ⟨henter, hlt⟩ := enter_of_lt hdepth
  have hmissing : s.missing? (names.reverse ++ []) = none := by
    rw [missing?, Option.map_eq_none_iff, List.find?_eq_none]
    intro f hf
    simpa using hneeded f hf
  simp only [reader, henter, lift_ok, bind, Except.bind,
    readMembers_of_fills h hnames hlt (fun _ _ => List.not_mem_nil) s.initial, hmissing, hr]
  rfl

theorem reads_of_fills {ms : List (String × Value)}
    (h : s.Fills n (memberDrafts ms) names updates) (hnames : names.Nodup)
    (hneeded : ∀ f ∈ s.fields, f.absence = .refused → f.name ∈ names) {r : σ}
    (hr : updates.foldl (fun r u => u r) s.initial = r) : Reads s.reader (n + 1) (.object ms) r :=
  accepts_of_fills h hnames hneeded hr

def Keeps (s : Shape σ) (P : σ → Prop) : Prop :=
  ∀ f ∈ s.fields, ∀ {depth d u}, f.set depth d = .ok u → ∀ {r}, P r → P (u r)

variable {P : σ → Prop} {depth : Nat} {r r' : σ}

theorem Keeps.readMembers (h : s.Keeps P) {ms : List (Draft × Draft)} {seen seen' : List String}
    (hr : P r) (hread : s.readMembers depth ms seen r = .ok (seen', r')) : P r' := by
  induction ms generalizing seen r with
  | nil =>
      cases hread
      exact hr
  | cons m ms ih =>
      obtain ⟨name, -, hread⟩ := bind_eq_ok_iff.mp hread
      split at hread
      · obtain ⟨-, -, hread⟩ := bind_eq_ok_iff.mp hread
        exact ih hr hread
      · next f hf =>
        split at hread
        · cases hread
        · obtain ⟨u, hu, hread⟩ := bind_eq_ok_iff.mp hread
          exact ih (h f (List.mem_of_find?_eq_some hf) hu hr) hread

theorem Keeps.readRow (h : s.Keeps P) {close : Close} {fs : List (Field σ)} (hfs : fs ⊆ s.fields)
    {index : Nat} {ds : List Draft} (hr : P r)
    (hread : s.readRow depth close fs index ds r = .ok r') : P r' := by
  induction fs generalizing index ds r with
  | nil =>
      obtain ⟨-, -, hread⟩ := bind_eq_ok_iff.mp hread
      cases hread
      exact hr
  | cons f fs ih =>
      obtain ⟨hf, hfs⟩ := List.cons_subset.mp hfs
      cases ds with
      | nil =>
          obtain ⟨-, -, hread⟩ := bind_eq_ok_iff.mp hread
          split at hread
          · exact ih hfs hr hread
          · cases hread
      | cons d ds =>
          obtain ⟨u, hu, hread⟩ := bind_eq_ok_iff.mp hread
          exact ih hfs (h f hf hu hr) hread

/-- What holds of a record before a field is read, and is broken by no field, holds of every record
that is read. -/
theorem Keeps.of_reader (h : s.Keeps P) (hinitial : P s.initial) {d : Draft}
    (hread : s.reader depth d = .ok r) : P r := by
  cases d with
  | object ms close =>
      obtain ⟨depth, -, hread⟩ := bind_eq_ok_iff.mp hread
      obtain ⟨⟨seen, r'⟩, hmembers, hread⟩ := bind_eq_ok_iff.mp hread
      obtain ⟨-, -, hread⟩ := bind_eq_ok_iff.mp hread
      split at hread
      · cases hread
      · cases hread
        exact h.readMembers hinitial hmembers
  | list ds close =>
      obtain ⟨depth, -, hread⟩ := bind_eq_ok_iff.mp hread
      exact h.readRow (List.Subset.refl _) hinitial hread
  | _ =>
      simp only [Shape.reader] at hread
      exact absurd hread mismatch_ne_ok

end Shape

end Gutter.Json

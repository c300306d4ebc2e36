import Gutter.Proofs.Session.Deed
import Gutter.Terminal.Check
import Mathlib.Data.List.Induction

/-!
# The calls of a check

Every file gets an editor of its own, and the linter is called once for each file that it handles.
The calls are told apart by their numbers, which count the handled files from one on.
-/

namespace Gutter

namespace Check

variable {settings : Settings} {documents : List (Path × String)} {cursor : UInt64}

/-! ## The desk of a check -/

def document (cursor : UInt64) (i : Nat) (d : Path × String) : Document :=
  ⟨d.1, some d.2, some (if i = 0 then cursor else 0)⟩

/-- The document of an editor. -/
def document? (documents : List (Path × String)) (cursor : UInt64) (e : EditorId) :
    Option Document :=
  match e.number with
  | 0 => none
  | i + 1 => documents[i]?.map (document cursor i)

def editors (k : Nat) : List EditorId := (List.range k).map fun i => ⟨i + 1⟩

theorem editors_succ (k : Nat) : editors (k + 1) = editors k ++ [⟨k + 1⟩] := by
  simp [editors, List.range_succ]

theorem editors_eq_map_zipIdx (documents : List (Path × String)) :
    editors documents.length = documents.zipIdx.map fun x => ⟨x.2 + 1⟩ := by
  rw [editors, List.range_eq_range', ← List.zipIdx_map_snd 0 documents, List.map_map]
  rfl

theorem desk_concat (documents : List (Path × String)) (d : Path × String) (cursor : UInt64) :
    desk (documents ++ [d]) cursor =
      (desk documents cursor).openDocument ⟨documents.length + 1⟩
        (document cursor documents.length d) true := by
  simp [desk, List.zipIdx_append, document]

theorem visible_desk (documents : List (Path × String)) (cursor : UInt64) :
    (desk documents cursor).visible = editors documents.length := by
  induction documents using List.reverseRecOn with
  | nil => rfl
  | append_singleton documents d ih =>
      rw [desk_concat, List.length_append, List.length_singleton, editors_succ, ← ih]
      rfl

theorem get?_desk (documents : List (Path × String)) (cursor : UInt64) (e : EditorId) :
    (desk documents cursor).documents.get? e = document? documents cursor e := by
  induction documents using List.reverseRecOn with
  | nil => cases h : e.number <;> simp [document?, h] <;> rfl
  | append_singleton documents d ih =>
      rw [desk_concat, Desk.openDocument, Table.get?_insert, ih]
      obtain ⟨number⟩ := e
      cases number with
      | zero => simp [document?]
      | succ i =>
          simp only [document?, EditorId.mk.injEq, Nat.add_right_cancel_iff]
          rcases Nat.lt_trichotomy i documents.length with h | rfl | h
          · rw [if_neg (Nat.ne_of_lt h), List.getElem?_append_left h]
          · simp
          · rw [if_neg (Nat.ne_of_gt h), List.getElem?_eq_none (Nat.le_of_lt h),
              List.getElem?_eq_none (by simpa using Nat.succ_le_of_lt h)]

theorem exists_cursor {e : EditorId} {doc : Document} (hd : document? documents cursor e = some doc) :
    ∃ line, doc.cursor = some line := by
  obtain ⟨number⟩ := e
  cases number with
  | zero => cases hd
  | succ i =>
      obtain ⟨d, -, rfl⟩ := Option.map_eq_some_iff.mp hd
      exact ⟨_, rfl⟩

theorem file?_host (documents : List (Path × String)) (cursor : UInt64) (e : EditorId) :
    (desk documents cursor).host.file? e = (document? documents cursor e).map Document.file := by
  rw [← get?_desk]
  rfl

theorem text?_host (documents : List (Path × String)) (cursor : UInt64) (e : EditorId) :
    (desk documents cursor).host.text? e = (document? documents cursor e).bind Document.text := by
  rw [← get?_desk]
  rfl

/-! ## The calls -/

def handledBefore (settings : Settings) (documents : List (Path × String)) (k : Nat) : Nat :=
  (documents.take k).countP fun d => (Extensions.ofSettings settings).supports d.1

theorem handledBefore_succ {d : Path × String} {k : Nat} (hd : documents[k]? = some d) :
    handledBefore settings documents (k + 1) = handledBefore settings documents k +
      if (Extensions.ofSettings settings).supports d.1 then 1 else 0 := by
  rw [handledBefore, List.take_add_one, hd, List.countP_append, ← handledBefore]
  simp [List.countP_singleton]

theorem handledBefore_le (settings : Settings) (documents : List (Path × String)) (k : Nat) :
    handledBefore settings documents k ≤ documents.length :=
  Nat.le_trans List.countP_le_length (List.length_take_le' _ _)

/-- A call of the linter. -/
structure Call where
  file : Path
  run : Run

/-- The call of the linter for the file of an editor, if the linter handles it. -/
def call? (settings : Settings) (documents : List (Path × String)) (e : EditorId) : Option Call :=
  match e.number with
  | 0 => none
  | i + 1 =>
    documents[i]?.bind fun d => ((Extensions.ofSettings settings).kindOf? d.1).map fun kind =>
      { file := d.1
        run := ⟨e, ⟨UInt64.ofNat (handledBefore settings documents (i + 1))⟩,
          ⟨d.2, kind, settings.locale⟩⟩ }

theorem call?_of_document? {e : EditorId} {doc : Document}
    (hd : document? documents cursor e = some doc) :
    call? settings documents e = ((Extensions.ofSettings settings).kindOf? doc.file).map fun kind =>
      { file := doc.file
        run := ⟨e, ⟨UInt64.ofNat (handledBefore settings documents e.number)⟩,
          ⟨doc.text.getD "", kind, settings.locale⟩⟩ } := by
  obtain ⟨number⟩ := e
  cases number with
  | zero => cases hd
  | succ i =>
      obtain ⟨d, hget, rfl⟩ := Option.map_eq_some_iff.mp hd
      simp only [call?, hget, Option.bind_some, document, Option.getD_some]

theorem editor_of_call? {e : EditorId} {c : Call} (h : call? settings documents e = some c) :
    c.run.editor = e := by
  obtain ⟨number⟩ := e
  cases number with
  | zero => cases h
  | succ i =>
      obtain ⟨d, -, h⟩ := Option.bind_eq_some_iff.mp h
      obtain ⟨kind, -, rfl⟩ := Option.map_eq_some_iff.mp h
      rfl

theorem mem_editors_of_call? {e : EditorId} {c : Call} (h : call? settings documents e = some c) :
    e.number ≤ documents.length ∧ e ∈ editors documents.length := by
  obtain ⟨number⟩ := e
  cases number with
  | zero => cases h
  | succ i =>
      obtain ⟨d, hd, -⟩ := Option.bind_eq_some_iff.mp h
      have hi : i < documents.length := (List.getElem?_eq_some_iff.mp hd).1
      exact ⟨hi, List.mem_map.mpr ⟨i, List.mem_range.mpr hi, rfl⟩⟩

def Call.awaiting (c : Call) : Entry := (Entry.new c.file).start c.run.generation

/-! ## Asking for all checks -/

/-- The first `k` editors have been asked for a check, and no other. -/
structure Begun (settings : Settings) (documents : List (Path × String)) (k : Nat) (s : Session) :
    Prop where
  queue : s.queue = []
  clock : s.clock = ⟨UInt64.ofNat (handledBefore settings documents k)⟩
  runs : s.runs = ((editors k).filterMap (call? settings documents)).map Call.run
  generations : s.runs.map Run.generation =
    (List.range (handledBefore settings documents k)).map fun j => ⟨UInt64.ofNat (j + 1)⟩
  entries : ∀ e, s.entry? e =
    if e.number ≤ k then (call? settings documents e).map Call.awaiting else none


variable {s : Session} {k : Nat}

theorem begun_zero (hq : s.queue = []) (hc : s.clock = .initial) (hr : s.runs = [])
    (he : ∀ e, s.entry? e = none) : Begun settings documents 0 s where
  queue := hq
  clock := hc
  runs := hr
  generations := by rw [hr]; rfl
  entries e := by
    rw [he]
    split
    · next h =>
      obtain ⟨number⟩ := e
      obtain rfl := Nat.le_zero.mp h
      rfl
    · rfl

/-- The first editors together with the next one. -/
theorem entries_succ {s' : Session} (hb : Begun settings documents k s)
    (h : ∀ e, s'.entry? e = if e = ⟨k + 1⟩ then (call? settings documents ⟨k + 1⟩).map Call.awaiting
      else s.entry? e) (e : EditorId) :
    s'.entry? e =
      if e.number ≤ k + 1 then (call? settings documents e).map Call.awaiting else none := by
  rw [h, hb.entries]
  by_cases he : e = ⟨k + 1⟩
  · subst he
    simp
  · have hne : e.number ≠ k + 1 := fun hn => he (congrArg EditorId.mk hn)
    have hle : e.number ≤ k + 1 ↔ e.number ≤ k := by omega
    simp only [he, hle, ite_false]

theorem filterMap_editors_succ (settings : Settings) (documents : List (Path × String)) (k : Nat) :
    (editors (k + 1)).filterMap (call? settings documents) =
      (editors k).filterMap (call? settings documents) ++
        (call? settings documents ⟨k + 1⟩).toList := by
  rw [editors_succ, List.filterMap_append]
  cases h : call? settings documents ⟨k + 1⟩ <;> simp [h]

/-- The call for the next editor, if the linter handles its document. -/
theorem call?_succ {d : Path × String} (hd : documents[k]? = some d) :
    call? settings documents ⟨k + 1⟩ =
      ((Extensions.ofSettings settings).kindOf? d.1).map fun kind =>
        { file := d.1
          run := ⟨⟨k + 1⟩, ⟨UInt64.ofNat (handledBefore settings documents (k + 1))⟩,
            ⟨d.2, kind, settings.locale⟩⟩ } := by
  have hdocument : document? documents 0 ⟨k + 1⟩ = some (document 0 k d) := by
    simp [document?, hd]
  exact call?_of_document? hdocument

theorem Begun.entry?_succ (hb : Begun settings documents k s) : s.entry? ⟨k + 1⟩ = none := by
  rw [hb.entries, if_neg (Nat.not_succ_le_self k)]

/-- The linter does not handle the document of the next editor. -/
theorem Begun.skip (hb : Begun settings documents k s) {d : Path × String}
    (hd : documents[k]? = some d) (hkind : (Extensions.ofSettings settings).kindOf? d.1 = none) :
    Begun settings documents (k + 1) (s.note (.unsupported ⟨k + 1⟩ d.1)) := by
  have hcount : handledBefore settings documents (k + 1) = handledBefore settings documents k := by
    rw [handledBefore_succ hd, Extensions.supports, hkind]
    rfl
  have hcall : call? settings documents ⟨k + 1⟩ = none := by
    rw [call?_succ hd, hkind, Option.map_none]
  have hcalls := filterMap_editors_succ settings documents k
  rw [hcall, Option.toList_none, List.append_nil] at hcalls
  refine ⟨hb.queue, ?_, ?_, ?_, entries_succ hb fun e => ?_⟩
  · rw [hcount]
    exact hb.clock
  · rw [hcalls]
    exact hb.runs
  · rw [hcount]
    exact hb.generations
  · rw [hcall]
    split
    · next he =>
      rw [he]
      exact hb.entry?_succ
    · rfl

/-- The check of the next editor is started. -/
theorem Begun.start (hb : Begun settings documents k s) {d : Path × String} {kind : DocKind}
    (hd : documents[k]? = some d)
    (hkind : (Extensions.ofSettings settings).kindOf? d.1 = some kind) :
    Begun settings documents (k + 1)
      ((s.ensure ⟨k + 1⟩ d.1).start settings ⟨⟨k + 1⟩, d.1, kind⟩ d.2) := by
  have hcount : handledBefore settings documents (k + 1) =
      handledBefore settings documents k + 1 := by
    rw [handledBefore_succ hd, Extensions.supports, hkind]
    rfl
  have hnext : s.clock.next = ⟨UInt64.ofNat (handledBefore settings documents (k + 1))⟩ := by
    rw [hb.clock, Generation.next, hcount, UInt64.ofNat_add]
    rfl
  have hcall : call? settings documents ⟨k + 1⟩ = _ := call?_succ hd
  rw [hkind, Option.map_some] at hcall
  have hcalls := filterMap_editors_succ settings documents k
  rw [hcall, Option.toList_some] at hcalls
  refine ⟨hb.queue, hnext, ?_, ?_, entries_succ hb fun e => ?_⟩
  · rw [hcalls, List.map_append, ← hb.runs, ← hnext]
    rfl
  · rw [hcount, List.range_succ, List.map_append, ← hb.generations, List.map_singleton,
      ← hcount, ← hnext]
    exact List.map_append
  · rw [Session.entry?_start, hcall]
    split
    · next he =>
      rw [he, Session.entry?_ensure_self, hb.entry?_succ, Option.map_some, Option.map_some]
      exact congrArg (fun g => some ((Entry.new d.1).start g)) hnext
    · next he => rw [Session.entry?_ensure, if_neg he]

/-- The next editor is asked for a check. -/
theorem Begun.request (hb : Begun settings documents k s) (hk : k < documents.length)
    (cursor : UInt64) :
    Begun settings documents (k + 1)
      ((Service.ofSettings settings).request (desk documents cursor).host ⟨k + 1⟩ false s).1 := by
  obtain ⟨d, hd⟩ : ∃ d, documents[k]? = some d := ⟨_, List.getElem?_eq_getElem hk⟩
  have hdocument : document? documents cursor ⟨k + 1⟩ = some (document cursor k d) := by
    simp [document?, hd]
  have hfile : (desk documents cursor).host.file? ⟨k + 1⟩ = some d.1 := by
    rw [file?_host, hdocument]
    rfl
  have htext : (desk documents cursor).host.text? ⟨k + 1⟩ = some d.2 := by
    rw [text?_host, hdocument]
    rfl
  rw [Service.request_of_new hfile hb.entry?_succ, htext, Option.getD_some,
    show (Service.ofSettings settings).extensions = .ofSettings settings from rfl]
  cases hkind : (Extensions.ofSettings settings).kindOf? d.1 with
  | none => exact hb.skip hd hkind
  | some kind => exact hb.start hd hkind

theorem Begun.requestAll (hb : Begun settings documents 0 s) (hk : k ≤ documents.length)
    (cursor : UInt64) :
    Begun settings documents k ((Service.ofSettings settings).requestAll (desk documents cursor).host
      (editors k) false s) := by
  induction k with
  | zero => exact hb
  | succ k ih =>
      have hprevious := ih (Nat.le_of_succ_le hk)
      rw [Service.requestAll] at hprevious ⊢
      rw [editors_succ, List.foldl_append]
      exact hprevious.request hk cursor

/-- As the service becomes active, it asks for a check of every editor. -/
theorem begun_activate (hb : Begun settings documents 0 s) (cursor : UInt64) :
    Begun settings documents documents.length
      ((Service.ofSettings settings).activate (desk documents cursor).host s) := by
  have hvisible : (desk documents cursor).host.visible = editors documents.length :=
    visible_desk documents cursor
  have hnote : Begun settings documents 0
      (s.note (.activate (editors documents.length).length)) :=
    ⟨hb.queue, hb.clock, hb.runs, hb.generations, hb.entries⟩
  rw [Service.activate, hvisible]
  exact hnote.requestAll (Nat.le_refl _) cursor

end Check

end Gutter

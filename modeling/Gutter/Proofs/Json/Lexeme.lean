import Gutter.Json.Printer

/-!
# The grammar of strings and numbers

A string or a number that follows the grammar is read to its end and no further. What is written for
a text or a natural number follows the grammar and is read back.
-/

namespace Gutter

namespace Text.Utf8

theorem encode_ofList (cs : List Char) :
    encode (String.ofList cs) = cs.flatMap String.utf8EncodeChar := by
  simp [encode, String.toByteArray_ofList, List.utf8Encode]

theorem encode_eq_flatMap (s : String) : encode s = s.toList.flatMap String.utf8EncodeChar := by
  rw [← encode_ofList, String.ofList_toList]

end Text.Utf8

namespace Json

open Text.Utf8

/-! ## Strings -/

def isPlain (b : UInt8) : Bool := 0x20 ≤ b && b ≠ 0x22 && b ≠ 0x5C

/-- The rest of a string after its opening quote. -/
inductive StringTail : List UInt8 → Prop where
  | quote : StringTail [0x22]
  | plain {b t} (hb : isPlain b = true) (ht : StringTail t) : StringTail (b :: t)
  | letter {e t} (he : (escaped? e).isSome = true) (ht : StringTail t) :
      StringTail (0x5C :: e :: t)
  | point {a b c d t} (hd : (hex4? a b c d).isSome = true) (ht : StringTail t) :
      StringTail (0x5C :: 0x75 :: a :: b :: c :: d :: t)

theorem isPlain_iff {b : UInt8} : isPlain b = true ↔ ¬ b < 0x20 ∧ b ≠ 0x22 ∧ b ≠ 0x5C := by
  simp [isPlain, and_assoc]

theorem ne_of_isSome_escaped? {e : UInt8} (he : (escaped? e).isSome = true) : e ≠ 0x75 := by
  rintro rfl
  simp [escaped?] at he

theorem skimString_plain {b : UInt8} (hb : isPlain b = true) (t : List UInt8) :
    skimString (b :: t) = skimString t := by
  obtain ⟨hlow, hquote, hback⟩ := isPlain_iff.mp hb
  rw [skimString]
  · rw [if_neg hlow]
  all_goals simp_all

theorem stringBytes_plain {b : UInt8} (hb : isPlain b = true) (t : List UInt8) :
    stringBytes none (b :: t) = (stringBytes none t).map (b :: ·) := by
  obtain ⟨hlow, hquote, hback⟩ := isPlain_iff.mp hb
  rw [stringBytes]
  · rw [if_neg hlow]
  all_goals simp_all

theorem stringBytes_some_plain {b : UInt8} (hb : isPlain b = true) (high : Nat) (t : List UInt8) :
    stringBytes (some high) (b :: t) = .error .unfinishedPair := by
  obtain ⟨-, -, hback⟩ := isPlain_iff.mp hb
  rw [stringBytes]
  all_goals simp_all

theorem skimString_letter {e : UInt8} (he : (escaped? e).isSome = true) (t : List UInt8) :
    skimString (0x5C :: e :: t) = skimString t := by
  have hne := ne_of_isSome_escaped? he
  rw [skimString]
  · rw [Option.isNone_eq_false_iff.mpr he]
    rfl
  all_goals simp_all

theorem stringBytes_letter {e b : UInt8} (he : escaped? e = some b) (t : List UInt8) :
    stringBytes none (0x5C :: e :: t) = (stringBytes none t).map (b :: ·) := by
  have hne : e ≠ 0x75 := ne_of_isSome_escaped? (by rw [he]; rfl)
  rw [stringBytes]
  · simp [he]
  all_goals simp_all

theorem stringBytes_some_letter {e : UInt8} (he : (escaped? e).isSome = true) (high : Nat)
    (t : List UInt8) : stringBytes (some high) (0x5C :: e :: t) = .error .unfinishedPair := by
  have hne := ne_of_isSome_escaped? he
  rw [stringBytes]
  all_goals simp_all

/-- Skimming stops behind the closing quote. -/
theorem StringTail.skim {t : List UInt8} (h : StringTail t) (rest : List UInt8) :
    skimString (t ++ rest) = .ok rest := by
  induction h with
  | quote => rfl
  | plain hb _ ih => rw [List.cons_append, skimString_plain hb, ih]
  | letter he _ ih => rw [List.cons_append, List.cons_append, skimString_letter he, ih]
  | point hd _ ih =>
      simp only [List.cons_append, skimString, Option.isNone_eq_false_iff.mpr hd, ih]
      rfl

/-- What follows the closing quote does not matter. -/
theorem StringTail.stringBytes_append {t : List UInt8} (h : StringTail t) (rest : List UInt8)
    (high : Option Nat) : stringBytes high (t ++ rest) = stringBytes high t := by
  induction h generalizing high with
  | quote => cases high <;> rfl
  | plain hb _ ih =>
      cases high with
      | none => rw [List.cons_append, stringBytes_plain hb, stringBytes_plain hb, ih]
      | some high =>
          rw [List.cons_append, stringBytes_some_plain hb, stringBytes_some_plain hb]
  | letter he _ ih =>
      cases high with
      | none =>
          obtain ⟨b, hb⟩ := Option.isSome_iff_exists.mp he
          rw [List.cons_append, List.cons_append, stringBytes_letter hb, stringBytes_letter hb, ih]
      | some high =>
          rw [List.cons_append, List.cons_append, stringBytes_some_letter he,
            stringBytes_some_letter he]
  | point hd _ ih =>
      cases high <;> simp only [List.cons_append, stringBytes, ih]

theorem StringTail.scan {t : List UInt8} (h : StringTail t) (rest : List UInt8) :
    scanString (t ++ rest) = ⟨(scanString t).value, .ok rest⟩ := by
  simp only [scanString, h.stringBytes_append, h.skim]

/-! ## Strings as they are written -/

/-- Some bytes at the front of a string stand for some bytes of its value. -/
structure Contributes (bytes content : List UInt8) : Prop where
  tail : ∀ {t}, StringTail t → StringTail (bytes ++ t)
  value : ∀ t, stringBytes none (bytes ++ t) = (stringBytes none t).map (content ++ ·)

theorem contributes_plain {bs : List UInt8} (hbs : ∀ b ∈ bs, isPlain b = true) :
    Contributes bs bs := by
  induction bs with
  | nil =>
      refine ⟨id, fun t => ?_⟩
      rw [List.nil_append]
      cases stringBytes none t <;> rfl
  | cons b bs ih =>
      obtain ⟨hb, hbs⟩ := List.forall_mem_cons.mp hbs
      refine ⟨fun ht => .plain hb ((ih hbs).tail ht), fun t => ?_⟩
      rw [List.cons_append, stringBytes_plain hb, (ih hbs).value]
      cases stringBytes none t <;> rfl

theorem contributes_letter {e b : UInt8} (he : escaped? e = some b) :
    Contributes [0x5C, e] [b] where
  tail ht := .letter (by rw [he]; rfl) ht
  value t := stringBytes_letter he t

theorem contributes_point {a b c d : UInt8} {n : Nat} (hn : hex4? a b c d = some n)
    (hlow : n < 0xD800) : Contributes [0x5C, 0x75, a, b, c, d] (encodePoint n) where
  tail ht := .point (by rw [hn]; rfl) ht
  value t := by
    have hsecond : (decide (0xDC00 ≤ n) && decide (n ≤ 0xDFFF)) = false := by simp; omega
    have hfirst : (decide (0xD800 ≤ n) && decide (n ≤ 0xDBFF)) = false := by simp; omega
    simp only [List.cons_append, List.nil_append, stringBytes, hn, hsecond, hfirst,
      Bool.false_eq_true, ite_false]

def hexByte (k : Nat) : UInt8 := UInt8.ofNat (Nat.digitChar k).toNat

theorem utf8EncodeChar_digitChar :
    ∀ k < 16, String.utf8EncodeChar (Nat.digitChar k) = [hexByte k] := by
  decide

theorem hex4?_control :
    ∀ n < 0x20, hex4? 0x30 0x30 (hexByte (n / 16)) (hexByte (n % 16)) = some n := by
  decide

theorem isPlain_of_le {b : UInt8} (h : 0x80 ≤ b.toNat) : isPlain b = true := by
  refine isPlain_iff.mpr ⟨?_, ?_, ?_⟩
  · rw [UInt8.lt_iff_toNat_lt]
    exact Nat.not_lt.mpr (Nat.le_trans (by decide) h)
  · rintro rfl
    exact absurd h (by decide)
  · rintro rfl
    exact absurd h (by decide)

/-- The form of a character that needs no escape has no byte that would need one. -/
theorem isPlain_utf8EncodeChar {c : Char} (hlow : 0x20 ≤ c.toNat) (hquote : c.toNat ≠ 0x22)
    (hback : c.toNat ≠ 0x5C) : ∀ b ∈ String.utf8EncodeChar c, isPlain b = true := by
  have hc : c.val.toNat = c.toNat := rfl
  have hlong : ∀ n, 0x80 ≤ n → n < 0x100 → isPlain (UInt8.ofNat n) = true := by
    intro n hn hn'
    refine isPlain_of_le ?_
    rw [UInt8.toNat_ofNat_of_lt' hn']
    exact hn
  unfold String.utf8EncodeChar
  simp only [hc]
  split
  · next hshort =>
    intro b hb
    obtain rfl := List.mem_singleton.mp hb
    have hn : (UInt8.ofNat c.toNat).toNat = c.toNat :=
      UInt8.toNat_ofNat_of_lt' (Nat.lt_of_le_of_lt hshort (by decide))
    refine isPlain_iff.mpr ⟨?_, fun h => hquote ?_, fun h => hback ?_⟩
    · rw [UInt8.lt_iff_toNat_lt, hn]
      exact Nat.not_lt.mpr hlow
    · rw [← hn, h]
      rfl
    · rw [← hn, h]
      rfl
  · split
    · simp only [List.forall_mem_cons]
      exact ⟨hlong _ (by omega) (by omega), hlong _ (by omega) (by omega), by simp⟩
    · split
      · simp only [List.forall_mem_cons]
        exact ⟨hlong _ (by omega) (by omega), hlong _ (by omega) (by omega),
          hlong _ (by omega) (by omega), by simp⟩
      · simp only [List.forall_mem_cons]
        exact ⟨hlong _ (by omega) (by omega), hlong _ (by omega) (by omega),
          hlong _ (by omega) (by omega), hlong _ (by omega) (by omega), by simp⟩

/-- What is written for a character stands for the form of the character. -/
theorem contributes_writeChar (c : Char) :
    Contributes ((writeChar c).flatMap String.utf8EncodeChar) (String.utf8EncodeChar c) := by
  unfold writeChar
  split
  · next l hl =>
    unfold escapeLetter? at hl
    split at hl
    case h_8 => cases hl
    all_goals
      obtain rfl := Option.some.inj hl
      exact contributes_letter (by decide)
  · next hl =>
    split
    · next hcontrol =>
      have hdigits : ['\\', 'u', '0', '0', Nat.digitChar (c.toNat / 16),
          Nat.digitChar (c.toNat % 16)].flatMap String.utf8EncodeChar =
          [0x5C, 0x75, 0x30, 0x30, hexByte (c.toNat / 16), hexByte (c.toNat % 16)] := by
        simp only [List.flatMap_cons, List.flatMap_nil,
          utf8EncodeChar_digitChar _ (show c.toNat / 16 < 16 by omega),
          utf8EncodeChar_digitChar _ (show c.toNat % 16 < 16 by omega)]
        rfl
      have hpoint := contributes_point (hex4?_control c.toNat hcontrol) (by omega)
      rw [encodePoint, Char.ofNat_toNat] at hpoint
      rwa [hdigits]
    · next hlow =>
      have hne : ∀ d : Char, (escapeLetter? d).isSome = true → c.toNat ≠ d.toNat := by
        rintro d hd hcd
        rw [← Char.toNat_inj.mp hcd, hl] at hd
        cases hd
      rw [List.flatMap_singleton]
      exact contributes_plain (isPlain_utf8EncodeChar (Nat.not_lt.mp hlow) (hne '"' rfl)
        (hne '\\' rfl))

theorem Contributes.append {bs bs' content content' : List UInt8} (h : Contributes bs content)
    (h' : Contributes bs' content') : Contributes (bs ++ bs') (content ++ content') where
  tail ht := by
    rw [List.append_assoc]
    exact h.tail (h'.tail ht)
  value t := by
    rw [List.append_assoc, h.value, h'.value]
    cases stringBytes none t <;> simp [Except.map]

theorem contributes_flatMap_writeChar (cs : List Char) :
    Contributes ((cs.flatMap writeChar).flatMap String.utf8EncodeChar)
      (cs.flatMap String.utf8EncodeChar) := by
  induction cs with
  | nil => exact contributes_plain (by simp)
  | cons c cs ih =>
      rw [List.flatMap_cons, List.flatMap_append, List.flatMap_cons]
      exact (contributes_writeChar c).append ih

/-- What is written for a text is a string, and it is read back. -/
theorem exists_stringTail (s : String) :
    ∃ t, (writeString s).flatMap String.utf8EncodeChar = 0x22 :: t ∧ StringTail t ∧
      (scanString t).value = .ok s := by
  have hcontent := contributes_flatMap_writeChar s.toList
  refine ⟨(s.toList.flatMap writeChar).flatMap String.utf8EncodeChar ++ [0x22], ?_,
    hcontent.tail .quote, ?_⟩
  · rw [writeString, List.cons_append, List.flatMap_cons, List.flatMap_append]
    rfl
  · have hbytes : stringBytes none
        ((s.toList.flatMap writeChar).flatMap String.utf8EncodeChar ++ [0x22]) =
          .ok (encode s) := by
      rw [hcontent.value, encode_eq_flatMap]
      exact congrArg Except.ok (List.append_nil _)
    simp only [scanString, hbytes, bind, Except.bind, decode?_encode]

/-! ## Numbers -/

def IsDigits (ds : List UInt8) : Prop := ds ≠ [] ∧ ∀ b ∈ ds, isDigit b = true

namespace Numeral

/-- The digits before the point: a zero stands alone. -/
inductive Whole : List UInt8 → Prop where
  | zero : Whole [0x30]
  | digits {d ds} (hd : isDigit d = true) (hne : d ≠ 0x30) (hds : ∀ b ∈ ds, isDigit b = true) :
      Whole (d :: ds)

/-- How the digits after the point are written. -/
inductive Fraction : Option (List UInt8) → List UInt8 → Prop where
  | absent : Fraction none []
  | digits {ds} (hds : IsDigits ds) : Fraction (some ds) (0x2E :: ds)

/-- How an exponent is written. -/
inductive Exponent : Option (Bool × List UInt8) → List UInt8 → Prop where
  | absent : Exponent none []
  | unsigned {e ds} (he : e = 0x65 ∨ e = 0x45) (hds : IsDigits ds) :
      Exponent (some (false, ds)) (e :: ds)
  | positive {e ds} (he : e = 0x65 ∨ e = 0x45) (hds : IsDigits ds) :
      Exponent (some (false, ds)) (e :: 0x2B :: ds)
  | negative {e ds} (he : e = 0x65 ∨ e = 0x45) (hds : IsDigits ds) :
      Exponent (some (true, ds)) (e :: 0x2D :: ds)

end Numeral

def continuesNumber (b : UInt8) : Bool := isDigit b || b = 0x2E || b = 0x65 || b = 0x45

def EndsNumber (rest : List UInt8) : Prop := ∀ b, rest.head? = some b → continuesNumber b = false

namespace Numeral

variable {rest : List UInt8}

theorem takeWhile_digits_append {ds : List UInt8} (hds : ∀ b ∈ ds, isDigit b = true)
    (hrest : ∀ b, rest.head? = some b → isDigit b = false) :
    (ds ++ rest).takeWhile isDigit = ds ∧ (ds ++ rest).dropWhile isDigit = rest := by
  rw [List.takeWhile_append_of_pos hds, List.dropWhile_append_of_pos hds]
  cases rest with
  | nil => simp
  | cons b rest => simp [hrest b rfl]

theorem isDigit_of_endsNumber (hrest : EndsNumber rest) :
    ∀ b, rest.head? = some b → isDigit b = false := by
  intro b hb
  have h := hrest b hb
  simp only [continuesNumber, Bool.or_eq_false_iff] at h
  exact h.1.1.1

theorem scanExponent_digits {x : Numeral} {ds : List UInt8} (hds : IsDigits ds)
    (hrest : EndsNumber rest) (negative : Bool) :
    (if ((ds ++ rest).takeWhile isDigit).isEmpty then malformed (ds ++ rest)
      else { x with exponent := some (negative, (ds ++ rest).takeWhile isDigit) }.finish
        ((ds ++ rest).dropWhile isDigit)) =
      { x with exponent := some (negative, ds) }.finish rest := by
  obtain ⟨htake, hdrop⟩ := takeWhile_digits_append hds.2 (isDigit_of_endsNumber hrest)
  rw [htake, hdrop, if_neg (by simpa using hds.1)]

theorem ne_of_isDigits {ds : List UInt8} (hds : IsDigits ds) {b : UInt8} (hb : isDigit b = false)
    (t : List UInt8) : ds ++ rest ≠ b :: t := by
  intro h
  obtain ⟨d, ds, rfl⟩ := List.exists_cons_of_ne_nil hds.1
  obtain ⟨rfl, -⟩ := List.cons_eq_cons.mp h
  rw [hds.2 d (by simp)] at hb
  cases hb

theorem scanExponent_append (x : Numeral) {t : List UInt8} (hx : x.exponent = none)
    {exponent : Option (Bool × List UInt8)} (h : Exponent exponent t) (hrest : EndsNumber rest) :
    x.scanExponent (t ++ rest) = { x with exponent }.finish rest := by
  have hmark : ∀ e : UInt8, e = 0x65 ∨ e = 0x45 → (e = 0x65 || e = 0x45) = true := by simp
  cases h with
  | absent =>
      rw [← hx, List.nil_append]
      cases rest with
      | nil => rfl
      | cons b rest =>
          have h := hrest b rfl
          simp only [continuesNumber, Bool.or_eq_false_iff] at h
          simp only [scanExponent, h.1.2, h.2]
          rfl
  | unsigned he hds =>
      rw [List.cons_append, scanExponent]
      · simp only [hmark _ he, ite_true]
        exact scanExponent_digits hds hrest false
      · exact fun t h => ne_of_isDigits hds (by decide) t h
      · exact fun t h => ne_of_isDigits hds (by decide) t h
  | positive he hds =>
      simp only [List.cons_append, scanExponent, hmark _ he, ite_true]
      exact scanExponent_digits hds hrest false
  | negative he hds =>
      simp only [List.cons_append, scanExponent, hmark _ he, ite_true]
      exact scanExponent_digits hds hrest true

variable {fraction : Option (List UInt8)} {exponent : Option (Bool × List UInt8)}
  {t u : List UInt8}

/-- What follows the digits of a number is no digit and no point. -/
theorem head?_exponent (h : Exponent exponent u) (hrest : EndsNumber rest) :
    ∀ b, (u ++ rest).head? = some b → isDigit b = false ∧ b ≠ 0x2E := by
  have hmark : ∀ e : UInt8, e = 0x65 ∨ e = 0x45 → isDigit e = false ∧ e ≠ 0x2E := by
    rintro e (rfl | rfl) <;> decide
  intro b hb
  cases h with
  | absent =>
      have h := hrest b hb
      simp only [continuesNumber, Bool.or_eq_false_iff, decide_eq_false_iff_not] at h
      exact h.1.1
  | unsigned he => exact Option.some.inj hb ▸ hmark _ he
  | positive he => exact Option.some.inj hb ▸ hmark _ he
  | negative he => exact Option.some.inj hb ▸ hmark _ he

theorem head?_fraction (h : Fraction fraction t) (h' : Exponent exponent u)
    (hrest : EndsNumber rest) :
    ∀ b, (t ++ (u ++ rest)).head? = some b → isDigit b = false := by
  intro b hb
  cases h with
  | absent => exact (head?_exponent h' hrest b hb).1
  | digits =>
      obtain rfl := Option.some.inj hb
      decide

theorem scanFraction_append (x : Numeral) (hf : x.fraction = none) (he : x.exponent = none)
    (h : Fraction fraction t) (h' : Exponent exponent u) (hrest : EndsNumber rest) :
    x.scanFraction (t ++ (u ++ rest)) = { x with fraction, exponent }.finish rest := by
  cases h with
  | absent =>
      have hpoint : x.scanFraction (u ++ rest) = x.scanExponent (u ++ rest) := by
        rw [scanFraction]
        intro t ht
        exact (head?_exponent h' hrest 0x2E (by rw [ht]; rfl)).2 rfl
      rw [← hf, List.nil_append, hpoint, scanExponent_append x he h' hrest]
  | digits hds =>
      have hnext : ∀ b, (u ++ rest).head? = some b → isDigit b = false := fun b hb =>
        (head?_exponent h' hrest b hb).1
      obtain ⟨htake, hdrop⟩ := takeWhile_digits_append hds.2 hnext
      simp only [List.cons_append, scanFraction, htake, hdrop]
      rw [if_neg (by simpa using hds.1)]
      exact scanExponent_append { x with fraction := some _ } he h' hrest

/-- A number that follows the grammar is read to its end. -/
theorem scan_append (negative : Bool) {whole : List UInt8} (hw : Whole whole)
    (h : Fraction fraction t) (h' : Exponent exponent u) (hrest : EndsNumber rest) :
    scan negative (whole ++ (t ++ (u ++ rest))) =
      ({ negative, whole, fraction, exponent } : Numeral).finish rest := by
  have hhead := head?_fraction h h' hrest
  cases hw with
  | zero =>
      have hscan : scan negative ([0x30] ++ (t ++ (u ++ rest))) =
          scanFraction ⟨negative, [0x30], none, none⟩ (t ++ (u ++ rest)) := by
        generalize t ++ (u ++ rest) = tail at hhead
        cases tail with
        | nil => rfl
        | cons b tail => simp [scan, hhead b rfl]
      rw [hscan, scanFraction_append _ rfl rfl h h' hrest]
  | digits hd hne hds =>
      obtain ⟨htake, hdrop⟩ := takeWhile_digits_append hds hhead
      simp only [List.cons_append, scan, if_neg hne, if_pos hd, htake, hdrop]
      exact scanFraction_append _ rfl rfl h h' hrest

end Numeral

/-! ## Natural numbers as they are written -/

def decimalBytes (n : Nat) : List UInt8 := (Nat.toDigits 10 n).flatMap String.utf8EncodeChar

theorem decimalBytes_of_lt {n : Nat} (h : n < 10) : decimalBytes n = [hexByte n] := by
  rw [decimalBytes, Nat.toDigits_of_lt_base h, List.flatMap_singleton,
    utf8EncodeChar_digitChar n (by omega)]

theorem decimalBytes_of_le {n : Nat} (h : 10 ≤ n) :
    decimalBytes n = decimalBytes (n / 10) ++ [hexByte (n % 10)] := by
  rw [decimalBytes, Nat.toDigits_of_base_le (by decide) h, List.flatMap_append,
    List.flatMap_singleton, utf8EncodeChar_digitChar (n % 10) (by omega), ← decimalBytes]

theorem digit_hexByte : ∀ k < 10, digit (hexByte k) = k := by decide

theorem isDigit_hexByte : ∀ k < 10, isDigit (hexByte k) = true := by decide

/-- The first digit of a positive number is not zero. -/
theorem exists_decimalBytes {n : Nat} (hn : 0 < n) :
    ∃ d ds, decimalBytes n = d :: ds ∧ isDigit d = true ∧ d ≠ 0x30 ∧
      ∀ b ∈ ds, isDigit b = true := by
  induction n using Nat.strongRecOn with
  | ind n ih =>
      rcases Nat.lt_or_ge n 10 with h | h
      · refine ⟨_, [], decimalBytes_of_lt h, isDigit_hexByte n h, fun h0 => ?_, by simp⟩
        have hz : digit 0x30 = n := h0 ▸ digit_hexByte n h
        exact Nat.ne_of_gt hn hz.symm
      · obtain ⟨d, ds, heq, hd, hne, hds⟩ := ih (n / 10) (by omega) (by omega)
        refine ⟨d, ds ++ [hexByte (n % 10)], ?_, hd, hne, ?_⟩
        · rw [decimalBytes_of_le h, heq, List.cons_append]
        · exact List.forall_mem_append.mpr
            ⟨hds, List.forall_mem_singleton.mpr (isDigit_hexByte _ (by omega))⟩

theorem whole_decimalBytes (n : Nat) : Numeral.Whole (decimalBytes n) := by
  cases n with
  | zero => exact .zero
  | succ n =>
      obtain ⟨d, ds, heq, hd, hne, hds⟩ := exists_decimalBytes (Nat.succ_pos n)
      rw [heq]
      exact .digits hd hne hds

theorem accumulate_nil (n : Nat) : Numeral.accumulate n [] = (n, 0) := by rfl

theorem accumulate_cons (n : Nat) (b : UInt8) (ds : List UInt8) :
    Numeral.accumulate n (b :: ds) = match Numeral.push? n b with
      | some m => Numeral.accumulate m ds
      | none => (n, ds.length + 1) := by rfl

theorem push?_of_lt {n : Nat} {b : UInt8} (hb : n * 10 + digit b < UInt64.size) :
    Numeral.push? n b = some (n * 10 + digit b) := by
  unfold Numeral.push?
  exact if_pos hb

theorem accumulate_concat {n m : Nat} {ds : List UInt8} {b : UInt8}
    (h : Numeral.accumulate n ds = (m, 0)) (hb : m * 10 + digit b < UInt64.size) :
    Numeral.accumulate n (ds ++ [b]) = (m * 10 + digit b, 0) := by
  induction ds generalizing n with
  | nil =>
      rw [accumulate_nil, Prod.mk.injEq] at h
      rw [h.1, List.nil_append, accumulate_cons, push?_of_lt hb]
      exact accumulate_nil _
  | cons d ds ih =>
      rw [accumulate_cons] at h
      rw [List.cons_append, accumulate_cons]
      cases hd : Numeral.push? n d with
      | none =>
          rw [hd] at h
          exact absurd (Prod.mk.inj h).2 (Nat.succ_ne_zero _)
      | some k =>
          rw [hd] at h
          exact ih h

theorem accumulate_decimalBytes {n : Nat} (h : n < UInt64.size) :
    Numeral.accumulate 0 (decimalBytes n) = (n, 0) := by
  induction n using Nat.strongRecOn with
  | ind n ih =>
      rcases Nat.lt_or_ge n 10 with hn | hn
      · have hvalue : 0 * 10 + digit (hexByte n) = n := by
          rw [digit_hexByte n hn, Nat.zero_mul, Nat.zero_add]
        have hlast := accumulate_concat (accumulate_nil 0) (b := hexByte n) (by rwa [hvalue])
        rwa [hvalue, List.nil_append, ← decimalBytes_of_lt hn] at hlast
      · have hvalue : n / 10 * 10 + digit (hexByte (n % 10)) = n := by
          rw [digit_hexByte (n % 10) (Nat.mod_lt n (by decide)), Nat.mul_comm, Nat.div_add_mod]
        have hfront := ih (n / 10) (by omega) (Nat.lt_of_le_of_lt (Nat.div_le_self n 10) h)
        rw [decimalBytes_of_le hn, accumulate_concat hfront (by rwa [hvalue]), hvalue]

theorem value_decimalBytes {n : Nat} (hn : n < UInt64.size) :
    Numeral.value ⟨false, decimalBytes n, none, none⟩ = .ok (.integer n) := by
  simp [Numeral.value, accumulate_decimalBytes hn]

end Json

end Gutter

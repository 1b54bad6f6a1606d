import Mathlib.Data.List.TakeWhile
import TemplateCatalog.Json.Reader
import TemplateCatalog.Proofs.Source.Decoded
import TemplateCatalog.Proofs.Text.Digits

/-!
# Texts of numbers

The texts that are read as numbers. The grammar of numerals is told here without the reader, as the
texts in which a numeral can be written; the reader takes a numeral from the start of a text as far
as it goes. So a text stands for a number exactly if it is one numeral with blank space around it,
and the numeral is not beyond the finite numbers.

The module introduces:

* `NumeralText`: the ways to write a numeral;
* `Numeral.IsWritten`: a text is the numeral, with blank space around it;
* `NumberText`: a text is one numeral that stands for a number, with blank space around it.

Main statements:

* `readNumeral_append`, `exists_numeralText`: what is read as a numeral.
* `parse?_eq_number_iff_of_isWritten`, `parse?_eq_number_iff`: the texts that are read as numbers.
-/

namespace TemplateCatalog.Json

/-! ### The grammar -/

/-- Digits of base ten, at least one. -/
structure IsDigits (digits : List Nat) : Prop where
  /-- There is a digit. -/
  nonempty : digits ≠ []
  /-- They are digits of base ten. -/
  small : ∀ d ∈ digits, d < 10

/-- Digits as they are written. -/
def digitChars (digits : List Nat) : List Char :=
  digits.map fun d => Char.ofNat (48 + d)

/-- The ways to write the digits behind the point. -/
inductive FractionText : List Nat → List Char → Prop where
  /-- There is no point. -/
  | absent : FractionText [] []
  /-- There are digits behind a point. -/
  | present {digits : List Nat} (hdigits : IsDigits digits) :
    FractionText digits ('.' :: digitChars digits)

/-- The ways to write the sign of an exponent. -/
inductive SignText : Bool → List Char → Prop where
  /-- There is no sign. -/
  | bare : SignText false []
  /-- There is a plus sign. -/
  | plus : SignText false ['+']
  /-- There is a minus sign. -/
  | minus : SignText true ['-']

/-- The ways to write an exponent. -/
inductive ExponentText : Option (Bool × List Nat) → List Char → Prop where
  /-- There is no exponent. -/
  | absent : ExponentText none []
  /-- There is an exponent behind its mark. -/
  | present {mark : Char} {down : Bool} {sign : List Char} {digits : List Nat}
    (hmark : mark = 'e' ∨ mark = 'E') (hsign : SignText down sign) (hdigits : IsDigits digits) :
    ExponentText (some (down, digits)) (mark :: (sign ++ digitChars digits))

/-- The ways to write a numeral: a sign, digits that start with zero only if they are just that, and
perhaps a fraction and an exponent. -/
inductive NumeralText : Numeral → List Char → Prop where
  /-- The parts follow each other. -/
  | intro {negative : Bool} {whole fraction : List Nat} {exponent : Option (Bool × List Nat)}
    {pointed scaled : List Char} (hwhole : IsDigits whole)
    (hlead : whole.head? = some 0 → whole = [0]) (hfraction : FractionText fraction pointed)
    (hexponent : ExponentText exponent scaled) :
    NumeralText ⟨negative, whole, fraction, exponent⟩
      ((if negative then ['-'] else []) ++ (digitChars whole ++ (pointed ++ scaled)))

/-- The text is the numeral, with blank space around it. -/
def Numeral.IsWritten (numeral : Numeral) (text : String) : Prop :=
  ∃ before written after, text.toList = before ++ (written ++ after) ∧
    (∀ c ∈ before, isSpace c = true) ∧ NumeralText numeral written ∧ ∀ c ∈ after, isSpace c = true

/-- The text is one numeral that stands for the number, with blank space around it. -/
def NumberText (text : String) (number : Number) : Prop :=
  ∃ numeral : Numeral, numeral.IsWritten text ∧ numeral.number? = some number

/-- The digits of a numeral are digits of base ten. -/
theorem Numeral.IsWritten.small {numeral : Numeral} {text : String}
    (hwritten : numeral.IsWritten text) : ∀ d ∈ numeral.whole ++ numeral.fraction, d < 10 := by
  obtain ⟨-, -, -, -, -, ⟨hwhole, -, hfraction, -⟩, -⟩ := hwritten
  rw [List.forall_mem_append]
  refine ⟨hwhole.small, ?_⟩
  cases hfraction with
  | absent => simp
  | present hdigits => exact hdigits.small

/-! ### Digits -/

theorem isDigit_ofNat : ∀ d < 10, (Char.ofNat (48 + d)).isDigit = true := by decide

theorem toNat_ofNat_digit : ∀ d < 10, (Char.ofNat (48 + d)).toNat - 48 = d := by decide

theorem isDigit_of_mem_digitChars {digits : List Nat} (hdigits : ∀ d ∈ digits, d < 10) :
    ∀ c ∈ digitChars digits, c.isDigit = true := by
  intro c hc
  obtain ⟨d, hd, rfl⟩ := List.mem_map.mp hc
  exact isDigit_ofNat d (hdigits d hd)

/-- Digits that are written start with a digit. -/
theorem exists_digitChars_eq_cons {digits : List Nat} (hdigits : IsDigits digits) :
    ∃ c cs, digitChars digits = c :: cs ∧ c.isDigit = true := by
  cases digits with
  | nil => exact absurd rfl hdigits.nonempty
  | cons d ds => exact ⟨_, _, rfl, isDigit_ofNat d (hdigits.small d List.mem_cons_self)⟩

/-- Digits are read up to the first character that is none. -/
theorem readDigits_append {digits : List Nat} (hdigits : ∀ d ∈ digits, d < 10) {rest : List Char}
    (hrest : ∀ c ∈ rest.head?, c.isDigit = false) :
    readDigits (digitChars digits ++ rest) = (digits, rest) := by
  have hkept := isDigit_of_mem_digitChars hdigits
  have hnone : rest.takeWhile Char.isDigit = [] ∧ rest.dropWhile Char.isDigit = rest := by
    cases rest with
    | nil => exact ⟨rfl, rfl⟩
    | cons c cs => simp [hrest c rfl]
  rw [readDigits, List.takeWhile_append_of_pos hkept, List.dropWhile_append_of_pos hkept, hnone.1,
    hnone.2, List.append_nil, digitChars, List.map_map]
  refine congrArg₂ Prod.mk ((List.map_congr_left fun d hd => ?_).trans (List.map_id digits)) rfl
  exact toNat_ofNat_digit d (hdigits d hd)

/-- What is read as digits is written so. -/
theorem eq_append_of_readDigits {cs rest : List Char} {digits : List Nat}
    (hread : readDigits cs = (digits, rest)) :
    cs = digitChars digits ++ rest ∧ ∀ d ∈ digits, d < 10 := by
  have hdigit : ∀ c ∈ cs.takeWhile Char.isDigit, 48 ≤ c.toNat ∧ c.toNat ≤ 57 := fun c hc =>
    Text.isDigit_iff.mp (List.mem_takeWhile_imp hc)
  obtain ⟨rfl, rfl⟩ := Prod.mk.inj hread
  constructor
  · have hsame : digitChars ((cs.takeWhile Char.isDigit).map fun c => c.toNat - 48) =
        cs.takeWhile Char.isDigit := by
      rw [digitChars, List.map_map]
      refine (List.map_congr_left fun c hc => ?_).trans (List.map_id _)
      have hc := hdigit c hc
      show Char.ofNat (48 + (c.toNat - 48)) = c
      rw [Nat.add_sub_cancel' hc.1, Char.ofNat_toNat]
    rw [hsame, List.takeWhile_append_dropWhile]
  · intro d hd
    obtain ⟨c, hc, rfl⟩ := List.mem_map.mp hd
    have hc := hdigit c hc
    omega

/-! ### Numerals -/

/-- A numeral does not go on with the characters. -/
def EndsNumeral (rest : List Char) : Prop :=
  ∀ c ∈ rest.head?, c.isDigit = false ∧ c ≠ '.' ∧ c ≠ 'e' ∧ c ≠ 'E'

theorem digitChars_isEmpty {digits : List Nat} (hdigits : IsDigits digits) :
    digits.isEmpty = false := by
  rw [List.isEmpty_eq_false_iff]
  exact hdigits.nonempty

theorem readFraction_append {digits : List Nat} {pointed : List Char}
    (htext : FractionText digits pointed) {rest : List Char}
    (hrest : ∀ c ∈ rest.head?, c.isDigit = false ∧ c ≠ '.') :
    readFraction (pointed ++ rest) = some (digits, rest) := by
  cases htext with
  | absent =>
    rw [List.nil_append, readFraction]
    rintro cs rfl
    exact (hrest _ rfl).2 rfl
  | present hdigits =>
    have hread := readDigits_append hdigits.small fun c hc => (hrest c hc).1
    rw [List.cons_append, readFraction]
    simp [hread, digitChars_isEmpty hdigits]

theorem readExponent_append {down : Bool} {sign : List Char} (hsign : SignText down sign)
    {digits : List Nat} (hdigits : IsDigits digits) {rest : List Char}
    (hrest : ∀ c ∈ rest.head?, c.isDigit = false) :
    readExponent (sign ++ digitChars digits ++ rest) = some ((down, digits), rest) := by
  have hread := readDigits_append hdigits.small hrest
  cases hsign with
  | plus => simp [readExponent, hread, digitChars_isEmpty hdigits]
  | minus => simp [readExponent, hread, digitChars_isEmpty hdigits]
  | bare =>
    obtain ⟨c, cs, hchars, hc⟩ := exists_digitChars_eq_cons hdigits
    have hne : ∀ d, d.isDigit = false → c ≠ d := by
      rintro d hd rfl
      rw [hc] at hd
      cases hd
    rw [List.nil_append, readExponent]
    · simp [hread, digitChars_isEmpty hdigits]
    all_goals
      rw [hchars]
      intro more heq
      exact hne _ (by decide) (List.cons.inj heq).1

/-- The numeral behind its sign. -/
def readUnsigned (negative : Bool) (cs : List Char) : Option (Numeral × List Char) := do
  let (whole, cs) := readDigits cs
  if whole.isEmpty ∨ (whole.head? = some 0 ∧ whole.length ≠ 1) then none
  else
    let (fraction, cs) ← readFraction cs
    match cs with
    | 'e' :: cs | 'E' :: cs =>
      let (exponent, rest) ← readExponent cs
      return (⟨negative, whole, fraction, some exponent⟩, rest)
    | cs => return (⟨negative, whole, fraction, none⟩, cs)

theorem readNumeral_minus (cs : List Char) : readNumeral ('-' :: cs) = readUnsigned true cs := rfl

theorem readNumeral_of_head?_ne {cs : List Char} (hcs : cs.head? ≠ some '-') :
    readNumeral cs = readUnsigned false cs := by
  rw [readNumeral]
  · rfl
  · rintro rest rfl
    exact hcs rfl

/-- The parts of a numeral are read one after the other. -/
theorem readUnsigned_append {whole fraction : List Nat} {exponent : Option (Bool × List Nat)}
    {pointed scaled rest : List Char} (hwhole : IsDigits whole)
    (hlead : whole.head? = some 0 → whole = [0]) (hfraction : FractionText fraction pointed)
    (hexponent : ExponentText exponent scaled) (hrest : EndsNumeral rest) (negative : Bool) :
    readUnsigned negative (digitChars whole ++ (pointed ++ (scaled ++ rest))) =
      some (⟨negative, whole, fraction, exponent⟩, rest) := by
  have hzero : ¬(whole.isEmpty ∨ (whole.head? = some 0 ∧ whole.length ≠ 1)) := by
    rintro (hempty | ⟨hhead, hlength⟩)
    · rw [digitChars_isEmpty hwhole] at hempty
      cases hempty
    · rw [hlead hhead] at hlength
      exact hlength rfl
  -- From the last part to the first: no part goes on with the character that starts the next one.
  have hscaled : ∀ c ∈ (scaled ++ rest).head?, c.isDigit = false ∧ c ≠ '.' := by
    cases hexponent with
    | absent => exact fun c hc => ⟨(hrest c hc).1, (hrest c hc).2.1⟩
    | present hmark hsign hdigits =>
      rintro c ⟨⟩
      rcases hmark with rfl | rfl <;> decide
  have hpointed : ∀ c ∈ (pointed ++ (scaled ++ rest)).head?, c.isDigit = false := by
    cases hfraction with
    | absent => exact fun c hc => (hscaled c hc).1
    | present hdigits =>
      rintro c ⟨⟩
      decide
  have hdigits := readDigits_append hwhole.small hpointed
  have hfractionRead := readFraction_append hfraction hscaled
  simp only [readUnsigned, hdigits, if_neg hzero, hfractionRead, Option.bind_eq_bind,
    Option.bind_some]
  cases hexponent with
  | absent =>
    rw [List.nil_append]
    split
    · exact absurd rfl (hrest _ rfl).2.2.1
    · exact absurd rfl (hrest _ rfl).2.2.2
    · rfl
  | @present mark down sign digits hmark hsign hexponent =>
    have hread := readExponent_append hsign hexponent fun c hc => (hrest c hc).1
    have hchars : mark :: (sign ++ digitChars digits) ++ rest =
      mark :: (sign ++ digitChars digits ++ rest) := rfl
    rcases hmark with rfl | rfl
    · simp only [hchars, hread, Option.bind_some]
      rfl
    · simp only [hchars, hread, Option.bind_some]
      rfl

/-- A numeral is read to its end, if what follows it cannot belong to it. -/
theorem readNumeral_append {numeral : Numeral} {written : List Char}
    (htext : NumeralText numeral written) {rest : List Char} (hrest : EndsNumeral rest) :
    readNumeral (written ++ rest) = some (numeral, rest) := by
  cases htext with
  | @intro negative whole fraction exponent pointed scaled hwhole hlead hfraction hexponent =>
    have hread := readUnsigned_append hwhole hlead hfraction hexponent hrest negative
    cases negative with
    | true =>
      simp only [if_true, List.append_assoc]
      exact (readNumeral_minus _).trans hread
    | false =>
      obtain ⟨c, cs, hchars, hc⟩ := exists_digitChars_eq_cons hwhole
      simp only [Bool.false_eq_true, if_false, List.nil_append, List.append_assoc]
      rw [readNumeral_of_head?_ne, hread]
      rw [hchars]
      rintro ⟨⟩
      exact absurd hc (by decide)

theorem exists_fractionText {cs rest : List Char} {digits : List Nat}
    (hread : readFraction cs = some (digits, rest)) :
    ∃ pointed, cs = pointed ++ rest ∧ FractionText digits pointed := by
  unfold readFraction at hread
  split at hread
  · next cs =>
    cases hdigits : readDigits cs with
    | mk found left =>
      rw [hdigits] at hread
      simp only at hread
      split at hread
      · cases hread
      · next hnonempty =>
        obtain ⟨rfl, rfl⟩ := Prod.mk.inj (Option.some.inj hread)
        obtain ⟨rfl, hsmall⟩ := eq_append_of_readDigits hdigits
        exact ⟨_, rfl, .present ⟨by simpa using hnonempty, hsmall⟩⟩
  · obtain ⟨rfl, rfl⟩ := Prod.mk.inj (Option.some.inj hread)
    exact ⟨[], rfl, .absent⟩

theorem exists_exponentText {cs rest : List Char} {exponent : Bool × List Nat}
    (hread : readExponent cs = some (exponent, rest)) {mark : Char}
    (hmark : mark = 'e' ∨ mark = 'E') :
    ∃ scaled, mark :: cs = scaled ++ rest ∧ ExponentText (some exponent) scaled := by
  -- What is read behind the sign is read in the same way whatever the sign is.
  have hsigned : ∃ down sign left, SignText down sign ∧ cs = sign ++ left ∧
      (let (digits, rest) := readDigits left
        if digits.isEmpty then none else some ((down, digits), rest)) = some (exponent, rest) := by
    unfold readExponent at hread
    split at hread
    next down left hsign =>
    split at hsign <;> obtain ⟨rfl, rfl⟩ := Prod.mk.inj hsign
    · exact ⟨_, _, _, .plus, rfl, hread⟩
    · exact ⟨_, _, _, .minus, rfl, hread⟩
    · exact ⟨_, _, _, .bare, rfl, hread⟩
  obtain ⟨down, sign, left, hsign, rfl, hleft⟩ := hsigned
  cases hdigits : readDigits left with
  | mk digits more =>
    rw [hdigits] at hleft
    simp only at hleft
    split at hleft
    · cases hleft
    · next hnonempty =>
      obtain ⟨rfl, rfl⟩ := Prod.mk.inj (Option.some.inj hleft)
      obtain ⟨rfl, hsmall⟩ := eq_append_of_readDigits hdigits
      refine ⟨mark :: (sign ++ digitChars digits), by simp, .present hmark hsign ⟨?_, hsmall⟩⟩
      simpa using hnonempty

theorem exists_parts_of_readUnsigned {cs rest : List Char} {negative : Bool} {numeral : Numeral}
    (hread : readUnsigned negative cs = some (numeral, rest)) :
    ∃ pointed scaled, cs = digitChars numeral.whole ++ (pointed ++ (scaled ++ rest)) ∧
      numeral.negative = negative ∧ IsDigits numeral.whole ∧
      (numeral.whole.head? = some 0 → numeral.whole = [0]) ∧
      FractionText numeral.fraction pointed ∧ ExponentText numeral.exponent scaled := by
  cases hdigits : readDigits cs with
  | mk whole left =>
    obtain ⟨rfl, hsmall⟩ := eq_append_of_readDigits hdigits
    simp only [readUnsigned, hdigits] at hread
    split at hread
    · cases hread
    · next hzero =>
      rw [not_or, not_and, not_not] at hzero
      have hwhole : IsDigits whole := ⟨by simpa using hzero.1, hsmall⟩
      have hlead : whole.head? = some 0 → whole = [0] := by
        intro hhead
        obtain ⟨d, hd⟩ := List.length_eq_one_iff.mp (hzero.2 hhead)
        subst hd
        exact congrArg (fun d => [d]) (Option.some.inj hhead)
      obtain ⟨⟨fraction, behind⟩, hfraction, hbehind⟩ := Option.bind_eq_some_iff.mp hread
      obtain ⟨pointed, rfl, hpointed⟩ := exists_fractionText hfraction
      simp only at hbehind
      -- An exponent begins with a small or a large letter, or there is none.
      split at hbehind
      · obtain ⟨⟨exponent, more⟩, hexponent, hdone⟩ := Option.bind_eq_some_iff.mp hbehind
        obtain ⟨rfl, rfl⟩ := Prod.mk.inj (Option.some.inj hdone)
        obtain ⟨scaled, hscaled, htext⟩ := exists_exponentText hexponent (.inl rfl)
        exact ⟨pointed, scaled, by rw [hscaled], rfl, hwhole, hlead, hpointed, htext⟩
      · obtain ⟨⟨exponent, more⟩, hexponent, hdone⟩ := Option.bind_eq_some_iff.mp hbehind
        obtain ⟨rfl, rfl⟩ := Prod.mk.inj (Option.some.inj hdone)
        obtain ⟨scaled, hscaled, htext⟩ := exists_exponentText hexponent (.inr rfl)
        exact ⟨pointed, scaled, by rw [hscaled], rfl, hwhole, hlead, hpointed, htext⟩
      · obtain ⟨rfl, rfl⟩ := Prod.mk.inj (Option.some.inj hbehind)
        exact ⟨pointed, [], rfl, rfl, hwhole, hlead, hpointed, .absent⟩

/-- What is read as a numeral is a way to write it. -/
theorem exists_numeralText {cs rest : List Char} {numeral : Numeral}
    (hread : readNumeral cs = some (numeral, rest)) :
    ∃ written, cs = written ++ rest ∧ NumeralText numeral written := by
  obtain ⟨sign, left, rfl, hleft⟩ : ∃ negative left,
      cs = (if negative then ['-'] else []) ++ left ∧
        readUnsigned negative left = some (numeral, rest) := by
    by_cases hsign : cs.head? = some '-'
    · obtain ⟨left, rfl⟩ := List.head?_eq_some_iff.mp hsign
      exact ⟨true, left, rfl, hread⟩
    · exact ⟨false, cs, rfl, (readNumeral_of_head?_ne hsign).symm.trans hread⟩
  obtain ⟨pointed, scaled, rfl, rfl, hwhole, hlead, hpointed, hscaled⟩ :=
    exists_parts_of_readUnsigned hleft
  exact ⟨_, by simp only [List.append_assoc], .intro hwhole hlead hpointed hscaled⟩

/-! ### Values -/

/-- A numeral starts with a sign or a digit. -/
theorem NumeralText.exists_eq_cons {numeral : Numeral} {written : List Char}
    (htext : NumeralText numeral written) :
    ∃ c cs, written = c :: cs ∧ (c = '-' ∨ c.isDigit = true) := by
  cases htext with
  | @intro negative _ _ _ _ _ hwhole =>
    cases negative with
    | true => exact ⟨_, _, rfl, .inl rfl⟩
    | false =>
      obtain ⟨c, cs, hchars, hc⟩ := exists_digitChars_eq_cons hwhole
      exact ⟨c, _, by rw [hchars]; rfl, .inr hc⟩

theorem skipSpace_append {before rest : List Char} (hbefore : ∀ c ∈ before, isSpace c = true)
    (hrest : ∀ c ∈ rest.head?, isSpace c = false) : skipSpace (before ++ rest) = rest := by
  rw [skipSpace, List.dropWhile_append_of_pos hbefore]
  cases rest with
  | nil => rfl
  | cons c cs => rw [List.dropWhile_cons_of_neg (by rw [hrest c rfl]; exact Bool.false_ne_true)]

/-- Behind blank space, a numeral is read as a value. -/
theorem readValue_append {numeral : Numeral} {written : List Char}
    (htext : NumeralText numeral written) {before rest : List Char}
    (hbefore : ∀ c ∈ before, isSpace c = true) (hrest : EndsNumeral rest) (steps : Nat) :
    readValue (steps + 1) (before ++ (written ++ rest)) =
      some (.scalar (.ofNumber numeral.number?), rest) := by
  have hread := readNumeral_append htext hrest
  obtain ⟨c, cs, rfl, hc⟩ := htext.exists_eq_cons
  have hne : ∀ d, d ≠ '-' → d.isDigit = false → c ≠ d := by
    rintro d hminus hdigit rfl
    rcases hc with hc | hc
    · exact hminus hc
    · rw [hdigit] at hc
      cases hc
  have hspace : isSpace c = false := by
    simp only [isSpace, Bool.or_eq_false_iff, beq_eq_false_iff_ne]
    exact ⟨⟨⟨hne _ (by decide) (by decide), hne _ (by decide) (by decide)⟩,
      hne _ (by decide) (by decide)⟩, hne _ (by decide) (by decide)⟩
  have hskip : skipSpace (before ++ (c :: cs ++ rest)) = c :: cs ++ rest :=
    skipSpace_append hbefore fun d hd => Option.some.inj hd ▸ hspace
  rw [readValue, hskip]
  split
  -- No other value starts with a sign or a digit.
  iterate 6 next heq => exact absurd (List.cons.inj heq).1 (hne _ (by decide) (by decide))
  rw [hread]
  rfl

/-- A value that is a number was read from a numeral. -/
theorem exists_numeral_of_readValue {steps : Nat} {cs rest : List Char} {s : Source.Scalar}
    (hread : readValue steps cs = some (.scalar s, rest)) {number : Number}
    (hnumber : s.value = some (.number number)) :
    ∃ numeral, readNumeral (skipSpace cs) = some (numeral, rest) ∧
      numeral.number? = some number := by
  cases steps with
  | zero => cases hread
  | succ steps =>
    rw [readValue] at hread
    -- All the other ways to read a value, which are told by its first characters, yield no number.
    split at hread
    · cases hread
      cases hnumber
    · cases hread
      cases hnumber
    · cases hread
      cases hnumber
    · obtain ⟨⟨text, left⟩, -, hdone⟩ := Option.bind_eq_some_iff.mp hread
      cases hdone
      cases text <;> cases hnumber
    · split at hread
      · cases hread
      · obtain ⟨⟨items, left⟩, -, hdone⟩ := Option.bind_eq_some_iff.mp hread
        cases hdone
    · split at hread
      · cases hread
      · obtain ⟨⟨entries, left⟩, -, hdone⟩ := Option.bind_eq_some_iff.mp hread
        cases hdone
    · obtain ⟨⟨numeral, left⟩, hnumeral, hdone⟩ := Option.bind_eq_some_iff.mp hread
      cases hdone
      refine ⟨numeral, hnumeral, ?_⟩
      obtain ⟨found, hfound, heq⟩ := Option.map_eq_some_iff.mp hnumber
      cases heq
      exact hfound

/-- What is no scalar is no number, however it is decoded. -/
theorem yields_valueAt_of_not_scalar {root : Source.Node} (hroot : ∀ s, root ≠ .scalar s)
    (hreference : ∀ anchor, root ≠ .reference anchor) (depth : Nat) :
    (Source.Decode.valueAt (depth + 1) root).Yields fun value => value.isNumber = false := by
  have hfollow : Source.Decode.follow root = pure root := by
    rw [Source.Decode.follow]
    exact hreference
  rw [Source.Decode.valueAt, hfollow, pure_bind]
  split
  · next s => exact absurd rfl (hroot s)
  · exact Source.Decode.yields_bind fun items => Source.Decode.yields_pure rfl
  · exact Source.Decode.yields_bind fun pairs => Source.Decode.yields_pure rfl
  · intro document budget result left hfound
    cases hfound

theorem value?_scalar (s : Source.Scalar) :
    Source.Document.value? ⟨.json, .scalar s, [], 0⟩ = s.value := by
  obtain ⟨_, _, _, _, value, _, _⟩ := s
  cases value <;> rfl

/-- A document in JSON is a number if it is a scalar that is one. -/
theorem value?_eq_number_iff {root : Source.Node} {number : Number} :
    Source.Document.value? ⟨.json, root, [], 0⟩ = some (.number number) ↔
      ∃ s, root = .scalar s ∧ s.value = some (.number number) := by
  constructor
  · intro hvalue
    cases root with
    | scalar s => exact ⟨s, rfl, (value?_scalar s).symm.trans hvalue⟩
    -- There are no anchors that a document in JSON could refer to.
    | reference anchor => cases hvalue
    | sequence tagged items =>
      obtain ⟨⟨_, left⟩, hdecode, rfl⟩ := Option.map_eq_some_iff.mp hvalue
      have hyields := @yields_valueAt_of_not_scalar (.sequence tagged items) nofun nofun 126
      cases hyields _ _ _ _ hdecode
    | mapping tagged entries =>
      obtain ⟨⟨_, left⟩, hdecode, rfl⟩ := Option.map_eq_some_iff.mp hvalue
      have hyields := @yields_valueAt_of_not_scalar (.mapping tagged entries) nofun nofun 126
      cases hyields _ _ _ _ hdecode
  · rintro ⟨s, rfl, hs⟩
    exact (value?_scalar s).trans hs

theorem skipSpace_eq_nil_iff {cs : List Char} : skipSpace cs = [] ↔ ∀ c ∈ cs, isSpace c = true :=
  List.dropWhile_eq_nil_iff

/-- A text that is one numeral is read as the number that the numeral stands for. -/
theorem parse?_eq_number_iff_of_isWritten {text : String} {numeral : Numeral}
    (hwritten : numeral.IsWritten text) {number : Number} :
    parse? text = some (.number number) ↔ numeral.number? = some number := by
  obtain ⟨before, written, after, htext, hbefore, hnumeral, hafter⟩ := hwritten
  have hends : EndsNumeral after := by
    intro c hc
    have hspace := hafter c (List.mem_of_mem_head? hc)
    simp only [isSpace, Bool.or_eq_true, beq_iff_eq] at hspace
    rcases hspace with ((rfl | rfl) | rfl) | rfl <;> decide
  have hread := readValue_append hnumeral hbefore hends text.toList.length
  rw [← htext] at hread
  have hroot : readNode? text = some (.scalar (.ofNumber numeral.number?)) := by
    simp only [readNode?, hread, Option.bind_eq_bind, Option.bind_some,
      skipSpace_eq_nil_iff.mpr hafter, List.isEmpty_nil, if_true]
  rw [parse?, document?, hroot, Option.map_some, Option.bind_some, value?_eq_number_iff]
  cases numeral.number? with
  | none => simp [Source.Scalar.ofNumber]
  | some found => simp [Source.Scalar.ofNumber]

/-- The texts that are read as numbers are those of a single numeral. -/
theorem parse?_eq_number_iff {text : String} {number : Number} :
    parse? text = some (.number number) ↔ NumberText text number := by
  constructor
  · intro hparse
    obtain ⟨document, hdocument, hvalue⟩ := Option.bind_eq_some_iff.mp hparse
    obtain ⟨root, hroot, rfl⟩ := Option.map_eq_some_iff.mp hdocument
    obtain ⟨s, rfl, hs⟩ := value?_eq_number_iff.mp hvalue
    obtain ⟨⟨node, rest⟩, hread, hend⟩ := Option.bind_eq_some_iff.mp hroot
    simp only [List.isEmpty_iff, Option.ite_none_right_eq_some, Option.some.injEq] at hend
    obtain ⟨hspace, rfl⟩ := hend
    obtain ⟨numeral, hnumeral, hnumber⟩ := exists_numeral_of_readValue hread hs
    obtain ⟨written, hwritten, htext⟩ := exists_numeralText hnumeral
    refine ⟨numeral, ⟨text.toList.takeWhile isSpace, written, rest, ?_,
      fun c hc => List.mem_takeWhile_imp hc, htext, skipSpace_eq_nil_iff.mp hspace⟩, hnumber⟩
    rw [← hwritten]
    exact (List.takeWhile_append_dropWhile).symm
  · rintro ⟨numeral, hwritten, hnumber⟩
    exact (parse?_eq_number_iff_of_isWritten hwritten).mpr hnumber

end TemplateCatalog.Json

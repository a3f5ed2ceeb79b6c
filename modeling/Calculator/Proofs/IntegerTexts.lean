import Calculator.Value
import Calculator.Proofs.DigitValues

/-!
# Integers in text form

The form is an optional sign, digits with single underscores between them and a fraction of zeros, with blanks on
either side. Every text of this form is tidied into plain digits behind a minus or nothing, which denote the same, so
it denotes one integer only.
-/

namespace Calculator

/-- Digits with at most one underscore between any two of them, and the digits alone. -/
inductive IsGrouped : List Char → List Char → Prop where
  | last {c : Char} (hc : c.isDigit = true) : IsGrouped [c] [c]
  | next {c : Char} {cs ds : List Char} (hc : c.isDigit = true) (h : IsGrouped cs ds) :
      IsGrouped (c :: cs) (c :: ds)
  | gap {c : Char} {cs ds : List Char} (hc : c.isDigit = true) (h : IsGrouped cs ds) :
      IsGrouped (c :: '_' :: cs) (c :: ds)

/-- A point with one or more zeros behind it, or nothing. -/
inductive IsZeroFraction : List Char → Prop where
  | absent : IsZeroFraction []
  | zeros {zs : List Char} (hne : zs ≠ []) (hzs : ∀ c ∈ zs, c = '0') : IsZeroFraction ('.' :: zs)

/-- A text that denotes an integer. -/
inductive IsIntegerText : List Char → Int → Prop where
  | mk {before sign body digits fraction after : List Char} {negative : Bool}
      (hbefore : ∀ c ∈ before, isBlank c = true) (hsign : IsSign sign negative) (hbody : IsGrouped body digits)
      (hfraction : IsZeroFraction fraction) (hafter : ∀ c ∈ after, isBlank c = true) :
      IsIntegerText (before ++ (sign ++ (body ++ fraction) ++ after))
        (applySign negative (Nat.ofDigitChars 10 digits 0))

namespace IsGrouped

variable {cs ds : List Char}

theorem areDigits (h : IsGrouped cs ds) : AreDigits ds := by
  induction h with
  | last hc => exact areDigits_cons.mpr ⟨hc, by simp [AreDigits]⟩
  | next hc _ ih => exact areDigits_cons.mpr ⟨hc, ih⟩
  | gap hc _ ih => exact areDigits_cons.mpr ⟨hc, ih⟩

theorem of_areDigits (h : AreDigits ds) (hne : ds ≠ []) : IsGrouped ds ds := by
  induction ds with
  | nil => exact absurd rfl hne
  | cons c ds ih =>
    obtain ⟨hc, hds⟩ := areDigits_cons.mp h
    by_cases hnil : ds = []
    · rw [hnil]
      exact .last hc
    · exact .next hc (ih hds hnil)

theorem exists_cons (h : IsGrouped cs ds) : ∃ c rest, cs = c :: rest ∧ c.isDigit = true := by
  cases h with
  | last hc => exact ⟨_, _, rfl, hc⟩
  | next hc _ => exact ⟨_, _, rfl, hc⟩
  | gap hc _ => exact ⟨_, _, rfl, hc⟩

theorem isDigit_getLast (h : IsGrouped cs ds) : ∀ c ∈ cs.getLast?, c.isDigit = true := by
  induction h with
  | last hc => simpa
  | next _ h ih => cases h <;> simpa using ih
  | gap _ h ih => cases h <;> simpa using ih

theorem mem (h : IsGrouped cs ds) : ∀ c ∈ cs, c.isDigit = true ∨ c = '_' := by
  induction h with
  | last hc => simpa using .inl hc
  | next hc _ ih => exact List.forall_mem_cons.mpr ⟨.inl hc, ih⟩
  | gap hc _ ih => exact List.forall_mem_cons.mpr ⟨.inl hc, List.forall_mem_cons.mpr ⟨.inr rfl, ih⟩⟩

/-- The digits in front of the first underscore come first among all digits. -/
theorem takeWhile_prefix (h : IsGrouped cs ds) {rest : List Char} (hrest : ∀ c ∈ rest.head?, c.isDigit = false) :
    (cs ++ rest).takeWhile Char.isDigit <+: ds := by
  have hnone : rest.takeWhile Char.isDigit = [] := by
    cases rest with
    | nil => rfl
    | cons c rest => exact List.takeWhile_cons_of_neg (by simp [hrest c rfl])
  induction h with
  | last hc => simp [hc, hnone]
  | next hc _ ih => simpa [hc] using ih
  | gap hc _ _ => simp [hc]

theorem head?_eq (h : IsGrouped cs ds) : ds.head? = cs.head? := by
  cases h <;> rfl

theorem point_notMem (h : IsGrouped cs ds) : '.' ∉ cs := by
  intro hmem
  rcases h.mem '.' hmem with hpoint | hpoint <;> exact absurd hpoint (by decide)

end IsGrouped

theorem isBlank_of_isDigit {c : Char} (h : c.isDigit = true) : isBlank c = false := by
  obtain ⟨hlow, hhigh⟩ := toNat_of_isDigit h
  have hzero : '0'.toNat = 48 := rfl
  have hnine : '9'.toNat = 57 := rfl
  simp only [isBlank, Bool.or_eq_false_iff, Bool.and_eq_false_iff, decide_eq_false_iff_not]
  omega

theorem isDigit_of_isBlank {c : Char} (h : isBlank c = true) : c.isDigit = false := by
  rw [← Bool.not_eq_true]
  exact fun hc => by simp [isBlank_of_isDigit hc] at h

namespace LooseInteger

/-- Where a plus is not in front of a minus, both steps together take off one sign. -/
theorem splitMinus_of_dropPlus? {cs rest : List Char} (h : dropPlus? cs = some rest) :
    splitMinus rest = splitSign cs := by
  unfold dropPlus? at h
  split at h
  · simp at h
  · next cs hcs =>
    cases h
    unfold splitMinus splitSign
    split <;> simp_all
  · next hplus =>
    cases h
    unfold splitMinus splitSign
    split <;> simp_all

theorem dropPlus?_append {sign cs : List Char} {negative : Bool} (hsign : IsSign sign negative)
    (hcs : ∀ c ∈ cs.head?, c ≠ '-' ∧ c ≠ '+') :
    ∃ rest, dropPlus? (sign ++ cs) = some rest ∧ splitMinus rest = (negative, cs) := by
  obtain ⟨rest, hrest⟩ : ∃ rest, dropPlus? (sign ++ cs) = some rest := by
    unfold dropPlus?
    split
    · next heq => cases hsign <;> simp_all
    · exact ⟨_, rfl⟩
    · exact ⟨_, rfl⟩
  exact ⟨rest, hrest, (splitMinus_of_dropPlus? hrest).trans (splitSign_append hsign hcs)⟩

theorem isPlain_cons_iff {c : Char} {cs : List Char} :
    isPlain (c :: cs) = true ↔ c.isDigit = true ∧ AreDigits cs ∧ (c = '0' → cs = []) := by
  unfold isPlain
  split
  · simp_all
  · next h =>
    cases h
    simp [AreDigits]
  · next hzero h =>
    cases h
    simp only [isLeadingDigit, Bool.and_eq_true, bne_iff_ne, ne_eq, List.all_eq_true, AreDigits]
    constructor
    · rintro ⟨⟨hc, hne⟩, hcs⟩
      exact ⟨hc, hcs, fun heq => absurd heq hne⟩
    · rintro ⟨hc, hcs, himp⟩
      exact ⟨⟨hc, fun heq => hzero heq (himp heq)⟩, hcs⟩

theorem exists_cons_of_isPlain {digits : List Char} (h : isPlain digits = true) :
    ∃ c cs, digits = c :: cs ∧ c.isDigit = true := by
  cases digits with
  | nil => simp [isPlain] at h
  | cons c cs => exact ⟨c, cs, rfl, (isPlain_cons_iff.mp h).1⟩

theorem areDigits_of_isPlain {digits : List Char} (h : isPlain digits = true) : AreDigits digits := by
  cases digits with
  | nil => simp [isPlain] at h
  | cons c cs =>
    obtain ⟨hc, hcs, -⟩ := isPlain_cons_iff.mp h
    exact areDigits_cons.mpr ⟨hc, hcs⟩

theorem readPlain?_eq_some_iff {cs : List Char} {n : Int} :
    readPlain? cs = some n ↔ isPlain (splitMinus cs).2 = true ∧ (splitMinus cs).2.length ≤ maxDigits ∧
      applySign (splitMinus cs).1 (Nat.ofDigitChars 10 (splitMinus cs).2 0) = n := by
  simp only [readPlain?, Option.ite_none_right_eq_some, Option.some.injEq, and_assoc]

/-- Digits in groups and alone that denote the same as others and have no zeros in front. -/
structure Reduces (digits cs ds : List Char) : Prop where
  grouped : IsGrouped cs ds
  plain : isPlain ds = true
  value : Nat.ofDigitChars 10 ds 0 = Nat.ofDigitChars 10 digits 0

theorem Reduces.of_ne_zero {c : Char} {cs ds : List Char} (h : IsGrouped (c :: cs) (c :: ds)) (hne : c ≠ '0') :
    Reduces (c :: ds) (c :: cs) (c :: ds) := by
  obtain ⟨hc, hds⟩ := areDigits_cons.mp h.areDigits
  exact ⟨h, isPlain_cons_iff.mpr ⟨hc, hds, fun heq => absurd heq hne⟩, rfl⟩

theorem Reduces.zero_cons {digits cs ds : List Char} (h : Reduces digits cs ds) : Reduces ('0' :: digits) cs ds where
  grouped := h.grouped
  plain := h.plain
  value := by simp [ofDigitChars_cons_zero, h.value]

theorem dropZerosAfter_of_ne_zero {c : Char} (hc : c.isDigit = true) (hne : c ≠ '0') (last : Char)
    (cs : List Char) : dropZerosAfter last (c :: cs) = some (c :: cs) := by
  have hunderscore : c ≠ '_' := ne_of_isDigit hc (by decide)
  have hpoint : c ≠ '.' := ne_of_isDigit hc (by decide)
  simp [dropZerosAfter, hne, hunderscore, hpoint, hc]

/-- A zero that nothing but a fraction follows stays. -/
theorem dropZerosAfter_fraction {fraction : List Char} (h : IsZeroFraction fraction) (last : Char) :
    dropZerosAfter last fraction = some (last :: fraction) := by
  cases h with
  | absent => rfl
  | zeros hne hzs => simp [dropZerosAfter]

variable {body digits fraction : List Char}

theorem dropZerosAfter_append (h : IsGrouped body digits) (hfraction : IsZeroFraction fraction) (last : Char) :
    ∃ cs ds, dropZerosAfter last (body ++ fraction) = some (cs ++ fraction) ∧ Reduces digits cs ds := by
  -- A group starts with a digit, which either takes the place of `last` or ends the zeros.
  induction h generalizing last with
  | @last c hc =>
    by_cases hzero : c = '0'
    · subst hzero
      refine ⟨['0'], ['0'], ?_, .last hc, rfl, rfl⟩
      simpa [dropZerosAfter] using dropZerosAfter_fraction hfraction '0'
    · exact ⟨[c], [c], dropZerosAfter_of_ne_zero hc hzero last fraction, .of_ne_zero (.last hc) hzero⟩
  | @next c cs ds hc h ih =>
    by_cases hzero : c = '0'
    · subst hzero
      obtain ⟨cs', ds', hdrop, hreduces⟩ := ih '0'
      exact ⟨cs', ds', by simpa [dropZerosAfter] using hdrop, hreduces.zero_cons⟩
    · exact ⟨c :: cs, c :: ds, dropZerosAfter_of_ne_zero hc hzero last _, .of_ne_zero (.next hc h) hzero⟩
  | @gap c cs ds hc h ih =>
    by_cases hzero : c = '0'
    · subst hzero
      obtain ⟨cs', ds', hdrop, hreduces⟩ := ih '_'
      exact ⟨cs', ds', by simpa [dropZerosAfter] using hdrop, hreduces.zero_cons⟩
    · exact ⟨c :: '_' :: cs, c :: ds, dropZerosAfter_of_ne_zero hc hzero last _, .of_ne_zero (.gap hc h) hzero⟩

/-- In front of a digit it does not matter what the last character was. -/
theorem dropZeros?_of_isDigit {c : Char} (hc : c.isDigit = true) (last : Char) (cs : List Char) :
    dropZeros? (c :: cs) = dropZerosAfter last (c :: cs) := by
  by_cases hzero : c = '0'
  · simp [dropZeros?, dropZerosAfter, hzero]
  · rw [dropZerosAfter_of_ne_zero hc hzero]
    simp [dropZeros?, hzero, hc]

theorem dropZeros?_append (h : IsGrouped body digits) (hfraction : IsZeroFraction fraction) :
    ∃ cs ds, dropZeros? (body ++ fraction) = some (cs ++ fraction) ∧ Reduces digits cs ds := by
  obtain ⟨c, cs, rfl, hc⟩ := h.exists_cons
  rw [List.cons_append, dropZeros?_of_isDigit hc c]
  exact dropZerosAfter_append h hfraction c

theorem dropZeroFraction_append (hbody : '.' ∉ body) (hfraction : IsZeroFraction fraction) :
    dropZeroFraction (body ++ fraction) = body := by
  have hne := decide_ne_of_notMem hbody
  unfold dropZeroFraction
  rw [List.dropWhile_append_of_pos hne, List.takeWhile_append_of_pos hne]
  cases hfraction with
  | absent => simp
  | zeros hzeros hall => simpa [hzeros] using hall

theorem exists_dropZeroFraction (cs : List Char) :
    ∃ fraction, IsZeroFraction fraction ∧ cs = dropZeroFraction cs ++ fraction := by
  unfold dropZeroFraction
  split
  · next point zeros hdrop =>
    split
    · next hzeros =>
      have hpoint : point = '.' := by
        have hfirst := List.head?_dropWhile_not (· ≠ '.') cs
        rw [hdrop] at hfirst
        simpa using hfirst
      subst hpoint
      refine ⟨'.' :: zeros, .zeros hzeros.1 (by simpa using hzeros.2), ?_⟩
      rw [← hdrop, List.takeWhile_append_dropWhile]
    · exact ⟨[], .absent, (List.append_nil cs).symm⟩
  · exact ⟨[], .absent, (List.append_nil cs).symm⟩

theorem splitOn_underscore (cs : List Char) : ('_' :: cs).splitOn '_' = [] :: cs.splitOn '_' := by
  rw [List.splitOn_cons_eq_if_modifyHead, if_pos (by simp)]

theorem splitOn_cons {c : Char} (hc : c ≠ '_') (cs : List Char) :
    (c :: cs).splitOn '_' = (cs.splitOn '_').modifyHead (c :: ·) := by
  rw [List.splitOn_cons_eq_if_modifyHead, if_neg (by simpa using hc)]

theorem dropUnderscores_of_isGrouped (h : IsGrouped body digits) : dropUnderscores body = digits := by
  have hgroups : [] ∉ body.splitOn '_' ∧ (body.splitOn '_').flatten = digits := by
    induction h with
    | last hc => simp [splitOn_cons (ne_of_isDigit hc (by decide))]
    | @next c cs ds hc h ih =>
      rw [splitOn_cons (ne_of_isDigit hc (by decide))]
      cases hcs : cs.splitOn '_' with
      | nil => exact absurd hcs (List.splitOn_ne_nil _ _)
      | cons g gs => simp_all
    | gap hc h ih => simpa [splitOn_cons (ne_of_isDigit hc (by decide)), splitOn_underscore] using ih
  rw [dropUnderscores, if_neg hgroups.1, hgroups.2]

/-- The text between the blanks starts with a sign or a digit and ends with a digit. -/
theorem trimBlanks_append {before sign after : List Char} {negative : Bool}
    (hbefore : ∀ c ∈ before, isBlank c = true) (hsign : IsSign sign negative) (hbody : IsGrouped body digits)
    (hfraction : IsZeroFraction fraction) (hafter : ∀ c ∈ after, isBlank c = true) :
    trimBlanks (before ++ (sign ++ (body ++ fraction) ++ after)) = sign ++ (body ++ fraction) := by
  obtain ⟨c, cs, hcs, hc⟩ := hbody.exists_cons
  refine trimWhere_append hbefore hafter ?_ ?_
  · subst hcs
    cases hsign with
    | absent => simpa using isBlank_of_isDigit hc
    | plus => simp [isBlank]
    | minus => simp [isBlank]
  · cases hfraction with
    | absent =>
      intro d hd
      refine isBlank_of_isDigit (hbody.isDigit_getLast d ?_)
      simpa [hcs, List.getLast?_append] using hd
    | zeros hne hall =>
      obtain ⟨zs, z, rfl⟩ := (List.eq_nil_or_concat _).resolve_left hne
      have hz : z = '0' := hall z (by simp)
      simp [List.getLast?_append, List.getLast?_cons, hz, isBlank]

/-- A text of the form is tidied into plain digits behind a minus or nothing. -/
theorem tidy?_of_isIntegerText {cs : List Char} {n : Int} (h : IsIntegerText cs n) :
    ∃ (negative : Bool) (ds : List Char), tidy? cs = some (if negative then '-' :: ds else ds) ∧
      isPlain ds = true ∧ applySign negative (Nat.ofDigitChars 10 ds 0) = n := by
  obtain @⟨before, sign, body, digits, fraction, after, negative, hbefore, hsign, hbody, hfraction, hafter⟩ := h
  obtain ⟨c, cs, hcs, hc⟩ := hbody.exists_cons
  obtain ⟨cs', ds, hdrop, hreduces⟩ := dropZeros?_append hbody hfraction
  have hhead : ∀ c ∈ (body ++ fraction).head?, c ≠ '-' ∧ c ≠ '+' := by
    simpa [hcs] using ⟨ne_of_isDigit hc (by decide), ne_of_isDigit hc (by decide)⟩
  obtain ⟨rest, hrest, hminus⟩ := dropPlus?_append hsign hhead
  refine ⟨negative, ds, ?_, hreduces.plain, by rw [hreduces.value]⟩
  simp only [tidy?, trimBlanks_append hbefore hsign hbody hfraction hafter, hrest, hminus, hdrop, Option.map_some,
    dropZeroFraction_append hreduces.grouped.point_notMem hfraction, dropUnderscores_of_isGrouped hreduces.grouped]

theorem splitMinus_signed (negative : Bool) {c : Char} {ds : List Char} (hc : c.isDigit = true)
    (hhead : ds.head? = some c) : splitMinus (if negative then '-' :: ds else ds) = (negative, ds) := by
  obtain ⟨cs, rfl⟩ := List.head?_eq_some_iff.mp hhead
  have hminus : c ≠ '-' := ne_of_isDigit hc (by decide)
  cases negative with
  | true => rfl
  | false => simp [splitMinus, hminus]

theorem splitMinus_of_isPlain (negative : Bool) {ds : List Char} (hplain : isPlain ds = true) :
    splitMinus (if negative then '-' :: ds else ds) = (negative, ds) := by
  obtain ⟨c, cs, hds, hc⟩ := exists_cons_of_isPlain hplain
  exact splitMinus_signed negative hc (by rw [hds]; rfl)

theorem readPlain?_of_isPlain (negative : Bool) {ds : List Char} (hplain : isPlain ds = true)
    (hlength : ds.length ≤ maxDigits) :
    readPlain? (if negative then '-' :: ds else ds) =
      some (applySign negative (Nat.ofDigitChars 10 ds 0)) := by
  rw [readPlain?_eq_some_iff, splitMinus_of_isPlain negative hplain]
  exact ⟨hplain, hlength, rfl⟩

theorem exists_splitMinus (cs : List Char) :
    ∃ sign, (sign = [] ∨ sign = ['-']) ∧ IsSign sign (splitMinus cs).1 ∧ sign ++ (splitMinus cs).2 = cs := by
  unfold splitMinus
  split
  · exact ⟨['-'], .inr rfl, .minus, rfl⟩
  · exact ⟨[], .inl rfl, .absent, rfl⟩

theorem splitMinus_append {sign cs : List Char} (hsign : sign = [] ∨ sign = ['-']) (hcs : cs.head? ≠ some '-') :
    (splitMinus (sign ++ cs)).2 = cs := by
  rcases hsign with rfl | rfl
  · rw [List.nil_append]
    unfold splitMinus
    split
    · simp at hcs
    · rfl
  · rfl

end LooseInteger

namespace IsIntegerText

/-- A text denotes one integer only. -/
theorem unique {cs : List Char} {n m : Int} (hn : IsIntegerText cs n) (hm : IsIntegerText cs m) : n = m := by
  obtain ⟨negative, ds, htidy, hplain, rfl⟩ := LooseInteger.tidy?_of_isIntegerText hn
  obtain ⟨negative', ds', htidy', hplain', rfl⟩ := LooseInteger.tidy?_of_isIntegerText hm
  -- Both are tidied into one text, which shows its sign and its digits.
  have hsplit := LooseInteger.splitMinus_of_isPlain negative hplain
  have hsplit' := LooseInteger.splitMinus_of_isPlain negative' hplain'
  rw [htidy, Option.some.injEq] at htidy'
  rw [← htidy', hsplit, Prod.mk.injEq] at hsplit'
  rw [hsplit'.1, hsplit'.2]

theorem of_signedDigits {cs : List Char} {n : SignedDigits} (h : IsSignedDigits cs n) :
    IsIntegerText cs n.value := by
  cases h with
  | @mk sign digits negative hsign hdigits hne =>
    have htext : IsIntegerText ([] ++ (sign ++ (digits ++ []) ++ [])) (SignedDigits.value ⟨negative, digits⟩) :=
      .mk (by simp) hsign (.of_areDigits hdigits hne) .absent (by simp)
    simpa using htext

end IsIntegerText

end Calculator

import Calculator.Proofs.IntegerTexts

/-!
# What is read as an integer

A text that denotes an integer is read as that integer, unless it has more than 4300 digits; then it is refused, with
a problem of its own if it starts with that many digits. Where no zeros stand in front nothing else is read. Behind
leading zeros the reader is more generous than the form: it takes a minus and doubled underscores there.
-/

namespace Calculator

namespace LooseInteger

theorem isIntegerText_of_readPlain? {cs : List Char} {n : Int} (h : readPlain? cs = some n) : IsIntegerText cs n := by
  obtain ⟨hplain, -, rfl⟩ := readPlain?_eq_some_iff.mp h
  obtain ⟨sign, -, hsign, hcs⟩ := exists_splitMinus cs
  obtain ⟨c, ds, hdigits, -⟩ := exists_cons_of_isPlain hplain
  have hne : (splitMinus cs).2 ≠ [] := hdigits ▸ List.cons_ne_nil c ds
  have hsigned := IsSignedDigits.mk hsign (areDigits_of_isPlain hplain) hne
  rw [hcs] at hsigned
  exact .of_signedDigits hsigned

/-- Digits without zeros in front, and more of them than are read, behind a minus or nothing. -/
inductive StartsTooLong : List Char → Prop where
  | mk {sign digits rest : List Char} (hsign : sign = [] ∨ sign = ['-']) (hdigits : AreDigits digits)
      (hzero : digits.head? ≠ some '0') (hlong : maxDigits < digits.length) :
      StartsTooLong (sign ++ (digits ++ rest))

theorem isOversized_iff {cs : List Char} : isOversized cs = true ↔ StartsTooLong cs := by
  simp only [isOversized, Bool.and_eq_true, decide_eq_true_eq, Option.any_eq_true, isLeadingDigit, bne_iff_ne]
  constructor
  · rintro ⟨⟨c, hc, hdigit, hne⟩, hlong⟩
    obtain ⟨sign, hsign, -, hcs⟩ := exists_splitMinus cs
    obtain ⟨rest, hrest⟩ := List.head?_eq_some_iff.mp hc
    have hzero : ((splitMinus cs).2.takeWhile Char.isDigit).head? ≠ some '0' := by
      simpa [hrest, hdigit] using hne
    have hlong' : StartsTooLong (sign ++ ((splitMinus cs).2.takeWhile Char.isDigit ++
        (splitMinus cs).2.dropWhile Char.isDigit)) :=
      .mk hsign (fun d hd => List.mem_takeWhile_imp hd) hzero hlong
    rwa [List.takeWhile_append_dropWhile, hcs] at hlong'
  · rintro @⟨sign, digits, rest, hsign, hdigits, hzero, hlong⟩
    cases digits with
    | nil => simp at hlong
    | cons c digits =>
      have hc := (areDigits_cons.mp hdigits).1
      have hminus : c ≠ '-' := ne_of_isDigit hc (by decide)
      rw [splitMinus_append hsign (by simpa using hminus)]
      refine ⟨⟨c, rfl, hc, by simpa using hzero⟩, Nat.lt_of_lt_of_le hlong ?_⟩
      rw [List.takeWhile_append_of_pos hdigits, List.length_append]
      exact Nat.le_add_right _ _

theorem isOversized_cons {c : Char} (hc : c.isDigit = false) (hminus : c ≠ '-') (cs : List Char) :
    isOversized (c :: cs) = false := by
  simp [isOversized, splitMinus, isLeadingDigit, hc, hminus]

theorem le_ofDigitChars_of_isOversized {sign body digits rest : List Char} (hsign : sign = [] ∨ sign = ['-'])
    (hbody : IsGrouped body digits) (hrest : ∀ c ∈ rest.head?, c.isDigit = false)
    (h : isOversized (sign ++ (body ++ rest)) = true) : 10 ^ maxDigits ≤ Nat.ofDigitChars 10 digits 0 := by
  obtain ⟨c, body, rfl, hc⟩ := hbody.exists_cons
  obtain ⟨ds, rfl⟩ := List.head?_eq_some_iff.mp hbody.head?_eq
  have hminus : (c :: body ++ rest).head? ≠ some '-' := by simpa using ne_of_isDigit hc (by decide)
  simp only [isOversized, splitMinus_append hsign hminus, Bool.and_eq_true, decide_eq_true_eq] at h
  obtain ⟨hlead, hlong⟩ := h
  have hne : c ≠ '0' := by simpa [isLeadingDigit, hc] using hlead
  have hlength := (hbody.takeWhile_prefix hrest).length_le
  calc 10 ^ maxDigits
      ≤ 10 ^ ds.length := Nat.pow_le_pow_right (by decide) (Nat.lt_succ_iff.mp (Nat.lt_of_lt_of_le hlong hlength))
    _ ≤ Nat.ofDigitChars 10 (c :: ds) 0 := pow_le_ofDigitChars hbody.areDigits hne

/-- A text of the form that starts with too many digits denotes a number of that size. -/
theorem StartsTooLong.le_natAbs {cs : List Char} {n : Int} (h : StartsTooLong cs) (htext : IsIntegerText cs n) :
    10 ^ maxDigits ≤ n.natAbs := by
  rw [← isOversized_iff] at h
  obtain @⟨before, sign, body, digits, fraction, after, negative, hbefore, hsign, hbody, hfraction, hafter⟩ := htext
  have hrest : ∀ c ∈ (fraction ++ after).head?, c.isDigit = false := by
    intro c hc
    cases hfraction with
    | absent => exact isDigit_of_isBlank (hafter c (List.mem_of_mem_head? hc))
    | zeros _ _ =>
      cases hc
      rfl
  rw [natAbs_applySign]
  cases before with
  | cons b before =>
    have hb := hbefore b List.mem_cons_self
    have hminus : b ≠ '-' := fun heq => by simp [heq, isBlank] at hb
    rw [List.cons_append, isOversized_cons (isDigit_of_isBlank hb) hminus] at h
    simp at h
  | nil =>
    rw [List.nil_append, List.append_assoc, List.append_assoc] at h
    cases hsign with
    | absent => exact le_ofDigitChars_of_isOversized (.inl rfl) hbody hrest h
    | minus => exact le_ofDigitChars_of_isOversized (.inr rfl) hbody hrest h
    | plus =>
      rw [List.cons_append, isOversized_cons (by decide) (by decide)] at h
      simp at h

theorem length_le_of_isPlain {ds : List Char} (h : isPlain ds = true)
    (hlt : Nat.ofDigitChars 10 ds 0 < 10 ^ maxDigits) : ds.length ≤ maxDigits := by
  obtain ⟨c, cs, rfl, -⟩ := exists_cons_of_isPlain h
  obtain ⟨-, -, hzero⟩ := isPlain_cons_iff.mp h
  by_cases hc : c = '0'
  · rw [hzero hc, List.length_singleton]
    decide
  · have hlow := Nat.lt_of_le_of_lt (pow_le_ofDigitChars (areDigits_of_isPlain h) hc) hlt
    exact (Nat.pow_lt_pow_iff_right (by decide)).mp hlow

theorem natAbs_lt_of_readPlain? {cs : List Char} {n : Int} (h : readPlain? cs = some n) :
    n.natAbs < 10 ^ maxDigits := by
  obtain ⟨hplain, hlength, rfl⟩ := readPlain?_eq_some_iff.mp h
  rw [natAbs_applySign]
  exact Nat.lt_of_lt_of_le (ofDigitChars_lt (areDigits_of_isPlain hplain)) (Nat.pow_le_pow_right (by decide) hlength)

/-- Every text of the form is read as the integer that it denotes, unless that has too many digits. -/
theorem read_of_isIntegerText {s : String} {n : Int} (h : IsIntegerText s.toList n) (hn : n.natAbs < 10 ^ maxDigits) :
    read s = .ok n := by
  have hshort : isOversized s.toList = false := by
    rw [← Bool.not_eq_true, isOversized_iff]
    exact fun hlong => absurd (hlong.le_natAbs h) (Nat.not_le.mpr hn)
  obtain ⟨negative, ds, htidy, hplain, rfl⟩ := tidy?_of_isIntegerText h
  rw [natAbs_applySign] at hn
  have htidied : (tidy? s.toList).bind readPlain? = some (applySign negative (Nat.ofDigitChars 10 ds 0)) := by
    rw [htidy, Option.bind_some, readPlain?_of_isPlain negative hplain (length_le_of_isPlain hplain hn)]
  unfold read
  cases hread : readPlain? s.toList with
  | some m => rw [(isIntegerText_of_readPlain? hread).unique h]
  | none => simp [hshort, htidied]

theorem isGrouped_append_gap {g cs ds : List Char} (hg : AreDigits g) (hne : g ≠ []) (h : IsGrouped cs ds) :
    IsGrouped (g ++ '_' :: cs) (g ++ ds) := by
  induction g with
  | nil => exact absurd rfl hne
  | cons c g ih =>
    obtain ⟨hc, hg⟩ := areDigits_cons.mp hg
    by_cases hnil : g = []
    · subst hnil
      exact .gap hc h
    · exact .next hc (ih hg hnil)

theorem isGrouped_intercalate {gs : List (List Char)} (hne : gs ≠ []) (hgs : ∀ g ∈ gs, g ≠ [] ∧ AreDigits g) :
    IsGrouped (['_'].intercalate gs) gs.flatten := by
  induction gs with
  | nil => exact absurd rfl hne
  | cons g gs ih =>
    obtain ⟨⟨hg, hdigits⟩, hgs⟩ := List.forall_mem_cons.mp hgs
    cases gs with
    | nil => simpa using IsGrouped.of_areDigits hdigits hg
    | cons g' gs =>
      rw [List.intercalate_cons_cons, List.append_assoc]
      exact isGrouped_append_gap hdigits hg (ih (List.cons_ne_nil g' gs) hgs)

/-- Underscores are dropped only from groups of digits. -/
theorem isGrouped_dropUnderscores {cs : List Char} (hne : cs ≠ []) (h : AreDigits (dropUnderscores cs)) :
    IsGrouped cs (dropUnderscores cs) := by
  simp only [dropUnderscores] at h ⊢
  by_cases hempty : [] ∈ cs.splitOn '_'
  · rw [if_pos hempty] at h ⊢
    exact .of_areDigits h hne
  · rw [if_neg hempty] at h ⊢
    have hgroups : ∀ g ∈ cs.splitOn '_', g ≠ [] ∧ AreDigits g := by
      intro g hg
      refine ⟨fun heq => hempty (heq ▸ hg), fun c hc => h c ?_⟩
      exact List.mem_flatten.mpr ⟨g, hg, hc⟩
    have hgrouped := isGrouped_intercalate (List.splitOn_ne_nil '_' cs) hgroups
    rwa [List.intercalate_splitOn] at hgrouped

theorem head?_dropUnderscores {c : Char} (hc : c ≠ '_') (cs : List Char) :
    (dropUnderscores (c :: cs)).head? = some c := by
  simp only [dropUnderscores]
  split
  · rfl
  · rw [splitOn_cons hc]
    cases hcs : cs.splitOn '_' with
    | nil => exact absurd hcs (List.splitOn_ne_nil _ _)
    | cons g gs => simp

theorem exists_of_tidy? {cs tidied : List Char} (h : tidy? cs = some tidied) :
    ∃ negative core core', splitSign (trimBlanks cs) = (negative, core) ∧ dropZeros? core = some core' ∧
      tidied = if negative then '-' :: dropUnderscores (dropZeroFraction core')
        else dropUnderscores (dropZeroFraction core') := by
  unfold tidy? at h
  split at h
  · simp at h
  next rest hrest =>
  split at h
  next negative core hminus =>
  obtain ⟨core', hcore', hdigits⟩ := Option.map_eq_some_iff.mp h
  exact ⟨negative, core, core', (splitMinus_of_dropPlus? hrest).symm.trans hminus, hcore', hdigits.symm⟩

theorem dropZeros?_of_head?_ne {core core' : List Char} (h : dropZeros? core = some core')
    (hzero : core.head? ≠ some '0') : core' = core ∧ ∃ c cs, core = c :: cs ∧ c.isDigit = true := by
  cases core with
  | nil => simp [dropZeros?] at h
  | cons c cs =>
    have hc : c ≠ '0' := by simpa using hzero
    simp only [dropZeros?, if_neg hc, Option.ite_none_right_eq_some, Option.some.injEq] at h
    exact ⟨h.2.symm, c, cs, rfl, h.1⟩

/-- The part before a fraction starts as the text does. -/
theorem exists_dropZeroFraction_cons {c : Char} (hc : c.isDigit = true) (cs : List Char) :
    ∃ rest, dropZeroFraction (c :: cs) = c :: rest := by
  obtain ⟨fraction, hfraction, hcs⟩ := exists_dropZeroFraction (c :: cs)
  cases hbody : dropZeroFraction (c :: cs) with
  | cons d rest =>
    rw [hbody, List.cons_append, List.cons.injEq] at hcs
    exact ⟨rest, by rw [hcs.1]⟩
  | nil =>
    rw [hbody, List.nil_append] at hcs
    cases hfraction with
    | absent => simp at hcs
    | zeros _ _ =>
      rw [List.cons.injEq] at hcs
      exact absurd hcs.1 (ne_of_isDigit hc (by decide))

/-- No zero stands behind the blanks and the sign in front. -/
def StartsWithoutZero (cs : List Char) : Prop := (splitSign (trimBlanks cs)).2.head? ≠ some '0'

theorem isIntegerText_of_tidied {cs : List Char} {n : Int} (hzero : StartsWithoutZero cs)
    (h : (tidy? cs).bind readPlain? = some n) : IsIntegerText cs n := by
  obtain ⟨tidied, htidy, hplain⟩ := Option.bind_eq_some_iff.mp h
  -- The steps of tidying are undone one by one; the first of them, dropping zeros, has left the text as it was.
  obtain ⟨negative, core, core', hsplit, hdrop, rfl⟩ := exists_of_tidy? htidy
  rw [StartsWithoutZero, hsplit] at hzero
  obtain ⟨rfl, c, rest, rfl, hc⟩ := dropZeros?_of_head?_ne hdrop hzero
  obtain ⟨fraction, hfraction, hcore⟩ := exists_dropZeroFraction (c :: rest)
  obtain ⟨body, hbody⟩ := exists_dropZeroFraction_cons hc rest
  rw [hbody] at hcore hplain
  have hminus := splitMinus_signed negative hc (head?_dropUnderscores (ne_of_isDigit hc (by decide)) body)
  obtain ⟨hdigits, -, rfl⟩ := readPlain?_eq_some_iff.mp hplain
  rw [hminus] at hdigits ⊢
  have hgrouped := isGrouped_dropUnderscores (List.cons_ne_nil c body) (areDigits_of_isPlain hdigits)
  obtain ⟨before, after, hbefore, hafter, hcs⟩ := exists_trimWhere isBlank cs
  obtain ⟨sign, hsign, htrim⟩ := splitSign_sound (trimBlanks cs)
  rw [hsplit] at hsign htrim
  have htext := IsIntegerText.mk hbefore hsign hgrouped hfraction hafter
  rwa [← hcore, htrim, trimBlanks, ← hcs] at htext

theorem exists_tidied {cs : List Char} {n m : Int} (h : IsIntegerText cs m)
    (htidied : (tidy? cs).bind readPlain? = some n) : n = m := by
  obtain ⟨negative, ds, htidy, hplain, rfl⟩ := tidy?_of_isIntegerText h
  rw [htidy, Option.bind_some, readPlain?_eq_some_iff, splitMinus_of_isPlain negative hplain] at htidied
  exact htidied.2.2.symm

/-- A text is refused if it denotes no integer, or one with too many digits. -/
theorem read_of_not_isIntegerText {s : String} (hzero : (∃ n, IsIntegerText s.toList n) ∨ StartsWithoutZero s.toList)
    (h : ∀ n, IsIntegerText s.toList n → 10 ^ maxDigits ≤ n.natAbs) :
    read s = .error (if isOversized s.toList then .oversized else .unreadableInteger) := by
  have hplain : readPlain? s.toList = none := by
    rw [Option.eq_none_iff_forall_ne_some]
    intro n hn
    exact absurd (h n (isIntegerText_of_readPlain? hn)) (Nat.not_le.mpr (natAbs_lt_of_readPlain? hn))
  have htidied : (tidy? s.toList).bind readPlain? = none := by
    rw [Option.eq_none_iff_forall_ne_some]
    intro n hn
    have htext : IsIntegerText s.toList n := by
      rcases hzero with ⟨m, hm⟩ | hzero
      · rwa [exists_tidied hm hn]
      · exact isIntegerText_of_tidied hzero hn
    obtain ⟨cs, -, hcs⟩ := Option.bind_eq_some_iff.mp hn
    exact absurd (h n htext) (Nat.not_le.mpr (natAbs_lt_of_readPlain? hcs))
  unfold read
  rw [hplain, htidied]
  cases isOversized s.toList <;> rfl

end LooseInteger

end Calculator

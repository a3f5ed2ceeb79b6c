import Calculator.Token

/-!
# Grammars of digits and numerals

The readers of signed digits and of real numerals accept the texts of the grammar and no others, and split each of
them into the parts that the grammar names.
-/

namespace Calculator

/-- An optional sign; the flag says whether it is a minus. -/
inductive IsSign : List Char → Bool → Prop where
  | absent : IsSign [] false
  | plus : IsSign ['+'] false
  | minus : IsSign ['-'] true

/-- ASCII digits, possibly none. -/
def AreDigits (cs : List Char) : Prop := ∀ c ∈ cs, c.isDigit = true

/-- A sign and at least one digit. -/
inductive IsSignedDigits : List Char → SignedDigits → Prop where
  | mk {sign digits : List Char} {negative : Bool} (hsign : IsSign sign negative)
      (hdigits : AreDigits digits) (hne : digits ≠ []) :
      IsSignedDigits (sign ++ digits) ⟨negative, digits⟩

/-- Digits with an optional point and fraction, or a point and a fraction. -/
inductive IsMantissa : List Char → List Char → List Char → Prop where
  | whole {w : List Char} (hw : AreDigits w) (hne : w ≠ []) : IsMantissa w w []
  | point {w f : List Char} (hw : AreDigits w) (hne : w ≠ []) (hf : AreDigits f) :
      IsMantissa (w ++ '.' :: f) w f
  | fraction {f : List Char} (hf : AreDigits f) (hne : f ≠ []) : IsMantissa ('.' :: f) [] f

inductive IsExponent : List Char → SignedDigits → Prop where
  | absent : IsExponent [] Numeral.noExponent
  | present {c : Char} {cs : List Char} {n : SignedDigits} (hc : c = 'e' ∨ c = 'E')
      (h : IsSignedDigits cs n) : IsExponent (c :: cs) n

inductive IsNumeral : List Char → Numeral → Prop where
  | mk {sign text w f tail : List Char} {negative : Bool} {e : SignedDigits}
      (hsign : IsSign sign negative) (htext : IsMantissa text w f) (htail : IsExponent tail e) :
      IsNumeral (sign ++ (text ++ tail)) ⟨negative, w, f, e⟩

theorem areDigits_takeWhile (cs : List Char) : AreDigits (cs.takeWhile Char.isDigit) :=
  List.all_eq_true.mp List.all_takeWhile

/-- A sign is no digit, and neither are the marks inside a numeral. -/
theorem ne_of_isDigit {c d : Char} (hc : c.isDigit = true) (hd : d.isDigit = false) : c ≠ d := by
  rintro rfl
  simp [hc] at hd

theorem splitSign_sound (cs : List Char) :
    ∃ sign, IsSign sign (splitSign cs).1 ∧ sign ++ (splitSign cs).2 = cs := by
  unfold splitSign
  split
  · exact ⟨['-'], .minus, rfl⟩
  · exact ⟨['+'], .plus, rfl⟩
  · exact ⟨[], .absent, rfl⟩

theorem splitSign_append {sign cs : List Char} {negative : Bool} (hsign : IsSign sign negative)
    (hcs : ∀ c ∈ cs.head?, c ≠ '-' ∧ c ≠ '+') : splitSign (sign ++ cs) = (negative, cs) := by
  cases hsign with
  | plus => rfl
  | minus => rfl
  | absent =>
    cases cs with
    | nil => rfl
    | cons c cs =>
      obtain ⟨hminus, hplus⟩ := hcs c rfl
      simp only [List.nil_append]
      unfold splitSign
      split <;> simp_all

/-- Taking digits stops where the run of digits ends. -/
theorem span_digits {w rest : List Char} (hw : AreDigits w) (hrest : ∀ c ∈ rest.head?, c.isDigit = false) :
    (w ++ rest).takeWhile Char.isDigit = w ∧ (w ++ rest).dropWhile Char.isDigit = rest := by
  rw [List.takeWhile_append_of_pos hw, List.dropWhile_append_of_pos hw]
  cases rest with
  | nil => simp
  | cons c rest => simp [hrest c rfl]

theorem SignedDigits.parse?_eq_some_iff (cs : List Char) (n : SignedDigits) :
    SignedDigits.parse? cs = some n ↔ IsSignedDigits cs n := by
  constructor
  · intro h
    obtain ⟨sign, hsign, hcs⟩ := splitSign_sound cs
    unfold SignedDigits.parse? at h
    split at h
    next negative digits hsplit =>
      rw [hsplit] at hsign hcs
      split at h
      · next hdigits =>
        cases h
        rw [← hcs]
        exact .mk hsign (List.all_eq_true.mp hdigits.2) hdigits.1
      · simp at h
  · rintro ⟨hsign, hdigits, hne⟩
    next sign digits negative =>
      have hhead : ∀ c ∈ digits.head?, c ≠ '-' ∧ c ≠ '+' := by
        intro c hc
        have hdigit := hdigits c (List.mem_of_mem_head? hc)
        exact ⟨ne_of_isDigit hdigit (by decide), ne_of_isDigit hdigit (by decide)⟩
      have hall : digits.all Char.isDigit = true := List.all_eq_true.mpr hdigits
      simp [SignedDigits.parse?, splitSign_append hsign hhead, hne, hall]

theorem SignedDigits.parse?_eq_none_iff (cs : List Char) :
    SignedDigits.parse? cs = none ↔ ∀ n, ¬IsSignedDigits cs n := by
  simp only [Option.eq_none_iff_forall_ne_some, ne_eq, SignedDigits.parse?_eq_some_iff]

theorem Numeral.parseExponent?_eq_some_iff (cs : List Char) (e : SignedDigits) :
    Numeral.parseExponent? cs = some e ↔ IsExponent cs e := by
  constructor
  · intro h
    cases cs with
    | nil =>
      cases h
      exact .absent
    | cons c cs =>
      simp only [Numeral.parseExponent?] at h
      split at h
      · next hc => exact .present hc ((SignedDigits.parse?_eq_some_iff cs e).mp h)
      · simp at h
  · rintro (_ | ⟨hc, h⟩)
    · rfl
    · simp only [Numeral.parseExponent?, if_pos hc]
      exact (SignedDigits.parse?_eq_some_iff _ e).mpr h

/-- What follows a mantissa is no digit and no point. -/
theorem IsExponent.head {cs : List Char} {e : SignedDigits} (h : IsExponent cs e) :
    ∀ c ∈ cs.head?, c.isDigit = false ∧ c ≠ '.' := by
  cases h with
  | absent => simp
  | present hc _ =>
    intro c hmem
    obtain rfl := Option.some.inj hmem
    rcases hc with rfl | rfl <;> decide

/-- Where a mantissa starts there is no sign. -/
theorem IsMantissa.head {text w f tail : List Char} (h : IsMantissa text w f) :
    ∀ c ∈ (text ++ tail).head?, c ≠ '-' ∧ c ≠ '+' := by
  have hdigits : ∀ {w' rest : List Char}, AreDigits w' → w' ≠ [] →
      ∀ c ∈ (w' ++ rest).head?, c ≠ '-' ∧ c ≠ '+' := by
    intro w' rest hw hne c hc
    cases w' with
    | nil => exact absurd rfl hne
    | cons d w' =>
      have hdigit := hw c (by simp_all)
      exact ⟨ne_of_isDigit hdigit (by decide), ne_of_isDigit hdigit (by decide)⟩
  cases h with
  | whole hw hne => exact hdigits hw hne
  | point hw hne _ =>
    rw [List.append_assoc]
    exact hdigits hw hne
  | fraction _ _ => simp

/-- Taking the digits, and then a fraction if a point follows, finds the parts of a mantissa. -/
theorem IsMantissa.split {text w f tail : List Char} (h : IsMantissa text w f)
    (htail : ∀ c ∈ tail.head?, c.isDigit = false ∧ c ≠ '.') :
    (text ++ tail).takeWhile Char.isDigit = w ∧
      Numeral.splitFraction ((text ++ tail).dropWhile Char.isDigit) = (f, tail) := by
  have hend : ∀ c ∈ tail.head?, c.isDigit = false := fun c hc => (htail c hc).1
  have hpoint : ∀ {f : List Char}, AreDigits f →
      Numeral.splitFraction ('.' :: (f ++ tail)) = (f, tail) := by
    intro f hf
    simp [Numeral.splitFraction, span_digits hf hend]
  cases h with
  | whole hw hne =>
    obtain ⟨htake, hdrop⟩ := span_digits hw hend
    refine ⟨htake, ?_⟩
    rw [hdrop]
    unfold Numeral.splitFraction
    split
    · next cs => exact absurd rfl (htail '.' rfl).2
    · rfl
  | point hw hne hf =>
    rw [List.append_assoc, List.cons_append]
    have hdot : ∀ c ∈ ('.' :: (f ++ tail)).head?, c.isDigit = false := by simp
    obtain ⟨htake, hdrop⟩ := span_digits hw hdot
    refine ⟨htake, ?_⟩
    rw [hdrop]
    exact hpoint hf
  | fraction hf hne => exact ⟨rfl, hpoint hf⟩

theorem Numeral.splitFraction_sound (cs : List Char) :
    ((splitFraction cs).1 = [] ∧ (splitFraction cs).2 = cs) ∨
      (AreDigits (splitFraction cs).1 ∧ '.' :: ((splitFraction cs).1 ++ (splitFraction cs).2) = cs) := by
  unfold splitFraction
  split
  · next cs => exact .inr ⟨areDigits_takeWhile cs, by simp⟩
  · exact .inl ⟨rfl, rfl⟩

/-- The digits of a text and the fraction behind them make up a mantissa, unless both are empty. -/
theorem IsMantissa.of_split {cs f tail : List Char}
    (hsplit : Numeral.splitFraction (cs.dropWhile Char.isDigit) = (f, tail))
    (hne : ¬(cs.takeWhile Char.isDigit = [] ∧ f = [])) :
    ∃ text, IsMantissa text (cs.takeWhile Char.isDigit) f ∧ text ++ tail = cs := by
  have hw := areDigits_takeWhile cs
  have hcs : cs.takeWhile Char.isDigit ++ cs.dropWhile Char.isDigit = cs := List.takeWhile_append_dropWhile
  have hsound := Numeral.splitFraction_sound (cs.dropWhile Char.isDigit)
  rw [hsplit] at hsound
  simp only at hsound
  rcases hsound with ⟨rfl, htail⟩ | ⟨hf, hpoint⟩
  · have hwne : cs.takeWhile Char.isDigit ≠ [] := fun hnil => hne ⟨hnil, rfl⟩
    exact ⟨_, .whole hw hwne, by rw [htail, hcs]⟩
  · by_cases hwne : cs.takeWhile Char.isDigit = []
    · rw [hwne] at hne hcs ⊢
      refine ⟨_, .fraction hf (fun hnil => hne ⟨rfl, hnil⟩), ?_⟩
      rw [List.cons_append, hpoint]
      exact hcs
    · refine ⟨_, .point hw hwne hf, ?_⟩
      rw [List.append_assoc, List.cons_append, hpoint, hcs]

theorem Numeral.parse?_eq_some_iff (cs : List Char) (n : Numeral) :
    Numeral.parse? cs = some n ↔ IsNumeral cs n := by
  constructor
  · intro h
    obtain ⟨sign, hsign, hcs⟩ := splitSign_sound cs
    unfold Numeral.parse? at h
    split at h
    next negative rest hrest =>
      rw [hrest] at hsign hcs
      split at h
      next f tail hsplit =>
        simp only at h
        split at h
        · simp at h
        · next hne =>
          obtain ⟨e, he, rfl⟩ := Option.map_eq_some_iff.mp h
          obtain ⟨text, htext, happ⟩ := IsMantissa.of_split hsplit hne
          have hnumeral := IsNumeral.mk hsign htext ((Numeral.parseExponent?_eq_some_iff tail e).mp he)
          rw [happ, hcs] at hnumeral
          exact hnumeral
  · rintro ⟨hsign, htext, htail⟩
    next sign text w f tail negative e =>
      obtain ⟨htake, hsplit⟩ := htext.split htail.head
      have hne : ¬(w = [] ∧ f = []) := by
        rintro ⟨rfl, rfl⟩
        cases htext <;> contradiction
      have he := (Numeral.parseExponent?_eq_some_iff tail e).mpr htail
      simp [Numeral.parse?, splitSign_append hsign htext.head, htake, hsplit, hne, he]

theorem Numeral.parse?_eq_none_iff (cs : List Char) :
    Numeral.parse? cs = none ↔ ∀ n, ¬IsNumeral cs n := by
  simp only [Option.eq_none_iff_forall_ne_some, ne_eq, Numeral.parse?_eq_some_iff]

end Calculator

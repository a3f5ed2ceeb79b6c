import Calculator.Text

/-!
# Upper-casing twice

No code point that the case mapping leads to is one that it changes, so a text in upper case is left as it is.
-/

namespace Calculator

/-- The small letters of ASCII, as a run like those of the table. -/
def asciiRun : CaseRun := ⟨0x61, 0x7a, 1, 0x41⟩

def letterRuns : List CaseRun := asciiRun :: caseRuns

/-- The code points that a run maps. -/
def CaseRun.sources (r : CaseRun) : List Nat :=
  List.range' r.first ((r.last - r.first) / r.stride + 1) r.stride

theorem CaseRun.Covers.mem_sources {r : CaseRun} {n : Nat} (h : r.Covers n) : n ∈ r.sources := by
  obtain ⟨hfirst, hlast, hstride⟩ := h
  have hsteps : r.stride * ((n - r.first) / r.stride) = n - r.first :=
    Nat.mul_div_cancel' (Nat.dvd_of_mod_eq_zero hstride)
  have hcount : (n - r.first) / r.stride ≤ (r.last - r.first) / r.stride :=
    Nat.div_le_div_right (Nat.sub_le_sub_right hlast _)
  exact List.mem_range'.mpr ⟨_, Nat.lt_succ_of_le hcount, by omega⟩

/-- The code points that the case mapping changes. -/
def mappedCodes : List Nat := letterRuns.flatMap CaseRun.sources ++ caseExpansions.map (·.1)

/-- The code points that the case mapping leads to. -/
def targetCodes : List Nat :=
  (letterRuns.flatMap fun r => r.sources.map r.map) ++ caseExpansions.flatMap (·.2)

/-- A set of numbers as the bits of one number. -/
def bits : List Nat → Nat
  | [] => 0
  | code :: codes => 1 <<< code ||| bits codes

@[simp] theorem testBit_bits (codes : List Nat) (n : Nat) : (bits codes).testBit n = true ↔ n ∈ codes := by
  induction codes with
  | nil => simp [bits]
  | cons code codes ih =>
    simp only [bits, Nat.testBit_or, Nat.one_shiftLeft, Nat.testBit_two_pow, Bool.or_eq_true, decide_eq_true_eq, ih,
      List.mem_cons]
    exact or_congr eq_comm Iff.rfl

theorem notMem_of_bits {xs ys : List Nat} (h : bits xs &&& bits ys = 0) {n : Nat} (hn : n ∈ ys) : n ∉ xs := by
  intro hmem
  have hbit : (bits xs &&& bits ys).testBit n = true := by
    rw [Nat.testBit_and, (testBit_bits xs n).mpr hmem, (testBit_bits ys n).mpr hn, Bool.and_self]
  rw [h, Nat.zero_testBit] at hbit
  exact Bool.false_ne_true hbit

/-- Runs of small letters lie between the capitals that they map to, so no comparison of the ends of runs would
tell the two kinds of code points apart. -/
theorem notMem_mappedCodes {n : Nat} (h : n ∈ targetCodes) : n ∉ mappedCodes :=
  notMem_of_bits (by decide +kernel) h

theorem toUpper_of_ascii {c : Char} (h : c.toNat < 128) :
    c.toUpper = if asciiRun.Covers c.toNat then Char.ofNat (asciiRun.map c.toNat) else c := by
  have hall : ∀ n < 128, (Char.ofNat n).toUpper =
      if asciiRun.Covers n then Char.ofNat (asciiRun.map n) else Char.ofNat n := by decide
  simpa using hall c.toNat h

theorem mem_mappedCodes_of_covers {r : CaseRun} (hr : r ∈ letterRuns) {n : Nat} (h : r.Covers n) : n ∈ mappedCodes :=
  List.mem_append_left _ (List.mem_flatMap.mpr ⟨r, hr, h.mem_sources⟩)

theorem mem_targetCodes_of_covers {r : CaseRun} (hr : r ∈ letterRuns) {n : Nat} (h : r.Covers n) :
    r.map n ∈ targetCodes :=
  List.mem_append_left _ (List.mem_flatMap.mpr ⟨r, hr, List.mem_map_of_mem h.mem_sources⟩)

/-- A character is left as it is, or becomes what the tables lead to. -/
theorem upperChar_cases (c : Char) :
    upperChar c = [c] ∨ c.toNat ∈ mappedCodes ∧ ∀ d ∈ upperChar c, ∃ n ∈ targetCodes, d = Char.ofNat n := by
  unfold upperChar
  split
  · next hascii =>
    rw [toUpper_of_ascii hascii]
    split
    · next hcovers =>
      have hmem : asciiRun ∈ letterRuns := List.mem_cons_self
      refine .inr ⟨mem_mappedCodes_of_covers hmem hcovers, ?_⟩
      simpa using ⟨_, mem_targetCodes_of_covers hmem hcovers, rfl⟩
    · exact .inl rfl
  · split
    · next targets hlookup =>
      obtain ⟨before, after, hentries, -⟩ := List.lookup_eq_some_iff.mp hlookup
      have hentry : (c.toNat, targets) ∈ caseExpansions := by simp [hentries]
      refine .inr ⟨List.mem_append_right _ (List.mem_map_of_mem hentry), ?_⟩
      intro d hd
      obtain ⟨n, hn, rfl⟩ := List.mem_map.mp hd
      exact ⟨n, List.mem_append_right _ (List.mem_flatMap.mpr ⟨_, hentry, hn⟩), rfl⟩
    · split
      · next r hfind =>
        have hmem : r ∈ letterRuns := List.mem_cons_of_mem _ (List.mem_of_find?_eq_some hfind)
        have hfound := List.find?_some hfind
        have hcovers : r.Covers c.toNat := of_decide_eq_true hfound
        refine .inr ⟨mem_mappedCodes_of_covers hmem hcovers, ?_⟩
        simpa using ⟨_, mem_targetCodes_of_covers hmem hcovers, rfl⟩
      · exact .inl rfl

/-- A number that is no code point stands for the null character. -/
theorem toNat_ofNat (n : Nat) : (Char.ofNat n).toNat = n ∨ (Char.ofNat n).toNat = 0 := by
  by_cases h : n.isValidChar
  · exact .inl (by rw [Char.ofNat, dif_pos h]; rfl)
  · exact .inr (by rw [Char.ofNat, dif_neg h]; rfl)

theorem upperChar_of_mem {c d : Char} (h : d ∈ upperChar c) : upperChar d = [d] := by
  rcases upperChar_cases c with hself | ⟨-, htargets⟩
  · rw [hself, List.mem_singleton] at h
    rw [h, hself]
  · obtain ⟨n, hn, rfl⟩ := htargets d h
    refine (upperChar_cases _).resolve_right ?_
    rintro ⟨hmapped, -⟩
    -- The null character stands for numbers that are no code points, and is not mapped either.
    have hzero : 0 ∉ mappedCodes := by decide +kernel
    rcases toNat_ofNat n with hcode | hcode
    · exact notMem_mappedCodes hn (hcode ▸ hmapped)
    · exact hzero (hcode ▸ hmapped)

theorem flatMap_upperChar {cs : List Char} (h : ∀ c ∈ cs, upperChar c = [c]) : cs.flatMap upperChar = cs := by
  induction cs with
  | nil => rfl
  | cons c cs ih =>
    obtain ⟨hc, hcs⟩ := List.forall_mem_cons.mp h
    rw [List.flatMap_cons, hc, ih hcs, List.singleton_append]

@[simp] theorem upperCase_upperCase (s : String) : upperCase (upperCase s) = upperCase s := by
  rw [upperCase, upperCase, String.toList_ofList, flatMap_upperChar]
  intro d hd
  obtain ⟨c, -, hmem⟩ := List.mem_flatMap.mp hd
  exact upperChar_of_mem hmem

end Calculator

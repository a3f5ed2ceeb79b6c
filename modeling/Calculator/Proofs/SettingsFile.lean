import Mathlib.Data.List.Basic
import Calculator.Settings

/-!
# The lines of a settings file

A settings file is cut at the ends of its lines, and each line at its first sign of equality. White space around a name
and around a value, empty lines and a byte order mark in front say nothing. A text that is written from plain lines is
therefore read as these lines: a plain name has no sign of equality in it, and neither a plain name nor a plain value
has a line end in it or white space around it.
-/

namespace Calculator

namespace Sources

/-- Digits, letters and the underscore. -/
def isNameChar (c : Char) : Bool :=
  let n := c.toNat
  (48 ≤ n && n ≤ 57) || (65 ≤ n && n ≤ 90) || n = 95 || (97 ≤ n && n ≤ 122)

/-- A character that stands for itself in a value, and for no line end, quote, comment or reference. -/
def isPlainChar (c : Char) : Bool :=
  !isLineEnd c && !(c = apostrophe || c = quotationMark || c = '#' || c = '$')

/-- A line that is read as it is written. -/
structure IsPlainLine (line : String × String) : Prop where
  name_ne : line.1 ≠ ""
  name : line.1.toList.all isNameChar = true
  value : line.2.toList.all isPlainChar = true
  head : line.2.toList.head?.all (!isMargin ·) = true
  last : line.2.toList.getLast?.all (!isMargin ·) = true

instance : DecidablePred IsPlainLine := fun line =>
  decidable_of_iff (line.1 ≠ "" ∧ line.1.toList.all isNameChar = true ∧ line.2.toList.all isPlainChar = true ∧
      line.2.toList.head?.all (!isMargin ·) = true ∧ line.2.toList.getLast?.all (!isMargin ·) = true)
    ⟨fun ⟨hne, hname, hvalue, hhead, hlast⟩ => ⟨hne, hname, hvalue, hhead, hlast⟩,
      fun h => ⟨h.name_ne, h.name, h.value, h.head, h.last⟩⟩

/-- White space within a line. -/
def IsGap (cs : List Char) : Prop := ∀ c ∈ cs, isMargin c = true ∧ isLineEnd c = false

inductive IsStop : List Char → Prop where
  | feed : IsStop ['\n']
  | carriage : IsStop ['\r']
  | both : IsStop ['\r', '\n']

/-- A plain line with white space around its name and its value. -/
inductive WritesLine (line : String × String) : List Char → Prop where
  | mk {a b c d : List Char} (hplain : IsPlainLine line) (ha : IsGap a) (hb : IsGap b) (hc : IsGap c) (hd : IsGap d) :
      WritesLine line (a ++ (line.1.toList ++ b) ++ '=' :: (c ++ (line.2.toList ++ d)))

/-- Lines one below the other, and empty ones between them. The last one may lack its end. -/
inductive WritesLines : List (String × String) → List Char → Prop where
  | nothing {gap : List Char} (hgap : IsGap gap) : WritesLines [] gap
  | last {line : String × String} {cs : List Char} (h : WritesLine line cs) : WritesLines [line] cs
  | next {line : String × String} {lines : List (String × String)} {cs stop rest : List Char} (h : WritesLine line cs)
      (hstop : IsStop stop) (hrest : WritesLines lines rest) : WritesLines (line :: lines) (cs ++ (stop ++ rest))
  | empty {lines : List (String × String)} {gap stop rest : List Char} (hgap : IsGap gap) (hstop : IsStop stop)
      (hrest : WritesLines lines rest) : WritesLines lines (gap ++ (stop ++ rest))

/-- A text that is written from plain lines, with a byte order mark or without one. -/
inductive Writes (lines : List (String × String)) (text : String) : Prop where
  | unmarked (h : WritesLines lines text.toList)
  | marked {cs : List Char} (hmark : text.toList = '\ufeff' :: cs) (h : WritesLines lines cs)

theorem readAssignment?_append {name value : List Char} (h : '=' ∉ name) :
    readAssignment? (name ++ '=' :: value) = some (String.ofList name, String.ofList value) := by
  have hname := decide_ne_of_notMem h
  simp only [readAssignment?, List.dropWhile_append_of_pos hname, List.takeWhile_append_of_pos hname]
  simp

theorem readAssignment?_of_notMem {entry : List Char} (h : '=' ∉ entry) : readAssignment? entry = none := by
  have hnothing : (entry ++ []).dropWhile (· ≠ '=') = [] := List.dropWhile_append_of_pos (decide_ne_of_notMem h)
  rw [List.append_nil] at hnothing
  rw [readAssignment?, hnothing]

theorem readEntries_of_entry {entry : List Char} (h : ∀ c ∈ entry, isLineEnd c = false) :
    readEntries isLineEnd entry = (readAssignment? entry).toList := by
  rw [readEntries, List.splitOnP_eq_singleton h]
  cases hentry : readAssignment? entry <;> simp [hentry]

/-- Entries in front of a line end and behind it are read apart. -/
theorem readEntries_append_cons {c : Char} (hc : isLineEnd c = true) (text rest : List Char) :
    readEntries isLineEnd (text ++ c :: rest) = readEntries isLineEnd text ++ readEntries isLineEnd rest := by
  rw [readEntries, List.splitOnP_append_cons _ _ hc, List.filterMap_append]
  rfl

theorem readEntries_append_stop {stop : List Char} (h : IsStop stop) (text rest : List Char) :
    readEntries isLineEnd (text ++ (stop ++ rest)) = readEntries isLineEnd text ++ readEntries isLineEnd rest := by
  cases h with
  | feed => exact readEntries_append_cons rfl text rest
  | carriage => exact readEntries_append_cons rfl text rest
  | both =>
    -- Between the two characters there is an empty entry, which gives nothing.
    have hbetween : readEntries isLineEnd ('\n' :: rest) = readEntries isLineEnd rest :=
      readEntries_append_cons rfl [] rest
    rw [← hbetween]
    exact readEntries_append_cons rfl text ('\n' :: rest)

theorem trimMargins_append {before after : List Char} {s : String} (hbefore : IsGap before) (hafter : IsGap after)
    (hhead : ∀ c ∈ s.toList.head?, isMargin c = false) (hlast : ∀ c ∈ s.toList.getLast?, isMargin c = false) :
    trimMargins (String.ofList (before ++ (s.toList ++ after))) = s := by
  rw [trimMargins, String.toList_ofList, trimWhere_append (fun c hc => (hbefore c hc).1) (fun c hc => (hafter c hc).1)
    hhead hlast, String.ofList_toList]

namespace IsGap

variable {gap : List Char}

theorem eq_notMem (h : IsGap gap) : '=' ∉ gap := by
  intro hmem
  exact absurd (h '=' hmem).1 (by decide)

/-- White space is no byte order mark. -/
theorem head?_append_ne (h : IsGap gap) {rest : List Char} (hrest : rest.head? ≠ some '\ufeff') :
    (gap ++ rest).head? ≠ some '\ufeff' := by
  cases gap with
  | nil => exact hrest
  | cons c gap =>
    rintro ⟨⟩
    exact absurd (h '\ufeff' List.mem_cons_self).1 (by decide)

end IsGap

namespace IsPlainLine

variable {line : String × String}

theorem toNat_of_mem_name (h : IsPlainLine line) {c : Char} (hc : c ∈ line.1.toList) :
    48 ≤ c.toNat ∧ c.toNat ≤ 122 ∧ c.toNat ≠ 61 := by
  have hname := List.all_eq_true.mp h.name c hc
  simp only [isNameChar, Bool.or_eq_true, Bool.and_eq_true, decide_eq_true_eq] at hname
  omega

theorem eq_notMem (h : IsPlainLine line) : '=' ∉ line.1.toList := by
  intro hmem
  exact (h.toNat_of_mem_name hmem).2.2 rfl

theorem isLineEnd_of_mem_name (h : IsPlainLine line) {c : Char} (hc : c ∈ line.1.toList) : isLineEnd c = false := by
  have hlow := (h.toNat_of_mem_name hc).1
  have hends : c ≠ '\n' ∧ c ≠ '\r' := by
    constructor <;> (rintro rfl; simp at hlow)
  simp [isLineEnd, hends]

theorem isLineEnd_of_mem_value (h : IsPlainLine line) {c : Char} (hc : c ∈ line.2.toList) : isLineEnd c = false := by
  have hplain := List.all_eq_true.mp h.value c hc
  rw [isPlainChar, Bool.and_eq_true, Bool.not_eq_true'] at hplain
  exact hplain.1

theorem isMargin_of_mem_name (h : IsPlainLine line) {c : Char} (hc : c ∈ line.1.toList) : isMargin c = false := by
  have := h.toNat_of_mem_name hc
  simp only [isMargin, isBlank, isSeparator, Bool.or_eq_false_iff, Bool.and_eq_false_iff, decide_eq_false_iff_not]
  omega

theorem head?_name_append_ne (h : IsPlainLine line) (rest : List Char) :
    (line.1.toList ++ rest).head? ≠ some '\ufeff' := by
  cases hname : line.1.toList with
  | nil => exact absurd (String.toList_eq_nil_iff.mp hname) h.name_ne
  | cons c cs =>
    have hhigh := (h.toNat_of_mem_name (hname ▸ List.mem_cons_self)).2.1
    rintro ⟨⟩
    simp at hhigh

end IsPlainLine

namespace WritesLine

variable {line : String × String} {cs : List Char}

theorem isLineEnd_eq (h : WritesLine line cs) : ∀ c ∈ cs, isLineEnd c = false := by
  obtain @⟨a, b, c, d, hplain, ha, hb, hc, hd⟩ := h
  intro x hx
  simp only [List.mem_append, List.mem_cons] at hx
  rcases hx with (hx | hx | hx) | rfl | hx | hx | hx
  · exact (ha x hx).2
  · exact hplain.isLineEnd_of_mem_name hx
  · exact (hb x hx).2
  · decide
  · exact (hc x hx).2
  · exact hplain.isLineEnd_of_mem_value hx
  · exact (hd x hx).2

theorem head?_append_ne (h : WritesLine line cs) (rest : List Char) : (cs ++ rest).head? ≠ some '\ufeff' := by
  obtain @⟨a, b, c, d, hplain, ha, hb, hc, hd⟩ := h
  rw [List.append_assoc, List.append_assoc, List.append_assoc]
  exact ha.head?_append_ne (hplain.head?_name_append_ne _)

/-- A written line is read as the line. -/
theorem readEntries_eq (h : WritesLine line cs) : (readEntries isLineEnd cs).map trimLine = [line] := by
  rw [readEntries_of_entry h.isLineEnd_eq]
  obtain @⟨a, b, c, d, hplain, ha, hb, hc, hd⟩ := h
  have hname : '=' ∉ a ++ (line.1.toList ++ b) := by
    simp only [List.mem_append, not_or]
    exact ⟨ha.eq_notMem, hplain.eq_notMem, hb.eq_notMem⟩
  have htrim : trimMargins (String.ofList (a ++ (line.1.toList ++ b))) = line.1 :=
    trimMargins_append ha hb (fun x hx => hplain.isMargin_of_mem_name (List.mem_of_mem_head? hx))
      fun x hx => hplain.isMargin_of_mem_name (List.mem_of_mem_getLast? hx)
  have htrim' : trimMargins (String.ofList (c ++ (line.2.toList ++ d))) = line.2 :=
    trimMargins_append hc hd (by simpa [Option.all_eq_true] using hplain.head)
      (by simpa [Option.all_eq_true] using hplain.last)
  rw [readAssignment?_append hname, Option.toList_some, List.map_singleton, trimLine, htrim, htrim']

end WritesLine

namespace WritesLines

variable {lines : List (String × String)} {cs : List Char}

theorem readEntries_of_gap {gap : List Char} (h : IsGap gap) : readEntries isLineEnd gap = [] := by
  rw [readEntries_of_entry fun c hc => (h c hc).2, readAssignment?_of_notMem h.eq_notMem, Option.toList_none]

theorem readEntries_eq (h : WritesLines lines cs) : (readEntries isLineEnd cs).map trimLine = lines := by
  induction h with
  | nothing hgap => rw [readEntries_of_gap hgap, List.map_nil]
  | last h => exact h.readEntries_eq
  | next h hstop _ ih =>
    rw [readEntries_append_stop hstop, List.map_append, h.readEntries_eq, ih, List.singleton_append]
  | empty hgap hstop _ ih => rw [readEntries_append_stop hstop, readEntries_of_gap hgap, List.nil_append, ih]

theorem head?_ne (h : WritesLines lines cs) : cs.head? ≠ some '\ufeff' := by
  cases h with
  | nothing hgap =>
    rw [← List.append_nil cs]
    exact hgap.head?_append_ne (by simp)
  | last h =>
    rw [← List.append_nil cs]
    exact h.head?_append_ne []
  | next h _ _ => exact h.head?_append_ne _
  | empty hgap hstop _ => exact hgap.head?_append_ne (by cases hstop <;> simp)

end WritesLines

theorem dropMark_eq_self {cs : List Char} (h : cs.head? ≠ some '\ufeff') : dropMark cs = cs := by
  unfold dropMark
  split
  · simp at h
  · rfl

/-- The lines of a text are those that it was written from. -/
theorem Writes.readLines_eq {lines : List (String × String)} {text : String} (h : Writes lines text) :
    readLines text = lines := by
  cases h with
  | unmarked h => rw [readLines, dropMark_eq_self h.head?_ne, h.readEntries_eq]
  | marked hmark h =>
    rw [readLines, hmark]
    exact h.readEntries_eq

end Sources

end Calculator

import Mathlib.Data.List.Basic
import Mathlib.Data.List.Induction
import Calculator.Settings

/-!
# Where a setting is taken from

Of the entries of a name, without regard to case, the first keyword field counts, else the last variable, else a line
of the settings file. What stands below the source that gives a value is never looked at. Lines are merged by their
spelling first. Of the spellings of a name the one that first occurs last gives the value, by its last line, which is
the last line of all if the name is spelled in one way only.
-/

namespace Calculator

namespace Sources

variable {α : Type}

/-- The entries of a name, without regard to case. -/
def entries (pairs : List (String × α)) (name : String) : List (String × α) :=
  pairs.filter fun pair => sameName name pair.1

theorem firstValue?_eq (pairs : List (String × α)) (name : String) :
    firstValue? pairs name = (entries pairs name).head?.map (·.2) := by
  rw [firstValue?, entries, List.head?_filter]

theorem lastValue?_eq (pairs : List (String × α)) (name : String) :
    lastValue? pairs name = (entries pairs name).getLast?.map (·.2) := by
  rw [lastValue?, firstValue?, entries, List.getLast?_filter]

/-- Filtering commutes with dropping repetitions. -/
theorem filter_eraseDups (p : String → Bool) : ∀ names : List String,
    names.eraseDups.filter p = (names.filter p).eraseDups
  | [] => rfl
  | name :: names => by
    have ih := filter_eraseDups p (names.filter fun other => !other == name)
    rw [List.eraseDups_cons]
    by_cases hp : p name = true
    · rw [List.filter_cons_of_pos hp, List.filter_cons_of_pos hp, List.eraseDups_cons, ih, List.filter_filter,
        List.filter_filter]
      simp only [Bool.and_comm]
    · rw [List.filter_cons_of_neg hp, List.filter_cons_of_neg hp, ih, List.filter_filter]
      -- What the predicate keeps is not `name`, which it drops.
      have hother : ∀ other ∈ names, (p other && !other == name) = p other := by
        intro other _
        by_cases heq : other = name
        · simp [heq, hp]
        · simp [heq]
      rw [List.filter_congr hother]
termination_by names => names.length
decreasing_by exact Nat.lt_succ_of_le (List.length_filter_le _ _)

theorem lookup_filter {p : String → Bool} {name : String} (hname : p name = true) (pairs : List (String × α)) :
    (pairs.filter fun pair => p pair.1).lookup name = pairs.lookup name := by
  induction pairs with
  | nil => rfl
  | cons pair pairs ih =>
    obtain ⟨other, a⟩ := pair
    by_cases heq : name = other
    · subst heq
      simp [hname]
    · have hne : (name == other) = false := by simpa using heq
      cases hp : p other <;> simp [List.lookup_cons, hp, hne, ih]

/-- Merging looks at the entries of a name alone. -/
theorem entries_mergeSpellings (pairs : List (String × α)) (name : String) :
    entries (mergeSpellings pairs) name = mergeSpellings (entries pairs name) := by
  have hnames : (entries pairs name).map (·.1) = (pairs.map (·.1)).filter (sameName name) := by
    rw [List.filter_map]
    rfl
  simp only [mergeSpellings]
  rw [hnames, ← filter_eraseDups, List.filterMap_filter, entries, List.filter_filterMap]
  refine List.filterMap_congr fun spelling _ => ?_
  rw [entries, ← List.filter_reverse]
  by_cases hname : sameName name spelling = true
  · rw [if_pos hname, lookup_filter hname]
    cases pairs.reverse.lookup spelling <;> simp [hname]
  · rw [if_neg hname]
    cases pairs.reverse.lookup spelling <;> simp [hname]

theorem lastValue?_mergeSpellings (pairs : List (String × α)) (name : String) :
    lastValue? (mergeSpellings pairs) name = (mergeSpellings (entries pairs name)).getLast?.map (·.2) := by
  rw [lastValue?_eq, entries_mergeSpellings]

/-- The entry that counts among those of a name: no entry after the first one with its spelling brings up another
spelling, and it is the last one with that spelling. -/
structure Decides (pairs : List (String × α)) (spelling : String) (a : α) : Prop where
  newest : ∃ before first after, pairs = before ++ (spelling, first) :: after ∧
    (∀ pair ∈ before, pair.1 ≠ spelling) ∧ ∀ pair ∈ after, pair.1 = spelling ∨ pair.1 ∈ before.map (·.1)
  last : ∃ before after, pairs = before ++ (spelling, a) :: after ∧ ∀ pair ∈ after, pair.1 ≠ spelling

theorem eraseDups_of_forall_eq {name : String} {names : List String} (h : ∀ other ∈ names, other = name)
    (hne : names ≠ []) : names.eraseDups = [name] := by
  cases names with
  | nil => exact absurd rfl hne
  | cons first rest =>
    obtain ⟨rfl, hrest⟩ := List.forall_mem_cons.mp h
    have hnone : rest.filter (fun other => !other == first) = [] := by
      rw [List.filter_eq_nil_iff]
      intro other hother
      simp [hrest other hother]
    rw [List.eraseDups_cons, hnone, List.eraseDups_nil]

namespace Decides

variable {pairs : List (String × α)} {spelling : String} {a : α}

/-- Without repetitions the newest spelling is the last one. -/
theorem eraseDups_eq (h : Decides pairs spelling a) :
    ∃ earlier, (pairs.map (·.1)).eraseDups = earlier ++ [spelling] := by
  obtain ⟨before, first, after, rfl, hbefore, hafter⟩ := h.newest
  refine ⟨(before.map (·.1)).eraseDups, ?_⟩
  have hkept : ∀ other ∈ (spelling :: after.map (·.1)).removeAll (before.map (·.1)), other = spelling := by
    intro other hother
    obtain ⟨hmem, hnew⟩ : (other = spelling ∨ other ∈ after.map (·.1)) ∧ other ∉ before.map (·.1) := by
      simpa [List.removeAll] using hother
    rcases hmem with heq | hmem
    · exact heq
    · obtain ⟨pair, hpair, rfl⟩ := List.mem_map.mp hmem
      exact (hafter pair hpair).resolve_right hnew
  have hspelling : spelling ∈ (spelling :: after.map (·.1)).removeAll (before.map (·.1)) := by
    have hnew : spelling ∉ before.map (·.1) := by
      intro hmem
      obtain ⟨pair, hpair, heq⟩ := List.mem_map.mp hmem
      exact hbefore pair hpair heq
    simp [List.removeAll, hnew]
  rw [List.map_append, List.map_cons, List.eraseDups_append,
    eraseDups_of_forall_eq hkept (List.ne_nil_of_mem hspelling)]

theorem lookup_reverse (h : Decides pairs spelling a) : pairs.reverse.lookup spelling = some a := by
  obtain ⟨before, after, rfl, hafter⟩ := h.last
  refine List.lookup_eq_some_iff.mpr ⟨after.reverse, before.reverse, by simp, fun pair hpair => ?_⟩
  simpa using (hafter pair (List.mem_reverse.mp hpair)).symm

theorem getLast?_mergeSpellings (h : Decides pairs spelling a) :
    (mergeSpellings pairs).getLast? = some (spelling, a) := by
  obtain ⟨earlier, hearlier⟩ := h.eraseDups_eq
  rw [mergeSpellings, hearlier, List.filterMap_append]
  simp [h.lookup_reverse]

theorem exists_newest (h : pairs ≠ []) : ∃ spelling before, ∃ first : α, ∃ after,
    pairs = before ++ (spelling, first) :: after ∧
      (∀ pair ∈ before, pair.1 ≠ spelling) ∧ ∀ pair ∈ after, pair.1 = spelling ∨ pair.1 ∈ before.map (·.1) := by
  induction pairs using List.reverseRecOn with
  | nil => exact absurd rfl h
  | append_singleton pairs pair ih =>
    by_cases hold : pair.1 ∈ pairs.map (·.1)
    · obtain ⟨spelling, before, first, after, rfl, hbefore, hafter⟩ := ih (by rintro rfl; simp at hold)
      refine ⟨spelling, before, first, after ++ [pair], by simp, hbefore, ?_⟩
      rw [List.forall_mem_append, List.forall_mem_singleton]
      refine ⟨hafter, ?_⟩
      rw [List.map_append, List.mem_append, List.map_cons, List.mem_cons] at hold
      rcases hold with hold | hold | hold
      · exact .inr hold
      · exact .inl hold
      · obtain ⟨other, hother, heq⟩ := List.mem_map.mp hold
        rw [← heq]
        exact hafter other hother
    · refine ⟨pair.1, pairs, pair.2, [], by simp, fun other hother heq => hold ?_, by simp⟩
      exact List.mem_map.mpr ⟨other, hother, heq⟩

theorem exists_last {pair : String × α} (h : pair ∈ pairs) : ∃ (a : α) (before after : List (String × α)),
    pairs = before ++ (pair.1, a) :: after ∧ ∀ other ∈ after, other.1 ≠ pair.1 := by
  cases hlookup : pairs.reverse.lookup pair.1 with
  | none =>
    have hne := List.lookup_eq_none_iff.mp hlookup pair (List.mem_reverse.mpr h)
    simp at hne
  | some a =>
    obtain ⟨after, before, hpairs, hafter⟩ := List.lookup_eq_some_iff.mp hlookup
    refine ⟨a, before.reverse, after.reverse, ?_, fun other hother => ?_⟩
    · rw [← pairs.reverse_reverse, hpairs]
      simp
    · exact (bne_iff_ne.mp (hafter other (List.mem_reverse.mp hother))).symm

theorem exists_of_ne_nil (h : pairs ≠ []) : ∃ spelling a, Decides pairs spelling a := by
  obtain ⟨spelling, before, first, after, hpairs, hnew⟩ := exists_newest h
  have hmem : (spelling, first) ∈ pairs := by simp [hpairs]
  obtain ⟨a, hlast⟩ := exists_last hmem
  exact ⟨spelling, a, ⟨before, first, after, hpairs, hnew⟩, hlast⟩

/-- Where all entries are spelled alike, the last one counts. -/
theorem iff_getLast? (h : ∀ pair ∈ pairs, ∀ other ∈ pairs, pair.1 = other.1) :
    Decides pairs spelling a ↔ pairs.getLast? = some (spelling, a) := by
  constructor
  · rintro ⟨-, before, after, rfl, hafter⟩
    have hnil : after = [] := by
      refine List.eq_nil_iff_forall_not_mem.mpr fun other hother => hafter other hother ?_
      exact h other (by simp [hother]) (spelling, a) (by simp)
    simp [hnil]
  · intro hlast
    obtain ⟨before, rfl⟩ := List.getLast?_eq_some_iff.mp hlast
    refine ⟨?_, before, [], rfl, by simp⟩
    have hspelling : ∀ pair ∈ before ++ [(spelling, a)], pair.1 = spelling :=
      fun pair hpair => h pair hpair (spelling, a) (by simp)
    cases before with
    | nil => exact ⟨[], a, [], rfl, by simp, by simp⟩
    | cons first rest =>
      obtain ⟨name, value⟩ := first
      obtain rfl : name = spelling := hspelling (name, value) (by simp)
      refine ⟨[], value, rest ++ [(name, a)], rfl, by simp, fun pair hpair => .inl ?_⟩
      exact hspelling pair (List.mem_cons_of_mem _ hpair)

end Decides

end Sources

namespace Layers

open Sources

/-- The value that a setting takes from the first layer with an entry of its name. -/
inductive Taken (l : Layers) (name : String) : Option Value → Prop where
  | keyword {spelling : String} {v : Value} (h : (entries l.fields name).head? = some (spelling, v)) :
      Taken l name (some v)
  | environment {spelling text : String} (hkeyword : entries l.fields name = [])
      (h : (entries l.environment (namePrefix ++ name)).getLast? = some (spelling, text)) :
      Taken l name (some (.text text))
  | line {spelling text : String} (hkeyword : entries l.fields name = [])
      (hvariable : entries l.environment (namePrefix ++ name) = [])
      (h : Decides (entries l.lines (namePrefix ++ name)) spelling text) : Taken l name (some (.text text))
  | nothing (hkeyword : entries l.fields name = []) (hvariable : entries l.environment (namePrefix ++ name) = [])
      (hline : entries l.lines (namePrefix ++ name) = []) : Taken l name none

/-- Layers that differ at most below the one that a setting is taken from. -/
structure AgreeAbove (l l' : Layers) (name : String) : Prop where
  fields : entries l'.fields name = entries l.fields name
  environment : entries l.fields name = [] →
    entries l'.environment (namePrefix ++ name) = entries l.environment (namePrefix ++ name)
  lines : entries l.fields name = [] → entries l.environment (namePrefix ++ name) = [] →
    entries l'.lines (namePrefix ++ name) = entries l.lines (namePrefix ++ name)

theorem taken?_eq (l : Layers) (name : String) : l.taken? name =
    (firstValue? l.fields name).or (((lastValue? l.environment (namePrefix ++ name)).map .text).or
      ((lastValue? (mergeSpellings l.lines) (namePrefix ++ name)).map .text)) := by
  unfold taken?
  cases firstValue? l.fields name with
  | some v => rfl
  | none => cases lastValue? l.environment (namePrefix ++ name) <;> rfl

/-- What lies below the layer that a setting is taken from is not looked at. -/
theorem AgreeAbove.taken?_eq {l l' : Layers} {name : String} (h : AgreeAbove l l' name) :
    l'.taken? name = l.taken? name := by
  simp only [Layers.taken?_eq, firstValue?_eq, lastValue?_eq, entries_mergeSpellings, h.fields]
  cases hkeyword : entries l.fields name with
  | cons entry rest => rfl
  | nil =>
    rw [h.environment hkeyword]
    cases hvariable : entries l.environment (namePrefix ++ name) with
    | cons entry rest => simp [List.getLast?_cons]
    | nil => rw [h.lines hkeyword hvariable]

theorem exists_taken (l : Layers) (name : String) : ∃ v, l.Taken name v := by
  cases hkeyword : entries l.fields name with
  | cons entry rest => exact ⟨_, .keyword (by rw [hkeyword]; rfl)⟩
  | nil =>
    cases hvariable : (entries l.environment (namePrefix ++ name)).getLast? with
    | some entry => exact ⟨_, .environment hkeyword hvariable⟩
    | none =>
      have hnone := List.getLast?_eq_none_iff.mp hvariable
      by_cases hline : entries l.lines (namePrefix ++ name) = []
      · exact ⟨_, .nothing hkeyword hnone hline⟩
      · obtain ⟨spelling, text, h⟩ := Decides.exists_of_ne_nil hline
        exact ⟨_, .line hkeyword hnone h⟩

theorem Taken.eq {l : Layers} {name : String} {v : Option Value} (hv : l.Taken name v) : v = l.taken? name := by
  rw [taken?_eq, firstValue?_eq, lastValue?_eq, lastValue?_mergeSpellings]
  cases hv with
  | keyword hentry => simp [hentry]
  | environment hkeyword hentry => simp [hkeyword, hentry]
  | line hkeyword hvariable h => simp [hkeyword, hvariable, h.getLast?_mergeSpellings]
  | nothing hkeyword hvariable hline => simp [hkeyword, hvariable, hline, mergeSpellings]

theorem taken_iff {l : Layers} {name : String} {v : Option Value} : l.Taken name v ↔ v = l.taken? name := by
  refine ⟨Taken.eq, ?_⟩
  rintro rfl
  obtain ⟨v, hv⟩ := l.exists_taken name
  rwa [← hv.eq]

end Layers

end Calculator

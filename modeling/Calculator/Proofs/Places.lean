import Mathlib.Data.List.Forall2
import Calculator.Infix

/-!
# Places in a list of tokens

A check of all items of a list succeeds if it does so on each of them, and reports the first item on which it does
not. Cutting a list into its first item and pairs puts the items at even places apart from those at odd ones.
-/

namespace Calculator

theorem mapM_eq_ok_iff (f : α → Except ε β) (xs : List α) (ys : List β) :
    xs.mapM f = .ok ys ↔ List.Forall₂ (fun x y => f x = .ok y) xs ys := by
  induction xs generalizing ys with
  | nil => simp [pure, Except.pure, eq_comm]
  | cons x xs ih =>
    simp only [List.mapM_cons, bind_eq_ok_iff, List.forall₂_cons_left_iff, ih, pure, Except.pure, Except.ok.injEq]
    constructor
    · rintro ⟨y, hy, ys', hys, rfl⟩
      exact ⟨y, ys', hy, hys, rfl⟩
    · rintro ⟨y, ys', hy, hys, rfl⟩
      exact ⟨y, hy, ys', hys, rfl⟩

theorem exists_mapM_eq_ok_iff (f : α → Except ε β) (xs : List α) :
    (∃ ys, xs.mapM f = .ok ys) ↔ ∀ (i : Nat), ∀ x ∈ xs[i]?, ∃ y, f x = .ok y := by
  have hmem : (∃ ys, xs.mapM f = .ok ys) ↔ ∀ x ∈ xs, ∃ y, f x = .ok y := by
    induction xs with
    | nil => simp [pure, Except.pure]
    | cons x xs ih =>
      rw [List.mapM_cons, List.forall_mem_cons, ← ih]
      cases f x with
      | error e => simp
      | ok y => cases xs.mapM f <;> simp [pure, Except.pure]
  rw [hmem]
  simp only [List.mem_iff_getElem?, Option.mem_def, forall_exists_index]
  exact forall_comm

/-- A check of a list reports the first item that fails, whatever comes behind it. -/
theorem mapM_eq_error_iff (f : α → Except ε β) (xs : List α) (e : ε) :
    xs.mapM f = .error e ↔
      ∃ (i : Nat) (x : α), xs[i]? = some x ∧ f x = .error e ∧ ∀ j < i, ∀ y ∈ xs[j]?, ∃ b, f y = .ok b := by
  induction xs with
  | nil => simp [pure, Except.pure]
  | cons x xs ih =>
    have hrest : (∃ (i : Nat) (y : α), (x :: xs)[i + 1]? = some y ∧ f y = .error e ∧
        ∀ j < i + 1, ∀ z ∈ (x :: xs)[j]?, ∃ b, f z = .ok b) ↔ (∃ b, f x = .ok b) ∧ xs.mapM f = .error e := by
      simp only [ih, List.getElem?_cons_succ, Nat.forall_lt_succ_left, List.getElem?_cons_zero, Option.mem_def,
        Option.some.injEq, forall_eq']
      constructor
      · rintro ⟨i, y, hy, he, hx, hbefore⟩
        exact ⟨hx, i, y, hy, he, hbefore⟩
      · rintro ⟨hx, i, y, hy, he, hbefore⟩
        exact ⟨i, y, hy, he, hx, hbefore⟩
    rw [← Nat.or_exists_add_one, hrest, List.mapM_cons]
    cases hx : f x with
    | error e' => simp [hx]
    | ok b => cases xs.mapM f <;> simp [hx, pure, Except.pure]

namespace Infix

/-- An item and the items of pairs, in a row. -/
def lineUp (a : α) (pairs : List (α × α)) : List α := a :: pairs.flatMap fun (b, c) => [b, c]

@[simp] theorem lineUp_nil (a : α) : lineUp a [] = [a] := rfl
@[simp] theorem lineUp_cons (a b c : α) (pairs : List (α × α)) :
    lineUp a ((b, c) :: pairs) = a :: b :: lineUp c pairs := rfl

theorem pairUp_lineUp (a : α) (pairs : List (α × α)) : pairUp (lineUp a pairs) = some (a, pairs) := by
  induction pairs generalizing a with
  | nil => rfl
  | cons p pairs ih =>
    obtain ⟨b, c⟩ := p
    simp [pairUp, ih]

theorem lineUp_of_pairUp : ∀ {xs : List α} {a : α} {pairs : List (α × α)},
    pairUp xs = some (a, pairs) → lineUp a pairs = xs
  | [], _, _, h => by simp [pairUp] at h
  | [_], _, _, h => by
    simp only [pairUp, Option.some.injEq, Prod.mk.injEq] at h
    rw [← h.1, ← h.2, lineUp_nil]
  | a :: b :: rest, _, _, h => by
    simp only [pairUp, Option.map_eq_some_iff] at h
    obtain ⟨⟨c, pairs⟩, hrest, heq⟩ := h
    cases heq
    rw [lineUp_cons, lineUp_of_pairUp hrest]

theorem lineUp_inj {a b : α} {ps qs : List (α × α)} : lineUp a ps = lineUp b qs ↔ a = b ∧ ps = qs := by
  constructor
  · intro h
    have hpair := congrArg pairUp h
    simpa [pairUp_lineUp] using hpair
  · rintro ⟨rfl, rfl⟩
    rfl

theorem map_lineUp (f : α → β) (a : α) (pairs : List (α × α)) :
    (lineUp a pairs).map f = lineUp (f a) (pairs.map (Prod.map f f)) := by
  induction pairs generalizing a with
  | nil => rfl
  | cons p pairs ih =>
    obtain ⟨b, c⟩ := p
    simp [ih]

theorem length_lineUp (a : α) (pairs : List (α × α)) : (lineUp a pairs).length = 2 * pairs.length + 1 := by
  induction pairs generalizing a with
  | nil => rfl
  | cons p pairs ih =>
    obtain ⟨b, c⟩ := p
    rw [lineUp_cons, List.length_cons, List.length_cons, List.length_cons, ih]
    omega

/-- The first of the line and the second halves of the pairs stand at even places. -/
theorem getElem?_lineUp_even (a : α) (pairs : List (α × α)) (i : Nat) :
    (lineUp a pairs)[2 * i]? = (a :: pairs.map Prod.snd)[i]? := by
  induction pairs generalizing a i with
  | nil => cases i <;> simp
  | cons p pairs ih =>
    obtain ⟨b, c⟩ := p
    cases i with
    | zero => rfl
    | succ i =>
      have := ih c i
      simpa [Nat.mul_succ] using this

/-- The first halves of the pairs stand at odd places. -/
theorem getElem?_lineUp_odd (a : α) (pairs : List (α × α)) (i : Nat) :
    (lineUp a pairs)[2 * i + 1]? = (pairs.map Prod.fst)[i]? := by
  induction pairs generalizing a i with
  | nil => simp
  | cons p pairs ih =>
    obtain ⟨b, c⟩ := p
    cases i with
    | zero => rfl
    | succ i =>
      have := ih c i
      simpa [Nat.mul_succ] using this

theorem tokens_eq_lineUp (e : Infix) :
    e.tokens = lineUp (.literal e.first) (e.rest.map (Prod.map .operator .literal)) := by
  simp [tokens, alternate, lineUp, List.flatMap_map]

theorem length_tokens (e : Infix) : e.tokens.length = 2 * e.rest.length + 1 := by
  rw [tokens_eq_lineUp, length_lineUp, List.length_map]

theorem getElem?_tokens_even (e : Infix) (i : Nat) :
    e.tokens[2 * i]? = (e.first :: e.rest.map Prod.snd)[i]?.map .literal := by
  rw [tokens_eq_lineUp, getElem?_lineUp_even, ← List.getElem?_map]
  simp [Function.comp_def]

theorem getElem?_tokens_odd (e : Infix) (i : Nat) :
    e.tokens[2 * i + 1]? = (e.rest.map Prod.fst)[i]?.map .operator := by
  rw [tokens_eq_lineUp, getElem?_lineUp_odd, ← List.getElem?_map]
  simp [Function.comp_def]

end Infix

end Calculator

import Calculator.Proofs.Sessions

/-!
# What a run leaves in the log

A run leaves a first record, one for each stage that it completes, and a last one that tells its outcome. The logger
writes those at its threshold or above, which shows errors but not the progress of the stages unless a lower level has
been set.
-/

namespace Calculator

namespace Record

/-- The records that stages leave tell what each of them made. -/
def validated (e : Infix) : Record :=
  ⟨.debug, "🔎✅ Validated " ++ toString e.source.length ++ " tokens: " ++ e.text⟩

def converted (e : Infix) (p : Rpn) : Record := ⟨.debug, "🔀 " ++ e.text ++ " -> " ++ p.text⟩

def evaluated (p : Rpn) (w : Word) : Record := ⟨.debug, "🧮 " ++ p.text ++ " = " ++ w.text⟩

end Record

/-- The last record of a run, told from the outcome. -/
def Outcome.closing : Outcome → Record
  | .value expression result _ =>
    ⟨.info, "🧮✅ Calculation finished: " ++ expression ++ " = " ++ result.text⟩
  | .failure expression error kind =>
    ⟨.error, "🧮❌ Calculation failed (" ++ kind ++ "): " ++ error ++ "\nExpression: " ++ quote expression⟩

/-- How far a run gets: the records of the stages that it completes, in order, and its outcome. -/
inductive Progress (r : Request) : List Record → Outcome → Prop where
  | refused {c : CalcError} (hc : Infix.validate r.tokens = .error c) :
      Progress r [] (.failure r.expression c.message c.kind)
  | converted {e : Infix} {p : Rpn} {c : CalcError} (he : Infix.validate r.tokens = .ok e)
      (hp : e.toRpn = .ok p) (hc : p.evaluate = .error (.error c)) :
      Progress r [.validated e, .converted e p] (.failure r.expression c.message c.kind)
  | evaluated {e : Infix} {p : Rpn} {w : Word} (he : Infix.validate r.tokens = .ok e)
      (hp : e.toRpn = .ok p) (hw : p.evaluate = .ok w.value) :
      Progress r [.validated e, .converted e p, .evaluated p w] (.value r.expression w none)

namespace Logged

theorem validate_of_ok {tokens : List String} {e : Infix} (h : Infix.validate tokens = .ok e) :
    validate tokens = ⟨[.validated e], .ok e⟩ := by
  obtain ⟨rfl, -⟩ := (Infix.validate_eq_ok_iff tokens e).mp h
  rw [validate, h]
  rfl

theorem validate_of_error {tokens : List String} {c : CalcError} (h : Infix.validate tokens = .error c) :
    validate tokens = ⟨[], .error (.error c)⟩ := by
  rw [validate, h]
  rfl

theorem toRpn_of_ok {e : Infix} {p : Rpn} (h : e.toRpn = .ok p) : toRpn e = ⟨[.converted e p], .ok p⟩ := by
  rw [toRpn, h]
  rfl

theorem evaluate_of_ok {p : Rpn} {w : Word} (h : p.evaluate = .ok w.value) :
    evaluate p = ⟨[.evaluated p w], .ok w.value⟩ := by
  rw [evaluate, h]
  rfl

theorem evaluate_of_error {p : Rpn} {f : Failure} (h : p.evaluate = .error f) :
    evaluate p = ⟨[], .error f⟩ := by
  rw [evaluate, h]
  rfl

end Logged

namespace Request

variable {r : Request} {records : List Record}

theorem run_of_ok {w : Word} (h : Logged.calculate r.tokens = ⟨records, .ok w.value⟩) :
    r.run = ⟨r.started :: records ++ [(Outcome.value r.expression w none).closing],
      .ok (.value r.expression w none)⟩ := by
  simp only [run, h, Outcome.build_word, Failure.ofChecked_ok]
  rfl

theorem run_of_error {c : CalcError} (h : Logged.calculate r.tokens = ⟨records, .error (.error c)⟩) :
    r.run = ⟨r.started :: records ++ [(Outcome.failure r.expression c.message c.kind).closing],
      .ok (.failure r.expression c.message c.kind)⟩ := by
  simp only [run, h, Outcome.build_failure, Failure.ofChecked_ok]
  rfl

end Request

namespace Progress

variable {r : Request} {stages : List Record} {o : Outcome}

/-- A run leaves the records of its stages between the first one and the one that tells the outcome. -/
theorem run_eq (h : Progress r stages o) : r.run = ⟨r.started :: stages ++ [o.closing], .ok o⟩ := by
  cases h with
  | refused hc =>
    refine Request.run_of_error ?_
    rw [Logged.calculate, Logged.validate_of_error hc, Logged.bind_of_error]
  | converted he hp hc =>
    refine Request.run_of_error ?_
    simp only [Logged.calculate, Logged.validate_of_ok he, Logged.toRpn_of_ok hp, Logged.evaluate_of_error hc,
      Logged.bind_of_ok, List.append_nil, List.singleton_append]
  | evaluated he hp hw =>
    refine Request.run_of_ok ?_
    simp only [Logged.calculate, Logged.validate_of_ok he, Logged.toRpn_of_ok hp, Logged.evaluate_of_ok hw,
      Logged.bind_of_ok, List.singleton_append]

/-- Every run gets as far as its check, or its evaluation, or through. -/
theorem total (r : Request) : ∃ stages o, Progress r stages o := by
  cases he : Infix.validate r.tokens with
  | error c => exact ⟨_, _, .refused he⟩
  | ok e =>
    -- Conversion never fails, and evaluation only where an operator does.
    have hp := e.toRpn_eq_toRpn_tree
    have hevaluate := Rpn.evaluate_toRpn e.tree
    cases heval : e.tree.eval with
    | error c =>
      rw [heval] at hevaluate
      exact ⟨_, _, .converted he hp hevaluate⟩
    | ok v =>
      rw [heval] at hevaluate
      exact ⟨_, _, .evaluated (w := ⟨v, Tree.inRange_of_eval heval⟩) he hp hevaluate⟩

theorem severity_stages (h : Progress r stages o) : ∀ x ∈ stages, x.severity = .debug := by
  cases h with
  | refused _ => simp
  | converted _ _ _ => simp [Record.validated, Record.converted]
  | evaluated _ _ _ => simp [Record.validated, Record.converted, Record.evaluated]

end Progress

theorem Outcome.severity_closing (o : Outcome) :
    o.closing.severity = if o.succeeded then .info else .error := by
  cases o <;> rfl

/-- Above the level of information nothing of a run counts but the record of a failure. -/
theorem Progress.below_iff {r : Request} {stages : List Record} {o : Outcome} (h : Progress r stages o) {t : Nat}
    (ht : 20 < t) : (∀ x ∈ r.run.records, x.severity.number < t) ↔ o.succeeded = true ∨ 40 < t := by
  have hstarted : r.started.severity.number < t := ht
  have hstages : ∀ x ∈ stages, x.severity.number < t := by
    intro x hx
    rw [h.severity_stages x hx]
    exact Nat.lt_trans (by decide) ht
  have hclosing : o.closing.severity.number < t ↔ o.succeeded = true ∨ 40 < t := by
    rw [o.severity_closing]
    cases o.succeeded <;> simp [Severity.number, ht]
  rw [h.run_eq, List.cons_append, List.forall_mem_cons, List.forall_mem_append, List.forall_mem_singleton, hclosing]
  exact ⟨fun hall => hall.2.2, fun ho => ⟨hstarted, hstages, ho⟩⟩

namespace Logger

/-- A logger that some session leaves. -/
def Reachable (l : Logger) : Prop := ∃ stamp ops, Session.final stamp .initial ops = l

theorem Reachable.coherent {l : Logger} (h : l.Reachable) : l.Coherent := by
  obtain ⟨stamp, ops, rfl⟩ := h
  exact Session.coherent_final coherent_initial stamp ops

/-- The threshold alone decides: without a handler no level is set, and the last resort stands at the same
threshold as an unset level. -/
theorem Coherent.writes_iff {l : Logger} (h : l.Coherent) (r : Record) :
    l.writes r = true ↔ l.threshold ≤ r.severity.number := by
  by_cases hzero : l.handlers = 0
  · simp [writes, threshold, hzero, h.level_eq_zero hzero]
  · simp [writes, hzero]

theorem Coherent.filter_writes {l : Logger} (h : l.Coherent) (records : List Record) :
    records.filter l.writes = records.filter (l.threshold ≤ ·.severity.number) := by
  refine List.filter_congr fun r _ => ?_
  rw [Bool.eq_iff_iff, h.writes_iff, decide_eq_true_iff]

/-- Every record that is written shows, if only as the end of a line. -/
theorem render_ne_empty (stamp : String) (l : Logger) (r : Record) : l.render stamp r ≠ "" := by
  by_cases h : l.handlers = 0
  · simp [render_of_no_handler h]
  · simp [render_of_handler h]

/-- Nothing shows exactly if nothing is written. -/
theorem output_eq_empty_iff (stamp : String) (l : Logger) (records : List Record) :
    l.output stamp records = "" ↔ ∀ r ∈ records, ¬l.writes r = true := by
  have hrender : ∀ r, (l.render stamp r).toList ≠ [] := fun r => by
    simpa using l.render_ne_empty stamp r
  rw [output, ← String.toList_eq_nil_iff, String.toList_join, List.flatMap_eq_nil_iff, List.forall_mem_map]
  simp only [hrender, imp_false, List.mem_filter, not_and]

theorem Coherent.output_eq_empty_iff {l : Logger} (h : l.Coherent) (stamp : String) (records : List Record) :
    l.output stamp records = "" ↔ ∀ r ∈ records, r.severity.number < l.threshold := by
  simp only [Logger.output_eq_empty_iff, h.writes_iff, Nat.not_le]

end Logger

/-- A run leaves the logger as it is, and its step shows what the logger writes of its records. -/
theorem Session.step_run {tokens : List String} {stages : List Record} {o : Outcome}
    (h : Progress ⟨tokens⟩ stages o) (stamp : String) (l : Logger) :
    step stamp l (.run tokens) = ⟨.ok (.outcome o), l, l.output stamp (Request.run ⟨tokens⟩).records⟩ := by
  have hperform : Operation.perform l (.run tokens) = (l, .outcome <$> Request.run ⟨tokens⟩) := rfl
  have hresult : (Request.run ⟨tokens⟩).result = .ok o := by rw [h.run_eq]
  simp only [step, hperform, Logged.result_map, Logged.records_map, hresult]
  rfl

/-- A configuration with an unknown name leaves a handler without a level, which shows errors as before but with
a stamp. -/
example : (Session.run "TIME" .initial [.configure (some "loud"), .run ["5", "/", "0"]]).map Step.stderr =
    ["", "TIME - postfix_calc - ERROR - 🧮❌ Calculation failed (DivisionByZero): " ++
      "Division by zero: 5 / 0\nExpression: '5 / 0'\n"] := by
  decide +kernel

end Calculator

import Calculator.Proofs.Commands

/-!
# The logger across a session

Configurations install the one handler and set levels, and all other operations leave the logger as it was. The logger
after a session is therefore known from the list of operations alone, and no operation answers anything that depends
on the operations before it.
-/

namespace Calculator

namespace Operation

/-- Whether an operation configures the logger. A command does it once its settings are loaded. -/
def configures : Operation → Bool
  | .configure _ => true
  | .command s _ => (Settings.load s).isOk
  | _ => false

/-- The level that an operation sets. A configuration sets none if it does not know the name. -/
def level? : Operation → Option LevelName
  | .configure level => LevelName.read? (level.getD Logger.defaultLevel)
  | .command s _ => (Settings.load s).toOption.map Settings.logLevel
  | _ => none

/-- The handler is installed also where no level is set. -/
theorem logger_perform (l : Logger) (op : Operation) :
    (op.perform l).1 =
      if op.configures then { l.install with level := (op.level?.map LevelName.number).getD l.install.level }
      else l := by
  cases op with
  | configure level =>
    simp only [perform, Logger.configure, configures, level?]
    cases LevelName.read? (level.getD Logger.defaultLevel) <;> rfl
  | command s arguments =>
    cases h : Settings.load s with
    | ok settings =>
      simp only [perform_command, configures, level?, h, Command.execute_of_loaded h]
      rfl
    | error errors =>
      simp only [perform_command, configures, level?, h, Command.execute_of_rejected h]
      rfl
  | _ => rfl

theorem configures_of_level? {op : Operation} {name : LevelName} (h : op.level? = some name) :
    op.configures = true := by
  cases op with
  | configure level => rfl
  | command s arguments =>
    simp only [level?] at h
    simp only [configures]
    cases hload : Settings.load s with
    | ok settings => rfl
    | error errors => simp [hload, Except.toOption] at h
  | _ => simp [level?] at h

end Operation

/-- One handler at most, which keeps the records to itself, and no level without a handler. -/
structure Logger.Coherent (l : Logger) : Prop where
  handlers_le_one : l.handlers ≤ 1
  propagate_iff : l.propagate = true ↔ l.handlers = 0
  level_eq_zero : l.handlers = 0 → l.level = 0

namespace Logger

theorem coherent_initial : initial.Coherent := ⟨Nat.zero_le 1, by decide, fun _ => rfl⟩

theorem Coherent.install_eq {l : Logger} (h : l.Coherent) : l.install = ⟨l.level, 1, false⟩ := by
  by_cases hzero : l.handlers = 0
  · simp [install, hzero]
  · have hone : l.handlers = 1 := by have := h.handlers_le_one; omega
    have hpropagate : l.propagate = false := by simpa [hzero] using h.propagate_iff
    rw [install_of_handlers hzero, ← hone, ← hpropagate]

theorem Coherent.perform {l : Logger} (h : l.Coherent) (op : Operation) : (op.perform l).1.Coherent := by
  rw [op.logger_perform, h.install_eq]
  split
  · exact ⟨Nat.le_refl 1, by simp, by simp⟩
  · exact h

end Logger

/-- What an operation answers, and the records it leaves, are the same from every coherent logger. -/
theorem Operation.perform_snd_of_coherent {l : Logger} (h : l.Coherent) (op : Operation) :
    (op.perform l).2 = (op.perform .initial).2 := by
  cases op with
  | configure level =>
    have hinitial := Logger.coherent_initial.install_eq
    simp only [perform, Logger.configure]
    cases LevelName.read? (level.getD Logger.defaultLevel) with
    | some name => simp only [Logger.setLevel, h.install_eq, hinitial]
    | none => rfl
  | command s arguments =>
    simp only [perform_command]
    cases hload : Settings.load s with
    | ok settings => simp only [Command.execute_of_loaded hload]
    | error errors => simp only [Command.execute_of_rejected hload]
  | _ => rfl

namespace Session

/-- The logger after a session. -/
def final (stamp : String) (l : Logger) (ops : List Operation) : Logger :=
  ((run stamp l ops).getLast?.map Step.logger).getD l

@[simp] theorem final_nil (stamp : String) (l : Logger) : final stamp l [] = l := rfl

@[simp] theorem final_cons (stamp : String) (l : Logger) (op : Operation) (ops : List Operation) :
    final stamp l (op :: ops) = final stamp (op.perform l).1 ops := by
  simp only [final, run, List.getLast?_cons, logger_step]
  cases (run stamp (op.perform l).1 ops).getLast? <;> rfl

theorem final_append (stamp : String) (l : Logger) (xs ys : List Operation) :
    final stamp l (xs ++ ys) = final stamp (final stamp l xs) ys := by
  induction xs generalizing l with
  | nil => rfl
  | cons op xs ih => simp only [List.cons_append, final_cons, ih]

theorem coherent_final {l : Logger} (h : l.Coherent) (stamp : String) (ops : List Operation) :
    (final stamp l ops).Coherent := by
  induction ops generalizing l with
  | nil => exact h
  | cons op ops ih =>
    rw [final_cons]
    exact ih (h.perform op)

end Session

/-- The logger told from the operations of a session alone: whether there is a configuration among them, and
which level is the last that one of them sets. -/
def Logger.configuredBy (ops : List Operation) : Logger where
  level := ((ops.filterMap Operation.level?).getLast?.map LevelName.number).getD 0
  handlers := if ops.any Operation.configures then 1 else 0
  propagate := !ops.any Operation.configures

theorem Session.final_initial (stamp : String) (ops : List Operation) :
    final stamp .initial ops = .configuredBy ops := by
  induction ops using List.reverseRecOn with
  | nil => rfl
  | append_singleton ops op ih =>
    have hinstall := (coherent_final Logger.coherent_initial stamp ops).install_eq
    rw [ih] at hinstall
    rw [final_append, final_cons, final_nil, ih, op.logger_perform, hinstall]
    cases hlevel : op.level? with
    | some name => simp [Logger.configuredBy, Operation.configures_of_level? hlevel, hlevel]
    | none => cases hconfigures : op.configures <;> simp [Logger.configuredBy, hconfigures, hlevel]

/-- The logger after a session is the one told from its operations. It has at most one handler and loses none,
and without a handler it has no level; operations that do not configure it leave it as it was. -/
theorem logger_after_session (stamp : String) (ops : List Operation) :
    Session.final stamp .initial ops = .configuredBy ops ∧
      ((Session.final stamp .initial ops).propagate = true ↔ (Session.final stamp .initial ops).handlers = 0) ∧
      (Session.final stamp .initial ops).handlers ≤ 1 ∧
      (∀ more,
        (Session.final stamp .initial ops).handlers ≤ (Session.final stamp .initial (ops ++ more)).handlers) ∧
      ((Session.final stamp .initial ops).level ≠ 0 → (Session.final stamp .initial ops).handlers = 1) ∧
      ∀ (l : Logger) (op : Operation), op.configures = false → (Session.step stamp l op).logger = l := by
  have hcoherent := Session.coherent_final Logger.coherent_initial stamp ops
  refine ⟨Session.final_initial stamp ops, hcoherent.propagate_iff, hcoherent.handlers_le_one, ?_, ?_, ?_⟩
  · intro more
    rw [Session.final_initial, Session.final_initial]
    cases h : ops.any Operation.configures <;> simp [Logger.configuredBy, h]
  · intro hlevel
    have hle := hcoherent.handlers_le_one
    have hzero := mt hcoherent.level_eq_zero hlevel
    omega
  · intro l op hop
    simp [Operation.logger_perform, hop]

theorem Session.answers_of_coherent {l : Logger} (h : l.Coherent) (stamp stamp' : String)
    (ops : List Operation) :
    (run stamp l ops).map Step.answer = ops.map fun op => (step stamp' .initial op).answer := by
  induction ops generalizing l with
  | nil => rfl
  | cons op ops ih =>
    simp only [run, List.map_cons, answer_step, logger_step, op.perform_snd_of_coherent h]
    rw [ih (h.perform op)]
    rfl

/-- Every step of a session answers what its operation answers alone, whatever came before it. -/
theorem session_answers_alone (stamp stamp' : String) (ops : List Operation) :
    (Session.run stamp .initial ops).map Step.answer =
      ops.map fun op => (Session.step stamp' .initial op).answer :=
  Session.answers_of_coherent Logger.coherent_initial stamp stamp' ops

end Calculator

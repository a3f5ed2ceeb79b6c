import Calculator.Proofs.Acceptance
import Calculator.Proofs.Calculations
import Calculator.Session

/-!
# The command and its output

Settings that are refused end the command before anything else happens. With valid ones it always answers: the status
and the text on standard output come from the calculation and from the exit status for failures, and from nothing
else. The text is one line, unless it names a token that holds a newline.
-/

namespace Calculator

/-- A level that settings hold is always known to the logger. -/
@[simp] theorem Logger.configure_text (l : Logger) (name : LevelName) :
    l.configure name.text = (l.install.setLevel name, .ok ()) := by
  simp [configure]

namespace Command

variable {s : Sources} {settings : Settings}

theorem execute_of_rejected {errors : List FieldError} (h : Settings.load s = .error errors) (l : Logger)
    (arguments : List String) : execute l s arguments = (l, .quiet (.error (.rejected errors))) := by
  simp [execute, h]

theorem execute_of_loaded (h : Settings.load s = .ok settings) (l : Logger) (arguments : List String) :
    execute l s arguments =
      (l.install.setLevel settings.logLevel, Request.run ⟨arguments⟩ >>= report settings.errorExitCode) := by
  simp [execute, h]

theorem result_execute_of_ok (h : Settings.load s = .ok settings) {arguments : List String} {w : Word}
    (hw : calculate arguments = .ok w.value) (l : Logger) :
    (execute l s arguments).2.result = .ok ⟨0, toString w.value ++ "\n"⟩ := by
  rw [execute_of_loaded h, Logged.result_bind, Request.result_run_of_ok hw]
  rfl

theorem result_execute_of_error (h : Settings.load s = .ok settings) {arguments : List String}
    {c : CalcError} (hc : calculate arguments = .error (.error c)) (l : Logger) :
    (execute l s arguments).2.result = .ok ⟨settings.errorExitCode.value, "Error! " ++ c.message ++ "\n"⟩ := by
  rw [execute_of_loaded h, Logged.result_bind, Request.result_run_of_error hc]
  rfl

end Command

theorem Session.step_command_of_rejected {s : Sources} {errors : List FieldError}
    (h : Settings.load s = .error errors) (stamp : String) (l : Logger) (arguments : List String) :
    step stamp l (.command s arguments) = ⟨.error (.rejected errors), l, ""⟩ := by
  simp only [step, Operation.perform_command, Command.execute_of_rejected h]
  rfl

theorem Session.answer_step_command {s : Sources} {arguments : List String} {l : Logger} {r : CommandResult}
    (h : (Command.execute l s arguments).2.result = .ok r) (stamp : String) :
    (step stamp l (.command s arguments)).answer = .ok (.exit r) := by
  rw [answer_step, Operation.perform_command, Logged.result_map, h]
  rfl

/-- Settings that are refused are all that the command reports, and nothing else has happened. With valid ones it
answers with the calculation: with status zero and the value, or with the configured status and the text of the
error. A failure is never taken for success, and neither the level of the records nor the logger has a say. -/
theorem command_reports_calculation (stamp : String) (l : Logger) (s : Sources) (arguments : List String) :
    (∀ errors, Settings.load s = .error errors →
        Session.step stamp l (.command s arguments) = ⟨.error (.rejected errors), l, ""⟩) ∧
      ∀ settings, Settings.load s = .ok settings →
        ∃ r : CommandResult, (Session.step stamp l (.command s arguments)).answer = .ok (.exit r) ∧
          (∀ v, calculate arguments = .ok v → r = ⟨0, toString v ++ "\n"⟩) ∧
          (∀ f, calculate arguments = .error f → ∃ c, f = .error c ∧
            r = ⟨settings.errorExitCode.value, "Error! " ++ c.message ++ "\n"⟩) ∧
          (r.status % 256 = 0 ↔ ∃ v, calculate arguments = .ok v) ∧
          ∀ stamp' l' s' settings', Settings.load s' = .ok settings' →
            settings'.errorExitCode = settings.errorExitCode →
            (Session.step stamp' l' (.command s' arguments)).answer = .ok (.exit r) := by
  refine ⟨fun errors h => Session.step_command_of_rejected h stamp l arguments, ?_⟩
  intro settings h
  rcases calculate_cases arguments with ⟨w, hw⟩ | ⟨c, hc, -⟩
  · refine ⟨_, Session.answer_step_command (Command.result_execute_of_ok h hw l) stamp, ?_, ?_, ?_, ?_⟩
    · intro v hv
      rw [hw] at hv
      cases hv
      rfl
    · intro f hf
      simp [hw] at hf
    · simp [hw]
    · intro stamp' l' s' settings' h' _
      exact Session.answer_step_command (Command.result_execute_of_ok h' hw l') stamp'
  · refine ⟨_, Session.answer_step_command (Command.result_execute_of_error h hc l) stamp, ?_, ?_, ?_, ?_⟩
    · intro v hv
      simp [hc] at hv
    · intro f hf
      rw [hc] at hf
      cases hf
      exact ⟨c, rfl, rfl⟩
    · simpa [hc] using settings.errorExitCode.visible
    · intro stamp' l' s' settings' h' hcode
      rw [← hcode]
      exact Session.answer_step_command (Command.result_execute_of_error h' hc l') stamp'

/-- The status of a failure is taken from the environment, and the command exits with it. -/
theorem command_reports_zero_divisor :
    Settings.load ⟨[], [("postfix_calc_error_exit_code", "259")], none⟩ =
        .ok ⟨.warning, ⟨259, by decide, by decide⟩⟩ ∧
      (Session.step "" .initial
          (.command ⟨[], [("postfix_calc_error_exit_code", "259")], none⟩ ["9", "-", "-7", "%", "+0"])).answer =
        .ok (.exit ⟨259, "Error! Division by zero: -7 % 0\n"⟩) := by
  have hlevel :
      Sources.sameName (Sources.namePrefix ++ Settings.levelField) "postfix_calc_error_exit_code" = false := by
    rw [Sources.sameName_eq_decide]
    rfl
  have hcode :
      Sources.sameName (Sources.namePrefix ++ Settings.exitCodeField) "postfix_calc_error_exit_code" = true := by
    rw [Sources.sameName_eq_decide]
    rfl
  have hload : Settings.load ⟨[], [("postfix_calc_error_exit_code", "259")], none⟩ =
      .ok ⟨.warning, ⟨259, by decide, by decide⟩⟩ :=
    Settings.load_of_exitCode_variable hlevel hcode rfl
  have hcalc : calculate ["9", "-", "-7", "%", "+0"] = .error (.error (.divisionByZero (-7) .mod)) := rfl
  obtain ⟨-, h⟩ := command_reports_calculation "" .initial
    ⟨[], [("postfix_calc_error_exit_code", "259")], none⟩ ["9", "-", "-7", "%", "+0"]
  obtain ⟨r, hr, -, herror, -⟩ := h _ hload
  obtain ⟨c, hc, rfl⟩ := herror _ hcalc
  cases hc
  exact ⟨hload, hr⟩

/-- One newline, which ends the text. -/
def SingleLine (text : String) : Prop := text.toList.count '\n' = 1 ∧ text.toList.getLast? = some '\n'

instance : DecidablePred SingleLine := fun text =>
  inferInstanceAs (Decidable (text.toList.count '\n' = 1 ∧ text.toList.getLast? = some '\n'))

theorem singleLine_append_newline (text : String) : SingleLine (text ++ "\n") ↔ '\n' ∉ text.toList := by
  simp [SingleLine, List.count_eq_zero]

theorem getLast?_append_newline (text : String) : (text ++ "\n").toList.getLast? = some '\n' := by
  simp

@[simp] theorem newline_notMem_repr (v : Int) : '\n' ∉ v.repr.toList := by
  have hdigits : ∀ n : Nat, '\n' ∉ Nat.toDigits 10 n := by
    intro n hn
    have hdigit : '\n'.isDigit = true := areDigits_toDigits n '\n' hn
    exact absurd hdigit (by decide)
  rw [Int.repr_eq_if]
  split
  · simpa using hdigits v.toNat
  · simpa using hdigits (-v).toNat

@[simp] theorem Operator.newline_notMem_symbol (op : Operator) : '\n' ∉ op.symbol.toList := by
  cases op <;> decide

namespace CalcError

/-- The wording adds no newline to what the error carries. -/
theorem newline_mem_message_iff (c : CalcError) :
    '\n' ∈ c.message.toList ↔ ∃ p ∈ c.context, '\n' ∈ p.2.toList := by
  -- Rewriting with the equations of `message` would evaluate its long texts.
  cases c <;> dsimp only [message, context] <;> simp

theorem newline_notMem_context_of_apply {op : Operator} {a b : Int} {c : CalcError}
    (h : op.apply a b = .error c) : ∀ p ∈ c.context, '\n' ∉ p.2.toList := by
  unfold Operator.apply at h
  split at h
  · cases h
    simp [context]
  · split at h
    · simp at h
    · cases h
      simp [context]

end CalcError

/-- A fault of the tokens carries one of them, or nothing. -/
theorem FirstFault.context_subset {source : List String} {c : CalcError} (h : FirstFault source c) :
    ∀ p ∈ c.context, p.2 ∈ source := by
  cases h with
  | count _ => simp [CalcError.context]
  | operand _ htoken hbad _ =>
    have hmem := List.mem_of_getElem? htoken
    rcases checkOperand_eq_error hbad with rfl | rfl
    · simpa [CalcError.context] using hmem
    · simpa [CalcError.context] using hmem
  | operator _ _ htoken _ _ => simpa [CalcError.context] using List.mem_of_getElem? htoken

/-- A newline in what an error carries comes from a token. -/
theorem mem_of_newline_mem_context {tokens : List String} {c : CalcError}
    (h : calculate tokens = .error (.error c)) {p : String × String} (hp : p ∈ c.context)
    (hnewline : '\n' ∈ p.2.toList) : p.2 ∈ tokens := by
  rcases calculate_cases tokens with ⟨w, hw⟩ | ⟨c', hc, hcause⟩
  · simp [hw] at h
  rw [hc] at h
  cases h
  rcases hcause with hvalidate | ⟨e, -, heval⟩
  · exact ((Infix.validate_eq_error_iff tokens c).mp hvalidate).context_subset p hp
  · obtain ⟨a, b, op, happly⟩ := Tree.exists_apply_of_eval heval
    exact absurd hnewline (CalcError.newline_notMem_context_of_apply happly p hp)

/-- With valid settings the output ends with a newline. It has no other one exactly if the calculation has a
value or an error that carries none, and so it has no other one if the arguments have none. -/
theorem command_prints_line_iff (stamp : String) (l : Logger) (s : Sources) (arguments : List String)
    (settings : Settings) (h : Settings.load s = .ok settings) :
    ∃ r : CommandResult, (Session.step stamp l (.command s arguments)).answer = .ok (.exit r) ∧
      r.stdout.toList.getLast? = some '\n' ∧
      (SingleLine r.stdout ↔
        ∀ c, calculate arguments = .error (.error c) → ∀ p ∈ c.context, '\n' ∉ p.2.toList) ∧
      ((∀ a ∈ arguments, '\n' ∉ a.toList) → SingleLine r.stdout) := by
  rcases calculate_cases arguments with ⟨w, hw⟩ | ⟨c, hc, -⟩
  · have hline : SingleLine (toString w.value ++ "\n") :=
      (singleLine_append_newline _).mpr (newline_notMem_repr w.value)
    refine ⟨_, Session.answer_step_command (Command.result_execute_of_ok h hw l) stamp, hline.2, ?_, fun _ => hline⟩
    simpa [hw] using hline
  · have hline : SingleLine ("Error! " ++ c.message ++ "\n") ↔ ∀ p ∈ c.context, '\n' ∉ p.2.toList := by
      rw [singleLine_append_newline, String.toList_append, List.mem_append, c.newline_mem_message_iff]
      simp
    refine ⟨_, Session.answer_step_command (Command.result_execute_of_error h hc l) stamp,
      getLast?_append_newline _, ?_, ?_⟩
    · simp [hc, hline]
    · intro harguments
      refine hline.mpr fun p hp hnewline => ?_
      exact harguments _ (mem_of_newline_mem_context hc hp hnewline) hnewline

/-- An even count of arguments is reported in one line, whatever the arguments hold. -/
theorem command_prints_line_for_count :
    Settings.load ⟨[], [], none⟩ = .ok ⟨.warning, Settings.defaultExitCode⟩ ∧
      ∃ r : CommandResult,
        (Session.step "" .initial (.command ⟨[], [], none⟩ ["1\n2", "+"])).answer = .ok (.exit r) ∧
          SingleLine r.stdout := by
  have hload : Settings.load ⟨[], [], none⟩ = .ok ⟨.warning, Settings.defaultExitCode⟩ := rfl
  have hcalc : calculate ["1\n2", "+"] = .error (.error .invalidInput) := rfl
  obtain ⟨r, hr, -, hline, -⟩ := command_prints_line_iff "" .initial _ ["1\n2", "+"] _ hload
  refine ⟨hload, r, hr, hline.mpr ?_⟩
  intro c hc
  rw [hcalc] at hc
  cases hc
  simp [CalcError.context]

/-- A token at fault is printed as it is, and a newline in it breaks the line. -/
theorem command_prints_two_lines :
    (Session.step "" .initial (.command ⟨[], [], none⟩ ["1\n2"])).answer =
        .ok (.exit ⟨404, "Error! Invalid number: 1\n2\n"⟩) ∧
      ¬SingleLine "Error! Invalid number: 1\n2\n" :=
  ⟨rfl, by decide⟩

end Calculator

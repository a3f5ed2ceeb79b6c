import Calculator.Proofs.SettingSources
import Calculator.Proofs.SettingsFile
import Calculator.Proofs.FieldChecks
import Calculator.Proofs.IntegerRule

/-!
# Settings loaded from their sources

Each of the two settings is taken from the first source that gives it and is then checked alone: the level by its name
in upper case, the exit status by the rule for integers, by its sign and by what is left of it in eight bits. Bad
settings are listed, the level first. The values that are loaded give themselves again as keyword fields, over
whatever the other sources hold.
-/

namespace Calculator

namespace LevelName

theorem ofText?_eq_some_iff {s : String} {level : LevelName} : ofText? s = some level ↔ s = level.text := by
  constructor
  · intro h
    have htext := List.find?_some h
    exact (of_decide_eq_true htext).symm
  · rintro rfl
    exact ofText?_text level

theorem read?_eq_some_iff {s : String} {level : LevelName} : read? s = some level ↔ upperCase s = level.text :=
  ofText?_eq_some_iff

end LevelName

namespace Settings

def fieldNames : List String := [levelField, exitCodeField]

/-- The level that a taken value gives, or the default one if none is taken. -/
inductive LevelIs : Option Value → LevelName → Prop where
  | unset : LevelIs none .warning
  | given {s : String} {level : LevelName} (h : upperCase s = level.text) : LevelIs (some (.text s)) level

inductive LevelFault : Option Value → Problem → Prop where
  | notText {v : Value} (h : ∀ s, ¬v.IsText s) : LevelFault (some v) .notText
  | unknown {s : String} (h : ∀ level : LevelName, upperCase s ≠ level.text) :
      LevelFault (some (.text s)) (.rule ("Unknown log level: " ++ s))

/-- The exit status that a taken value gives, or the default one if none is taken. -/
inductive CodeIs : Option Value → Int → Prop where
  | unset : CodeIs none 404
  | given {v : Value} {n : Int} (h : v.asInt = .ok n) (hpositive : 1 ≤ n) (hvisible : ¬256 ∣ n) :
      CodeIs (some v) n

inductive CodeFault : Option Value → Problem → Prop where
  | unread {v : Value} {p : Problem} (h : v.asInt = .error p) : CodeFault (some v) p
  | below {v : Value} {n : Int} (h : v.asInt = .ok n) (hn : n < 1) : CodeFault (some v) .belowMinimum
  | hidden {v : Value} {n : Int} (h : v.asInt = .ok n) (hpositive : 1 ≤ n) (hhidden : 256 ∣ n) :
      CodeFault (some v) (.rule ("Exit code " ++ toString n ++ " would be reported as 0"))

/-- What is wrong with a setting, told from the taken values. -/
def Fault (level code : Option Value) : String → Problem → Prop
  | "log_level" => LevelFault level
  | "error_exit_code" => CodeFault code
  | _ => fun _ => False

/-- The values of settings as keyword fields. -/
def keywords (settings : Settings) : Fields :=
  [(levelField, .text settings.logLevel.text), (exitCodeField, .integer settings.errorExitCode.value)]

theorem levelIs_none_iff (level : LevelName) : LevelIs none level ↔ level = defaultLevel := by
  constructor
  · rintro ⟨⟩
    rfl
  · rintro rfl
    exact .unset

theorem codeIs_none_iff (code : ExitCode) : CodeIs none code.value ↔ code = defaultExitCode := by
  obtain ⟨n, hpositive, hvisible⟩ := code
  constructor
  · rintro ⟨⟩
    rfl
  · rintro ⟨⟩
    exact .unset

theorem not_levelFault_none (p : Problem) : ¬LevelFault none p := by
  rintro ⟨⟩

theorem not_codeFault_none (p : Problem) : ¬CodeFault none p := by
  rintro ⟨⟩

theorem CodeIs.exists_exitCode {v : Option Value} {n : Int} (h : CodeIs v n) : ∃ code : ExitCode, code.value = n := by
  cases h with
  | unset => exact ⟨defaultExitCode, rfl⟩
  | given _ hpositive hvisible => exact ⟨⟨n, hpositive, fun hmod => hvisible (Int.dvd_of_emod_eq_zero hmod)⟩, rfl⟩

/-- A status below one has no other fault, also if eight bits of it are zero. -/
theorem codeFault_iff_of_below {v : Value} {n : Int} (h : v.asInt = .ok n) (hn : n < 1) (p : Problem) :
    CodeFault (some v) p ↔ p = .belowMinimum := by
  constructor
  · rintro (h' | ⟨h', -⟩ | ⟨h', hpositive, -⟩)
    · simp [h] at h'
    · rfl
    · rw [h, Except.ok.injEq] at h'
      omega
  · rintro rfl
    exact .below h hn

theorem readLevel_eq_ok_iff {v : Value} {level : LevelName} : readLevel v = .ok level ↔ LevelIs (some v) level := by
  constructor
  · intro h
    cases v with
    | text s =>
      cases hread : LevelName.read? s with
      | none => simp [readLevel, Value.asText, hread] at h
      | some level' =>
        simp only [readLevel, Value.asText, hread, Except.ok.injEq] at h
        subst h
        exact .given (LevelName.read?_eq_some_iff.mp hread)
    | _ => cases h
  · intro h
    cases h with
    | given h => simp only [readLevel, Value.asText, LevelName.read?_eq_some_iff.mpr h]

theorem readLevel_eq_error_iff {v : Value} {p : Problem} : readLevel v = .error p ↔ LevelFault (some v) p := by
  constructor
  · intro h
    cases v with
    | text s =>
      cases hread : LevelName.read? s with
      | some level => simp [readLevel, Value.asText, hread] at h
      | none =>
        simp only [readLevel, Value.asText, hread, Except.error.injEq] at h
        subst h
        exact .unknown fun level hlevel => by simp [LevelName.read?_eq_some_iff.mpr hlevel] at hread
    | _ =>
      cases h
      exact .notText (by simp [Value.IsText])
  · rintro (h | h)
    · simp only [readLevel, Value.asText_eq_error_iff.mpr (.notText h)]
    · next s =>
      have hread : LevelName.read? s = none := by
        rw [Option.eq_none_iff_forall_ne_some]
        exact fun level hlevel => h level (LevelName.read?_eq_some_iff.mp hlevel)
      simp only [readLevel, Value.asText, hread]

theorem readExitCode_eq_ok_iff {v : Value} {code : ExitCode} :
    readExitCode v = .ok code ↔ CodeIs (some v) code.value := by
  constructor
  · intro h
    cases hv : v.asInt with
    | error p => simp [readExitCode, hv] at h
    | ok n =>
      simp only [readExitCode, hv] at h
      split at h
      · next hpositive =>
        split at h
        · next hvisible =>
          cases h
          exact .given hv hpositive fun hdvd => hvisible (Int.emod_eq_zero_of_dvd hdvd)
        · cases h
      · cases h
  · intro h
    obtain ⟨n, hpositive, hvisible⟩ := code
    cases h with
    | given h _ _ => simp [readExitCode, h, hpositive, hvisible]

theorem readExitCode_eq_error_iff {v : Value} {p : Problem} :
    readExitCode v = .error p ↔ CodeFault (some v) p := by
  constructor
  · intro h
    cases hv : v.asInt with
    | error q =>
      simp only [readExitCode, hv, Except.error.injEq] at h
      subst h
      exact .unread hv
    | ok n =>
      simp only [readExitCode, hv] at h
      split at h
      · next hpositive =>
        split at h
        · cases h
        · next hhidden =>
          cases h
          exact .hidden hv hpositive (Int.dvd_of_emod_eq_zero (not_not.mp hhidden))
      · next hpositive =>
        cases h
        exact .below hv (Int.not_le.mp hpositive)
  · rintro (h | ⟨h, hn⟩ | ⟨h, hpositive, hhidden⟩)
    · simp only [readExitCode, h]
    · simp only [readExitCode, h, dif_neg (Int.not_le.mpr hn)]
    · simp only [readExitCode, h, dif_pos hpositive, dif_neg (not_not.mpr (Int.emod_eq_zero_of_dvd hhidden))]

section

variable {l : Layers}

theorem setting_eq_ok_iff {α : Type} {name : String} {fallback a : α} {read : Value → Except Problem α}
    (good : Option Value → α → Prop) (hunset : ∀ a, good none a ↔ a = fallback)
    (hread : ∀ v a, read v = .ok a ↔ good (some v) a) :
    setting l name fallback read = .ok a ↔ good (l.taken? name) a := by
  cases h : l.taken? name with
  | none => rw [setting_of_none h, Except.ok.injEq, hunset, eq_comm]
  | some v => rw [setting_of_some h, Checked.atField_eq_ok_iff, hread]

theorem reports_setting {α : Type} {name : String} {fallback : α} {read : Value → Except Problem α}
    {fault : String → Problem → Prop} (bad : Option Value → Problem → Prop) (hunset : ∀ p, ¬bad none p)
    (hread : ∀ v p, read v = .error p ↔ bad (some v) p) (hfault : ∀ p, fault name p ↔ bad (l.taken? name) p) :
    Checked.Reports fault [name] (setting l name fallback read) := by
  cases h : l.taken? name with
  | none =>
    rw [setting_of_none h]
    refine Checked.reports_ok fallback fun p => ?_
    rw [hfault, h]
    exact hunset p
  | some v =>
    rw [setting_of_some h]
    refine Checked.reports_atField fun p => ?_
    rw [hfault, h]
    exact hread v p

theorem ofLayers_eq_ok_iff_setting {settings : Settings} : ofLayers l = .ok settings ↔
    setting l levelField defaultLevel readLevel = .ok settings.logLevel ∧
      setting l exitCodeField defaultExitCode readExitCode = .ok settings.errorExitCode := by
  have hboth := Checked.both_eq_ok_iff (setting l levelField defaultLevel readLevel)
    (setting l exitCodeField defaultExitCode readExitCode) (settings.logLevel, settings.errorExitCode)
  rw [← hboth, ofLayers]
  cases Checked.both (setting l levelField defaultLevel readLevel)
      (setting l exitCodeField defaultExitCode readExitCode) with
  | error errors => simp [Except.map]
  | ok pair =>
    obtain ⟨level, code⟩ := pair
    obtain ⟨level', code'⟩ := settings
    simp [Except.map]

theorem ofLayers_congr {l' : Layers} (h : ∀ name ∈ fieldNames, l'.taken? name = l.taken? name) :
    ofLayers l' = ofLayers l := by
  simp only [fieldNames, List.forall_mem_cons] at h
  simp only [ofLayers, setting, h]

theorem ofLayers_eq_ok_iff {settings : Settings} : ofLayers l = .ok settings ↔
    LevelIs (l.taken? levelField) settings.logLevel ∧ CodeIs (l.taken? exitCodeField) settings.errorExitCode.value := by
  have hlevel : setting l levelField defaultLevel readLevel = .ok settings.logLevel ↔
      LevelIs (l.taken? levelField) settings.logLevel :=
    setting_eq_ok_iff LevelIs levelIs_none_iff fun _ _ => readLevel_eq_ok_iff
  have hcode : setting l exitCodeField defaultExitCode readExitCode = .ok settings.errorExitCode ↔
      CodeIs (l.taken? exitCodeField) settings.errorExitCode.value :=
    setting_eq_ok_iff (fun v (code : ExitCode) => CodeIs v code.value) codeIs_none_iff fun _ _ => readExitCode_eq_ok_iff
  rw [ofLayers_eq_ok_iff_setting, hlevel, hcode]

theorem reports_ofLayers :
    Checked.Reports (Fault (l.taken? levelField) (l.taken? exitCodeField)) fieldNames (ofLayers l) := by
  have hlevel : Checked.Reports (Fault (l.taken? levelField) (l.taken? exitCodeField)) [levelField]
      (setting l levelField defaultLevel readLevel) :=
    reports_setting LevelFault not_levelFault_none (fun _ _ => readLevel_eq_error_iff) fun _ => Iff.rfl
  have hcode : Checked.Reports (Fault (l.taken? levelField) (l.taken? exitCodeField)) [exitCodeField]
      (setting l exitCodeField defaultExitCode readExitCode) :=
    reports_setting CodeFault not_codeFault_none (fun _ _ => readExitCode_eq_error_iff) fun _ => Iff.rfl
  exact (hlevel.both hcode).map _

end

@[simp] theorem sameName_fields : Sources.sameName exitCodeField levelField = false := by
  rw [Sources.sameName_eq_decide]
  rfl

/-- Values that have been loaded are loaded again from keyword fields. -/
theorem ofLayers_keywords (settings : Settings) (environment lines : List (String × String)) :
    ofLayers ⟨settings.keywords, environment, lines⟩ = .ok settings := by
  have hlevel : Layers.taken? ⟨settings.keywords, environment, lines⟩ levelField =
      some (.text settings.logLevel.text) := by
    simp [Layers.taken?_eq, Sources.firstValue?, keywords, Sources.sameName]
  have hcode : Layers.taken? ⟨settings.keywords, environment, lines⟩ exitCodeField =
      some (.integer settings.errorExitCode.value) := by
    rw [Layers.taken?_eq, Sources.firstValue?, keywords, List.find?_cons_of_neg (by simp),
      List.find?_cons_of_pos (by simp [Sources.sameName])]
    rfl
  rw [ofLayers_eq_ok_iff, hlevel, hcode]
  refine ⟨.given (LevelName.read?_eq_some_iff.mp (LevelName.read?_text _)), ?_⟩
  refine .given rfl settings.errorExitCode.positive fun hdvd => ?_
  exact settings.errorExitCode.visible (Int.emod_eq_zero_of_dvd hdvd)

theorem exists_ofLayers_eq_ok_iff {l : Layers} : (∃ settings, ofLayers l = .ok settings) ↔
    (∃ name, LevelIs (l.taken? levelField) name) ∧ ∃ n, CodeIs (l.taken? exitCodeField) n := by
  constructor
  · rintro ⟨settings, h⟩
    obtain ⟨hname, hn⟩ := ofLayers_eq_ok_iff.mp h
    exact ⟨⟨_, hname⟩, _, hn⟩
  · rintro ⟨⟨name, hname⟩, n, hn⟩
    obtain ⟨code, rfl⟩ := hn.exists_exitCode
    exact ⟨⟨name, code⟩, ofLayers_eq_ok_iff.mpr ⟨hname, hn⟩⟩

theorem load_of_writes {l : Layers} {text : String} (h : Sources.Writes l.lines text) :
    load ⟨l.fields, l.environment, some text⟩ = ofLayers l := by
  rw [load, Sources.layers, Option.map_some, Option.getD_some, h.readLines_eq]

end Settings

/-- Each setting is taken from the first layer that gives it, and what lies below makes no difference. Settings are
accepted exactly if the taken level is the name of a level in upper case and the taken exit status reads as a positive
integer that is no multiple of 256, and then they hold these two. Else the bad settings are listed, the level first,
and an exit status below one is refused for its size and for nothing else. As keyword fields the values are accepted
again, over any other layers. Of lines with one spelling of a name the last one counts. A settings file amounts to
lines, whatever its text is, and to those that it was written from if they are plain. The exit status is read by the
rule for integers. -/
theorem settings_take_first_source (l : Layers) :
    (∃ level code : Option Value,
      (∀ v, l.Taken Settings.levelField v ↔ v = level) ∧ (∀ v, l.Taken Settings.exitCodeField v ↔ v = code) ∧
      ((∃ settings, Settings.ofLayers l = .ok settings) ↔
        (∃ name, Settings.LevelIs level name) ∧ ∃ n, Settings.CodeIs code n) ∧
      (∀ settings, Settings.ofLayers l = .ok settings ↔
        Settings.LevelIs level settings.logLevel ∧ Settings.CodeIs code settings.errorExitCode.value) ∧
      ∀ errors, Settings.ofLayers l = .error errors →
        errors ≠ [] ∧ ListsFaults (Settings.Fault level code) Settings.fieldNames errors ∧
        ∀ v n, code = some v → v.asInt = .ok n → n < 1 →
          ∀ p, ⟨[.field Settings.exitCodeField], p⟩ ∈ errors ↔ p = .belowMinimum) ∧
    (∀ l', (∀ name ∈ Settings.fieldNames, l.AgreeAbove l' name) → Settings.ofLayers l' = Settings.ofLayers l) ∧
    (∀ settings, Settings.ofLayers l = .ok settings →
      ∀ environment lines, Settings.ofLayers ⟨settings.keywords, environment, lines⟩ = .ok settings) ∧
    (∀ name, (∀ line ∈ Sources.entries l.lines name, ∀ other ∈ Sources.entries l.lines name, line.1 = other.1) →
      ∀ spelling text, Sources.Decides (Sources.entries l.lines name) spelling text ↔
        (Sources.entries l.lines name).getLast? = some (spelling, text)) ∧
    (∀ file, ∃ lines, ∀ fields environment,
      Settings.load ⟨fields, environment, file⟩ = Settings.ofLayers ⟨fields, environment, lines⟩) ∧
    (∀ text, Sources.Writes l.lines text →
      Settings.load ⟨l.fields, l.environment, some text⟩ = Settings.ofLayers l) ∧
    (l.lines = [] → Settings.load ⟨l.fields, l.environment, none⟩ = Settings.ofLayers l) ∧
    ∀ v : Value, v.Regular → ∀ r, IntegerRule v r ↔ v.asInt = r := by
  refine ⟨⟨l.taken? Settings.levelField, l.taken? Settings.exitCodeField, fun v => Layers.taken_iff,
    fun v => Layers.taken_iff, Settings.exists_ofLayers_eq_ok_iff, fun settings => Settings.ofLayers_eq_ok_iff, ?_⟩,
    ?_, ?_, ?_, ?_, fun text h => Settings.load_of_writes h, ?_, fun v hv r => hv.integerRule_iff⟩
  · intro errors h
    obtain ⟨hne, hlists⟩ := Settings.reports_ofLayers.of_error h
    refine ⟨hne, hlists, fun v n hv hn hbelow p => ?_⟩
    rw [hlists.mem_iff, ← Settings.codeFault_iff_of_below hn hbelow, ← hv]
    exact and_iff_right (by simp [Settings.fieldNames])
  · exact fun l' h => Settings.ofLayers_congr fun name hname => (h name hname).taken?_eq
  · exact fun settings _ environment lines => Settings.ofLayers_keywords settings environment lines
  · exact fun name hspelling spelling text => Sources.Decides.iff_getLast? hspelling
  · exact fun file => ⟨(file.map Sources.readLines).getD [], fun fields environment => rfl⟩
  · intro hlines
    rw [Settings.load, Sources.layers, Option.map_none, Option.getD_none, ← hlines]

/-- The lines of a settings file that repeats the level and hides a status in eight bits. -/
def Settings.repeatedLevel : List (String × String) :=
  [("POSTFIX_CALC_LOG_LEVEL", "loud"), ("POSTFIX_CALC_ERROR_EXIT_CODE", "256"), ("POSTFIX_CALC_LOG_LEVEL", "warn")]

/-- The level comes from the last line of its name and the status from a keyword field, so the bad values in the file
stay unread. -/
theorem settings_of_two_sources :
    Settings.load ⟨[("error_exit_code", .text "007")], [], some ("\ufeffPOSTFIX_CALC_LOG_LEVEL=loud\r\n" ++
        "POSTFIX_CALC_ERROR_EXIT_CODE = 256\n\nPOSTFIX_CALC_LOG_LEVEL= warn")⟩ =
      .ok ⟨.warn, ⟨7, by decide, by decide⟩⟩ := by
  obtain ⟨⟨level, code, hlevel, hcode, -, haccepts, -⟩, -, -, hspelling, -, hfile, -, -⟩ :=
    settings_take_first_source ⟨[("error_exit_code", .text "007")], [], Settings.repeatedLevel⟩
  have hwrites : Sources.Writes Settings.repeatedLevel ("\ufeffPOSTFIX_CALC_LOG_LEVEL=loud\r\n" ++
      "POSTFIX_CALC_ERROR_EXIT_CODE = 256\n\nPOSTFIX_CALC_LOG_LEVEL= warn") := by
    have hnone : Sources.IsGap [] := List.forall_mem_nil _
    have hspace : Sources.IsGap [' '] := List.forall_mem_singleton.mpr (by decide)
    have hloud : Sources.WritesLine ("POSTFIX_CALC_LOG_LEVEL", "loud") _ :=
      .mk (by decide +kernel) hnone hnone hnone hnone
    have hcode : Sources.WritesLine ("POSTFIX_CALC_ERROR_EXIT_CODE", "256") _ :=
      .mk (by decide +kernel) hnone hspace hspace hnone
    have hwarn : Sources.WritesLine ("POSTFIX_CALC_LOG_LEVEL", "warn") _ :=
      .mk (by decide +kernel) hnone hnone hspace hnone
    exact .marked (by decide +kernel) (.next hloud .both (.next hcode .feed (.empty hnone .feed (.last hwarn))))
  have hlines : Sources.entries Settings.repeatedLevel (Sources.namePrefix ++ Settings.levelField) =
      [("POSTFIX_CALC_LOG_LEVEL", "loud"), ("POSTFIX_CALC_LOG_LEVEL", "warn")] := by
    simp only [Sources.entries, Sources.sameName_eq_decide]
    rfl
  have hline : Layers.Taken ⟨[("error_exit_code", .text "007")], [], Settings.repeatedLevel⟩ Settings.levelField
      (some (.text "warn")) := by
    have hkeyword : Sources.entries [("error_exit_code", Value.text "007")] Settings.levelField = [] := by
      simp only [Sources.entries, Sources.sameName_eq_decide]
      rfl
    refine .line hkeyword rfl ((hspelling _ ?_ "POSTFIX_CALC_LOG_LEVEL" "warn").mpr ?_)
    · simp [hlines]
    · rw [hlines]
      rfl
  have hfield : Layers.Taken ⟨[("error_exit_code", .text "007")], [], Settings.repeatedLevel⟩ Settings.exitCodeField
      (some (.text "007")) := by
    have hentry : (Sources.entries [("error_exit_code", Value.text "007")] Settings.exitCodeField).head? =
        some ("error_exit_code", Value.text "007") := by
      simp only [Sources.entries, Sources.sameName_eq_decide]
      rfl
    exact .keyword hentry
  rw [hfile _ hwrites, haccepts, ← (hlevel _).mp hline, ← (hcode _).mp hfield]
  exact ⟨.given (by decide), .given (by decide +kernel) (by decide) (by decide)⟩

/-- Lines of one name in two spellings, of which the first one has the last line. -/
def Settings.respelledLevel : List (String × String) :=
  [("postfix_calc_log_level", "INFO"), ("POSTFIX_CALC_LOG_LEVEL", "DEBUG"), ("postfix_calc_log_level", "ERROR")]

/-- The spelling that comes up last counts, though the other one has the last line. -/
theorem settings_of_respelled_level :
    Sources.readLines "postfix_calc_log_level=INFO\nPOSTFIX_CALC_LOG_LEVEL=DEBUG\npostfix_calc_log_level=ERROR" =
        Settings.respelledLevel ∧
      (Sources.entries Settings.respelledLevel (Sources.namePrefix ++ Settings.levelField)).getLast? =
        some ("postfix_calc_log_level", "ERROR") ∧
      Settings.load ⟨[], [], some
          "postfix_calc_log_level=INFO\nPOSTFIX_CALC_LOG_LEVEL=DEBUG\npostfix_calc_log_level=ERROR"⟩ =
        .ok ⟨.debug, Settings.defaultExitCode⟩ := by
  have hread : Sources.readLines
      "postfix_calc_log_level=INFO\nPOSTFIX_CALC_LOG_LEVEL=DEBUG\npostfix_calc_log_level=ERROR" =
        Settings.respelledLevel := by
    decide +kernel
  have hlevel : Sources.entries Settings.respelledLevel (Sources.namePrefix ++ Settings.levelField) =
      Settings.respelledLevel := by
    simp only [Sources.entries, Sources.sameName_eq_decide]
    rfl
  have hcode : Sources.entries Settings.respelledLevel (Sources.namePrefix ++ Settings.exitCodeField) = [] := by
    simp only [Sources.entries, Sources.sameName_eq_decide]
    rfl
  have hdecides : Sources.Decides Settings.respelledLevel "POSTFIX_CALC_LOG_LEVEL" "DEBUG" := by
    refine ⟨⟨[("postfix_calc_log_level", "INFO")], "DEBUG", [("postfix_calc_log_level", "ERROR")], rfl, ?_, ?_⟩,
      [("postfix_calc_log_level", "INFO")], [("postfix_calc_log_level", "ERROR")], rfl, ?_⟩ <;> decide
  have hdebug : Layers.Taken ⟨[], [], Settings.respelledLevel⟩ Settings.levelField (some (.text "DEBUG")) :=
    .line rfl rfl (hlevel.symm ▸ hdecides)
  have hdefault : Layers.Taken ⟨[], [], Settings.respelledLevel⟩ Settings.exitCodeField none :=
    .nothing rfl rfl hcode
  refine ⟨hread, by rw [hlevel]; rfl, ?_⟩
  rw [Settings.load, Sources.layers, Option.map_some, Option.getD_some, hread, Settings.ofLayers_eq_ok_iff,
    ← hdebug.eq, ← hdefault.eq]
  exact ⟨.given (by decide), .unset⟩

end Calculator

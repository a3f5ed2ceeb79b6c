import Calculator.Proofs.Commands
import Calculator.Proofs.LoadedSettings
import Calculator.Proofs.UpperCasing

/-!
# The two checks of a level

Settings and the logger both look up the name of a level in upper case, and the logger does so again with the name
that settings hold. They accept the same spellings and take them for the same level, so a level that settings accept
is never unknown to the logger afterwards.
-/

namespace Calculator

namespace Logger

variable (l : Logger) {name name' : String}

theorem configure_of_read? {level : LevelName} (h : LevelName.read? name = some level) :
    l.configure name = (l.install.setLevel level, .ok ()) := by
  simp only [configure, h]

theorem configure_eq_ok_iff : (l.configure name).2 = .ok () ↔ ∃ level, LevelName.read? name = some level := by
  unfold configure
  cases LevelName.read? name <;> simp

theorem configure_congr (h : upperCase name = upperCase name') : l.configure name = l.configure name' := by
  simp only [configure, LevelName.read?, h]

theorem configure_upperCase (name : String) : l.configure (upperCase name) = l.configure name :=
  l.configure_congr (upperCase_upperCase name)

end Logger

/-- A level as keyword field, and nothing else. -/
def Sources.ofLevel (name : String) : Sources := ⟨[(Settings.levelField, .text name)], [], none⟩

theorem Sources.taken?_ofLevel (name : String) : (ofLevel name).taken? Settings.levelField = some (.text name) := by
  simp [taken?, Layers.taken?_eq, layers, firstValue?, ofLevel, sameName]

theorem Sources.exitCode_ofLevel (name : String) : (ofLevel name).taken? Settings.exitCodeField = none := by
  change Layers.taken? ⟨[(Settings.levelField, .text name)], [], []⟩ Settings.exitCodeField = none
  rw [Layers.taken?_eq, firstValue?, List.find?_cons_of_neg (by simp)]
  rfl

/-- Where an error is and of what kind, without its wording. -/
def FieldError.place (e : FieldError) : List PathStep × String := (e.path, e.problem.code)

namespace Settings

variable {s s' : Sources} {name name' : String}

theorem setting_level_eq (h : s.taken? levelField = some (.text name)) :
    setting s levelField defaultLevel readLevel =
      match LevelName.read? name with
      | some level => .ok level
      | none => .error [⟨[.field levelField], .rule ("Unknown log level: " ++ name)⟩] := by
  rw [setting_of_some h]
  simp only [readLevel, Value.asText]
  cases LevelName.read? name <;> rfl

/-- Both settings are checked, each for itself. -/
theorem exists_load_iff : (∃ settings, load s = .ok settings) ↔
    (∃ level, setting s levelField defaultLevel readLevel = .ok level) ∧
      ∃ code, setting s exitCodeField defaultExitCode readExitCode = .ok code := by
  constructor
  · rintro ⟨settings, h⟩
    obtain ⟨hlevel, hcode⟩ := ofLayers_eq_ok_iff_setting.mp h
    exact ⟨⟨_, hlevel⟩, _, hcode⟩
  · rintro ⟨⟨level, hlevel⟩, code, hcode⟩
    exact ⟨⟨level, code⟩, ofLayers_eq_ok_iff_setting.mpr ⟨hlevel, hcode⟩⟩

/-- The taken level is accepted exactly if a configuration with it is. -/
theorem exists_load_iff_configure (h : s.taken? levelField = some (.text name)) (l : Logger) :
    (∃ settings, load s = .ok settings) ↔
      (l.configure name).2 = .ok () ∧ ∃ code, setting s exitCodeField defaultExitCode readExitCode = .ok code := by
  have hlevel : (∃ level, setting s levelField defaultLevel readLevel = .ok level) ↔
      (l.configure name).2 = .ok () := by
    rw [setting_level_eq h, l.configure_eq_ok_iff]
    cases LevelName.read? name <;> simp
  rw [exists_load_iff, hlevel]

theorem read?_of_load {settings : Settings} (h : s.taken? levelField = some (.text name))
    (hload : load s = .ok settings) : LevelName.read? name = some settings.logLevel := by
  obtain ⟨hlevel, -⟩ := ofLayers_eq_ok_iff_setting.mp hload
  rw [setting_level_eq h] at hlevel
  split at hlevel
  · next level hread =>
    cases hlevel
    exact hread
  · cases hlevel

theorem load_alike (h : s.taken? levelField = some (.text name)) (h' : s'.taken? levelField = some (.text name'))
    (hcode : s'.taken? exitCodeField = s.taken? exitCodeField) (hname : upperCase name = upperCase name') :
    (load s').mapError (·.map FieldError.place) = (load s).mapError (·.map FieldError.place) := by
  have hread : LevelName.read? name' = LevelName.read? name := by rw [LevelName.read?, LevelName.read?, hname]
  have hexit : setting s' exitCodeField defaultExitCode readExitCode =
      setting s exitCodeField defaultExitCode readExitCode := by
    rw [Sources.taken?, Sources.taken?] at hcode
    simp only [setting, hcode]
  rw [load, load, ofLayers, ofLayers, setting_level_eq h, setting_level_eq h', hread, hexit]
  -- Only the wording of an unknown level tells the two spellings apart.
  cases LevelName.read? name with
  | some level => rfl
  | none => cases setting s exitCodeField defaultExitCode readExitCode <;> rfl

end Settings

theorem Command.exists_result_execute {s : Sources} {settings : Settings} (h : Settings.load s = .ok settings)
    (l : Logger) (arguments : List String) : ∃ r, (execute l s arguments).2.result = .ok r := by
  rcases calculate_cases arguments with ⟨w, hw⟩ | ⟨c, hc, -⟩
  · exact ⟨_, result_execute_of_ok h hw l⟩
  · exact ⟨_, result_execute_of_error h hc l⟩

/-- Settings accept a level exactly if the logger can be configured with it, and the name that they hold, which is the
given one in upper case, configures the logger as the given one does. The command therefore never meets an unknown
level once its settings are loaded. Spellings with the same upper case, a name and its upper case among them, are alike
to the logger in every respect, and to settings up to the wording of the refusal, which repeats the given name. -/
theorem level_checks_agree (l : Logger) :
    (∀ name, (∃ settings, Settings.load (.ofLevel name) = .ok settings) ↔ (l.configure name).2 = .ok ()) ∧
      (∀ s name, s.taken? Settings.levelField = some (.text name) →
        ((∃ settings, Settings.load s = .ok settings) ↔ (l.configure name).2 = .ok () ∧
          ∃ code, Settings.setting s Settings.exitCodeField Settings.defaultExitCode Settings.readExitCode =
            .ok code) ∧
        ∀ settings, Settings.load s = .ok settings →
          settings.logLevel.text = upperCase name ∧ l.configure settings.logLevel.text = l.configure name ∧
            (l.configure name).1.level = settings.logLevel.number) ∧
      (∀ s settings, Settings.load s = .ok settings → (l.configure settings.logLevel.text).2 = .ok () ∧
        ∀ arguments, ∃ r, (Command.execute l s arguments).2.result = .ok r) ∧
      (∀ s arguments name, (Command.execute l s arguments).2.result ≠ .error (.unknownLevel name)) ∧
      (∀ name, l.configure (upperCase name) = l.configure name) ∧
      ∀ name name', upperCase name = upperCase name' → l.configure name = l.configure name' ∧
        ∀ s s', s.taken? Settings.levelField = some (.text name) →
          s'.taken? Settings.levelField = some (.text name') →
          s'.taken? Settings.exitCodeField = s.taken? Settings.exitCodeField →
          (Settings.load s').mapError (·.map FieldError.place) =
            (Settings.load s).mapError (·.map FieldError.place) := by
  refine ⟨?_, ?_, ?_, ?_, l.configure_upperCase, ?_⟩
  · intro name
    have hcode := Settings.setting_of_none (Sources.exitCode_ofLevel name) Settings.defaultExitCode
      Settings.readExitCode
    rw [Settings.exists_load_iff_configure (Sources.taken?_ofLevel name) l]
    exact and_iff_left ⟨_, hcode⟩
  · intro s name h
    refine ⟨Settings.exists_load_iff_configure h l, fun settings hload => ?_⟩
    have hread := Settings.read?_of_load h hload
    refine ⟨(LevelName.read?_eq_some_iff.mp hread).symm, ?_, ?_⟩
    · rw [l.configure_text, l.configure_of_read? hread]
    · rw [l.configure_of_read? hread]
      rfl
  · intro s settings hload
    exact ⟨by rw [l.configure_text], Command.exists_result_execute hload l⟩
  · intro s arguments name
    cases hload : Settings.load s with
    | error errors => simp [Command.execute_of_rejected hload, Logged.quiet]
    | ok settings =>
      obtain ⟨r, hr⟩ := Command.exists_result_execute hload l arguments
      simp [hr]
  · intro name name' hname
    exact ⟨l.configure_congr hname, fun s s' h h' hcode => Settings.load_alike h h' hcode hname⟩

/-- A dotless letter passes for one with a dot, a combining dot does not vanish. -/
example : LevelName.read? "ınfo" = some .info ∧ LevelName.read? "i\u0307nfo" = none := by
  decide +kernel

end Calculator

/-
This file says which settings are in force in a run of the command. Main statement: settings are
loaded exactly where the configuration gives them, and a flag turns one of them away from its
default whatever the configuration says.
-/
import SchemaTypes.Command.Run

namespace SchemaTypes

/-- A field that is set has its new value, and the other fields keep theirs. -/
theorem Settings.get_set (settings : Settings) (value : Bool) (field other : Field) :
    (settings.set value field).get other = if other = field then value else settings.get other := by
  cases field <;> cases other <;> rfl

/-- Settings are no more than the values of their fields. -/
theorem Settings.eq_of_get {first second : Settings}
    (same : ∀ field, first.get field = second.get field) : first = second := by
  cases first
  cases second
  rw [Settings.mk.injEq]
  exact ⟨same .declareReferenced, same .endPropertyWithSemicolon, same .endTypeWithSemicolon,
    same .useConstEnums, same .useFullReferencePathAsName⟩

/-- Where a text can be read there is a file. -/
theorem FileSystem.isFileText_of_readText {files : FileSystem} {spelling text : String}
    (read : files.readText spelling = .ok text) : files.isFileText spelling = true := by
  unfold readText at read
  unfold isFileText
  cases located : files.locateText spelling with
  | error error => simp [located, bind, Except.bind] at read
  | ok location =>
      simp only [located, bind, Except.bind, readAt] at read
      unfold isFile
      split at read
      · next content => simp [content]
      · cases read
      · cases read

namespace Command

/-- The settings that the configuration gives. A file that is named has to be there. If none is
named, the default file counts, and where that one is missing all settings have their defaults. -/
inductive Configured (files : FileSystem) : Option String → Settings → Prop where
  | named {path text : String} {settings : Settings} (read : files.readText path = .ok text)
      (parsed : settingsOfConfig? text = some settings) : Configured files (some path) settings
  | standard {text : String} {settings : Settings}
      (read : files.readText (defaultConfigPath files) = .ok text)
      (parsed : settingsOfConfig? text = some settings) : Configured files none settings
  | missing (absent : files.isFileText (defaultConfigPath files) = false) :
      Configured files none {}

/-- A setting that one of the flags turns. -/
def Options.turns (options : Options) (field : Settings.Field) : Bool :=
  options.flags.any fun flag => flag.field? = some field

/-- The settings that are in force have the opposite of the default where a flag turns them, and
the value that the configuration gives everywhere else. -/
def Effective (files : FileSystem) (options : Options) (settings : Settings) : Prop :=
  ∃ configured, Configured files options.config configured ∧
    ∀ field, settings.get field =
      if options.turns field then !({} : Settings).get field else configured.get field

variable {files : FileSystem} {options : Options} {settings : Settings}

/-- A configuration is loaded when it can be read and has settings. -/
theorem loadConfig_eq_ok_iff {path : String} :
    loadConfig files path = .ok settings ↔
      ∃ text, files.readText path = .ok text ∧ settingsOfConfig? text = some settings := by
  unfold loadConfig
  cases files.readText path with
  | error error => simp
  | ok text => cases parsed : settingsOfConfig? text <;> simp [parsed]

/-- Settings are loaded exactly where the configuration gives them. -/
theorem loadSettings_eq_ok_iff {config : Option String} :
    loadSettings files config = .ok settings ↔ Configured files config settings := by
  cases config with
  | some path =>
      rw [loadSettings, loadConfig_eq_ok_iff]
      constructor
      · rintro ⟨text, read, parsed⟩
        exact .named read parsed
      · rintro (⟨read, parsed⟩)
        exact ⟨_, read, parsed⟩
  | none =>
      unfold loadSettings
      dsimp only
      constructor
      · intro loaded
        split at loaded
        · obtain ⟨text, read, parsed⟩ := loadConfig_eq_ok_iff.mp loaded
          exact .standard read parsed
        · next absent =>
          cases loaded
          exact .missing (Bool.eq_false_iff.mpr absent)
      · rintro (_ | ⟨read, parsed⟩ | absent)
        · rw [if_pos (FileSystem.isFileText_of_readText read)]
          exact loadConfig_eq_ok_iff.mpr ⟨_, read, parsed⟩
        · rw [absent, if_neg Bool.false_ne_true]

/-- A flag turns its own setting and no other one. -/
theorem Flag.get_apply (flag : Flag) (settings : Settings) (field : Settings.Field) :
    (flag.apply settings).get field =
      if flag.field? = some field then !({} : Settings).get field else settings.get field := by
  unfold Flag.apply
  cases flag.field? with
  | none => rfl
  | some other =>
      dsimp only
      rw [Settings.get_set]
      by_cases same : field = other
      · rw [if_pos same, if_pos (congrArg some same.symm), same]
      · rw [if_neg same, if_neg fun equal => same (Option.some.inj equal).symm]

/-- The order of the flags does not matter, and the configuration decides where there is none. -/
theorem Options.get_apply (options : Options) (settings : Settings) (field : Settings.Field) :
    (options.apply settings).get field =
      if options.turns field then !({} : Settings).get field else settings.get field := by
  unfold Options.apply Options.turns
  induction options.flags generalizing settings with
  | nil => rfl
  | cons flag flags inductionHypothesis =>
      rw [List.foldl_cons, inductionHypothesis, Flag.get_apply, List.any_cons]
      by_cases turned : flag.field? = some field <;> simp [turned]

/-- The settings in force are those of the configuration with the flags applied to them. -/
theorem effective_iff :
    Effective files options settings ↔
      ∃ configured, loadSettings files options.config = .ok configured ∧
        settings = options.apply configured := by
  refine exists_congr fun configured => and_congr loadSettings_eq_ok_iff.symm ?_
  simp only [← Options.get_apply]
  exact ⟨Settings.eq_of_get, fun same field => by rw [same]⟩

/-- A run has no more than one choice of settings. -/
theorem Effective.unique {other : Settings} (first : Effective files options settings)
    (second : Effective files options other) : settings = other := by
  obtain ⟨configured, loaded, rfl⟩ := effective_iff.mp first
  obtain ⟨otherConfigured, otherLoaded, rfl⟩ := effective_iff.mp second
  rw [loaded] at otherLoaded
  cases otherLoaded
  rfl

end Command
end SchemaTypes

import SessionRegistry.Config.CommandLine

/-!
# Options from arguments and variables

Every option is treated in the same way: an argument that gives it decides, and otherwise its
variable in the environment does, if it is set.

## Main definitions

* `Supplied`: the value of an option, by the argument and the variable that may give it.
* `Options.SuppliedFrom`: what the variables of some options make of the options given so far.

## Main results

* `CommandLine.suppliedFrom_of_addVariable`: what one variable does.
* `CommandLine.supplied_of_options`: what arguments and environment do together.
-/

namespace SessionRegistry

namespace Setting

/-- The values of an option. -/
abbrev Value : Setting → Type
  | config => String
  | bind => Address
  | dataDir => String
  | lockWait => Millis
  | maxPageSize => UInt32
  | retention => Millis

/-- The value of an option that a text spells. -/
def read : (setting : Setting) → String → Option setting.Value
  | config => Options.readPath
  | bind => Address.ofText?
  | dataDir => Options.readPath
  | lockWait => Text.readUInt64
  | maxPageSize => Options.readUInt32
  | retention => Text.readUInt64

theorem nodup_all : all.Nodup := by
  decide

theorem mem_all (setting : Setting) : setting ∈ all := by
  cases setting <;> decide

end Setting

namespace Options

/-- The value that has been given for an option. -/
def get (options : Options) : (setting : Setting) → Option setting.Value
  | .config => options.config
  | .bind => options.address
  | .dataDir => options.dataDir
  | .lockWait => options.lockWait
  | .maxPageSize => options.maxPageSize
  | .retention => options.retention

/-- The options with a value for one of them. -/
def set (options : Options) : (setting : Setting) → setting.Value → Options
  | .config, path => { options with config := some path }
  | .bind, address => { options with address := some address }
  | .dataDir, path => { options with dataDir := some path }
  | .lockWait, n => { options with lockWait := some n }
  | .maxPageSize, n => { options with maxPageSize := some n }
  | .retention, n => { options with retention := some n }

variable (options : Options) (setting : Setting)

theorem has_eq_isSome : options.has setting = (options.get setting).isSome := by
  cases setting <;> rfl

theorem get_set_self (value : setting.Value) :
    (options.set setting value).get setting = some value := by
  cases setting <;> rfl

theorem get_set_of_ne {other : Setting} (ne : other ≠ setting) (value : setting.Value) :
    (options.set setting value).get other = options.get other := by
  cases setting <;> cases other <;> simp_all [get, set]

theorem syncLog_set (value : setting.Value) :
    (options.set setting value).syncLog = options.syncLog := by
  cases setting <;> rfl

/-- An option that has no value yet is given the one that a text spells. -/
theorem give_of_get_eq_none (free : options.get setting = none) (text : String) :
    options.give setting text = (setting.read text).map (options.set setting) := by
  have absent : ¬ options.has setting = true := by
    rw [has_eq_isSome, free]
    exact Bool.false_ne_true
  cases setting <;> exact if_neg absent

end Options

/-- The value of an option: that of the argument, or else the one that the variable spells. -/
inductive Supplied {α : Type} (read : String → Option α) :
    (argument : Option α) → (text : Option String) → Option α → Prop
  | argument (value : α) (text : Option String) : Supplied read (some value) text (some value)
  | environment {text : String} {value : α} (spelled : read text = some value) :
    Supplied read none (some text) (some value)
  | nothing : Supplied read none none none

namespace Options

variable {environment : String → Option String} {options supplied : Options} {setting : Setting}

/-- What the variables of some options make of the options given so far. -/
structure SuppliedFrom (environment : String → Option String) (settings : List Setting)
    (options supplied : Options) : Prop where
  listed : ∀ setting ∈ settings, Supplied setting.read (options.get setting)
    (environment setting.variableName) (supplied.get setting)
  others : ∀ setting ∉ settings, supplied.get setting = options.get setting
  syncLog_eq : supplied.syncLog = options.syncLog

/-- A variable that is not set, or is not needed, leaves the options as they are. -/
theorem SuppliedFrom.unchanged (supplied : Supplied setting.read (options.get setting)
    (environment setting.variableName) (options.get setting)) :
    SuppliedFrom environment [setting] options options where
  listed := List.forall_mem_singleton.2 supplied
  others _ _ := rfl
  syncLog_eq := rfl

/-- A variable that is needed gives its option a value. -/
theorem SuppliedFrom.set {text : String} {value : setting.Value}
    (free : options.get setting = none) (set : environment setting.variableName = some text)
    (spelled : setting.read text = some value) :
    SuppliedFrom environment [setting] options (options.set setting value) where
  listed := by
    refine List.forall_mem_singleton.2 ?_
    rw [free, set, get_set_self]
    exact .environment spelled
  others other absent := get_set_of_ne options setting (mt List.mem_singleton.2 absent) value
  syncLog_eq := syncLog_set options setting value

theorem SuppliedFrom.nil : SuppliedFrom environment [] options options where
  listed := nofun
  others _ _ := rfl
  syncLog_eq := rfl

/-- One variable after another. -/
theorem SuppliedFrom.cons {settings : List Setting} {given : Options}
    (head : SuppliedFrom environment [setting] options given)
    (tail : SuppliedFrom environment settings given supplied) (new : setting ∉ settings) :
    SuppliedFrom environment (setting :: settings) options supplied where
  listed := by
    refine List.forall_mem_cons.2 ⟨?_, fun other mem => ?_⟩
    · rw [tail.others setting new]
      exact head.listed setting List.mem_cons_self
    · have ne : other ∉ [setting] := fun same => new (List.mem_singleton.1 same ▸ mem)
      rw [← head.others other ne]
      exact tail.listed other mem
  others other absent := by
    obtain ⟨ne, absent⟩ := List.ne_and_not_mem_of_not_mem_cons absent
    rw [tail.others other absent, head.others other (mt List.mem_singleton.1 ne)]
  syncLog_eq := tail.syncLog_eq.trans head.syncLog_eq

end Options

namespace CommandLine

open Options (has_eq_isSome give_of_get_eq_none)

variable {environment : String → Option String} {options supplied : Options}

/-- A variable supplies its option and no other. -/
theorem suppliedFrom_of_addVariable {setting : Setting}
    (added : addVariable environment options setting = .ok supplied) :
    options.SuppliedFrom environment [setting] supplied := by
  cases text : environment setting.variableName with
  | none =>
    rw [addVariable, text] at added
    cases added
    refine .unchanged ?_
    rw [text]
    cases options.get setting with
    | none => exact .nothing
    | some value => exact .argument value none
  | some spelling =>
    rw [addVariable, text, has_eq_isSome] at added
    dsimp only at added
    cases given : options.get setting with
    | some value =>
      rw [given] at added
      cases added
      refine .unchanged ?_
      rw [given]
      exact .argument value _
    | none =>
      rw [given, give_of_get_eq_none options setting given] at added
      cases spelled : setting.read spelling with
      | none =>
        rw [spelled] at added
        nomatch added
      | some value =>
        rw [spelled] at added
        cases added
        exact .set given text spelled

/-- The variables of different options supply them one after another. -/
theorem suppliedFrom_of_foldlM {settings : List Setting} (nodup : settings.Nodup)
    (added : settings.foldlM (addVariable environment) options = .ok supplied) :
    options.SuppliedFrom environment settings supplied := by
  induction settings generalizing options with
  | nil =>
    cases added
    exact .nil
  | cons setting settings ih =>
    obtain ⟨new, nodup⟩ := List.nodup_cons.1 nodup
    rw [List.foldlM_cons] at added
    obtain ⟨given, first, rest⟩ := exists_of_bind_eq_ok added
    exact (suppliedFrom_of_addVariable first).cons (ih nodup rest) new

/-- Every option has the value that the arguments give it, or else the one that its variable spells.
Whether the log is synced is for the arguments alone to say. -/
theorem supplied_of_options {arguments : List String}
    (given : CommandLine.options environment arguments = .ok supplied) :
    ∃ flags, readArguments arguments = .ok flags ∧ supplied.syncLog = flags.syncLog ∧
      ∀ setting, Supplied setting.read (flags.get setting) (environment setting.variableName)
        (supplied.get setting) := by
  obtain ⟨flags, read, added⟩ := exists_of_bind_eq_ok given
  have from_flags := suppliedFrom_of_foldlM Setting.nodup_all added
  exact ⟨flags, read, from_flags.syncLog_eq,
    fun setting => from_flags.listed setting (Setting.mem_all setting)⟩

end CommandLine

end SessionRegistry

import ChassisCooling.Daemon.CommandLine
import ChassisCooling.Proofs.Success

/-!
# The grammar of the command line

Arguments are settings, one after the other: an option with the argument behind it as its value,
whatever that looks like, or the flag that stands alone. The settings go on up to the end, up to an
option that asks for help or for the version, or up to an argument that is out of place.

* `Setting.Written`, `Spells`: settings and the arguments that spell them out.
* `Stops`: what the first argument behind the settings asks for, or what is wrong with it.
* `Options.after`: of the settings of one kind, the last counts.
* `parseFrom_append`: settings in front of other arguments.
* `parseArguments_eq_iff`: reading follows the grammar.
* `parseArguments_follows_grammar`: the main result.
-/

namespace ChassisCooling.Daemon

/-! ## The grammar -/

def helpOptions : List String := ["-h", "--help"]

def versionOptions : List String := ["-v", "--version"]

def configOptions : List String := ["-c", "--config"]

def rootOptions : List String := ["-r", "--hwmon-root"]

def printOptions : List String := ["--print-config"]

/-- Every option. -/
def knownOptions : List String :=
  helpOptions ++ versionOptions ++ configOptions ++ rootOptions ++ printOptions

/-- What one option sets. -/
inductive Setting where
  | config (path : String)
  | hwmonRoot (path : String)
  | printConfig
  deriving DecidableEq

namespace Setting

/-- The arguments that a setting is made of. -/
inductive Written : Setting → List String → Prop where
  | config {option : String} (h : option ∈ configOptions) (path : String) :
      Written (.config path) [option, path]
  | hwmonRoot {option : String} (h : option ∈ rootOptions) (path : String) :
      Written (.hwmonRoot path) [option, path]
  | printConfig {option : String} (h : option ∈ printOptions) : Written .printConfig [option]

def configPath? : Setting → Option String
  | config path => some path
  | _ => none

def hwmonRoot? : Setting → Option String
  | hwmonRoot path => some path
  | _ => none

end Setting

/-- The arguments are settings, one after the other. -/
inductive Spells : List Setting → List String → Prop where
  | nil : Spells [] []
  | cons {s : Setting} {settings : List Setting} {first rest : List String}
      (hfirst : s.Written first) (hrest : Spells settings rest) :
      Spells (s :: settings) (first ++ rest)

/-- The arguments begin with one that belongs to no setting, and this is what comes of it. -/
inductive Stops : List String → Except UsageError Command → Prop where
  | help {option : String} (h : option ∈ helpOptions) (rest : List String) :
      Stops (option :: rest) (.ok .help)
  | version {option : String} (h : option ∈ versionOptions) (rest : List String) :
      Stops (option :: rest) (.ok .version)
  | unknown {argument : String} (h : argument ∉ knownOptions) (rest : List String) :
      Stops (argument :: rest) (.error (.unknownArgument argument))
  | noConfig {option : String} (h : option ∈ configOptions) :
      Stops [option] (.error (.missingValue "--config"))
  | noRoot {option : String} (h : option ∈ rootOptions) :
      Stops [option] (.error (.missingValue "--hwmon-root"))

/-- The options after settings: each path is the one given last, if one is given, and the flag is set
if it was or is given. -/
def Options.after (o : Options) (settings : List Setting) : Options where
  configPath := (settings.filterMap Setting.configPath?).getLast?.getD o.configPath
  hwmonRoot := (settings.filterMap Setting.hwmonRoot?).getLast?.getD o.hwmonRoot
  printConfig := o.printConfig || decide (.printConfig ∈ settings)

/-- What arguments stand for. -/
inductive Means : List String → Except UsageError Command → Prop where
  | run {settings : List Setting} {arguments : List String} (h : Spells settings arguments) :
      Means arguments (.ok (.run (Options.default.after settings)))
  | stop {settings : List Setting} {before rest : List String}
      {answer : Except UsageError Command} (hbefore : Spells settings before)
      (hrest : Stops rest answer) : Means (before ++ rest) answer

/-! ## Tokens -/

namespace Token

theorem of_help {argument : String} (h : argument ∈ helpOptions) : of argument = help := by
  simp only [helpOptions, List.mem_cons, List.not_mem_nil, or_false] at h
  rcases h with rfl | rfl <;> decide

theorem of_version {argument : String} (h : argument ∈ versionOptions) :
    of argument = version := by
  simp only [versionOptions, List.mem_cons, List.not_mem_nil, or_false] at h
  rcases h with rfl | rfl <;> decide

theorem of_config {argument : String} (h : argument ∈ configOptions) : of argument = config := by
  simp only [configOptions, List.mem_cons, List.not_mem_nil, or_false] at h
  rcases h with rfl | rfl <;> decide

theorem of_hwmonRoot {argument : String} (h : argument ∈ rootOptions) :
    of argument = hwmonRoot := by
  simp only [rootOptions, List.mem_cons, List.not_mem_nil, or_false] at h
  rcases h with rfl | rfl <;> decide

theorem of_printConfig {argument : String} (h : argument ∈ printOptions) :
    of argument = printConfig := by
  obtain rfl := List.mem_singleton.1 h
  decide

/-- Every argument is an option of one kind, or unknown. -/
inductive Kind (argument : String) : Token → Prop where
  | help (h : argument ∈ helpOptions) : Kind argument .help
  | version (h : argument ∈ versionOptions) : Kind argument .version
  | config (h : argument ∈ configOptions) : Kind argument .config
  | hwmonRoot (h : argument ∈ rootOptions) : Kind argument .hwmonRoot
  | printConfig (h : argument ∈ printOptions) : Kind argument .printConfig
  | unknown (h : argument ∉ knownOptions) : Kind argument (.unknown argument)

theorem kind_of (argument : String) : Kind argument (of argument) := by
  unfold of
  split
  · next h => exact .help (by simpa [helpOptions] using h)
  next hhelp =>
  split
  · next h => exact .version (by simpa [versionOptions] using h)
  next hversion =>
  split
  · next h => exact .printConfig (by simpa [printOptions] using h)
  next hprint =>
  split
  · next h => exact .config (by simpa [configOptions] using h)
  next hconfig =>
  split
  · next h => exact .hwmonRoot (by simpa [rootOptions] using h)
  next hroot =>
  refine .unknown ?_
  simp only [knownOptions, helpOptions, versionOptions, configOptions, rootOptions, printOptions,
    List.cons_append, List.nil_append, List.mem_cons, List.not_mem_nil, or_false]
  grind

theorem of_unknown {argument : String} (h : argument ∉ knownOptions) :
    of argument = unknown argument := by
  have hkind := kind_of argument
  generalize of argument = token at hkind
  cases hkind with
  | unknown => rfl
  | help hmem | version hmem | config hmem | hwmonRoot hmem | printConfig hmem =>
    exact absurd (by simp [knownOptions, hmem]) h

end Token

/-! ## Settings -/

theorem Spells.append {settings settings' : List Setting} {before after : List String}
    (h : Spells settings before) (h' : Spells settings' after) :
    Spells (settings ++ settings') (before ++ after) := by
  induction h with
  | nil => exact h'
  | cons hfirst _ ih =>
    rw [List.append_assoc]
    exact .cons hfirst ih

theorem getD_getLast?_append {α : Type} (xs ys : List α) (a : α) :
    (xs ++ ys).getLast?.getD a = ys.getLast?.getD (xs.getLast?.getD a) := by
  rw [List.getLast?_append]
  cases ys.getLast? <;> rfl

/-- Later settings count more than earlier ones. -/
theorem Options.after_append (o : Options) (settings settings' : List Setting) :
    o.after (settings ++ settings') = (o.after settings).after settings' := by
  simp only [Options.after, List.filterMap_append, getD_getLast?_append, List.mem_append,
    Bool.decide_or, Bool.or_assoc]

/-- Settings in front are taken in, and the rest is read as it would be without them. -/
theorem parseFrom_append {settings : List Setting} {before : List String}
    (h : Spells settings before) (o : Options) (rest : List String) :
    parseFrom o (before ++ rest) = parseFrom (o.after settings) rest := by
  induction h generalizing o with
  | nil => simp [Options.after]
  | @cons s settings first later hfirst _ ih =>
    rw [← List.singleton_append, Options.after_append, ← ih, List.append_assoc]
    cases hfirst with
    | config hoption path =>
      rw [List.cons_append, parseFrom.eq_def]
      simp [Token.of_config hoption, Options.after, Setting.configPath?, Setting.hwmonRoot?]
    | hwmonRoot hoption path =>
      rw [List.cons_append, parseFrom.eq_def]
      simp [Token.of_hwmonRoot hoption, Options.after, Setting.configPath?, Setting.hwmonRoot?]
    | printConfig hoption =>
      rw [List.cons_append, parseFrom.eq_def]
      simp [Token.of_printConfig hoption, Options.after, Setting.configPath?, Setting.hwmonRoot?]

theorem parseFrom_of_stops {rest : List String} {answer : Except UsageError Command}
    (h : Stops rest answer) (o : Options) : parseFrom o rest = answer := by
  rw [parseFrom.eq_def]
  cases h with
  | help hoption rest => simp only [Token.of_help hoption]
  | version hoption rest => simp only [Token.of_version hoption]
  | unknown hargument rest => simp only [Token.of_unknown hargument]
  | noConfig hoption => simp only [Token.of_config hoption]
  | noRoot hoption => simp only [Token.of_hwmonRoot hoption]

/-! ## Reading -/

/-- Arguments are settings up to their end, or up to one that stops them. By induction along the
reading, one setting after the other. -/
theorem exists_settings (arguments : List String) :
    ∃ settings before rest, arguments = before ++ rest ∧ Spells settings before ∧
      (rest = [] ∨ ∃ answer, Stops rest answer) := by
  have hmore : ∀ {s : Setting} {first more : List String}, s.Written first →
      (∃ settings before rest, more = before ++ rest ∧ Spells settings before ∧
        (rest = [] ∨ ∃ answer, Stops rest answer)) →
      ∃ settings before rest, first ++ more = before ++ rest ∧ Spells settings before ∧
        (rest = [] ∨ ∃ answer, Stops rest answer) := by
    rintro s first more hfirst ⟨settings, before, rest, rfl, hbefore, hrest⟩
    exact ⟨s :: settings, first ++ before, rest, (List.append_assoc ..).symm, .cons hfirst hbefore,
      hrest⟩
  have hstop : ∀ {rest : List String} {answer : Except UsageError Command}, Stops rest answer →
      ∃ settings before rest', rest = before ++ rest' ∧ Spells settings before ∧
        (rest' = [] ∨ ∃ answer, Stops rest' answer) := fun {rest} _ h =>
    ⟨[], [], rest, rfl, .nil, .inr ⟨_, h⟩⟩
  match arguments with
  | [] => exact ⟨[], [], [], rfl, .nil, .inl rfl⟩
  | argument :: rest =>
    have hkind := Token.kind_of argument
    generalize Token.of argument = token at hkind
    cases hkind with
    | help h => exact hstop (.help h rest)
    | version h => exact hstop (.version h rest)
    | unknown h => exact hstop (.unknown h rest)
    | printConfig h => exact hmore (.printConfig h) (exists_settings rest)
    | config h =>
      match rest with
      | [] => exact hstop (.noConfig h)
      | path :: rest => exact hmore (.config h path) (exists_settings rest)
    | hwmonRoot h =>
      match rest with
      | [] => exact hstop (.noRoot h)
      | path :: rest => exact hmore (.hwmonRoot h path) (exists_settings rest)

theorem parseArguments_of_means {arguments : List String} {answer : Except UsageError Command}
    (h : Means arguments answer) : parseArguments arguments = answer := by
  unfold parseArguments
  cases h with
  | run hspells =>
    rw [← List.append_nil arguments, parseFrom_append hspells]
    rfl
  | stop hbefore hrest =>
    rw [parseFrom_append hbefore]
    exact parseFrom_of_stops hrest _

theorem parseArguments_eq_iff {arguments : List String} {answer : Except UsageError Command} :
    parseArguments arguments = answer ↔ Means arguments answer := by
  refine ⟨?_, parseArguments_of_means⟩
  rintro rfl
  obtain ⟨settings, before, rest, rfl, hbefore, hrest⟩ := exists_settings arguments
  rcases hrest with rfl | ⟨answer, hstops⟩
  · rw [List.append_nil, parseArguments_of_means (.run hbefore)]
    exact .run hbefore
  · rw [parseArguments_of_means (.stop hbefore hstops)]
    exact .stop hbefore hstops

/-- Help and version are asked for by the first argument behind settings, whatever comes after it. It
is an error if that argument is unknown, or lacks its value because nothing comes after it. Otherwise
there are settings only, and the last of each kind counts. So settings may be added at the end, where
those that are given count more than what was there before. -/
theorem parseArguments_follows_grammar :
    (∀ arguments, parseArguments arguments = .ok .help ↔
      ∃ settings before option after, arguments = before ++ option :: after ∧
        Spells settings before ∧ option ∈ helpOptions) ∧
    (∀ arguments, parseArguments arguments = .ok .version ↔
      ∃ settings before option after, arguments = before ++ option :: after ∧
        Spells settings before ∧ option ∈ versionOptions) ∧
    (∀ arguments, (∃ e, parseArguments arguments = .error e) ↔
      ∃ settings before rest, arguments = before ++ rest ∧ Spells settings before ∧
        ((∃ argument ∈ rest.head?, argument ∉ knownOptions) ∨
          ∃ option ∈ configOptions ++ rootOptions, rest = [option])) ∧
    (∀ arguments options, parseArguments arguments = .ok (.run options) ↔
      ∃ settings, Spells settings arguments ∧ options = Options.default.after settings) ∧
    ∀ a b oa ob, parseArguments a = .ok (.run oa) → parseArguments b = .ok (.run ob) →
      ∃ settings, Spells settings b ∧ ob = Options.default.after settings ∧
        parseArguments (a ++ b) = .ok (.run (oa.after settings)) := by
  have hrun : ∀ arguments options, parseArguments arguments = .ok (.run options) ↔
      ∃ settings, Spells settings arguments ∧ options = Options.default.after settings := by
    intro arguments options
    rw [parseArguments_eq_iff]
    constructor
    · rintro (h | ⟨-, h⟩)
      · exact ⟨_, h, rfl⟩
      · cases h
    · rintro ⟨settings, h, rfl⟩
      exact .run h
  refine ⟨fun arguments => ?_, fun arguments => ?_, fun arguments => ?_, hrun, ?_⟩
  · rw [parseArguments_eq_iff]
    constructor
    · rintro (_ | ⟨hbefore, hrest⟩)
      cases hrest with
      | help hoption after => exact ⟨_, _, _, after, rfl, hbefore, hoption⟩
    · rintro ⟨settings, before, option, after, rfl, hbefore, hoption⟩
      exact .stop hbefore (.help hoption after)
  · rw [parseArguments_eq_iff]
    constructor
    · rintro (_ | ⟨hbefore, hrest⟩)
      cases hrest with
      | version hoption after => exact ⟨_, _, _, after, rfl, hbefore, hoption⟩
    · rintro ⟨settings, before, option, after, rfl, hbefore, hoption⟩
      exact .stop hbefore (.version hoption after)
  · simp only [parseArguments_eq_iff]
    constructor
    · rintro ⟨e, (_ | ⟨hbefore, hrest⟩)⟩
      refine ⟨_, _, _, rfl, hbefore, ?_⟩
      cases hrest with
      | unknown hargument after => exact .inl ⟨_, rfl, hargument⟩
      | noConfig hoption => exact .inr ⟨_, List.mem_append_left _ hoption, rfl⟩
      | noRoot hoption => exact .inr ⟨_, List.mem_append_right _ hoption, rfl⟩
    · rintro ⟨settings, before, rest, rfl, hbefore,
        ⟨argument, hhead, hargument⟩ | ⟨option, hoption, rfl⟩⟩
      · obtain ⟨after, rfl⟩ := List.head?_eq_some_iff.1 hhead
        exact ⟨_, .stop hbefore (.unknown hargument after)⟩
      · rcases List.mem_append.1 hoption with hconfig | hroot
        · exact ⟨_, .stop hbefore (.noConfig hconfig)⟩
        · exact ⟨_, .stop hbefore (.noRoot hroot)⟩
  · intro a b oa ob ha hb
    obtain ⟨earlier, hspellsA, rfl⟩ := (hrun a oa).1 ha
    obtain ⟨settings, hspellsB, rfl⟩ := (hrun b ob).1 hb
    refine ⟨settings, hspellsB, rfl, (hrun _ _).2 ⟨_, hspellsA.append hspellsB, ?_⟩⟩
    rw [Options.after_append]

/-- What looks like an option is a value behind an option; the path given first is overridden, and
the flag stays set. -/
theorem parseArguments_follows_grammar_of_odd_values :
    let a := ["-c", "--help", "--print-config"]
    let b := ["-r", "-c", "--config", "/srv/cooling.json"]
    let oa : Options := ⟨"--help", defaultHwmonRoot, true⟩
    let ob : Options := ⟨"/srv/cooling.json", "-c", false⟩
    parseArguments a = .ok (.run oa) ∧ parseArguments b = .ok (.run ob) ∧
      (∃ settings, Spells settings b ∧ ob = Options.default.after settings ∧
        parseArguments (a ++ b) = .ok (.run (oa.after settings))) ∧
      parseArguments (a ++ b) = .ok (.run ⟨"/srv/cooling.json", "-c", true⟩) := by
  intro a b oa ob
  have ha : parseArguments a = .ok (.run oa) := by decide
  have hb : parseArguments b = .ok (.run ob) := by decide
  exact ⟨ha, hb, parseArguments_follows_grammar.2.2.2.2 a b oa ob ha hb, by decide⟩

end ChassisCooling.Daemon

import Mathlib.Data.List.Sigma
import Switchboard.CommandLine.Scan
import Switchboard.Proofs.CommandLine.Setting
import Switchboard.Proofs.Except

/-
This file shows that a process is configured field by field: by its arguments, then by its
environment, then by the defaults.
-/

namespace Switchboard.CommandLine

/-- A choice is a setting together with its value. -/
abbrev Choice : Type := Sigma Setting.Content

def Choice.entry (choice : Choice) : Setting × Value :=
  (choice.1, choice.1.kind.value choice.2)

section Given

variable {choices : List Choice} {setting : Setting}

theorem isGiven_iff : isGiven (choices.map Choice.entry) setting ↔ setting ∈ choices.keys := by
  rw [isGiven, List.any_map, List.any_eq_true, List.keys, List.mem_map]
  simp only [Function.comp_apply, decide_eq_true_eq]
  rfl

theorem notMem_keys_of_append {before later : List Choice} {choice : Choice}
    (once : (before ++ choice :: later).NodupKeys) : choice.1 ∉ before.keys := by
  have others := List.notMem_keys_of_nodupKeys_cons (List.nodupKeys_middle.1 once)
  rw [List.keys_append, List.mem_append, not_or] at others
  exact others.1

/-- A setting that was not given takes the value that is spelled. -/
theorem give_of_spells (free : setting ∉ choices.keys) {raw : String} {content : setting.Content}
    (spelled : setting.kind.Spells raw content) :
    give (choices.map Choice.entry) setting raw =
      .ok ((choices ++ [(⟨setting, content⟩ : Choice)]).map Choice.entry) := by
  rw [give, if_neg (mt isGiven_iff.1 free), Setting.read, Kind.read_of_spells spelled,
    List.map_append]
  rfl

end Given

section Arguments

/-- Arguments give these choices: each option is followed by its value, and a flag stands alone. -/
inductive Gives : List Choice → List String → Prop where
  | nothing : Gives [] []
  | option {setting : Setting} {content : setting.Content} {raw : String} {choices : List Choice}
    {arguments : List String} (valued : setting.kind ≠ .flag)
    (spelled : setting.kind.Spells raw content) (noOption : raw.toList.head? ≠ some '-')
    (later : Gives choices arguments) :
    Gives (⟨setting, content⟩ :: choices) (("--" ++ setting.option) :: raw :: arguments)
  | flag {setting : Setting} {content : setting.Content} {choices : List Choice}
    {arguments : List String} (isFlag : setting.kind = .flag)
    (isSet : setting.kind.Spells "true" content) (later : Gives choices arguments) :
    Gives (⟨setting, content⟩ :: choices) (("--" ++ setting.option) :: arguments)

theorem read_option (setting : Setting) :
    Argument.read ("--" ++ setting.option) = .long setting.option none := by
  cases setting <;> decide

theorem ofOption?_option (setting : Setting) : Setting.ofOption? setting.option = some setting := by
  cases setting <;> decide

theorem read_plain {raw : String} (noOption : raw.toList.head? ≠ some '-') :
    Argument.read raw = .plain raw := by
  rw [Argument.read]
  split
  · next characters => exact absurd (congrArg List.head? characters) noOption
  · next characters => exact absurd (congrArg List.head? characters) noOption
  · next characters => exact absurd (congrArg List.head? characters) noOption
  · rfl

/-- The arguments are scanned choice by choice, and the last option waits for the next one. -/
theorem scan_of_gives {choices : List Choice} {arguments : List String}
    (gives : Gives choices arguments) {before : List Choice} {given : Given} {pending : Pending}
    (concluded : conclude given pending = .ok (before.map Choice.entry))
    (once : (before ++ choices).NodupKeys) :
    scan given pending (arguments.map Argument.read) =
      .ok ((before ++ choices).map Choice.entry) := by
  induction gives generalizing before given pending with
  | nothing => rw [List.map_nil, scan, concluded, List.append_nil]
  | @option setting content raw choices arguments valued spelled noOption later
      inductionHypothesis =>
      have free : setting ∉ before.keys := notMem_keys_of_append once
      rw [List.append_cons] at once ⊢
      rw [List.map_cons, List.map_cons, read_option, read_plain noOption, scan, ofOption?_option]
      simp only [valued, false_and, if_false, concluded, ok_bind]
      rw [scan]
      exact inductionHypothesis (give_of_spells free spelled) once
  | @flag setting content choices arguments isFlag isSet later inductionHypothesis =>
      have free : setting ∉ before.keys := notMem_keys_of_append once
      rw [List.append_cons] at once ⊢
      rw [List.map_cons, read_option, scan, ofOption?_option]
      simp only [isFlag, Option.isSome_none, Bool.false_eq_true, and_false, if_false, if_true,
        concluded, ok_bind, give_of_spells free isSet]
      exact inductionHypothesis rfl once

end Arguments

section Environment

/-- An environment provides the values that its variables spell. -/
def Provides (environment : List (String × String)) (provided : Selection) : Prop :=
  ∀ setting, Option.Rel setting.kind.Spells (environment.lookup setting.environmentName)
    (provided setting)

variable {environment : List (String × String)} {provided : Selection}
  (provides : Provides environment provided)
include provides

/-- A variable adds a choice for its own setting, unless the arguments have made it. -/
theorem exists_addVariable {choices : List Choice} (once : choices.NodupKeys) (setting : Setting) :
    ∃ after : List Choice, after.NodupKeys ∧
      addVariable environment (choices.map Choice.entry) setting = .ok (after.map Choice.entry) ∧
      ∀ other, after.dlookup other =
        (choices.dlookup other).or (if other = setting then provided other else none) := by
  rw [addVariable]
  by_cases given : setting ∈ choices.keys
  · refine ⟨choices, once, if_pos (isGiven_iff.2 given), ?_⟩
    intro other
    split
    · next same =>
        obtain ⟨content, found⟩ := Option.isSome_iff_exists.1 (List.dlookup_isSome.2 given)
        rw [same, found, Option.some_or]
    · rw [Option.or_none]
  rw [if_neg (mt isGiven_iff.1 given)]
  have found := provides setting
  generalize environment.lookup setting.environmentName = raw?, own : provided setting = content?
    at found ⊢
  cases found with
  | none =>
      refine ⟨choices, once, rfl, fun other => ?_⟩
      split
      · next same => rw [same, own, Option.or_none]
      · rw [Option.or_none]
  | some spelled =>
      refine ⟨_, ?_, give_of_spells given spelled, fun other => ?_⟩
      · rw [List.nodupKeys_middle, List.append_nil]
        exact List.nodupKeys_cons.2 ⟨given, once⟩
      · rw [List.dlookup_append]
        split
        · next same =>
            subst same
            rw [own, List.dlookup_cons_eq]
        · next different => rw [List.dlookup_cons_ne _ _ different, List.dlookup_nil]

/-- The whole environment adds a choice for each of its settings that the arguments leave open. -/
theorem exists_environment (settings : List Setting) {choices : List Choice}
    (once : choices.NodupKeys) :
    ∃ after : List Choice, after.NodupKeys ∧
      settings.foldlM (addVariable environment) (choices.map Choice.entry) =
        .ok (after.map Choice.entry) ∧
      ∀ other, after.dlookup other =
        (choices.dlookup other).or (if other ∈ settings then provided other else none) := by
  induction settings generalizing choices with
  | nil =>
      refine ⟨choices, once, rfl, fun other => ?_⟩
      rw [if_neg List.not_mem_nil, Option.or_none]
  | cons setting settings inductionHypothesis =>
      obtain ⟨between, betweenOnce, added, first⟩ := exists_addVariable provides once setting
      obtain ⟨after, afterOnce, ran, rest⟩ := inductionHypothesis betweenOnce
      refine ⟨after, afterOnce, ?_, fun other => ?_⟩
      · rw [List.foldlM_cons, added, ok_bind, ran]
      · rw [rest, first, Option.or_assoc]
        by_cases same : other = setting
        · rw [if_pos same, if_pos (List.mem_cons.2 (.inl same))]
          cases provided other with
          | none => rw [Option.none_or, ite_self]
          | some content => rw [Option.some_or]
        · have elsewhere : other ∈ setting :: settings ↔ other ∈ settings := by
            rw [List.mem_cons, or_iff_right same]
          rw [if_neg same, Option.none_or]
          simp only [elsewhere]

end Environment

section Resolution

theorem mem_all (setting : Setting) : setting ∈ Setting.all := by
  cases setting <;> decide

/-- Choices are put into their fields, and all other fields stay as they are. -/
theorem foldl_apply {choices : List Choice} (once : choices.NodupKeys) (selected : Selection) :
    (choices.map Choice.entry).foldl (fun config entry => entry.1.apply entry.2 config)
        selected.config =
      Selection.config fun setting => (choices.dlookup setting).or (selected setting) := by
  induction choices generalizing selected with
  | nil => rfl
  | cons choice choices inductionHypothesis =>
      obtain ⟨setting, content⟩ := choice
      obtain ⟨free, later⟩ := List.nodupKeys_cons.1 once
      rw [List.map_cons, List.foldl_cons, Choice.entry]
      rw [Selection.apply_config, inductionHypothesis later]
      congr 1
      funext other
      by_cases same : other = setting
      · subst same
        rw [List.dlookup_eq_none.2 free, Option.none_or, Function.update_self, List.dlookup_cons_eq,
          Option.some_or]
      · rw [Function.update_of_ne same, List.dlookup_cons_ne _ _ same]

theorem resolve_eq {choices : List Choice} (once : choices.NodupKeys) :
    resolve (choices.map Choice.entry) = Selection.config choices.dlookup := by
  have defaults : ({} : Config) = Selection.config fun _ => none := rfl
  rw [resolve, defaults, foldl_apply once]
  simp only [Option.or_none]

variable {choices : List Choice} {arguments : List String} {environment : List (String × String)}
  {provided : Selection}

/-- The arguments come first, then the environment, and then the defaults. -/
theorem read_eq (once : choices.NodupKeys) (gives : Gives choices arguments)
    (provides : Provides environment provided) :
    read arguments environment = .ok (Selection.config fun setting =>
      (choices.dlookup setting).or (provided setting)) := by
  have scanned : scan [] .nothing (arguments.map Argument.read) = .ok (choices.map Choice.entry) :=
    @scan_of_gives choices arguments gives [] [] .nothing rfl once
  obtain ⟨after, afterOnce, ran, found⟩ := exists_environment provides Setting.all once
  rw [read, scanned, ok_bind, ran, ok_bind, pure_eq_ok, resolve_eq afterOnce]
  congr 2
  funext setting
  rw [found, if_pos (mem_all setting)]

/--
A process is configured by its arguments, then by its environment, then by the defaults, field by
field. The order of the options does not count, and whatever is changed about one setting, in the
arguments or in the environment, changes the field of that setting only.
-/
theorem read_fieldwise (once : choices.NodupKeys) (gives : Gives choices arguments)
    (provides : Provides environment provided) :
    read arguments environment = .ok (Selection.config fun setting =>
        (choices.dlookup setting).or (provided setting)) ∧
      (∀ reordered others, reordered.Perm choices → Gives reordered others →
        read others environment = read arguments environment) ∧
      ∀ setting changed others otherEnvironment otherProvided, changed.NodupKeys →
        Gives changed others → Provides otherEnvironment otherProvided →
        (∀ another, setting ≠ another → changed.dlookup another = choices.dlookup another ∧
          otherProvided another = provided another) →
        ∃ config after, read arguments environment = .ok config ∧
          read others otherEnvironment = .ok after ∧ AgreeExcept setting config after := by
  refine ⟨read_eq once gives provides, ?_, ?_⟩
  · intro reordered others permuted othersGive
    have alsoOnce := (List.perm_nodupKeys permuted).2 once
    have same (setting : Setting) : reordered.dlookup setting = choices.dlookup setting :=
      List.perm_dlookup setting alsoOnce permuted
    rw [read_eq once gives provides, read_eq alsoOnce othersGive provides]
    simp only [same]
  · intro setting changed others otherEnvironment otherProvided changedOnce othersGive
      othersProvide same
    refine ⟨_, _, read_eq once gives provides, read_eq changedOnce othersGive othersProvide, ?_⟩
    refine Selection.agreeExcept_config fun another different => ?_
    rw [(same another different).1, (same another different).2]

/-- Some variables are overridden by arguments, and the first one is none of ours. -/
def crowdedEnvironment : List (String × String) :=
  [("PATH", "/bin"), ("HOST", "localhost"), ("PORT", "08000"), ("INBOUND_PATH_PREFIX", "/inbound"),
    ("OUTBOUND_BASE_URL", "http://peer:9000"), ("REQUEST_TIMEOUT_MS", "100"),
    ("CONNECT_TIMEOUT_MS", "50"), ("MAX_BODY_SIZE", "9"), ("SECURE", "true"), ("HTTP2", "false")]

def crowdedSelection : Selection
  | .host => some "localhost"
  | .port => some (8000 : UInt16)
  | .pathPrefix => some "/inbound"
  | .outboundBaseUrl => some "http://peer:9000"
  | .requestTimeout => some (100 : UInt64)
  | .outboundTimeout => none
  | .connectTimeout => some (50 : UInt64)
  | .maxBodySize => some (9 : UInt64)
  | .secure => some true
  | .compress => none
  | .http2 => some false
  | .wiretap => none

def crowdedChoices : List Choice :=
  [⟨.wiretap, true⟩, ⟨.outboundTimeout, (250 : UInt64)⟩, ⟨.host, "0.0.0.0"⟩,
    ⟨.maxBodySize, (8 : UInt64)⟩]

/-- Each of the twelve settings but one comes from one of the two sources. -/
theorem read_fieldwise_crowded :
    read ["--wiretap", "--outbound-timeout-ms", "+250", "--host", "0.0.0.0", "--max-body-size", "8"]
        crowdedEnvironment =
      .ok
        { listen :=
            { host := "0.0.0.0"
              port := 8000
              pathPrefix := "/inbound"
              requestTimeout := some ⟨100000000⟩
              maxBodySize := 8 }
          remote :=
            { baseUrl := "http://peer:9000"
              timeout := some ⟨250000000⟩
              connectTimeout := some ⟨50000000⟩ }
          transport := { tls := true, compress := false, http2 := false, wiretap := true } } := by
  have once : crowdedChoices.keys.Nodup := by decide
  have gives : Gives crowdedChoices
      ["--wiretap", "--outbound-timeout-ms", "+250", "--host", "0.0.0.0", "--max-body-size", "8"] := by
    refine .flag rfl rfl (.option nofun ⟨true, 0, by decide⟩ (by decide) ?_)
    refine .option nofun rfl (by decide) (.option nofun ⟨false, 0, by decide⟩ (by decide) ?_)
    exact .nothing
  have provides : Provides crowdedEnvironment crowdedSelection := by
    intro setting
    cases setting with
    | host | pathPrefix | outboundBaseUrl | secure | http2 => exact .some rfl
    | port => exact .some ⟨false, 1, by decide⟩
    | requestTimeout | connectTimeout | maxBodySize => exact .some ⟨false, 0, by decide⟩
    | outboundTimeout | compress | wiretap => exact .none
  exact (read_fieldwise once gives provides).1

end Resolution

end Switchboard.CommandLine

import ServiceBeacon.CommandLine.Parser

namespace ServiceBeacon
namespace CommandLine

/-!
# What the command line and the environment set

Options with their values attached can be given in any order, as long as none is
repeated, and each of them sets just its own setting.  What they leave alone is
taken from the environment.  So a setting depends on at most one text, its
option's or else its variable's, and if these texts can be read the command line
is carried out.
-/

/-! ## Words -/

namespace Setting

/-- The option with a value attached to it. -/
def word (setting : Setting) (text : String) : String := "--" ++ setting.long ++ "=" ++ text

/-- Whether a text can be read as a value of a setting. -/
def accepts (setting : Setting) (text : String) : Bool :=
  match setting.kind with
  | .path => (readPath text).isOk
  | .text => true
  | .port => (readPort text).isOk
  | .flag => (readFlag text).isOk
  | .logFormat => (readLogFormat text).isOk

theorem ofLong?_long (setting : Setting) : ofLong? setting.long = some setting := by
  cases setting <;> rfl

theorem equals_notMem_long (setting : Setting) : '=' ∉ setting.long.toList := by
  cases setting <;> decide

theorem toList_word (setting : Setting) (text : String) :
    (setting.word text).toList = '-' :: '-' :: (setting.long.toList ++ '=' :: text.toList) := by
  simp only [word, String.toList_append, List.append_assoc]
  rfl

end Setting

/-- The text that is given for a setting: its option's, or else its variable's. -/
def givenText? (options : List (Setting × String)) (environment : Environment)
    (setting : Setting) : Option String :=
  (options.lookup setting).or (environmentValue? environment setting)

theorem splitAtEquals_append {name : List Char} (plain : '=' ∉ name) (value : List Char) :
    splitAtEquals (name ++ '=' :: value) = (name, some value) := by
  have other : ∀ c ∈ name, decide (c ≠ '=') = true := by
    intro c member
    exact decide_eq_true fun same => plain (same ▸ member)
  unfold splitAtEquals
  rw [List.dropWhile_append_of_pos other, List.takeWhile_append_of_pos other]
  simp

/-! ## Settings -/

/-- Whether a value is what a reader makes of a text, and absent where there is no text. -/
def ReadAs {α : Type} (read : String → Except BadValue α) (text : Option String)
    (value : Option α) : Prop :=
  text.map read = value.map .ok

theorem ReadAs.isSome {α : Type} {read : String → Except BadValue α} {text : Option String}
    {value : Option α} (reads : ReadAs read text value) : value.isSome = text.isSome := by
  have same := congrArg Option.isSome reads
  rw [Option.isSome_map, Option.isSome_map] at same
  exact same.symm

namespace Overrides

/-- Whether a setting is set to what a text denotes, and left alone where there is none. -/
def Holds (overrides : Overrides) (setting : Setting) (text : Option String) : Prop :=
  match setting with
  | .config => ReadAs readPath text overrides.config
  | .registryHost => ReadAs .ok text overrides.registryHost
  | .registryPort => ReadAs readPort text overrides.registryPort
  | .register => ReadAs readFlag text overrides.register
  | .serviceName => ReadAs .ok text overrides.serviceName
  | .port => ReadAs readPort text overrides.port
  | .containerName => ReadAs .ok text overrides.containerName
  | .serviceId => ReadAs .ok text overrides.serviceId
  | .tls => ReadAs readFlag text overrides.tls
  | .bindHost => ReadAs .ok text overrides.bindHost
  | .logLevel => ReadAs .ok text overrides.logLevel
  | .logFormat => ReadAs readLogFormat text overrides.logFormat
  | .metricsAddress => ReadAs .ok text overrides.metricsAddress

/-- Whether every setting is set to what its text denotes. -/
def Reads (overrides : Overrides) (texts : Setting → Option String) : Prop :=
  ∀ setting, overrides.Holds setting (texts setting)

theorem reads_none : none.Reads fun _ => .none := by
  intro setting
  cases setting <;> rfl

theorem Reads.congr {overrides : Overrides} {first second : Setting → Option String}
    (reads : overrides.Reads first) (same : ∀ setting, first setting = second setting) :
    overrides.Reads second :=
  fun setting => same setting ▸ reads setting

theorem Holds.isSet {overrides : Overrides} {setting : Setting} {text : Option String}
    (holds : overrides.Holds setting text) : overrides.isSet setting = text.isSome := by
  cases setting <;> exact ReadAs.isSome holds

/-- A text that can be read sets its setting and leaves all others alone. -/
theorem put_of_accepts (overrides : Overrides) {setting : Setting} {text : String}
    (accepted : setting.accepts text = true) :
    ∃ after, overrides.put setting text = .ok after ∧ after.Holds setting (some text) ∧
      ∀ other, other ≠ setting → after.Holds other = overrides.Holds other := by
  have readable : ∀ {α : Type} {read : Except BadValue α}, read.isOk = true →
      ∃ value, read = .ok value := by
    intro α read ok
    cases read with
    | error problem => cases ok
    | ok value => exact ⟨value, rfl⟩
  cases setting
  case registryHost | serviceName | containerName | serviceId | bindHost | logLevel |
      metricsAddress =>
    refine ⟨_, rfl, rfl, fun other different => ?_⟩
    cases other <;> first | rfl | exact absurd rfl different
  case config | registryPort | register | port | tls | logFormat =>
    rcases readable accepted with ⟨value, read⟩
    refine ⟨_, congrArg (Except.map _) read, congrArg some read, fun other different => ?_⟩
    cases other <;> first | rfl | exact absurd rfl different

end Overrides

/-- A setting that is not set yet can be set to every text that can be read. -/
theorem assign_of_accepts {given : Overrides} {texts : Setting → Option String}
    (reads : given.Reads texts) {setting : Setting} {text : String}
    (fresh : texts setting = none) (accepted : setting.accepts text = true) :
    ∃ after, assign given setting text = .ok after ∧
      after.Reads fun other => if other = setting then some text else texts other := by
  rcases given.put_of_accepts accepted with ⟨after, put, holds, others⟩
  refine ⟨after, ?_, fun other => ?_⟩
  · have unset : ¬ given.isSet setting = true := by
      rw [(reads setting).isSet, fresh]
      exact Bool.false_ne_true
    rw [assign, if_neg unset, put]
  · change after.Holds other (if other = setting then some text else texts other)
    by_cases same : other = setting
    · rw [if_pos same, same]
      exact holds
    · rw [if_neg same, others other same]
      exact reads other

/-! ## Options -/

theorem step_word (given : Overrides) (setting : Setting) (text : String) :
    step ⟨given, none, false⟩ (setting.word text) =
      (assign given setting text).map fun after => ⟨after, none, false⟩ := by
  have body : ∃ c rest, setting.long.toList ++ '=' :: text.toList = c :: rest := by
    cases setting <;> exact ⟨_, _, rfl⟩
  have met : meetLong ⟨given, none, false⟩ (setting.long.toList ++ '=' :: text.toList) =
      (assign given setting text).map fun after => ⟨after, none, false⟩ := by
    unfold meetLong
    rw [splitAtEquals_append setting.equals_notMem_long]
    dsimp only
    rw [String.ofList_toList, setting.ofLong?_long]
    dsimp only
    rw [Option.map_some, String.ofList_toList]
    unfold Progress.meet
    dsimp only
    change (assign given setting text).bind
      (fun after => .ok (Progress.mk after none false)) = _
    cases assign given setting text <;> rfl
  unfold step
  rw [setting.toList_word]
  rcases body with ⟨c, rest, split⟩
  rw [split] at met ⊢
  exact met

/-- Options set their settings, whatever their order, if no option is repeated and
their texts can be read. -/
theorem foldlM_words {given : Overrides} {texts : Setting → Option String}
    (reads : given.Reads texts) {options : List (Setting × String)}
    (once : (options.map Prod.fst).Nodup)
    (fresh : ∀ option ∈ options, texts option.1 = none)
    (accepted : ∀ option ∈ options, option.1.accepts option.2 = true) :
    ∃ after, (options.map fun option => option.1.word option.2).foldlM step
        ⟨given, none, false⟩ = .ok ⟨after, none, false⟩ ∧
      after.Reads fun setting => (options.lookup setting).or (texts setting) := by
  -- Each option finds its setting unset, since none before it was for that setting.
  induction options generalizing given texts with
  | nil => exact ⟨given, rfl, reads⟩
  | cons option rest inductionHypothesis =>
    rcases option with ⟨setting, text⟩
    have distinct := List.nodup_cons.mp once
    rcases assign_of_accepts reads (fresh _ List.mem_cons_self) (accepted _ List.mem_cons_self)
      with ⟨next, assigned, read⟩
    have different : ∀ option ∈ rest, option.1 ≠ setting := by
      intro option member same
      exact distinct.1 (List.mem_map.mpr ⟨option, member, same⟩)
    have later : ∀ option ∈ rest,
        (if option.1 = setting then some text else texts option.1) = none := by
      intro option member
      rw [if_neg (different option member)]
      exact fresh option (List.mem_cons_of_mem _ member)
    rcases inductionHypothesis read distinct.2 later
      fun option member => accepted option (List.mem_cons_of_mem _ member) with
      ⟨after, finished, complete⟩
    refine ⟨after, ?_, complete.congr fun other => ?_⟩
    · rw [List.map_cons, List.foldlM_cons, step_word, assigned]
      exact finished
    · by_cases same : other = setting
      · have absent : rest.lookup other = none := by
          rw [List.lookup_eq_none_iff]
          intro entry member
          exact bne_iff_ne.mpr fun equal => different entry member (equal.symm.trans same)
        rw [absent, if_pos same, List.lookup_cons, beq_iff_eq.mpr same]
        rfl
      · rw [if_neg same, List.lookup_cons, beq_eq_false_iff_ne.mpr same]

/-! ## The environment -/

/-- The environment's text for one setting. -/
def offered (environment : Environment) (setting other : Setting) : Option String :=
  if other = setting then environmentValue? environment other else none

/-- A setting that is left alone is taken from the environment. -/
theorem inherit_of_accepts {given : Overrides} {texts : Setting → Option String}
    (reads : given.Reads texts) {environment : Environment} {setting : Setting}
    (accepted : ∀ text, texts setting = none →
      environmentValue? environment setting = some text → setting.accepts text = true) :
    ∃ after, inherit environment given setting = .ok after ∧
      after.Reads fun other => (texts other).or (offered environment setting other) := by
  have set := (reads setting).isSet
  -- A setting that is set keeps its value, so only one that is not needs a look outside.
  have kept : (∀ text, texts setting = none → environmentValue? environment setting ≠ some text) →
      given.Reads fun other => (texts other).or (offered environment setting other) := by
    intro nothing
    refine reads.congr fun other => ?_
    unfold offered
    by_cases same : other = setting
    · rw [if_pos same, same]
      cases present : texts setting with
      | some text => rfl
      | none =>
        have absent : environmentValue? environment setting = none :=
          Option.eq_none_iff_forall_ne_some.mpr fun text => nothing text present
        rw [absent]
        rfl
    · rw [if_neg same, Option.or_none]
  unfold inherit
  cases present : texts setting with
  | some text =>
    rw [set, present]
    refine ⟨given, rfl, kept fun _ absent => ?_⟩
    cases absent.symm.trans present
  | none =>
    rw [set, present, Option.isSome_none, if_neg Bool.false_ne_true]
    cases found : environmentValue? environment setting with
    | none =>
      exact ⟨given, rfl, kept fun text _ some => Option.some_ne_none text (some.symm.trans found)⟩
    | some text =>
      rcases assign_of_accepts reads present (accepted text present found) with
        ⟨after, assigned, read⟩
      refine ⟨after, assigned, read.congr fun other => ?_⟩
      unfold offered
      by_cases same : other = setting
      · rw [if_pos same, if_pos same, same, present, found]
        rfl
      · rw [if_neg same, if_neg same, Option.or_none]

/-- Settings that are left alone are taken from the environment. -/
theorem foldlM_inherit {given : Overrides} {texts : Setting → Option String}
    (reads : given.Reads texts) {environment : Environment} {settings : List Setting}
    (accepted : ∀ setting text, texts setting = none →
      environmentValue? environment setting = some text → setting.accepts text = true) :
    ∃ after, settings.foldlM (inherit environment) given = .ok after ∧
      after.Reads fun setting =>
        (texts setting).or
          (if setting ∈ settings then environmentValue? environment setting else none) := by
  induction settings generalizing given texts with
  | nil =>
    refine ⟨given, rfl, reads.congr fun setting => ?_⟩
    rw [if_neg List.not_mem_nil, Option.or_none]
  | cons setting rest inductionHypothesis =>
    rcases inherit_of_accepts reads (accepted setting) with ⟨next, inherited, read⟩
    have later : ∀ other text, (texts other).or (offered environment setting other) = none →
        environmentValue? environment other = some text → other.accepts text = true :=
      fun other text absent => accepted other text (Option.or_eq_none_iff.mp absent).1
    rcases inductionHypothesis read later with ⟨after, finished, complete⟩
    refine ⟨after, ?_, complete.congr fun other => ?_⟩
    · rw [List.foldlM_cons, inherited]
      exact finished
    · rw [Option.or_assoc, offered]
      by_cases same : other = setting
      · rw [if_pos same, if_pos (List.mem_cons.mpr (Or.inl same))]
        cases environmentValue? environment other with
        | none => rw [ite_self]; rfl
        | some text => rfl
      · have listed : other ∈ setting :: rest ↔ other ∈ rest :=
          List.mem_cons.trans (or_iff_right same)
        rw [if_neg same, Option.none_or]
        simp only [listed]

/-- Whatever the order of the options, a command line without repetitions whose
texts can be read is carried out, and sets every setting to what is given for it. -/
theorem parse_words {options : List (Setting × String)} {environment : Environment}
    (once : (options.map Prod.fst).Nodup)
    (accepted : ∀ setting text, givenText? options environment setting = some text →
      setting.accepts text = true) :
    ∃ overrides,
      parse (options.map fun option => option.1.word option.2) environment = .ok overrides ∧
        overrides.Reads (givenText? options environment) := by
  have optionsAccepted : ∀ option ∈ options, option.1.accepts option.2 = true := by
    intro option member
    apply accepted
    have found : options.lookup option.1 = some option.2 := by
      rcases List.append_of_mem member with ⟨before, after, split⟩
      rw [List.lookup_eq_some_iff]
      refine ⟨before, after, split, fun entry listed => ?_⟩
      rw [split, List.map_append, List.map_cons] at once
      have apart := (List.nodup_append.mp once).2.2 entry.1 (List.mem_map_of_mem listed)
        option.1 List.mem_cons_self
      exact bne_iff_ne.mpr apart.symm
    rw [givenText?, found]
    rfl
  rcases foldlM_words Overrides.reads_none once (fun _ _ => rfl) optionsAccepted with
    ⟨given, read, reads⟩
  have environmentAccepted : ∀ setting text, ((options.lookup setting).or none) = none →
      environmentValue? environment setting = some text → setting.accepts text = true := by
    intro setting text absent offered
    apply accepted
    rw [Option.or_none] at absent
    rw [givenText?, absent, offered]
    rfl
  rcases @foldlM_inherit given _ reads environment Setting.all environmentAccepted with
    ⟨overrides, inherited, complete⟩
  refine ⟨overrides, ?_, complete.congr fun setting => ?_⟩
  · unfold parse Progress.start
    rw [read]
    exact inherited
  · rw [Option.or_none, if_pos setting.mem_all, givenText?]

end CommandLine
end ServiceBeacon

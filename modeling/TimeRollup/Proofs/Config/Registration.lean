import TimeRollup.Config.Basic
import TimeRollup.Proofs.Chain.Extension
import TimeRollup.Proofs.Session.Registrations

/-!
# Registering the aggregates of a configuration

The registry of a configuration holds one chain for each aggregate, in the order of the file, or there is
none.  Then what comes first in the file is at fault: the custom rules, or the first aggregate that cannot
be registered behind those before it.  The error names that aggregate if its name is taken or its chain
cannot be built, but not if its bucket widths or its definition cannot be read.
-/

namespace TimeRollup

namespace Config

variable {config : Config} {builder : ChainBuilder}

/-- The chain that the builder makes of an aggregate. -/
def IsChainOf (config : Config) (builder : ChainBuilder) (aggregate : AggregateSettings)
    (chain : Chain) : Prop :=
  ∃ sequence definition, aggregate.sequence config.compiler = .ok sequence ∧
    aggregate.definition = .ok definition ∧
      (builder.build definition sequence.toList).result = .ok chain

/-- The error about an aggregate that cannot be registered behind the given chains. -/
inductive RegistrationFault (config : Config) (builder : ChainBuilder) (chains : List Chain)
    (aggregate : AggregateSettings) : ConfigError → Prop
  | sequence {error : RollupError} (h : aggregate.sequence config.compiler = .error error) :
      RegistrationFault config builder chains aggregate (.rollup error)
  | definition {sequence : GranularitySequence} {error : RollupError}
      (hsequence : aggregate.sequence config.compiler = .ok sequence)
      (h : aggregate.definition = .error error) :
      RegistrationFault config builder chains aggregate (.rollup error)
  | duplicate {sequence : GranularitySequence} {definition : AggregateDefinition}
      (hsequence : aggregate.sequence config.compiler = .ok sequence)
      (hdefinition : aggregate.definition = .ok definition)
      (h : definition.name ∈ chains.map Chain.name) :
      RegistrationFault config builder chains aggregate
        (.aggregate aggregate.name (.duplicateDefinition definition.name))
  | build {sequence : GranularitySequence} {definition : AggregateDefinition} {error : RollupError}
      (hsequence : aggregate.sequence config.compiler = .ok sequence)
      (hdefinition : aggregate.definition = .ok definition)
      (hname : definition.name ∉ chains.map Chain.name)
      (h : (builder.build definition sequence.toList).result = .error error) :
      RegistrationFault config builder chains aggregate (.aggregate aggregate.name error)

/-! ## One aggregate -/

theorem mapError_eq_ok_iff {ε ε' α : Type} {result : Except ε α} {f : ε → ε'} {value : α} :
    result.mapError f = .ok value ↔ result = .ok value := by
  cases result <;> simp [Except.mapError]

theorem mapError_eq_error_iff {ε ε' α : Type} {result : Except ε α} {f : ε → ε'} {error : ε'} :
    result.mapError f = .error error ↔ ∃ cause, result = .error cause ∧ f cause = error := by
  cases result <;> simp [Except.mapError]

theorem find?_name_eq_none_iff {chains : List Chain} {name : String} :
    chains.find? (·.name == name) = none ↔ name ∉ chains.map Chain.name := by
  simp

theorem result_register (registry : Registry) (aggregate : AggregateSettings) :
    (config.register registry aggregate).result = (do
      let sequence ← (aggregate.sequence config.compiler).mapError .rollup
      let definition ← aggregate.definition.mapError .rollup
      let chain ← (registry.buildChain definition sequence.toList).result.mapError
        (.aggregate aggregate.name)
      return { registry with chains := registry.chains ++ [chain] }) := by
  rw [register, Outcome.result_bind, Outcome.ofExcept]
  congr 1
  funext sequence
  rw [Outcome.result_bind, Outcome.ofExcept]
  congr 1
  funext definition
  rw [Outcome.result_bind, Outcome.mapError, Registry.register, Outcome.result_bind]
  cases (registry.buildChain definition sequence.toList).result <;> rfl

variable {chains : List Chain} {aggregate : AggregateSettings} {options : ViewOptions}

theorem register_eq_ok_iff {registry : Registry} :
    (config.register ⟨builder, options, chains⟩ aggregate).result = .ok registry ↔
      ∃ chain, config.IsChainOf builder aggregate chain ∧ chain.name ∉ chains.map Chain.name ∧
        registry = ⟨builder, options, chains ++ [chain]⟩ := by
  simp only [result_register, bind_eq_ok_iff, mapError_eq_ok_iff, Registry.buildChain_eq_ok_iff,
    find?_name_eq_none_iff]
  constructor
  · rintro ⟨sequence, hsequence, definition, hdefinition, chain, ⟨hname, hbuild⟩, hregistry⟩
    rw [← ChainBuilder.name_of_build hbuild] at hname
    exact ⟨chain, ⟨sequence, definition, hsequence, hdefinition, hbuild⟩, hname,
      (Except.ok.inj hregistry).symm⟩
  · rintro ⟨chain, ⟨sequence, definition, hsequence, hdefinition, hbuild⟩, hname, rfl⟩
    rw [ChainBuilder.name_of_build hbuild] at hname
    exact ⟨sequence, hsequence, definition, hdefinition, chain, ⟨hname, hbuild⟩, rfl⟩

theorem buildChain_eq_error_iff {registry : Registry} {definition : AggregateDefinition}
    {granularities : List Granularity} {error : RollupError} :
    (registry.buildChain definition granularities).result = .error error ↔
      (definition.name ∈ registry.chains.map Chain.name ∧
          error = .duplicateDefinition definition.name) ∨
        definition.name ∉ registry.chains.map Chain.name ∧
          (registry.builder.build definition granularities).result = .error error := by
  have hname := @find?_name_eq_none_iff registry.chains definition.name
  rw [← Option.not_isSome_iff_eq_none, not_iff_not] at hname
  rw [Registry.result_buildChain, ← hname]
  split
  · rename_i htaken
    simp only [htaken, Except.error.injEq, true_and, not_true_eq_false, false_and, or_false]
    exact eq_comm
  · rename_i hfree
    simp [hfree]

theorem register_eq_error_iff {error : ConfigError} :
    (config.register ⟨builder, options, chains⟩ aggregate).result = .error error ↔
      config.RegistrationFault builder chains aggregate error := by
  simp only [result_register, bind_eq_error_iff, mapError_eq_error_iff, mapError_eq_ok_iff,
    buildChain_eq_error_iff]
  constructor
  · rintro (⟨cause, h, rfl⟩ | ⟨sequence, hsequence, ⟨cause, h, rfl⟩ | ⟨definition, hdefinition,
      ⟨cause, ⟨hname, rfl⟩ | ⟨hname, h⟩, rfl⟩ | ⟨chain, -, h⟩⟩⟩)
    · exact .sequence h
    · exact .definition hsequence h
    · exact .duplicate hsequence hdefinition hname
    · exact .build hsequence hdefinition hname h
    · exact absurd h (by simp [pure, Except.pure])
  · rintro (h | ⟨hsequence, h⟩ | ⟨hsequence, hdefinition, hname⟩ |
      ⟨hsequence, hdefinition, hname, h⟩)
    · exact .inl ⟨_, h, rfl⟩
    · exact .inr ⟨_, hsequence, .inl ⟨_, h, rfl⟩⟩
    · exact .inr ⟨_, hsequence, .inr ⟨_, hdefinition, .inl ⟨_, .inl ⟨hname, rfl⟩, rfl⟩⟩⟩
    · exact .inr ⟨_, hsequence, .inr ⟨_, hdefinition, .inl ⟨_, .inr ⟨hname, h⟩, rfl⟩⟩⟩

/-! ## All aggregates -/

theorem nodup_names_append_singleton {chain : Chain} :
    ((chains ++ [chain]).map Chain.name).Nodup ↔
      chain.name ∉ chains.map Chain.name ∧ (chains.map Chain.name).Nodup := by
  rw [List.map_append, List.nodup_append_comm]
  exact List.nodup_cons

theorem nodup_names_of_append {more : List Chain} (h : ((chains ++ more).map Chain.name).Nodup) :
    (chains.map Chain.name).Nodup :=
  h.sublist ((List.sublist_append_left chains more).map Chain.name)

theorem registerAll_eq_ok_iff {aggregates : List AggregateSettings} {registry : Registry}
    (hnames : (chains.map Chain.name).Nodup) :
    (config.registerAll ⟨builder, options, chains⟩ aggregates).result = .ok registry ↔
      ∃ more, List.Forall₂ (config.IsChainOf builder) aggregates more ∧
        ((chains ++ more).map Chain.name).Nodup ∧
          registry = ⟨builder, options, chains ++ more⟩ := by
  induction aggregates generalizing chains with
  | nil =>
    simp only [registerAll, Outcome.pure_eq, Except.ok.injEq, List.forall₂_nil_left_iff,
      exists_eq_left, List.append_nil]
    exact ⟨fun h => ⟨hnames, h.symm⟩, fun h => h.2.symm⟩
  | cons aggregate aggregates ih =>
    simp only [registerAll, Outcome.result_bind, bind_eq_ok_iff, register_eq_ok_iff]
    constructor
    · rintro ⟨_, ⟨chain, hchain, hfree, rfl⟩, hlater⟩
      have hbegun := nodup_names_append_singleton.2 ⟨hfree, hnames⟩
      obtain ⟨more, hmore, hdistinct, rfl⟩ := (ih hbegun).1 hlater
      exact ⟨chain :: more, .cons hchain hmore, by simpa using hdistinct, by simp⟩
    · rintro ⟨_, hmore, hdistinct, hregistry⟩
      cases hmore with
      | @cons _ chain _ more hchain hmore =>
        rw [List.append_cons] at hdistinct hregistry
        have hbegun := nodup_names_of_append hdistinct
        exact ⟨_, ⟨chain, hchain, (nodup_names_append_singleton.1 hbegun).1, rfl⟩,
          (ih hbegun).2 ⟨more, hmore, hdistinct, hregistry⟩⟩

theorem registerAll_eq_error_iff {aggregates : List AggregateSettings} {error : ConfigError}
    (hnames : (chains.map Chain.name).Nodup) :
    (config.registerAll ⟨builder, options, chains⟩ aggregates).result = .error error ↔
      ∃ before aggregate after more, aggregates = before ++ aggregate :: after ∧
        List.Forall₂ (config.IsChainOf builder) before more ∧
          ((chains ++ more).map Chain.name).Nodup ∧
            config.RegistrationFault builder (chains ++ more) aggregate error := by
  induction aggregates generalizing chains with
  | nil => simp [registerAll]
  | cons first aggregates ih =>
    simp only [registerAll, Outcome.result_bind, bind_eq_error_iff, register_eq_ok_iff,
      register_eq_error_iff]
    constructor
    · rintro (hfault | ⟨_, ⟨chain, hchain, hfree, rfl⟩, hlater⟩)
      · exact ⟨[], first, aggregates, [], rfl, .nil, by simpa using hnames, by simpa using hfault⟩
      · have hbegun := nodup_names_append_singleton.2 ⟨hfree, hnames⟩
        obtain ⟨before, aggregate, after, more, rfl, hmore, hdistinct, hfault⟩ := (ih hbegun).1 hlater
        rw [← List.append_cons] at hdistinct hfault
        exact ⟨first :: before, aggregate, after, chain :: more, rfl, .cons hchain hmore, hdistinct,
          hfault⟩
    · rintro ⟨before, aggregate, after, _, heq, hmore, hdistinct, hfault⟩
      cases hmore with
      | nil =>
        obtain ⟨rfl, -⟩ := List.cons.inj heq
        exact .inl (by simpa using hfault)
      | @cons _ chain before more hchain hmore =>
        obtain ⟨rfl, rfl⟩ := List.cons.inj heq
        rw [List.append_cons] at hdistinct hfault
        have hbegun := nodup_names_of_append hdistinct
        exact .inr ⟨_, ⟨chain, hchain, (nodup_names_append_singleton.1 hbegun).1, rfl⟩,
          (ih hbegun).2 ⟨before, aggregate, after, more, rfl, hmore, hdistinct, hfault⟩⟩

/-! ## The registry -/

/-- The chains that the builder makes of aggregates, in their order and under different names. -/
structure AreChainsOf (config : Config) (builder : ChainBuilder)
    (aggregates : List AggregateSettings) (chains : List Chain) : Prop where
  each : List.Forall₂ (config.IsChainOf builder) aggregates chains
  names : (chains.map Chain.name).Nodup

/-- What keeps the registry from coming about: the custom rules, or the first aggregate that cannot be
registered. -/
inductive Fails (config : Config) : ConfigError → Prop
  | rules {error : RollupError} (h : RuleTable.ofRules config.compiler.rules = .error error) :
      Fails config (.rollup error)
  | registration {table : RuleTable} {before after : List AggregateSettings}
      {aggregate : AggregateSettings} {chains : List Chain} {error : ConfigError}
      (hrules : RuleTable.ofRules config.compiler.rules = .ok table)
      (haggregates : config.aggregates = before ++ aggregate :: after)
      (hbefore : config.AreChainsOf ⟨table, config.compiler.strict⟩ before chains)
      (h : config.RegistrationFault ⟨table, config.compiler.strict⟩ chains aggregate error) :
      Fails config error

theorem result_registry (config : Config) :
    config.registry.result = (do
      let table ← (RuleTable.ofRules config.compiler.rules).mapError .rollup
      (config.registerAll ⟨⟨table, config.compiler.strict⟩, config.options, []⟩
        config.aggregates).result) := by
  rw [registry, Config.builder, Outcome.result_bind, Outcome.ofExcept]
  cases RuleTable.ofRules config.compiler.rules <;> rfl

/-- The registry of a configuration is made of the chains of all its aggregates in their order, or what
is at fault first is the error.  That error names an aggregate only if its name is taken or its chain
cannot be built. -/
theorem result_registry_iff (config : Config) :
    (∀ registry, config.registry.result = .ok registry ↔
      ∃ table chains, RuleTable.ofRules config.compiler.rules = .ok table ∧
        config.AreChainsOf ⟨table, config.compiler.strict⟩ config.aggregates chains ∧
          registry = ⟨⟨table, config.compiler.strict⟩, config.options, chains⟩) ∧
      ∀ error, config.registry.result = .error error ↔ config.Fails error := by
  have hstart : (([] : List Chain).map Chain.name).Nodup := List.nodup_nil
  constructor
  · intro registry
    simp only [result_registry, bind_eq_ok_iff, mapError_eq_ok_iff, registerAll_eq_ok_iff hstart,
      List.nil_append]
    constructor
    · rintro ⟨table, hrules, chains, hchains, hnames, rfl⟩
      exact ⟨table, chains, hrules, ⟨hchains, hnames⟩, rfl⟩
    · rintro ⟨table, chains, hrules, ⟨hchains, hnames⟩, rfl⟩
      exact ⟨table, hrules, chains, hchains, hnames, rfl⟩
  · intro error
    simp only [result_registry, bind_eq_error_iff, mapError_eq_ok_iff, mapError_eq_error_iff,
      registerAll_eq_error_iff hstart, List.nil_append]
    constructor
    · rintro (⟨fault, hrules, rfl⟩ | ⟨table, hrules, before, aggregate, after, chains, haggregates,
        hbefore, hnames, hfault⟩)
      · exact .rules hrules
      · exact .registration hrules haggregates ⟨hbefore, hnames⟩ hfault
    · rintro (hrules | ⟨hrules, haggregates, ⟨hbefore, hnames⟩, hfault⟩)
      · exact .inl ⟨_, hrules, rfl⟩
      · exact .inr ⟨_, hrules, _, _, _, _, haggregates, hbefore, hnames, hfault⟩

/-- An aggregate whose select list cannot be read. -/
def unaliased : Config :=
  { Config.standard with
    aggregates := [⟨"ticks", "trades", "ts", ["sum(price)"], [], none, none, []⟩] }

/-- An error that names no aggregate need not be one about the rules. -/
theorem not_result_registry_rollup :
    ¬ ∀ (config : Config) (error : RollupError),
      config.registry.result = .error (.rollup error) →
        RuleTable.ofRules config.compiler.rules = .error error := by
  intro h
  have hrules := h unaliased (.parse "select item 'sum(price)' needs an alias") (by decide +kernel)
  exact absurd hrules (by decide +kernel)

end Config

end TimeRollup

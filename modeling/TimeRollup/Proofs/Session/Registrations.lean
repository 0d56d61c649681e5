import Mathlib.Data.List.Induction
import TimeRollup.Proofs.Chain.Structure
import TimeRollup.Session

/-!
# What a session has registered

The chains of a registry have different names, and each is the one that was built by the first request
for its name that could be met.  A view is named after its chain and its bucket width, and both can be
read off the name, so no two views of a registry share a table.
-/

namespace TimeRollup

/-! ## Names of tables -/

theorem Granularity.underscore_notMem_name (granularity : Granularity) :
    '_' ∉ granularity.name.toList := by
  cases granularity <;> decide

theorem Granularity.name_injective {left right : Granularity} (h : left.name = right.name) :
    left = right := by
  rw [← Option.some.injEq, ← ofUnitName?_name left, ← ofUnitName?_name right, h]

/-- No bucket width has an underscore in its name, so the last one of a table name is where the name of
the bucket width begins. -/
theorem AggregateDefinition.eq_of_tableName_eq {left right : AggregateDefinition}
    {fine coarse : Granularity} (h : left.tableName fine = right.tableName coarse) :
    left.name = right.name ∧ fine = coarse := by
  have hsplit (definition : AggregateDefinition) (granularity : Granularity) :
      (definition.tableName granularity).toList =
        (definition.name ++ "_per").toList ++ '_' :: granularity.name.toList := by
    simp [tableName]
  have hchars := congrArg String.toList h
  rw [hsplit, hsplit] at hchars
  obtain ⟨hname, hwidth⟩ := Text.eq_of_append_cons_eq fine.underscore_notMem_name
    coarse.underscore_notMem_name hchars
  simp only [String.toList_append, List.append_cancel_right_eq, String.toList_inj] at hname
  exact ⟨hname, Granularity.name_injective (String.toList_inj.1 hwidth)⟩

/-! ## One registration -/

theorem ChainBuilder.name_of_build {builder : ChainBuilder} {definition : AggregateDefinition}
    {granularities : List Granularity} {chain : Chain}
    (h : (builder.build definition granularities).result = .ok chain) :
    chain.name = definition.name := by
  obtain ⟨sequence, -, rfl, -⟩ := exists_of_build h
  rfl

namespace Registry

/-- All views, chain by chain. -/
def views (registry : Registry) : List View :=
  registry.chains.flatMap Chain.views

theorem result_buildChain (registry : Registry) (definition : AggregateDefinition)
    (granularities : List Granularity) :
    (registry.buildChain definition granularities).result =
      if (registry.chains.find? (·.name == definition.name)).isSome then
        .error (.duplicateDefinition definition.name)
      else (registry.builder.build definition granularities).result := by
  rw [buildChain, List.isSome_find?]
  split <;> rfl

theorem buildChain_eq_ok_iff {registry : Registry} {definition : AggregateDefinition}
    {granularities : List Granularity} {chain : Chain} :
    (registry.buildChain definition granularities).result = .ok chain ↔
      registry.chains.find? (·.name == definition.name) = none ∧
        (registry.builder.build definition granularities).result = .ok chain := by
  rw [result_buildChain, ← Option.not_isSome_iff_eq_none]
  split <;> simp [*]

end Registry

/-- The chain with which a request registers a name that is free. -/
def Request.chain? (builder : ChainBuilder) (name : String) : Request → Option Chain
  | .register definition granularities =>
    if definition.name = name then (builder.build definition granularities).result.toOption
    else none
  | .perform _ => none

/-! ## All registrations -/

/-- What is in a registry after some requests. -/
structure Registry.Holds (registry : Registry) (builder : ChainBuilder)
    (requests : List Request) : Prop where
  builder_eq : registry.builder = builder
  built : ∀ chain ∈ registry.chains, ∃ definition granularities,
    (builder.build definition granularities).result = .ok chain
  names : (registry.chains.map Chain.name).Nodup
  first : ∀ name, registry.chains.find? (·.name == name) =
    requests.findSome? (Request.chain? builder name)

namespace Session

variable {builder : ChainBuilder} {options : ViewOptions} {log : StatementLog}
  {session : Session} {requests : List Request}

theorem holds_start : (start builder options log).registry.Holds builder [] where
  builder_eq := rfl
  built := by simp [start, Registry.empty]
  names := List.nodup_nil
  first _ := rfl

/-- A registration that fails would not have been the first one of any name. -/
theorem holds_of_error (hholds : session.registry.Holds builder requests)
    {definition : AggregateDefinition} {granularities : List Granularity} {error : RollupError}
    (herror : (session.registry.buildChain definition granularities).result = .error error) :
    session.registry.Holds builder (requests ++ [.register definition granularities]) := by
  refine { hholds with first := fun name => ?_ }
  rw [List.findSome?_append, ← hholds.first, List.findSome?_singleton, Request.chain?]
  rw [Registry.result_buildChain, hholds.builder_eq] at herror
  by_cases hname : definition.name = name
  · subst hname
    split at herror
    -- The name is taken, whether or not a chain could be built for it now.
    · rename_i htaken
      rw [Option.or_eq_left_of_isSome htaken]
    · simp [herror, Except.toOption]
  · simp [hname]

theorem holds_of_ok (hholds : session.registry.Holds builder requests)
    {definition : AggregateDefinition} {granularities : List Granularity} {chain : Chain}
    (hchain : (session.registry.buildChain definition granularities).result = .ok chain) :
    { session.registry with chains := session.registry.chains ++ [chain] : Registry }.Holds
      builder (requests ++ [.register definition granularities]) := by
  obtain ⟨hfree, hbuild⟩ := Registry.buildChain_eq_ok_iff.1 hchain
  rw [hholds.builder_eq] at hbuild
  have hname := ChainBuilder.name_of_build hbuild
  have hbuilt : ∀ other ∈ session.registry.chains ++ [chain], ∃ definition granularities,
      (builder.build definition granularities).result = .ok other := by
    intro other hmem
    rcases List.mem_append.1 hmem with hmem | hmem
    · exact hholds.built other hmem
    · obtain rfl := List.mem_singleton.1 hmem
      exact ⟨definition, granularities, hbuild⟩
  have hnames : ((session.registry.chains ++ [chain]).map Chain.name).Nodup := by
    rw [List.map_append, List.nodup_append]
    refine ⟨hholds.names, List.nodup_singleton _, ?_⟩
    simpa [hname] using hfree
  have hfirst (name : String) : (session.registry.chains ++ [chain]).find? (·.name == name) =
      (requests ++ [Request.register definition granularities]).findSome?
        (Request.chain? builder name) := by
    rw [List.find?_append, List.findSome?_append, hholds.first, List.findSome?_singleton,
      Request.chain?, hbuild, ← hname, List.find?_singleton]
    simp [Except.toOption]
  exact ⟨hholds.builder_eq, hbuilt, hnames, hfirst⟩

theorem holds_step (hholds : session.registry.Holds builder requests) (request : Request) :
    (session.step request).2.registry.Holds builder (requests ++ [request]) := by
  cases request with
  | perform operation =>
    rw [registry_step_perform]
    refine { hholds with first := fun name => ?_ }
    rw [List.findSome?_append, ← hholds.first, List.findSome?_singleton, Request.chain?,
      Option.or_none]
  | register definition granularities =>
    cases hresult : (session.registry.buildChain definition granularities).result with
    | error error =>
      rw [step_register_of_error hresult]
      exact holds_of_error hholds hresult
    | ok chain =>
      rw [step_register_of_ok hresult]
      exact holds_of_ok hholds hresult

theorem holds_run (builder : ChainBuilder) (options : ViewOptions) (log : StatementLog)
    (requests : List Request) :
    ((start builder options log).run requests).registry.Holds builder requests := by
  induction requests using List.reverseRecOn with
  | nil => exact holds_start
  | append_singleton requests request ih =>
    rw [run_concat]
    exact holds_step ih request

end Session

/-- Every chain of a registry was built for a request. -/
theorem Registry.Holds.exists_register {registry : Registry} {builder : ChainBuilder}
    {requests : List Request} (hholds : registry.Holds builder requests) {chain : Chain}
    (hchain : chain ∈ registry.chains) :
    ∃ definition granularities, .register definition granularities ∈ requests ∧
      (builder.build definition granularities).result = .ok chain := by
  have hfind := find?_eq_some_of_nodup_map hholds.names hchain
  rw [hholds.first] at hfind
  obtain ⟨request, hrequest, hbuilt⟩ := List.exists_of_findSome?_eq_some hfind
  cases request with
  | perform operation => cases hbuilt
  | register definition granularities =>
    rw [Request.chain?, Option.ite_none_right_eq_some] at hbuilt
    refine ⟨definition, granularities, hrequest, ?_⟩
    cases hresult : (builder.build definition granularities).result with
    | error error =>
      rw [hresult] at hbuilt
      cases hbuilt.2
    | ok built =>
      rw [hresult] at hbuilt
      exact congrArg Except.ok (Option.some.inj hbuilt.2)

/-! ## Distinct tables -/

namespace ChainBuilder

variable {builder : ChainBuilder} {definition : AggregateDefinition}
  {granularities : List Granularity} {chain : Chain}

theorem map_tableName_views_of_build
    (h : (builder.build definition granularities).result = .ok chain) :
    chain.views.map View.tableName = granularities.map definition.tableName := by
  have htable : ∀ view ∈ chain.views,
      view.tableName = definition.tableName view.granularity := by
    intro view hmem
    obtain ⟨level, hview⟩ := List.mem_iff_getElem?.1 hmem
    exact (isLevel_of_build h hview).tableName
  obtain ⟨sequence, hsequence, hchain, -⟩ := exists_of_build h
  rw [List.map_congr_left htable, ← GranularitySequence.toList_of_ofList hsequence,
    ← map_granularity_views_chainOver sequence, ← hchain, List.map_map]
  rfl

theorem nodup_of_build (h : (builder.build definition granularities).result = .ok chain) :
    granularities.Nodup := by
  obtain ⟨sequence, hsequence, -⟩ := exists_of_build h
  exact GranularitySequence.toList_of_ofList hsequence ▸ sequence.nodup

theorem nodup_tables_of_build
    (h : (builder.build definition granularities).result = .ok chain) :
    (chain.views.map View.tableName).Nodup := by
  rw [map_tableName_views_of_build h]
  exact (nodup_of_build h).map fun _ _ heq => (AggregateDefinition.eq_of_tableName_eq heq).2

/-- Chains of different names have no table in common. -/
theorem disjoint_tables_of_build {other : AggregateDefinition} {widths : List Granularity}
    {second : Chain} (h : (builder.build definition granularities).result = .ok chain)
    (hother : (builder.build other widths).result = .ok second)
    (hne : chain.name ≠ second.name) :
    (chain.views.map View.tableName).Disjoint (second.views.map View.tableName) := by
  rw [map_tableName_views_of_build h, map_tableName_views_of_build hother]
  rw [name_of_build h, name_of_build hother] at hne
  intro table hmem hmemOther
  obtain ⟨fine, -, rfl⟩ := List.mem_map.1 hmem
  obtain ⟨coarse, -, htable⟩ := List.mem_map.1 hmemOther
  exact hne (AggregateDefinition.eq_of_tableName_eq htable).1.symm

end ChainBuilder

theorem Registry.Holds.nodup_tables {registry : Registry} {builder : ChainBuilder}
    {requests : List Request} (hholds : registry.Holds builder requests) :
    (registry.views.map View.tableName).Nodup := by
  rw [Registry.views, List.map_flatMap, List.nodup_flatMap]
  constructor
  · intro chain hmem
    obtain ⟨definition, granularities, hbuild⟩ := hholds.built chain hmem
    exact ChainBuilder.nodup_tables_of_build hbuild
  · have hnames := List.pairwise_map.1 hholds.names
    refine hnames.imp_of_mem fun {chain other} hmem hmemOther hne => ?_
    obtain ⟨definition, granularities, hbuild⟩ := hholds.built chain hmem
    obtain ⟨second, widths, hbuildOther⟩ := hholds.built other hmemOther
    exact ChainBuilder.disjoint_tables_of_build hbuild hbuildOther hne

/-! ## The registry of a session -/

/-- What a session has registered after some requests, and what it makes of one more registration. -/
structure Session.Registers (session : Session) (builder : ChainBuilder)
    (requests : List Request) : Prop where
  names_nodup : (session.registry.chains.map Chain.name).Nodup
  /-- The chain of a name is the one that was built for the first request that could be met. -/
  chain_eq : ∀ name, session.registry.chain name =
    match requests.findSome? (Request.chain? builder name) with
    | some chain => .ok chain
    | none => .error (.definitionNotFound name)
  /-- A name is registered once, with the chain that is built from its definition. -/
  answer_eq : ∀ definition granularities,
    (session.step (.register definition granularities)).1.result =
      match requests.findSome? (Request.chain? builder definition.name) with
      | some _ => .error (.duplicateDefinition definition.name)
      | none => (builder.build definition granularities).result.map .registered
  unchanged : ∀ {definition granularities error},
    (session.step (.register definition granularities)).1.result = .error error →
      (session.step (.register definition granularities)).2 = session
  grows : ∀ {definition granularities answer},
    (session.step (.register definition granularities)).1.result = .ok answer →
      ∃ chain, answer = .registered chain ∧
        (session.step (.register definition granularities)).2.registry.chains =
          session.registry.chains ++ [chain]
  tables_nodup : (session.registry.views.map View.tableName).Nodup

namespace Session

variable {builder : ChainBuilder} {session : Session} {requests : List Request}

theorem result_step_register (session : Session) (definition : AggregateDefinition)
    (granularities : List Granularity) :
    (session.step (.register definition granularities)).1.result =
      (session.registry.buildChain definition granularities).result.map .registered := by
  cases hresult : (session.registry.buildChain definition granularities).result with
  | error error =>
    rw [step_register_of_error hresult]
    rfl
  | ok chain =>
    rw [step_register_of_ok hresult]
    rfl

theorem step_register_eq_of_error {definition : AggregateDefinition}
    {granularities : List Granularity} {error : RollupError}
    (h : (session.step (.register definition granularities)).1.result = .error error) :
    (session.step (.register definition granularities)).2 = session := by
  cases hresult : (session.registry.buildChain definition granularities).result with
  | error error => rw [step_register_of_error hresult]
  | ok chain => simp [step_register_of_ok hresult] at h

theorem exists_chain_of_step_register {definition : AggregateDefinition}
    {granularities : List Granularity} {answer : Answer}
    (h : (session.step (.register definition granularities)).1.result = .ok answer) :
    ∃ chain, answer = .registered chain ∧
      (session.step (.register definition granularities)).2.registry.chains =
        session.registry.chains ++ [chain] := by
  cases hresult : (session.registry.buildChain definition granularities).result with
  | error error => simp [step_register_of_error hresult] at h
  | ok chain =>
    rw [step_register_of_ok hresult, Except.ok.injEq] at h
    exact ⟨chain, h.symm, by rw [step_register_of_ok hresult]⟩

/-- Whatever a session is asked for, in whatever order and with whatever failures. -/
theorem registers_run (builder : ChainBuilder) (options : ViewOptions) (log : StatementLog)
    (requests : List Request) :
    ((start builder options log).run requests).Registers builder requests := by
  have hholds := holds_run builder options log requests
  exact {
    names_nodup := hholds.names
    chain_eq := fun name => by
      have hfirst := hholds.first name
      cases hfound : requests.findSome? (Request.chain? builder name) <;>
        simp [Registry.chain, hfirst, hfound]
    answer_eq := fun definition granularities => by
      rw [result_step_register, Registry.result_buildChain, hholds.builder_eq, hholds.first]
      cases requests.findSome? (Request.chain? builder definition.name) <;> rfl
    unchanged := step_register_eq_of_error
    grows := exists_chain_of_step_register
    tables_nodup := hholds.nodup_tables }

end Session

end TimeRollup

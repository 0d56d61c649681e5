import Mathlib.Data.List.Flatten
import TimeRollup.Proofs.Session.Registrations

/-!
# The order of the statements of a registry

The views of a registry are created chain by chain, the finest of each chain first, so that a view is
created after the view that it reads, and the policy of a view is added right after the view is created.
Views are dropped, and policies removed, in the opposite order.
-/

namespace TimeRollup

namespace Statement

/-- The view that the statement creates. -/
def createdTable? : Statement → Option String
  | .createView table _ _ => some table
  | _ => none

/-- The view that the statement adds a policy to. -/
def scheduledTable? : Statement → Option String
  | .addPolicy table _ => some table
  | _ => none

end Statement

/-! ## The statements of one view -/

namespace View

theorem filter_createdTable_createStatements (view : View) (options : ViewOptions)
    (table : String) :
    (view.createStatements options).filter (·.createdTable? == some table) =
      if view.tableName = table then [view.createStatement options] else [] := by
  cases hpolicy : view.refreshPolicy <;>
    simp [createStatements, createStatement, policyStatement?, hpolicy, Statement.createdTable?,
      List.filter_cons]

theorem filter_scheduledTable_createStatements (view : View) (options : ViewOptions)
    (table : String) :
    (view.createStatements options).filter (·.scheduledTable? == some table) =
      if view.tableName = table then view.policyStatement?.toList else [] := by
  cases hpolicy : view.refreshPolicy <;>
    simp [createStatements, createStatement, policyStatement?, hpolicy, Statement.scheduledTable?,
      List.filter_cons]

theorem filterMap_createdTable_createStatements (view : View) (options : ViewOptions) :
    (view.createStatements options).filterMap Statement.createdTable? = [view.tableName] := by
  cases hpolicy : view.refreshPolicy <;>
    simp [createStatements, createStatement, policyStatement?, hpolicy, Statement.createdTable?]

theorem filterMap_scheduledTable_createStatements (view : View) (options : ViewOptions) :
    (view.createStatements options).filterMap Statement.scheduledTable? =
      if view.refreshPolicy.isSome then [view.tableName] else [] := by
  cases hpolicy : view.refreshPolicy with
  | none =>
    simp [createStatements, createStatement, policyStatement?, hpolicy, Statement.scheduledTable?]
  | some policy =>
    rw [createStatements, policyStatement?, hpolicy]
    rfl

end View

/-! ## The statements of all views -/

/-- Where keys are distinct, what is collected for one key comes from one member. -/
theorem flatMap_eq_of_nodup_map {α β κ : Type} {key : α → κ} {members : List α} {member : α}
    {f : α → List β} (hnodup : (members.map key).Nodup) (hmem : member ∈ members)
    (hother : ∀ other, key other ≠ key member → f other = []) :
    members.flatMap f = f member := by
  obtain ⟨before, after, rfl⟩ := List.append_of_mem hmem
  rw [List.map_append, List.map_cons, List.nodup_middle, List.nodup_cons, List.mem_append,
    not_or] at hnodup
  have hbefore : before.flatMap f = [] := List.flatMap_eq_nil_iff.2 fun other hother' =>
    hother other fun heq => hnodup.1.1 (heq ▸ List.mem_map_of_mem hother')
  have hafter : after.flatMap f = [] := List.flatMap_eq_nil_iff.2 fun other hother' =>
    hother other fun heq => hnodup.1.2 (heq ▸ List.mem_map_of_mem hother')
  rw [List.flatMap_append, List.flatMap_cons, hbefore, hafter, List.nil_append, List.append_nil]

theorem Chain.Neighbours.sublist {chain : Chain} {finer view : View}
    (h : chain.Neighbours finer view) : [finer, view].Sublist chain.views := by
  obtain ⟨level, hfiner, hview⟩ := h
  have hdrop : chain.views.drop level = finer :: view :: chain.views.drop (level + 2) := by
    rw [List.drop_eq_getElem?_toList_append, hfiner, List.drop_eq_getElem?_toList_append, hview]
    rfl
  have hpair : [finer, view].Sublist (chain.views.drop level) := by
    rw [hdrop]
    exact ((List.nil_sublist _).cons_cons view).cons_cons finer
  exact hpair.trans (List.drop_sublist _ _)

theorem flatMap_ite_eq_map_filter {α β : Type} (test : α → Bool) (f : α → β) (members : List α) :
    (members.flatMap fun member => if test member then [f member] else []) =
      (members.filter test).map f := by
  induction members with
  | nil => rfl
  | cons member members ih =>
    rw [List.flatMap_cons, ih, List.filter_cons]
    split <;> rfl

namespace Registry

variable (registry : Registry)

theorem createStatements_eq_flatMap_views :
    registry.createStatements = registry.views.flatMap (·.createStatements registry.options) := by
  rw [views, List.flatMap_assoc]
  rfl

theorem dropStatements_eq_map_views :
    registry.dropStatements = registry.views.reverse.map fun view => .dropView view.tableName := by
  rw [views, List.reverse_flatMap, List.map_flatMap]
  rfl

theorem removePolicyStatements_eq_map_views :
    registry.removePolicyStatements =
      (registry.views.reverse.filter (·.refreshPolicy.isSome)).map fun view =>
        .removePolicy view.tableName := by
  rw [views, List.reverse_flatMap, List.filter_flatMap, List.map_flatMap]
  rfl

theorem filterMap_createdTable_createStatements :
    registry.createStatements.filterMap Statement.createdTable? =
      registry.views.map View.tableName := by
  simp only [createStatements_eq_flatMap_views, List.filterMap_flatMap,
    View.filterMap_createdTable_createStatements, List.map_eq_flatMap]

theorem filterMap_scheduledTable_createStatements :
    registry.createStatements.filterMap Statement.scheduledTable? =
      (registry.views.filter (·.refreshPolicy.isSome)).map View.tableName := by
  simp only [createStatements_eq_flatMap_views, List.filterMap_flatMap,
    View.filterMap_scheduledTable_createStatements, flatMap_ite_eq_map_filter]

end Registry

/-- In a chain that is built, every view but the finest comes right after the view that it reads. -/
theorem ChainBuilder.exists_neighbours_of_build {builder : ChainBuilder}
    {definition : AggregateDefinition} {granularities : List Granularity} {chain : Chain}
    {view : View} (h : (builder.build definition granularities).result = .ok chain)
    (hmem : view ∈ chain.coarser) :
    ∃ finer, chain.Neighbours finer view ∧
      view.source = .view finer.granularity finer.tableName := by
  obtain ⟨sequence, -, rfl, -⟩ := exists_of_build h
  obtain ⟨level, hcoarser⟩ := List.mem_iff_getElem?.1 hmem
  have hview : (chainOver builder.rules definition sequence).views[level + 1]? = some view := by
    rw [Chain.views, List.getElem?_cons_succ, hcoarser]
  obtain ⟨finer, hfiner⟩ := exists_getElem?_of_succ hview
  have hneighbours : (chainOver builder.rules definition sequence).Neighbours finer view :=
    ⟨level, hfiner, hview⟩
  refine ⟨finer, hneighbours, ?_⟩
  rw [(neighbours_chainOver hneighbours).1]
  rfl

/-! ## The order of all statements -/

/-- What the statements of a registry do, and in which order. -/
structure Registry.Ordered (registry : Registry) : Prop where
  /-- Every view is created by one statement. -/
  created : ∀ view ∈ registry.views,
    registry.createStatements.filter (·.createdTable? == some view.tableName) =
      [view.createStatement registry.options]
  /-- A view that is not the finest of its chain is created after the view that it reads. -/
  created_after : ∀ chain ∈ registry.chains, ∀ view ∈ chain.coarser,
    ∃ finer ∈ chain.views, view.source = .view finer.granularity finer.tableName ∧
      [finer.createStatement registry.options, view.createStatement registry.options].Sublist
        registry.createStatements
  /-- A view is given its policy, if it has one, by one statement. -/
  scheduled : ∀ view ∈ registry.views,
    registry.createStatements.filter (·.scheduledTable? == some view.tableName) =
      (view.refreshPolicy.map (.addPolicy view.tableName)).toList
  /-- No other statement comes between creating a view and giving it its policy. -/
  scheduled_next : ∀ view ∈ registry.views, ∀ policy, view.refreshPolicy = some policy →
    [view.createStatement registry.options, .addPolicy view.tableName policy] <:+:
      registry.createStatements
  dropped : registry.dropStatements =
    (registry.createStatements.filterMap Statement.createdTable?).reverse.map .dropView
  unscheduled : registry.removePolicyStatements =
    (registry.createStatements.filterMap Statement.scheduledTable?).reverse.map .removePolicy

namespace Registry

variable {registry : Registry} {view : View}

theorem createStatements_infix (hmem : view ∈ registry.views) :
    view.createStatements registry.options <:+: registry.createStatements := by
  obtain ⟨before, after, hviews⟩ := List.append_of_mem hmem
  rw [createStatements_eq_flatMap_views, hviews, List.flatMap_append, List.flatMap_cons]
  exact ⟨_, _, List.append_assoc _ _ _⟩

theorem map_createStatement_sublist (registry : Registry) :
    (registry.views.map (·.createStatement registry.options)).Sublist
      registry.createStatements := by
  rw [createStatements_eq_flatMap_views, List.map_eq_flatMap]
  refine List.Sublist.flatMap_right _ fun view _ => ?_
  exact (List.nil_sublist _).cons_cons _

/-- As tables are distinct, what is done to the table of a view is what its own statements do. -/
theorem filter_createStatements (htables : (registry.views.map View.tableName).Nodup)
    (hmem : view ∈ registry.views) {table? : Statement → Option String}
    {own : View → List Statement}
    (hown : ∀ view table, (View.createStatements view registry.options).filter
      (table? · == some table) = if view.tableName = table then own view else []) :
    registry.createStatements.filter (table? · == some view.tableName) = own view := by
  simp only [createStatements_eq_flatMap_views, List.filter_flatMap, hown]
  rw [flatMap_eq_of_nodup_map htables hmem fun other hne => if_neg hne, if_pos rfl]

theorem Holds.created_after {builder : ChainBuilder} {requests : List Request} {chain : Chain}
    (hholds : registry.Holds builder requests) (hchain : chain ∈ registry.chains)
    (hmem : view ∈ chain.coarser) :
    ∃ finer ∈ chain.views, view.source = .view finer.granularity finer.tableName ∧
      [finer.createStatement registry.options, view.createStatement registry.options].Sublist
        registry.createStatements := by
  obtain ⟨definition, granularities, hbuild⟩ := hholds.built chain hchain
  obtain ⟨finer, hneighbours, hsource⟩ := ChainBuilder.exists_neighbours_of_build hbuild hmem
  have hpair : [finer, view].Sublist chain.views := hneighbours.sublist
  have hviews : chain.views.Sublist registry.views :=
    List.IsInfix.sublist (List.infix_of_mem_flatten (List.mem_map_of_mem hchain))
  refine ⟨finer, hpair.subset List.mem_cons_self, hsource, ?_⟩
  exact ((hpair.trans hviews).map _).trans registry.map_createStatement_sublist

end Registry

theorem Registry.Holds.ordered {registry : Registry} {builder : ChainBuilder}
    {requests : List Request} (hholds : registry.Holds builder requests) : registry.Ordered := by
  have htables := hholds.nodup_tables
  exact {
    created := fun view hmem => Registry.filter_createStatements htables hmem fun view =>
      view.filter_createdTable_createStatements _
    created_after := fun chain hchain view hmem => hholds.created_after hchain hmem
    scheduled := fun view hmem => by
      rw [Registry.filter_createStatements htables hmem fun view =>
        view.filter_scheduledTable_createStatements _]
      rfl
    scheduled_next := fun view hmem policy hpolicy => by
      have hinfix := Registry.createStatements_infix hmem
      rwa [View.createStatements, View.policyStatement?, hpolicy] at hinfix
    dropped := by
      rw [Registry.filterMap_createdTable_createStatements,
        Registry.dropStatements_eq_map_views, ← List.map_reverse, List.map_map]
      rfl
    unscheduled := by
      rw [Registry.filterMap_scheduledTable_createStatements,
        Registry.removePolicyStatements_eq_map_views, ← List.map_reverse, List.filter_reverse,
        List.map_map]
      rfl }

/-- Whatever has been registered, and whatever has failed. -/
theorem Session.ordered_run (builder : ChainBuilder) (options : ViewOptions) (log : StatementLog)
    (requests : List Request) :
    ((start builder options log).run requests).registry.Ordered :=
  (holds_run builder options log requests).ordered

end TimeRollup

import TimeRollup.Proofs.Chain.Rendering
import TimeRollup.Proofs.Session.StatementOrder

/-!
# The statements of a registry as texts

What is run against the database are texts.  What a text does, and to which table, can be read off it, as
no statement begins like one that does something else.  So the texts have the order of the statements.
-/

namespace TimeRollup

/-! ## Reading texts -/

namespace Statement

/-- The table that a text names behind the given head. -/
def tableBehind? (head sql : String) : Option String :=
  (head.toList.isPrefixOf? sql.toList).map fun rest =>
    String.ofList (rest.takeWhile fun c => !endsName c)

def createdIn? : String → Option String :=
  tableBehind? "CREATE MATERIALIZED VIEW IF NOT EXISTS "

def scheduledIn? : String → Option String :=
  tableBehind? "SELECT add_continuous_aggregate_policy('"

def droppedIn? : String → Option String :=
  tableBehind? "DROP MATERIALIZED VIEW IF EXISTS "

def unscheduledIn? : String → Option String :=
  tableBehind? "SELECT remove_continuous_aggregate_policy('"

theorem head_eq_of_begins {left right : String} (hleft : left ∈ heads) (hright : right ∈ heads)
    (h : left.toList <+: right.toList) : left = right := by
  have hall : ∀ left ∈ heads, ∀ right ∈ heads,
      left.toList.isPrefixOf right.toList = true → left = right := by
    decide
  exact hall left hleft right hright (List.isPrefixOf_iff_prefix.2 h)

/-- The name of a table, as it stands in a text. -/
def IsPlain (table : String) : Prop :=
  ∀ c ∈ table.toList, endsName c = false

variable {statement : Statement} {statements : List Statement}

/-- A text names its table behind its own head and behind no other one. -/
theorem tableBehind?_sql (hplain : IsPlain statement.table) {head : String}
    (hhead : head ∈ heads) :
    tableBehind? head statement.sql =
      if statement.head = head then some statement.table else none := by
  obtain ⟨c, hc, rest, hsql⟩ := statement.exists_toList_sql
  split
  · rename_i heq
    have hrest : head.toList.isPrefixOf? statement.sql.toList =
        some (statement.table.toList ++ c :: rest) :=
      List.isPrefixOf?_eq_some_iff_append_eq.2 (heq ▸ hsql.symm)
    rw [tableBehind?, hrest, Option.map_some, takeWhile_table hplain hc, String.ofList_toList]
  · rename_i hne
    have hnone : head.toList.isPrefixOf? statement.sql.toList = none := by
      rw [Option.eq_none_iff_forall_ne_some]
      intro more hmore
      have happend := List.isPrefixOf?_eq_some_iff_append_eq.1 hmore
      rcases List.prefix_or_prefix_of_prefix ⟨more, happend⟩ ⟨_, hsql.symm⟩ with hbegins | hbegins
      · exact hne (head_eq_of_begins hhead statement.head_mem_heads hbegins).symm
      · exact hne (head_eq_of_begins statement.head_mem_heads hhead hbegins)
    rw [tableBehind?, hnone, Option.map_none]

theorem createdIn?_sql (hplain : IsPlain statement.table) :
    createdIn? statement.sql = statement.createdTable? := by
  rw [createdIn?, tableBehind?_sql hplain (by simp [heads])]
  cases statement <;> simp [head, table, createdTable?]

theorem scheduledIn?_sql (hplain : IsPlain statement.table) :
    scheduledIn? statement.sql = statement.scheduledTable? := by
  rw [scheduledIn?, tableBehind?_sql hplain (by simp [heads])]
  cases statement <;> simp [head, table, scheduledTable?]

theorem droppedIn?_dropView {table : String} (hplain : IsPlain table) :
    droppedIn? (dropView table).sql = some table := by
  rw [droppedIn?, @tableBehind?_sql (dropView table) hplain _ (by simp [heads])]
  rfl

theorem unscheduledIn?_removePolicy {table : String} (hplain : IsPlain table) :
    unscheduledIn? (removePolicy table).sql = some table := by
  rw [unscheduledIn?, @tableBehind?_sql (removePolicy table) hplain _ (by simp [heads])]
  rfl

section Lists

variable {readText : String → Option String} {read : Statement → Option String}
  (hread : ∀ statement ∈ statements, readText statement.sql = read statement)

include hread

theorem filter_map_sql (table : String) :
    (statements.map sql).filter (readText · == some table) =
      (statements.filter (read · == some table)).map sql := by
  rw [List.filter_map]
  congr 1
  apply List.filter_congr
  intro statement hmem
  rw [Function.comp_apply, hread statement hmem]

theorem filterMap_map_sql : (statements.map sql).filterMap readText = statements.filterMap read := by
  rw [List.filterMap_map]
  apply List.filterMap_congr
  intro statement hmem
  exact hread statement hmem

end Lists

end Statement

/-! ## The order of all texts -/

/-- What the texts that are run for a registry do, and in which order. -/
structure Registry.OrderedTexts (registry : Registry) : Prop where
  /-- Every view is created by one text. -/
  created : ∀ view ∈ registry.views,
    (registry.createStatements.map Statement.sql).filter
        (Statement.createdIn? · == some view.tableName) =
      [(view.createStatement registry.options).sql]
  /-- A view that is not the finest of its chain is created after the view that it reads. -/
  created_after : ∀ chain ∈ registry.chains, ∀ view ∈ chain.coarser,
    ∃ finer ∈ chain.views, view.source = .view finer.granularity finer.tableName ∧
      [(finer.createStatement registry.options).sql,
        (view.createStatement registry.options).sql].Sublist
          (registry.createStatements.map Statement.sql)
  /-- A view is given its policy, if it has one, by one text. -/
  scheduled : ∀ view ∈ registry.views,
    (registry.createStatements.map Statement.sql).filter
        (Statement.scheduledIn? · == some view.tableName) =
      (view.refreshPolicy.map fun policy =>
        (Statement.addPolicy view.tableName policy).sql).toList
  /-- No other text comes between creating a view and giving it its policy. -/
  scheduled_next : ∀ view ∈ registry.views, ∀ policy, view.refreshPolicy = some policy →
    [(view.createStatement registry.options).sql,
        (Statement.addPolicy view.tableName policy).sql] <:+:
      registry.createStatements.map Statement.sql
  dropped : (registry.dropStatements.map Statement.sql).map Statement.droppedIn? =
    ((registry.createStatements.map Statement.sql).filterMap Statement.createdIn?).reverse.map some
  unscheduled :
    (registry.removePolicyStatements.map Statement.sql).map Statement.unscheduledIn? =
      ((registry.createStatements.map Statement.sql).filterMap
        Statement.scheduledIn?).reverse.map some

namespace Registry

variable {registry : Registry}

theorem exists_table_of_mem_createStatements {statement : Statement}
    (hmem : statement ∈ registry.createStatements) :
    ∃ view ∈ registry.views, statement.table = view.tableName := by
  rw [createStatements_eq_flatMap_views] at hmem
  obtain ⟨view, hview, hmem⟩ := List.mem_flatMap.1 hmem
  refine ⟨view, hview, ?_⟩
  rcases List.mem_cons.1 hmem with rfl | hpolicy
  · rfl
  · obtain ⟨policy, -, rfl⟩ := Option.map_eq_some_iff.1 (Option.mem_toList.1 hpolicy)
    rfl

/-- The texts are in order because the statements are, and each text tells its statement. -/
theorem Ordered.texts (hordered : registry.Ordered)
    (hplain : ∀ view ∈ registry.views, Statement.IsPlain view.tableName) :
    registry.OrderedTexts := by
  have htables : ∀ statement ∈ registry.createStatements, Statement.IsPlain statement.table := by
    intro statement hmem
    obtain ⟨view, hview, htable⟩ := exists_table_of_mem_createStatements hmem
    rw [htable]
    exact hplain view hview
  have hcreated : ∀ statement ∈ registry.createStatements,
      Statement.createdIn? statement.sql = statement.createdTable? := fun statement hmem =>
    Statement.createdIn?_sql (htables statement hmem)
  have hscheduled : ∀ statement ∈ registry.createStatements,
      Statement.scheduledIn? statement.sql = statement.scheduledTable? := fun statement hmem =>
    Statement.scheduledIn?_sql (htables statement hmem)
  exact {
    created := fun view hmem => by
      rw [Statement.filter_map_sql hcreated, hordered.created view hmem, List.map_singleton]
    created_after := fun chain hchain view hmem => by
      obtain ⟨finer, hfiner, hsource, hsublist⟩ := hordered.created_after chain hchain view hmem
      exact ⟨finer, hfiner, hsource, hsublist.map Statement.sql⟩
    scheduled := fun view hmem => by
      rw [Statement.filter_map_sql hscheduled, hordered.scheduled view hmem]
      cases view.refreshPolicy <;> rfl
    scheduled_next := fun view hmem policy hpolicy =>
      (hordered.scheduled_next view hmem policy hpolicy).map Statement.sql
    dropped := by
      rw [Statement.filterMap_map_sql hcreated, hordered.dropped, List.map_map, List.map_map,
        filterMap_createdTable_createStatements]
      apply List.map_congr_left
      intro table hmem
      obtain ⟨view, hview, rfl⟩ := List.mem_map.1 (List.mem_reverse.1 hmem)
      exact Statement.droppedIn?_dropView (hplain view hview)
    unscheduled := by
      rw [Statement.filterMap_map_sql hscheduled, hordered.unscheduled, List.map_map, List.map_map,
        filterMap_scheduledTable_createStatements]
      apply List.map_congr_left
      intro table hmem
      obtain ⟨view, hview, rfl⟩ := List.mem_map.1 (List.mem_reverse.1 hmem)
      exact Statement.unscheduledIn?_removePolicy (hplain view (List.mem_of_mem_filter hview)) }

end Registry

/-- Where definitions come from drafts, no table has a blank or a quote in its name. -/
theorem Session.orderedTexts_run (builder : ChainBuilder) (options : ViewOptions)
    (log : StatementLog) {requests : List Request}
    (hdrafts : ∀ definition granularities, .register definition granularities ∈ requests →
      ∃ draft : Draft, draft.build = .ok definition) :
    ((start builder options log).run requests).registry.OrderedTexts := by
  have hholds := holds_run builder options log requests
  apply hholds.ordered.texts
  intro view hview
  obtain ⟨chain, hchain, hview⟩ := List.mem_flatMap.1 hview
  obtain ⟨definition, granularities, hregister, hbuild⟩ := hholds.exists_register hchain
  obtain ⟨draft, hdraft⟩ := hdrafts definition granularities hregister
  exact ChainBuilder.endsName_of_mem_tableName_of_build hdraft hbuild view hview

end TimeRollup

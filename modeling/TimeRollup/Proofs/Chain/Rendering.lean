import TimeRollup.Proofs.Chain.Structure
import TimeRollup.Proofs.Expr.Reparse
import TimeRollup.Statement

/-!
# What is written about a view

The selection of a view is written out once, while its chain is built, from what the builder has at hand.
It says what the view says about itself afterwards.  The statements about a view name it by its table,
which can be read off their texts again because names of tables hold no blank and no quote, and the next
coarser view reads from that table.
-/

namespace TimeRollup

open TimeRollup.Sql TimeRollup.Text

/-! ## Selections -/

/-- A list with commas between its members has a comma before each but the first. -/
theorem Sql.Select.intercalate_cons (text : String) (texts : List String) :
    ", ".intercalate (text :: texts) = text ++ afterCommas texts := by
  induction texts generalizing text with
  | nil => simp [afterCommas]
  | cons next texts ih =>
    rw [String.intercalate_cons_cons, ih, afterCommas, afterCommas, List.map_cons, String.join_cons,
      String.append_assoc, String.append_assoc]

/-- What a view says about itself, as a selection. -/
theorem View.sql_select (view : View) :
    view.select.sql =
      "SELECT " ++ view.bucketExpr ++ " AS " ++ view.timeColumn ++
        String.join (view.selectItems.map fun item => ", " ++ item.sql) ++
        " FROM " ++ view.source.name ++ view.filter.elim "" (" WHERE " ++ ·) ++
        " GROUP BY " ++ ", ".intercalate view.groupBy := by
  have hwhere : Select.whereClause view.filter = view.filter.elim "" (" WHERE " ++ ·) := by
    cases view.filter <;> rfl
  rw [View.groupBy, Select.intercalate_cons, ← hwhere, ← String.append_assoc]
  unfold Select.sql
  rw [View.bucketExpr_select, Select.afterCommas, List.map_map]
  rfl

namespace ChainBuilder

variable {table : RuleTable} {definition : AggregateDefinition}

/-- Every view of a chain was written out as its fields describe it. -/
theorem selectSql_of_mem_viewsOver {finer view : View} {granularities : List Granularity}
    (hfiner : finer.selectSql = finer.select.sql)
    (hview : view ∈ finer :: viewsOver table definition finer granularities) :
    view.selectSql = view.select.sql := by
  induction granularities generalizing finer with
  | nil => rwa [List.mem_singleton.1 hview]
  | cons granularity granularities ih =>
    rcases List.mem_cons.1 hview with rfl | hview
    · exact hfiner
    · exact ih rfl hview

end ChainBuilder

/-! ## Names of tables -/

namespace Statement

/-- Ends the name of a table where it stands in a statement. -/
def endsName (c : Char) : Bool :=
  c == ' ' || c == '\''

/-- How statements begin, up to the name of a table. -/
def heads : List String :=
  ["CREATE MATERIALIZED VIEW IF NOT EXISTS ", "SELECT add_continuous_aggregate_policy('",
   "DROP MATERIALIZED VIEW IF EXISTS ", "SELECT remove_continuous_aggregate_policy('",
   "CALL refresh_continuous_aggregate('"]

/-- The name of the table that a statement is about, read off its text. -/
def namedTable? (sql : String) : Option String :=
  heads.findSome? fun head => (head.toList.isPrefixOf? sql.toList).map fun rest =>
    String.ofList (rest.takeWhile fun c => !endsName c)

/-- No head is the beginning of another one. -/
theorem namedTable?_of_head {head : String} (hhead : head ∈ heads) (behind : List Char) :
    namedTable? (String.ofList (head.toList ++ behind)) =
      some (String.ofList (behind.takeWhile fun c => !endsName c)) := by
  rw [namedTable?, String.toList_ofList]
  simp only [heads, List.mem_cons, List.not_mem_nil, or_false] at hhead
  rcases hhead with rfl | rfl | rfl | rfl | rfl <;> rfl

/-- How a statement begins. -/
def head : Statement → String
  | createView .. => "CREATE MATERIALIZED VIEW IF NOT EXISTS "
  | addPolicy .. => "SELECT add_continuous_aggregate_policy('"
  | dropView _ => "DROP MATERIALIZED VIEW IF EXISTS "
  | removePolicy _ => "SELECT remove_continuous_aggregate_policy('"
  | refresh .. => "CALL refresh_continuous_aggregate('"

theorem head_mem_heads (statement : Statement) : statement.head ∈ heads := by
  cases statement <;> simp [head, heads]

/-- A statement is its head, the name of its table, and something that ends the name. -/
theorem exists_toList_sql (statement : Statement) :
    ∃ c, endsName c = true ∧ ∃ rest,
      statement.sql.toList = statement.head.toList ++ (statement.table.toList ++ c :: rest) := by
  cases statement
  case' createView => refine ⟨' ', rfl, ?_⟩
  case' addPolicy => refine ⟨'\'', rfl, ?_⟩
  case' dropView => refine ⟨' ', rfl, ?_⟩
  case' removePolicy => refine ⟨'\'', rfl, ?_⟩
  case' refresh => refine ⟨'\'', rfl, ?_⟩
  all_goals
    unfold sql
    simp only [head, table, String.toList_append, List.append_assoc]
    exact ⟨_, rfl⟩

theorem takeWhile_table {statement : Statement}
    (hname : ∀ c ∈ statement.table.toList, endsName c = false) {c : Char}
    (hc : endsName c = true) (rest : List Char) :
    (statement.table.toList ++ c :: rest).takeWhile (fun c => !endsName c) =
      statement.table.toList :=
  takeWhile_run_append (by simpa using hname) (by simpa using hc)

theorem namedTable?_sql {statement : Statement}
    (hname : ∀ c ∈ statement.table.toList, endsName c = false) :
    namedTable? statement.sql = some statement.table := by
  obtain ⟨c, hc, rest, hsql⟩ := statement.exists_toList_sql
  rw [← String.ofList_toList (s := statement.sql), hsql,
    namedTable?_of_head statement.head_mem_heads, takeWhile_table hname hc, String.ofList_toList]

/-- The tables of statements are read off their texts. -/
theorem map_namedTable?_sql {statements : List Statement} {tables : List String}
    (htables : statements.map table = tables)
    (hnames : ∀ name ∈ tables, ∀ c ∈ name.toList, endsName c = false) :
    statements.map (fun statement => namedTable? statement.sql) = tables.map some := by
  subst htables
  rw [List.map_map]
  exact List.map_congr_left fun statement hmem =>
    namedTable?_sql (hnames _ (List.mem_map_of_mem hmem))

end Statement

theorem Granularity.endsName_of_mem_name {granularity : Granularity} {c : Char}
    (hc : c ∈ granularity.name.toList) : Statement.endsName c = false := by
  have hnone : granularity.name.toList.any Statement.endsName = false := by
    cases granularity <;> decide
  simpa using List.any_eq_false.1 hnone c hc

theorem AggregateDefinition.endsName_of_mem_tableName {definition : AggregateDefinition}
    (hname : isIdentifier definition.name.toList = true) {granularity : Granularity} {c : Char}
    (hc : c ∈ (definition.tableName granularity).toList) : Statement.endsName c = false := by
  rw [tableName, String.toList_append, String.toList_append, List.mem_append,
    List.mem_append] at hc
  rcases hc with (hc | hc) | hc
  · have hpart : isNamePart c = true := Sql.isNamePart_of_isIdentifier hname c hc
    by_contra hends
    simp only [Statement.endsName, Bool.not_eq_false, Bool.or_eq_true, beq_iff_eq] at hends
    rcases hends with rfl | rfl
    · exact absurd hpart (by decide)
    · exact absurd hpart (by decide)
  · have hnone : "_per_".toList.any Statement.endsName = false := by decide
    simpa using List.any_eq_false.1 hnone c hc
  · exact Granularity.endsName_of_mem_name hc

/-! ## Chains -/

/-- The views of a chain and the statements about them are written as the views say. -/
structure Chain.IsWritten (chain : Chain) : Prop where
  selectSql : ∀ view ∈ chain.views,
    view.selectSql =
      "SELECT " ++ view.bucketExpr ++ " AS " ++ view.timeColumn ++
        String.join (view.selectItems.map fun item => ", " ++ item.sql) ++
        " FROM " ++ view.source.name ++ view.filter.elim "" (" WHERE " ++ ·) ++
        " GROUP BY " ++ ", ".intercalate view.groupBy
  /-- A coarser view reads from the table that the statements about the finer one name. -/
  reads : ∀ {finer view}, chain.Neighbours finer view → view.source.name = finer.tableName
  created (options : ViewOptions) :
    (chain.createStatements options).map (fun statement => Statement.namedTable? statement.sql) =
      (chain.views.flatMap fun view =>
        view.tableName :: if view.refreshPolicy.isSome then [view.tableName] else []).map some
  dropped :
    chain.dropStatements.map (fun statement => Statement.namedTable? statement.sql) =
      (chain.viewsCoarsestFirst.map View.tableName).map some
  unscheduled :
    chain.removePolicyStatements.map (fun statement => Statement.namedTable? statement.sql) =
      ((chain.viewsCoarsestFirst.filter (·.refreshPolicy.isSome)).map View.tableName).map some
  refreshed (window : RefreshWindow) (only : Option (List Granularity)) :
    (chain.refreshStatements window only).map
        (fun statement => Statement.namedTable? statement.sql) =
      ((chain.views.filter fun view => only.all (·.contains view.granularity)).map
        View.tableName).map some

namespace Chain

theorem map_table_createStatements (chain : Chain) (options : ViewOptions) :
    (chain.createStatements options).map Statement.table =
      chain.views.flatMap fun view =>
        view.tableName :: if view.refreshPolicy.isSome then [view.tableName] else [] := by
  rw [createStatements, List.map_flatMap]
  congr 1
  funext view
  rw [View.createStatements, View.policyStatement?, List.map_cons]
  cases view.refreshPolicy <;> rfl

theorem map_table_refreshStatements (chain : Chain) (window : RefreshWindow)
    (only : Option (List Granularity)) :
    (chain.refreshStatements window only).map Statement.table =
      (chain.views.filter fun view => only.all (·.contains view.granularity)).map
        View.tableName := by
  rw [refreshStatements, List.map_map]
  cases only <;> rfl

/-- Statements name tables of views only, so it is enough that no blank or quote is in those. -/
theorem isWritten_of_names {chain : Chain}
    (hnames : ∀ view ∈ chain.views, ∀ c ∈ view.tableName.toList, Statement.endsName c = false)
    (hselect : ∀ view ∈ chain.views, view.selectSql = view.select.sql)
    (hreads : ∀ {finer view}, chain.Neighbours finer view →
      view.source.name = finer.tableName) : chain.IsWritten where
  selectSql view hview := (hselect view hview).trans view.sql_select
  reads := hreads
  created options := by
    refine Statement.map_namedTable?_sql (chain.map_table_createStatements options) ?_
    intro name hname
    obtain ⟨view, hview, hname⟩ := List.mem_flatMap.1 hname
    have heq : name = view.tableName := by
      split at hname <;> simpa using hname
    exact heq ▸ hnames view hview
  dropped := by
    refine Statement.map_namedTable?_sql List.map_map ?_
    intro name hname
    obtain ⟨view, hview, rfl⟩ := List.mem_map.1 hname
    exact hnames view (List.mem_reverse.1 hview)
  unscheduled := by
    refine Statement.map_namedTable?_sql List.map_map ?_
    intro name hname
    obtain ⟨view, hview, rfl⟩ := List.mem_map.1 hname
    exact hnames view (List.mem_reverse.1 (List.mem_of_mem_filter hview))
  refreshed window only := by
    refine Statement.map_namedTable?_sql (chain.map_table_refreshStatements window only) ?_
    intro name hname
    obtain ⟨view, hview, rfl⟩ := List.mem_map.1 hname
    exact hnames view (List.mem_of_mem_filter hview)

end Chain

namespace ChainBuilder

/-- The name of a definition that comes from a draft is a plain name. -/
theorem endsName_of_mem_tableName_of_build {draft : Draft} {definition : AggregateDefinition}
    (hdraft : draft.build = .ok definition) {builder : ChainBuilder}
    {granularities : List Granularity} {chain : Chain}
    (h : (builder.build definition granularities).result = .ok chain) :
    ∀ view ∈ chain.views, ∀ c ∈ view.tableName.toList, Statement.endsName c = false := by
  have hname : isIdentifier definition.name.toList = true := by
    obtain ⟨hnames, items, -, -, -, -, rfl⟩ := Draft.build_eq_ok_iff.1 hdraft
    exact (Draft.checkNames_eq_ok_iff.1 hnames).1
  intro view hview c hc
  obtain ⟨level, hview⟩ := List.mem_iff_getElem?.1 hview
  have htable : view.tableName = definition.tableName view.granularity :=
    (isLevel_of_build h hview).tableName
  rw [htable] at hc
  exact AggregateDefinition.endsName_of_mem_tableName hname hc

/-- Every chain that is built from a draft is written as its views say. -/
theorem isWritten_of_build {draft : Draft} {definition : AggregateDefinition}
    (hdraft : draft.build = .ok definition) {builder : ChainBuilder}
    {granularities : List Granularity} {chain : Chain}
    (h : (builder.build definition granularities).result = .ok chain) : chain.IsWritten := by
  have hnames := endsName_of_mem_tableName_of_build hdraft h
  obtain ⟨sequence, -, rfl, -⟩ := exists_of_build h
  apply Chain.isWritten_of_names hnames
  · intro view hview
    exact selectSql_of_mem_viewsOver rfl hview
  · intro finer view hneighbours
    rw [(neighbours_chainOver hneighbours).1]
    rfl

/-- Sales of one shop by product, the hours refreshed by a policy. -/
def sales : Draft where
  name := "sales"
  relation := "orders"
  timeColumn := "ts"
  select := [.sql "product", .sql "sum(price * amount) as \"turnover, gross\""]
  groupBy := ["product"]
  filter := some "shop = 'a WHERE b'"
  refreshPlan := ⟨[(.hour, ⟨none, none, .ofGranularity .minute⟩)]⟩

theorem isWritten_sales :
    ∃ definition chain, sales.build = .ok definition ∧
      ((ChainBuilder.mk ⟨[]⟩ true).build definition [.minute, .hour]).result = .ok chain ∧
      chain.IsWritten ∧
      chain.views.map View.selectSql =
        ["SELECT time_bucket('1 minute', ts) AS ts, product, " ++
            "sum(price * amount) as \"turnover, gross\" FROM orders WHERE shop = 'a WHERE b' " ++
            "GROUP BY time_bucket('1 minute', ts), product",
          "SELECT time_bucket('1 hour', ts) AS ts, product, " ++
            "sum(\"turnover, gross\") as \"turnover, gross\" FROM sales_per_minute " ++
            "GROUP BY time_bucket('1 hour', ts), product"] :=
  ⟨_, _, rfl, rfl, @isWritten_of_build sales _ rfl ⟨⟨[]⟩, true⟩ [.minute, .hour] _ rfl,
    by decide +kernel⟩

end ChainBuilder

end TimeRollup

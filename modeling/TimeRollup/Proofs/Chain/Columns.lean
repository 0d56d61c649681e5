import TimeRollup.Definition.Draft
import TimeRollup.Proofs.Chain.Structure

/-!
# The columns that coarser views name

A view can read only what the view one step finer has: the time column and the columns of the select
list.  A rewritten entry names the column of its own alias.  Apart from that it names columns in two
places only, the order argument of a first or last value, which is kept as it is, and the filled-in
template of a custom rule.
-/

namespace TimeRollup

namespace Expr

mutual

/-- The columns that an expression names, at any depth. -/
def columnNames : Expr → List String
  | .column name => [name]
  | .call _ args => argumentColumnNames args
  | .star | .literal _ | .raw _ => []

def argumentColumnNames : List Expr → List String
  | [] => []
  | arg :: args => arg.columnNames ++ argumentColumnNames args

end

theorem mem_argumentColumnNames {args : List Expr} {name : String} :
    name ∈ argumentColumnNames args ↔ ∃ arg ∈ args, name ∈ arg.columnNames := by
  induction args with
  | nil => simp [argumentColumnNames]
  | cons arg args ih => simp [argumentColumnNames, ih]

theorem isAggregate_callShape (function : String) (args : List Expr) :
    (callShape function args).isAggregate = true := by
  unfold callShape
  split <;> try rfl
  all_goals split <;> rfl

/-- A first or last value has two arguments, the value and the order. -/
theorem eq_call_of_callShape_order {function : String} {args : List Expr} {order : Expr}
    (h : callShape function args = .first order ∨ callShape function args = .last order) :
    ∃ value, args = [value, order] := by
  unfold callShape at h
  split at h
  all_goals try split at h
  all_goals simp_all

end Expr

namespace SelectItem

/-- The entry is a first or last value by the given order. -/
def OrdersBy (item : SelectItem) (order : Expr) : Prop :=
  item.shape = .first order ∨ item.shape = .last order

theorem columnNames_order_subset {item : SelectItem} {order : Expr} (h : item.OrdersBy order) :
    order.columnNames ⊆ item.expr.columnNames := by
  obtain ⟨expr, aliasName⟩ := item
  cases expr with
  | call function args =>
    obtain ⟨value, rfl⟩ := Expr.eq_call_of_callShape_order h
    intro name hmem
    rw [Expr.columnNames, Expr.mem_argumentColumnNames]
    exact ⟨order, by simp, hmem⟩
  | _ => rcases h with h | h <;> simp [shape, Expr.shape] at h

end SelectItem

namespace RuleTable

/-- The expression is the filled-in template of the custom rule that applies to the entry. -/
def Expands (table : RuleTable) (item : SelectItem) (expr : Expr) : Prop :=
  ∃ function args rule, item.shape = .call function ∧ item.expr = .call function args ∧
    table.find? function = some rule ∧ rule.coarser? item.aliasName args = some expr

theorem expr_rewrite_of_expands {table : RuleTable} {item : SelectItem} {expr : Expr}
    (h : table.Expands item expr) : (table.rewrite item).item.expr = expr := by
  obtain ⟨function, args, rule, hshape, hexpr, hfind, hcoarser⟩ := h
  simp [rewrite, hshape, hexpr, hfind, hcoarser, Rewrite.item]

/-- The expressions by which the next coarser view may get the column of an entry. -/
inductive RollsUp (table : RuleTable) (item : SelectItem) : Expr → Prop
  | aggregate {function : String} (hfunction : function ∈ ["sum", "min", "max", "rollup"]) :
      RollsUp table item (.call function [.column item.aliasName])
  | ordered {function : String} {order : Expr} (hfunction : function ∈ ["first", "last"])
      (horder : item.OrdersBy order) :
      RollsUp table item (.call function [.column item.aliasName, order])
  | column : RollsUp table item (.column item.aliasName)
  | constant (text : String) : RollsUp table item (.literal text)
  | expansion {expr : Expr} (hexpands : table.Expands item expr) : RollsUp table item expr

theorem rollsUp_of_not_forwarded {table : RuleTable} {item : SelectItem}
    (hrule : (table.rewrite item).isForwarded = false) :
    table.RollsUp item (table.rewrite item).item.expr := by
  unfold rewrite at hrule ⊢
  cases hshape : item.shape with
  | count | sum => exact .aggregate (by simp)
  | min | max | opaqueSummary | rollup => exact .aggregate (by simp)
  | first order => exact .ordered (by simp) (.inl hshape)
  | last order => exact .ordered (by simp) (.inr hshape)
  | column name => exact .column
  | constant =>
    cases hexpr : item.expr with
    | literal text =>
      simp only [Rewrite.item, hexpr]
      exact .constant text
    | call function args =>
      have haggregate := Expr.isAggregate_callShape function args
      simp only [SelectItem.shape, hexpr, Expr.shape] at hshape
      simp [hshape, Shape.isAggregate] at haggregate
    | _ => simp [SelectItem.shape, hexpr, Expr.shape] at hshape
  | unrecognized => simp [hshape, Rewrite.isForwarded] at hrule
  | call function =>
    simp only [hshape] at hrule ⊢
    split at hrule
    · rename_i called args rule hexpr hfind
      split at hrule
      · rename_i expr hcoarser
        have hcalled : called = function := by
          simp only [SelectItem.shape, hexpr, Expr.shape] at hshape
          exact Expr.eq_of_callShape_eq_call hshape
        subst hcalled
        exact .expansion ⟨called, args, rule, hshape, hexpr, hfind, hcoarser⟩
      · simp [Rewrite.isForwarded] at hrule
    · simp [Rewrite.isForwarded] at hrule

theorem RollsUp.mem_columnNames {table : RuleTable} {item : SelectItem} {expr : Expr}
    (h : table.RollsUp item expr) {name : String} (hmem : name ∈ expr.columnNames) :
    name = item.aliasName ∨
      (∃ order, item.OrdersBy order ∧ SelectItem.OrdersBy ⟨expr, item.aliasName⟩ order ∧
        name ∈ order.columnNames) ∨
      table.Expands item expr := by
  cases h with
  | aggregate =>
    left
    simpa [Expr.columnNames, Expr.argumentColumnNames] using hmem
  | ordered hfunction horder =>
    simp only [Expr.columnNames, Expr.argumentColumnNames, List.cons_append, List.nil_append,
      List.append_nil, List.mem_cons] at hmem
    rcases hmem with hname | hname
    · exact .inl hname
    · refine .inr (.inl ⟨_, horder, ?_, hname⟩)
      simp only [List.mem_cons, List.not_mem_nil, or_false] at hfunction
      rcases hfunction with rfl | rfl
      · exact .inl rfl
      · exact .inr rfl
  | column =>
    left
    simpa [Expr.columnNames] using hmem
  | constant => simp [Expr.columnNames] at hmem
  | expansion hexpands => exact .inr (.inr hexpands)

/-- A rewritten entry is ordered as the entry was, unless it comes from a template. -/
theorem RollsUp.ordersBy {table : RuleTable} {item : SelectItem} {expr order : Expr}
    (h : table.RollsUp item expr)
    (horder : SelectItem.OrdersBy ⟨expr, item.aliasName⟩ order) :
    item.OrdersBy order ∨ table.Expands item expr := by
  cases h with
  | aggregate hfunction =>
    simp only [List.mem_cons, List.not_mem_nil, or_false] at hfunction
    rcases hfunction with rfl | rfl | rfl | rfl <;>
      simp [SelectItem.OrdersBy, SelectItem.shape, Expr.shape, Expr.callShape,
        Expr.isDistinct] at horder
  | ordered hfunction hitem =>
    simp only [List.mem_cons, List.not_mem_nil, or_false] at hfunction
    rcases hfunction with rfl | rfl <;>
      simp [SelectItem.OrdersBy, SelectItem.shape, Expr.shape, Expr.callShape] at horder
    all_goals exact .inl (horder ▸ hitem)
  | column | constant =>
    simp [SelectItem.OrdersBy, SelectItem.shape, Expr.shape] at horder
  | expansion hexpands => exact .inr hexpands

/-- The order argument of a first or last value is kept. -/
theorem columnNames_order_subset_rewrite {table : RuleTable} {item : SelectItem} {order : Expr}
    (h : item.OrdersBy order) :
    order.columnNames ⊆ (table.rewrite item).item.expr.columnNames := by
  intro name hmem
  rcases h with h | h <;>
    simp [rewrite, h, Rewrite.item, Expr.columnNames, Expr.argumentColumnNames, hmem]

end RuleTable

namespace View

/-- The columns that the rows of a view have. -/
def columns (view : View) : List String :=
  view.timeColumn :: view.aliases

/-- The select list names columns of the other view only. -/
def ClosedOver (view finer : View) : Prop :=
  ∀ item ∈ view.selectItems, item.expr.columnNames ⊆ finer.columns

end View

namespace Chain

/-- Every view that reads another one names only the columns of that one. -/
def IsClosed (chain : Chain) : Prop :=
  ∀ {finer view}, chain.Neighbours finer view → view.ClosedOver finer

theorem not_isClosed_of_mem {chain : Chain} {finer view : View} {item : SelectItem}
    {name : String} (hneighbours : chain.Neighbours finer view)
    (hitem : item ∈ view.selectItems) (hname : name ∈ item.expr.columnNames)
    (hmissing : name ∉ finer.columns) : ¬ chain.IsClosed := by
  intro hclosed
  exact hmissing (hclosed hneighbours item hitem hname)

/-- Where the columns that the coarser views of a chain name come from. -/
structure ColumnOrigins (chain : Chain) (table : RuleTable)
    (definition : AggregateDefinition) : Prop where
  /-- An entry names the column of its own alias, which the finer view has, and no other column but in
  an order argument, which the entry that it rolls up has too, or by the template of a custom rule. -/
  origin : ∀ {finer view}, chain.Neighbours finer view → ∀ item ∈ view.selectItems,
    item.aliasName ∈ finer.aliases ∧
      ∃ source ∈ finer.selectItems, source.aliasName = item.aliasName ∧
        ∀ name ∈ item.expr.columnNames, name = item.aliasName ∨
          (∃ order, source.OrdersBy order ∧ item.OrdersBy order ∧ name ∈ order.columnNames) ∨
          table.Expands source item.expr
  /-- The chain is closed exactly if the order arguments of the definition and the filled-in templates
  name no columns but those of the views. -/
  isClosed_iff : chain.coarser ≠ [] →
    (chain.IsClosed ↔
      (∀ item ∈ definition.selectItems, ∀ order, item.OrdersBy order →
        order.columnNames ⊆ definition.timeColumn :: definition.aliases) ∧
      ∀ {finer view}, chain.Neighbours finer view → ∀ item ∈ finer.selectItems, ∀ expr,
        table.Expands item expr →
          expr.columnNames ⊆ definition.timeColumn :: definition.aliases)

end Chain

namespace ChainBuilder

variable {table : RuleTable} {definition : AggregateDefinition} {sequence : GranularitySequence}

theorem columns_chainOver {level : ℕ} {view : View}
    (hview : (chainOver table definition sequence).views[level]? = some view) :
    view.columns = definition.timeColumn :: definition.aliases := by
  have hlevel : IsLevel table definition level view :=
    isLevel_of_getElem? (isLevel_finestView _) hview
  rw [View.columns, hlevel.timeColumn, hlevel.aliases]

theorem selectItems_of_neighbours {finer view : View}
    (hneighbours : (chainOver table definition sequence).Neighbours finer view) :
    view.selectItems = finer.selectItems.map fun item => (table.rewrite item).item := by
  rw [(neighbours_chainOver hneighbours).1, ← RuleTable.coarserItems_eq_map]
  rfl

/-- Without warnings, every entry of a view rolls up an entry of the view before it. -/
theorem exists_source_of_mem (hwarnings : (chainOver table definition sequence).warnings = [])
    {finer view : View}
    (hneighbours : (chainOver table definition sequence).Neighbours finer view)
    {item : SelectItem} (hitem : item ∈ view.selectItems) :
    ∃ source ∈ finer.selectItems, source.aliasName = item.aliasName ∧
      table.RollsUp source item.expr := by
  rw [selectItems_of_neighbours hneighbours] at hitem
  obtain ⟨source, hsource, rfl⟩ := List.mem_map.1 hitem
  have hnone := (neighbours_chainOver hneighbours).2
  rw [hwarnings, List.subset_nil, RuleTable.forwardWarnings_eq_nil_iff] at hnone
  exact ⟨source, hsource, (table.aliasName_rewrite source).symm,
    RuleTable.rollsUp_of_not_forwarded (hnone source hsource)⟩

/-- An order argument above the finest view was there from the start, or a template brought it. -/
theorem columnNames_order_subset_of_getElem?
    (hwarnings : (chainOver table definition sequence).warnings = []) {names : List String}
    (horders : ∀ item ∈ definition.selectItems, ∀ order, item.OrdersBy order →
      order.columnNames ⊆ names)
    (hexpansions : ∀ {finer view},
      (chainOver table definition sequence).Neighbours finer view →
        ∀ item ∈ finer.selectItems, ∀ expr, table.Expands item expr →
          expr.columnNames ⊆ names)
    {level : ℕ} {view : View}
    (hview : (chainOver table definition sequence).views[level]? = some view) :
    ∀ item ∈ view.selectItems, ∀ order, item.OrdersBy order → order.columnNames ⊆ names := by
  induction level generalizing view with
  | zero =>
    simp only [Chain.views, chainOver, List.getElem?_cons_zero, Option.some.injEq] at hview
    rw [← hview]
    exact horders
  | succ level ih =>
    obtain ⟨finer, hfiner⟩ := exists_getElem?_of_succ hview
    have hneighbours : (chainOver table definition sequence).Neighbours finer view :=
      ⟨level, hfiner, hview⟩
    intro item hitem order horder
    obtain ⟨source, hsource, halias, hrolls⟩ :=
      exists_source_of_mem hwarnings hneighbours hitem
    rcases hrolls.ordersBy (by rw [halias]; exact horder) with hkept | hexpands
    · exact ih hfiner source hsource order hkept
    · intro name hname
      exact hexpansions hneighbours source hsource item.expr hexpands
        (SelectItem.columnNames_order_subset horder hname)

theorem exists_neighbours_finest {chain : Chain} (hcoarser : chain.coarser ≠ []) :
    ∃ view, chain.Neighbours chain.finest view := by
  obtain ⟨view, views, hviews⟩ := List.exists_cons_of_ne_nil hcoarser
  exact ⟨view, 0, rfl, by simp [Chain.views, hviews]⟩

/-- What a closed chain names, it names also in the order arguments and in the expansions, which the
views above take over. -/
theorem subset_of_isClosed (hclosed : (chainOver table definition sequence).IsClosed)
    {finer view : View}
    (hneighbours : (chainOver table definition sequence).Neighbours finer view)
    {item : SelectItem} (hitem : item ∈ finer.selectItems) :
    (table.rewrite item).item.expr.columnNames ⊆
      definition.timeColumn :: definition.aliases := by
  have hrewritten : (table.rewrite item).item ∈ view.selectItems := by
    rw [selectItems_of_neighbours hneighbours]
    exact List.mem_map.2 ⟨item, hitem, rfl⟩
  obtain ⟨level, hfiner, -⟩ := id hneighbours
  rw [← columns_chainOver hfiner]
  exact hclosed hneighbours _ hrewritten

theorem isClosed_iff (hwarnings : (chainOver table definition sequence).warnings = [])
    (hcoarser : (chainOver table definition sequence).coarser ≠ []) :
    (chainOver table definition sequence).IsClosed ↔
      (∀ item ∈ definition.selectItems, ∀ order, item.OrdersBy order →
        order.columnNames ⊆ definition.timeColumn :: definition.aliases) ∧
      ∀ {finer view}, (chainOver table definition sequence).Neighbours finer view →
        ∀ item ∈ finer.selectItems, ∀ expr, table.Expands item expr →
          expr.columnNames ⊆ definition.timeColumn :: definition.aliases := by
  constructor
  · intro hclosed
    constructor
    · intro item hitem order horder
      obtain ⟨view, hneighbours⟩ := exists_neighbours_finest hcoarser
      exact List.Subset.trans (RuleTable.columnNames_order_subset_rewrite horder)
        (subset_of_isClosed hclosed hneighbours hitem)
    · intro finer view hneighbours item hitem expr hexpands
      rw [← RuleTable.expr_rewrite_of_expands hexpands]
      exact subset_of_isClosed hclosed hneighbours hitem
  · rintro ⟨horders, hexpansions⟩ finer view hneighbours item hitem name hname
    obtain ⟨level, hfiner, -⟩ := id hneighbours
    obtain ⟨source, hsource, halias, hrolls⟩ :=
      exists_source_of_mem hwarnings hneighbours hitem
    rw [columns_chainOver hfiner]
    rcases hrolls.mem_columnNames hname with hself | ⟨order, horder, -, hname⟩ | hexpands
    · have hlevel : IsLevel table definition level finer :=
        isLevel_of_getElem? (isLevel_finestView _) hfiner
      rw [hself, ← hlevel.aliases]
      exact List.mem_cons_of_mem _ (List.mem_map.2 ⟨source, hsource, rfl⟩)
    · exact columnNames_order_subset_of_getElem? hwarnings horders hexpansions hfiner
        source hsource order horder hname
    · exact hexpansions hneighbours source hsource item.expr hexpands hname

/-- A chain that is built without warnings is closed but for order arguments and custom templates. -/
theorem columnOrigins_of_build {table : RuleTable} {definition : AggregateDefinition}
    {granularities : List Granularity} {chain : Chain}
    (h : ((ChainBuilder.mk table false).build definition granularities).result = .ok chain)
    (hwarnings : chain.warnings = []) : chain.ColumnOrigins table definition := by
  obtain ⟨sequence, hsequence, rfl, -⟩ := exists_of_build h
  refine ⟨?_, isClosed_iff hwarnings⟩
  intro finer view hneighbours item hitem
  obtain ⟨source, hsource, halias, hrolls⟩ := exists_source_of_mem hwarnings hneighbours hitem
  refine ⟨List.mem_map.2 ⟨source, hsource, halias⟩, source, hsource, halias, ?_⟩
  intro name hname
  have hcases := hrolls.mem_columnNames hname
  rw [halias] at hcases
  exact hcases

/-- Visits with a sketch of the users, and the page that comes first by a sequence number. -/
def visits : AggregateDefinition where
  name := "visits"
  relation := "events"
  timeColumn := "ts"
  selectItems :=
    [⟨.call "hll" [.column "user_id"], "visitors"⟩,
      ⟨.call "first" [.column "page", .column "seq"], "landing"⟩]
  groupBy := []
  filter := none
  refreshPlan := .empty

def visitRules : RuleTable :=
  ⟨[⟨"hll", "hll_merge(\x7balias\x7d, \x7b0\x7d)"⟩]⟩

theorem columnOrigins_visits :
    ∃ chain, ((ChainBuilder.mk visitRules false).build visits [.minute, .hour]).result =
        .ok chain ∧
      chain.warnings = [] ∧ chain.ColumnOrigins visitRules visits :=
  ⟨_, rfl, rfl, @columnOrigins_of_build _ _ [.minute, .hour] _ rfl rfl⟩

/-- The hourly view of the visits reads the users and the sequence numbers of the raw rows, which the view
per minute does not have, and there is no warning about it. -/
theorem visits_not_isClosed :
    RuleTable.ofRules visitRules.custom = .ok visitRules ∧
      Draft.build ⟨"visits", "events", "ts",
        [.sql "hll(user_id) as visitors", .sql "first(page, seq) as landing"], [], none,
        .empty⟩ = .ok visits ∧
      ∃ chain, ((ChainBuilder.mk visitRules false).build visits [.minute, .hour]).result =
          .ok chain ∧
        chain.warnings = [] ∧ ¬ chain.IsClosed ∧
        ∃ finer view, chain.Neighbours finer view ∧
          finer.columns = ["ts", "visitors", "landing"] ∧
          view.selectItems.map (fun item => item.expr.columnNames) =
            [["visitors", "user_id"], ["landing", "seq"]] := by
  refine ⟨rfl, rfl, _, rfl, rfl, ?_, _, _, ⟨0, rfl, rfl⟩, rfl, by decide +kernel⟩
  apply Chain.not_isClosed_of_mem (⟨0, rfl, rfl⟩ : Chain.Neighbours _ _ _) List.mem_cons_self
    (show "user_id" ∈ _ by decide +kernel)
  decide

end ChainBuilder

end TimeRollup

import TimeRollup.Proofs.Chain.Levels
import TimeRollup.Proofs.Definition.Aliases
import TimeRollup.Proofs.Meaning.Items

/-!
# Tables of standard definitions

The rows that a standard definition makes of raw rows at a bucket width, spelled out group by group.  The
rewritten select list makes the rows of a coarser width from those of a finer one.
-/

namespace TimeRollup

namespace Row

@[simp]
theorem ofGroup_timeColumn (timeColumn : String) (bucket : ℤ) (values : List (String × ℤ)) :
    ofGroup timeColumn bucket values timeColumn = some bucket :=
  if_pos rfl

end Row

namespace AggregateDefinition

/-- Each group key is selected under its own name, and besides there are counts, sums, extremes, and
first and last values in time. -/
structure IsStandard (definition : AggregateDefinition) : Prop where
  items : ∀ item ∈ definition.selectItems,
    item.Standard definition.timeColumn definition.groupBy
  keys : ∀ key ∈ definition.groupBy,
    (⟨.column key, key⟩ : SelectItem) ∈ definition.selectItems

/-- Rows with the same group keys differ in their times.  Rows of one time are in one bucket, so this is
the same as to ask for different times inside each group, whatever the width of the buckets. -/
def DistinctTimes (definition : AggregateDefinition) (rows : List (String → ℤ)) : Prop :=
  rows.Pairwise fun values other =>
    definition.groupBy.map values = definition.groupBy.map other →
      values definition.timeColumn ≠ other definition.timeColumn

section Definitions

variable (definition : AggregateDefinition) (bucket : ℤ → ℤ) (rows : List (String → ℤ))

def grouping : Grouping :=
  ⟨bucket, definition.timeColumn, definition.groupBy⟩

def groupOf (values : String → ℤ) : ℤ × List ℤ :=
  (bucket (values definition.timeColumn), definition.groupBy.map values)

def groups : List (ℤ × List ℤ) :=
  (rows.map (definition.groupOf bucket)).dedup

def members (group : ℤ × List ℤ) : List (String → ℤ) :=
  rows.filter fun values => definition.groupOf bucket values = group

/-- What an entry makes of a group. -/
def valueIn (group : ℤ × List ℤ) (item : SelectItem) : ℤ :=
  (item.expr.groupValue? definition.groupBy
    ((definition.members bucket rows group).map Row.ofValues)).getD 0

def rowOf (group : ℤ × List ℤ) : Row :=
  .ofGroup definition.timeColumn group.1
    (definition.selectItems.map fun item =>
      (item.aliasName, definition.valueIn bucket rows group item))

def table : List Row :=
  (definition.groups bucket rows).map (definition.rowOf bucket rows)

end Definitions

variable {definition : AggregateDefinition} {bucket : ℤ → ℤ} {rows : List (String → ℤ)}
  {group : ℤ × List ℤ}

theorem distinctTimes_iff :
    definition.DistinctTimes rows ↔
      rows.Pairwise fun values other =>
        definition.groupOf bucket values = definition.groupOf bucket other →
          values definition.timeColumn ≠ other definition.timeColumn := by
  constructor
  · intro h
    apply h.imp
    intro values other hne hsame
    exact hne (Prod.mk.inj hsame).2
  · intro h
    apply h.imp
    intro values other hne hkeys htime
    exact hne (Prod.ext (congrArg bucket htime) hkeys) htime

theorem mem_groups_iff :
    group ∈ definition.groups bucket rows ↔
      ∃ values ∈ rows, definition.groupOf bucket values = group := by
  rw [groups, List.mem_dedup, List.mem_map]

theorem mem_members_iff {values : String → ℤ} :
    values ∈ definition.members bucket rows group ↔
      values ∈ rows ∧ definition.groupOf bucket values = group := by
  simp [members]

theorem members_ne_nil (hgroup : group ∈ definition.groups bucket rows) :
    definition.members bucket rows group ≠ [] := by
  obtain ⟨values, hvalues, heq⟩ := mem_groups_iff.1 hgroup
  exact List.ne_nil_of_mem (mem_members_iff.2 ⟨hvalues, heq⟩)

theorem groupValue?_members (hstandard : definition.IsStandard)
    (hgroup : group ∈ definition.groups bucket rows) {item : SelectItem}
    (hitem : item ∈ definition.selectItems) :
    item.expr.groupValue? definition.groupBy
        ((definition.members bucket rows group).map Row.ofValues) =
      some (definition.valueIn bucket rows group item) := by
  obtain ⟨value, hvalue⟩ :=
    (hstandard.items item hitem).exists_groupValue? (members_ne_nil hgroup)
  rw [valueIn, hvalue, Option.getD_some]

theorem group?_ofValues (values : String → ℤ) :
    (definition.grouping bucket).group? (Row.ofValues values) =
      some (definition.groupOf bucket values) := by
  have hkeys : definition.groupBy.mapM (Row.ofValues values) =
      some (definition.groupBy.map values) := mapM_eq_some_map fun _ _ => rfl
  rw [Grouping.group?, grouping, hkeys]
  rfl

/-- What the select list makes of raw rows. -/
theorem evaluate?_ofValues (hstandard : definition.IsStandard) :
    (definition.grouping bucket).evaluate? definition.selectItems (rows.map Row.ofValues) =
      some (definition.table bucket rows) := by
  apply Grouping.evaluate?_map fun values _ => group?_ofValues values
  intro group hgroup
  have hmem : group ∈ definition.groups bucket rows := List.mem_dedup.2 hgroup
  have hvalues := selectedValues?_map id (fun _ => rfl) fun item hitem =>
    groupValue?_members hstandard hmem hitem
  rwa [List.map_id] at hvalues

theorem rowOf_timeColumn :
    definition.rowOf bucket rows group definition.timeColumn = some group.1 :=
  Row.ofGroup_timeColumn ..

theorem rowOf_aliasName (hnames : definition.WellNamed) {item : SelectItem}
    (hitem : item ∈ definition.selectItems) :
    definition.rowOf bucket rows group item.aliasName =
      some (definition.valueIn bucket rows group item) := by
  have hmem : item.aliasName ∈ definition.aliases := List.mem_map_of_mem hitem
  have hne : item.aliasName ≠ definition.timeColumn := fun heq =>
    hnames.timeColumn_notMem (heq ▸ hmem)
  have hnodup : ((definition.selectItems.map fun item =>
      (item.aliasName, definition.valueIn bucket rows group item)).map Prod.fst).Nodup := by
    rw [List.map_map]
    exact hnames.nodup
  rw [rowOf, Row.ofGroup, if_neg hne]
  exact lookup_of_mem hnodup (List.mem_map.2 ⟨item, hitem, rfl⟩)

/-- The row of a group has the group keys that all rows of the group have. -/
theorem valueIn_key {values : String → ℤ} (hvalues : values ∈ rows) {key : String}
    (hkey : key ∈ definition.groupBy) :
    definition.valueIn bucket rows (definition.groupOf bucket values) ⟨.column key, key⟩ =
      values key := by
  have hmem : values ∈ definition.members bucket rows (definition.groupOf bucket values) :=
    mem_members_iff.2 ⟨hvalues, rfl⟩
  obtain ⟨other, others, hothers⟩ := List.exists_cons_of_ne_nil (List.ne_nil_of_mem hmem)
  have hother : other ∈ definition.members bucket rows (definition.groupOf bucket values) := by
    simp [hothers]
  have hkeys : definition.groupBy.map other = definition.groupBy.map values :=
    (Prod.mk.inj (mem_members_iff.1 hother).2).2
  have hsame : other key = values key := List.map_inj_left.1 hkeys key hkey
  rw [valueIn, Expr.groupValue?, if_pos hkey, columnValues?_ofValues, hothers, Option.bind_some,
    List.map_cons, List.head?_cons, Option.getD_some, hsame]

section Coarser

variable {fine coarse : ℤ → ℤ}

theorem group?_rowOf (hstandard : definition.IsStandard) (hnames : definition.WellNamed)
    (hgroup : group ∈ definition.groups fine rows) :
    (definition.grouping coarse).group? (definition.rowOf fine rows group) =
      some (coarse group.1, group.2) := by
  obtain ⟨values, hvalues, rfl⟩ := mem_groups_iff.1 hgroup
  have hkeys : definition.groupBy.mapM
      (definition.rowOf fine rows (definition.groupOf fine values)) =
        some (definition.groupBy.map values) := by
    apply mapM_eq_some_map
    intro key hkey
    rw [rowOf_aliasName hnames (hstandard.keys key hkey), valueIn_key hvalues hkey]
  rw [Grouping.group?, grouping, rowOf_timeColumn, hkeys]
  rfl

theorem groupOf_eq (hnest : ∀ time, coarse (fine time) = coarse time) (values : String → ℤ) :
    definition.groupOf coarse values =
      (coarse (definition.groupOf fine values).1, (definition.groupOf fine values).2) := by
  rw [groupOf, groupOf, hnest]

theorem inFinerGroups (hmonotone : Monotone fine)
    (hnest : ∀ time, coarse (fine time) = coarse time) (hdistinct : definition.DistinctTimes rows)
    (hgroup : group ∈ definition.groups coarse rows) :
    InFinerGroups definition.timeColumn definition.groupBy fine
      (definition.members coarse rows group)
      ((definition.groups fine rows).filter fun finer => (coarse finer.1, finer.2) = group)
      (definition.members fine rows) where
  perm := by
    have hmembers : definition.members coarse rows group = rows.filter fun values =>
        (coarse (definition.groupOf fine values).1, (definition.groupOf fine values).2) = group := by
      simp only [members, groupOf_eq hnest]
    rw [hmembers]
    exact filter_perm_flatMap (definition.groupOf fine)
      (fun finer => (coarse finer.1, finer.2)) rows group
  ne_nil := by
    obtain ⟨values, hvalues, heq⟩ := mem_groups_iff.1 hgroup
    rw [groupOf_eq hnest] at heq
    have hmem : definition.groupOf fine values ∈ definition.groups fine rows :=
      mem_groups_iff.2 ⟨values, hvalues, rfl⟩
    exact List.ne_nil_of_mem (List.mem_filter.2 ⟨hmem, by simpa using heq⟩)
  monotone := hmonotone
  bucket_eq := by
    intro finer _ values hvalues
    rw [← (mem_members_iff.1 hvalues).2, groupOf]
  buckets_nodup := by
    apply List.Nodup.map_on _ ((List.nodup_dedup _).filter _)
    intro finer hfiner other hother hsame
    have hkeys : (coarse finer.1, finer.2) = (coarse other.1, other.2) := by
      rw [of_decide_eq_true (List.mem_filter.1 hfiner).2,
        of_decide_eq_true (List.mem_filter.1 hother).2]
    exact Prod.ext hsame (Prod.mk.inj hkeys).2
  times_nodup := by
    rw [List.Nodup, List.pairwise_map]
    apply (hdistinct.filter _).imp_of_mem
    intro values other hvalues hother hne
    apply hne
    have hsame : definition.groupOf coarse values = definition.groupOf coarse other := by
      rw [of_decide_eq_true (List.mem_filter.1 hvalues).2,
        of_decide_eq_true (List.mem_filter.1 hother).2]
    exact (Prod.mk.inj hsame).2
  keys_eq := by
    intro key hkey values hvalues other hother
    have hsame : definition.groupOf coarse values = definition.groupOf coarse other := by
      rw [(mem_members_iff.1 hvalues).2, (mem_members_iff.1 hother).2]
    exact List.map_inj_left.1 (Prod.mk.inj hsame).2 key hkey

/-- What the rewritten select list makes of the rows of a finer bucket width. -/
theorem evaluate?_table (hstandard : definition.IsStandard) (hnames : definition.WellNamed)
    (hmonotone : Monotone fine) (hnest : ∀ time, coarse (fine time) = coarse time)
    (hdistinct : definition.DistinctTimes rows) (rules : RuleTable) :
    (definition.grouping coarse).evaluate? (rules.coarserItems definition.selectItems)
        (definition.table fine rows) =
      some (definition.table coarse rows) := by
  have hgroups : ((definition.groups fine rows).map fun finer => (coarse finer.1, finer.2)).dedup =
      definition.groups coarse rows := by
    have hmerge : ((fun finer : ℤ × List ℤ => (coarse finer.1, finer.2)) ∘
        definition.groupOf fine) = definition.groupOf coarse := by
      funext values
      exact (groupOf_eq hnest values).symm
    rw [groups, dedup_map_dedup, List.map_map, hmerge, groups]
  rw [table, table, ← hgroups, RuleTable.coarserItems_eq_map]
  apply Grouping.evaluate?_map fun finer hfiner => group?_rowOf hstandard hnames hfiner
  intro group hgroup
  have hmem : group ∈ definition.groups coarse rows := hgroups ▸ List.mem_dedup.2 hgroup
  apply selectedValues?_map _ fun item => rules.aliasName_rewrite item
  intro item hitem
  rw [← groupValue?_members hstandard hmem hitem]
  exact (hstandard.items item hitem).groupValue?_rewrite
    (inFinerGroups hmonotone hnest hdistinct hmem) (fun _ _ => rowOf_timeColumn)
    (fun _ _ => rowOf_aliasName hnames hitem)
    (fun finer hfiner => groupValue?_members hstandard (List.mem_filter.1 hfiner).1 hitem) rules

end Coarser

end AggregateDefinition

end TimeRollup

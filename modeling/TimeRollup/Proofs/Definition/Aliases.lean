import TimeRollup.Definition.Draft
import Mathlib.Data.List.Nodup

/-!
# The aliases of a definition

What the checks of a draft come down to: in every definition that is built, the aliases name columns
that differ from each other and from the time column.
-/

namespace TimeRollup

/-- The time column and the aliases name columns, no two of them the same one. -/
structure AggregateDefinition.WellNamed (definition : AggregateDefinition) : Prop where
  nodup : definition.aliases.Nodup
  timeColumn_notMem : definition.timeColumn ∉ definition.aliases
  isAlias : ∀ aliasName ∈ definition.aliases,
    aliasName.isEmpty = false ∧ Sql.isAlias aliasName.toList = true

theorem bind_eq_ok_iff {ε α β : Type} {first : Except ε α} {next : α → Except ε β} {value : β} :
    first >>= next = .ok value ↔ ∃ middle, first = .ok middle ∧ next middle = .ok value := by
  cases first <;> simp [bind, Except.bind]

theorem bind_eq_error_iff {ε α β : Type} {first : Except ε α} {next : α → Except ε β} {error : ε} :
    first >>= next = .error error ↔
      first = .error error ∨ ∃ middle, first = .ok middle ∧ next middle = .error error := by
  cases first <;> simp [bind, Except.bind]

/-- An entry of a list is found by its key if no other entry has it. -/
theorem find?_eq_some_of_nodup_map {α β : Type} [BEq β] [LawfulBEq β] {key : α → β}
    {entries : List α} {entry : α} (hnodup : (entries.map key).Nodup) (h : entry ∈ entries) :
    entries.find? (key · == key entry) = some entry := by
  cases hfind : entries.find? (key · == key entry) with
  | none =>
    have hnone := List.find?_eq_none.1 hfind entry h
    simp at hnone
  | some found =>
    have hkey : key found = key entry := by simpa using List.find?_some hfind
    rw [List.inj_on_of_nodup_map hnodup (List.mem_of_find?_eq_some hfind) h hkey]

namespace Draft

open TimeRollup.Text

theorem checkNames_eq_ok_iff {draft : Draft} :
    draft.checkNames = .ok () ↔
      Sql.isIdentifier draft.name.toList = true ∧ isBlankText draft.relation = false ∧
        isBlankText draft.timeColumn = false ∧
        Sql.isIdentifier draft.timeColumn.toList = true := by
  unfold checkNames
  split_ifs <;> simp_all

theorem checkAlias_eq_ok_iff {timeColumn : String} {seen : List String} {item : SelectItem} :
    checkAlias timeColumn seen item = .ok () ↔
      (item.aliasName.isEmpty = false ∧ Sql.isAlias item.aliasName.toList = true) ∧
        item.aliasName ≠ timeColumn ∧ item.aliasName ∉ seen := by
  unfold checkAlias
  split_ifs <;> simp_all

theorem checkAliases_eq_ok_iff {timeColumn : String} {seen : List String}
    {items : List SelectItem} :
    checkAliases timeColumn seen items = .ok () ↔
      (items.map SelectItem.aliasName).Nodup ∧
        ∀ aliasName ∈ items.map SelectItem.aliasName,
          (aliasName.isEmpty = false ∧ Sql.isAlias aliasName.toList = true) ∧
            aliasName ≠ timeColumn ∧ aliasName ∉ seen := by
  induction items generalizing seen with
  | nil => simp [checkAliases]
  | cons item items ih =>
    have hsplit : checkAliases timeColumn seen (item :: items) = .ok () ↔
        checkAlias timeColumn seen item = .ok () ∧
          checkAliases timeColumn (item.aliasName :: seen) items = .ok () := by
      rw [checkAliases]
      cases checkAlias timeColumn seen item <;> simp [bind, Except.bind]
    rw [hsplit, checkAlias_eq_ok_iff, ih, List.map_cons, List.nodup_cons, List.forall_mem_cons]
    simp only [List.mem_cons, not_or]
    constructor
    · rintro ⟨hitem, hnodup, hitems⟩
      have hfresh : item.aliasName ∉ items.map SelectItem.aliasName := fun hmem =>
        (hitems _ hmem).2.2.1 rfl
      refine ⟨⟨hfresh, hnodup⟩, hitem, ?_⟩
      intro aliasName hmem
      obtain ⟨hname, htime, -, hseen⟩ := hitems aliasName hmem
      exact ⟨hname, htime, hseen⟩
    · rintro ⟨⟨hfresh, hnodup⟩, hitem, hitems⟩
      refine ⟨hitem, hnodup, ?_⟩
      intro aliasName hmem
      obtain ⟨hname, htime, hseen⟩ := hitems aliasName hmem
      exact ⟨hname, htime, fun heq => hfresh (heq ▸ hmem), hseen⟩

/-- The definition that a draft stands for once its select list has been read. -/
def definition (draft : Draft) (items : List SelectItem) : AggregateDefinition where
  name := draft.name
  relation := trimmed draft.relation
  timeColumn := draft.timeColumn
  selectItems := items
  groupBy := draft.groupBy.map trimmed
  filter := (draft.filter.map trimmed).filter fun condition => !condition.isEmpty
  refreshPlan := draft.refreshPlan

theorem build_eq_ok_iff {draft : Draft} {built : AggregateDefinition} :
    draft.build = .ok built ↔
      draft.checkNames = .ok () ∧
        ∃ items, draft.select.mapM DraftItem.read = .ok items ∧ items ≠ [] ∧
          checkAliases draft.timeColumn [] items = .ok () ∧ draft.checkGroupBy = .ok () ∧
          built = draft.definition items := by
  simp only [build, bind_eq_ok_iff]
  constructor
  · rintro ⟨⟨⟩, hnames, items, hread, hbuilt⟩
    refine ⟨hnames, items, hread, ?_⟩
    cases items with
    | nil => simp [bind, Except.bind] at hbuilt
    | cons item items =>
      rw [if_neg (by simp)] at hbuilt
      simp only [bind_eq_ok_iff] at hbuilt
      obtain ⟨⟨⟩, haliases, ⟨⟩, hgroupBy, hbuilt⟩ := hbuilt
      exact ⟨by simp, haliases, hgroupBy, (Except.ok.inj hbuilt).symm⟩
  · rintro ⟨hnames, items, hread, hitems, haliases, hgroupBy, rfl⟩
    refine ⟨(), hnames, items, hread, ?_⟩
    rw [if_neg (by simpa using hitems), haliases, hgroupBy]
    rfl

theorem wellNamed_of_build {draft : Draft} {built : AggregateDefinition}
    (h : draft.build = .ok built) : built.WellNamed := by
  obtain ⟨-, items, -, -, hchecked, -, rfl⟩ := build_eq_ok_iff.1 h
  obtain ⟨hnodup, haliases⟩ := checkAliases_eq_ok_iff.1 hchecked
  exact {
    nodup := hnodup
    timeColumn_notMem := fun hmem => (haliases _ hmem).2.1 rfl
    isAlias := fun aliasName hmem => (haliases aliasName hmem).1 }

end Draft

end TimeRollup

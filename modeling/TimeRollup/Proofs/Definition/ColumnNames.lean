import TimeRollup.Proofs.Chain.Columns
import TimeRollup.Proofs.Definition.Aliases
import TimeRollup.Proofs.Sql.Names

/-!
# The names of output columns

A name has more than one spelling: plain names mean the same in either letter case, and a name in quotes
means what a plain one means that is the quoted text in lower case.  The checks of a draft compare
spellings.  So they keep the output columns apart as far as no column respells another, and every view
has the columns that the draft has.
-/

namespace TimeRollup

namespace Sql

/-- The name that a plain or quoted name stands for: the text between the quotes, or else the plain name
with its ASCII letters in lower case. -/
def denoted : List Char → List Char
  | '"' :: rest => rest.dropLast
  | name => name.map Char.toLower

/-- Two spellings of one name. -/
inductive Respells : List Char → List Char → Prop
  | letterCase {left right : List Char} (hleft : isIdentifier left = true)
      (hright : isIdentifier right = true) (hne : left ≠ right)
      (hlower : left.map Char.toLower = right.map Char.toLower) : Respells left right
  | quotes {plain : List Char} (hplain : isIdentifier plain = true) :
      Respells ('"' :: (plain.map Char.toLower ++ ['"'])) plain

@[simp]
theorem denoted_quoted (content : List Char) : denoted ('"' :: (content ++ ['"'])) = content := by
  simp [denoted]

theorem denoted_of_isIdentifier {s : List Char} (h : isIdentifier s = true) :
    denoted s = s.map Char.toLower := by
  cases s with
  | nil => rfl
  | cons c s =>
    have hquote := head_ne_quote_of_isIdentifier h
    unfold denoted
    split
    · rename_i heq
      exact absurd (List.cons.inj heq).1 hquote
    · rfl

theorem Respells.ne {left right : List Char} (h : Respells left right) : left ≠ right := by
  cases h with
  | letterCase hleft hright hne hlower => exact hne
  | quotes hplain =>
    rintro heq
    rw [← heq] at hplain
    exact head_ne_quote_of_isIdentifier hplain rfl

theorem Respells.denoted_eq {left right : List Char} (h : Respells left right) :
    denoted left = denoted right := by
  cases h with
  | letterCase hleft hright hne hlower =>
    rw [denoted_of_isIdentifier hleft, denoted_of_isIdentifier hright, hlower]
  | quotes hplain => rw [denoted_quoted, denoted_of_isIdentifier hplain]

/-- Two quoted names stand for one name only if they are the same, so one of two names that differ and
stand for the same is plain. -/
theorem respells_of_denoted_eq {left right : List Char} (hleft : isAlias left = true)
    (hright : isAlias right = true) (hne : left ≠ right) (h : denoted left = denoted right) :
    Respells left right ∨ Respells right left := by
  simp only [isAlias, Bool.or_eq_true] at hleft hright
  rcases hleft with hleft | hleft <;> rcases hright with hright | hright
  · rw [denoted_of_isIdentifier hleft, denoted_of_isIdentifier hright] at h
    exact .inl (.letterCase hleft hright hne h)
  · obtain ⟨content, -, -, rfl⟩ := isQuotedName_iff.1 hright
    rw [denoted_of_isIdentifier hleft, denoted_quoted] at h
    exact .inr (h ▸ .quotes hleft)
  · obtain ⟨content, -, -, rfl⟩ := isQuotedName_iff.1 hleft
    rw [denoted_of_isIdentifier hright, denoted_quoted] at h
    exact .inl (h ▸ .quotes hright)
  · obtain ⟨content, -, -, rfl⟩ := isQuotedName_iff.1 hleft
    obtain ⟨content', -, -, rfl⟩ := isQuotedName_iff.1 hright
    rw [denoted_quoted, denoted_quoted] at h
    exact absurd (by rw [h]) hne

/-- What columns are called, however they are spelled. -/
def namesOf (columns : List String) : List (List Char) :=
  columns.map fun column => denoted column.toList

theorem nodup_namesOf_iff {columns : List String}
    (haliases : ∀ column ∈ columns, isAlias column.toList = true) (hnodup : columns.Nodup) :
    (namesOf columns).Nodup ↔
      ∀ left ∈ columns, ∀ right ∈ columns, ¬ Respells left.toList right.toList := by
  rw [namesOf, List.nodup_map_iff_inj_on hnodup]
  constructor
  · intro hinjective left hleft right hright hrespells
    have heq := hinjective left hleft right hright hrespells.denoted_eq
    exact hrespells.ne (congrArg String.toList heq)
  · intro hrespells left hleft right hright hdenoted
    by_contra hne
    rcases respells_of_denoted_eq (haliases left hleft) (haliases right hright)
      (fun heq => hne (String.toList_inj.1 heq)) hdenoted with h | h
    · exact hrespells left hleft right hright h
    · exact hrespells right hright left hleft h

end Sql

/-- The output columns, as they are spelled. -/
def AggregateDefinition.columns (definition : AggregateDefinition) : List String :=
  definition.timeColumn :: definition.aliases

theorem ChainBuilder.columns_of_build {builder : ChainBuilder} {definition : AggregateDefinition}
    {granularities : List Granularity} {chain : Chain}
    (h : (builder.build definition granularities).result = .ok chain) {view : View}
    (hview : view ∈ chain.views) : view.columns = definition.columns := by
  obtain ⟨sequence, -, rfl, -⟩ := exists_of_build h
  obtain ⟨level, hlevel⟩ := List.mem_iff_getElem?.1 hview
  exact columns_chainOver hlevel

namespace Draft

theorem nodup_columns_of_build {draft : Draft} {built : AggregateDefinition}
    (h : draft.build = .ok built) : built.columns.Nodup :=
  List.nodup_cons.2 ⟨(wellNamed_of_build h).timeColumn_notMem, (wellNamed_of_build h).nodup⟩

theorem isAlias_of_mem_columns {draft : Draft} {built : AggregateDefinition}
    (h : draft.build = .ok built) {column : String} (hmem : column ∈ built.columns) :
    Sql.isAlias column.toList = true := by
  rcases List.mem_cons.1 hmem with rfl | hmem
  · obtain ⟨hnames, items, -, -, -, -, rfl⟩ := build_eq_ok_iff.1 h
    have hidentifier := (checkNames_eq_ok_iff.1 hnames).2.2.2
    simp [Sql.isAlias, definition, hidentifier]
  · exact ((wellNamed_of_build h).isAlias column hmem).2

/-- The output columns of a definition have different names exactly if none respells another.  All
views of all chains of the definition have these columns. -/
theorem nodup_outputNames_iff {draft : Draft} {built : AggregateDefinition}
    (h : draft.build = .ok built) :
    ((Sql.namesOf built.columns).Nodup ↔
        ∀ left ∈ built.columns, ∀ right ∈ built.columns,
          ¬ Sql.Respells left.toList right.toList) ∧
      ∀ {builder : ChainBuilder} {granularities chain},
        (builder.build built granularities).result = .ok chain →
          ∀ view ∈ chain.views, view.columns = built.columns :=
  ⟨Sql.nodup_namesOf_iff (fun _ => isAlias_of_mem_columns h) (nodup_columns_of_build h),
    fun hbuild _ => ChainBuilder.columns_of_build hbuild⟩

/-- Hits by page, with an alias in quotes. -/
def hits : Draft where
  name := "hits"
  relation := "events"
  timeColumn := "ts"
  select :=
    [.sql "page", .pair "count(*)" "\"Total\"", .parsed ⟨.call "sum" [.column "hits"], "total"⟩]
  groupBy := ["page"]
  filter := none
  refreshPlan := .empty

theorem nodup_outputNames_hits :
    ∃ built, hits.build = .ok built ∧
      (∀ left ∈ built.columns, ∀ right ∈ built.columns,
        ¬ Sql.Respells left.toList right.toList) ∧
      ∃ chain, ((ChainBuilder.mk ⟨[]⟩ true).build built [.minute, .hour]).result = .ok chain ∧
        ∀ view ∈ chain.views, view.columns = built.columns := by
  obtain ⟨hnames, hviews⟩ := @nodup_outputNames_iff hits _ rfl
  exact ⟨_, rfl, hnames.1 (by decide +kernel), _, rfl,
    @hviews ⟨⟨[]⟩, true⟩ [.minute, .hour] _ rfl⟩

/-- The time column in quotes, and an alias in two letter cases. -/
def respelled : Draft where
  name := "hits"
  relation := "events"
  timeColumn := "ts"
  select := [.sql "count(*) as \"ts\"", .sql "sum(hits) as total", .sql "max(hits) as Total"]
  groupBy := []
  filter := none
  refreshPlan := .empty

theorem not_nodup_outputNames_respelled :
    ∃ built, respelled.build = .ok built ∧ ¬ (Sql.namesOf built.columns).Nodup := by
  refine ⟨_, rfl, ?_⟩
  decide +kernel

end Draft

end TimeRollup

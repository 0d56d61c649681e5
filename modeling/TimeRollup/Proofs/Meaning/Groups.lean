import TimeRollup.Proofs.Meaning.Rows

/-!
# Groups of groups

When every row of a fine group belongs to the same coarse group, the coarse groups of the rows are those
of the fine groups, and the rows of a coarse group are the rows of its fine groups taken together.
-/

namespace TimeRollup

theorem mapM_eq_some_map {α β : Type} {read : α → Option β} {value : α → β} {xs : List α}
    (h : ∀ x ∈ xs, read x = some (value x)) : xs.mapM read = some (xs.map value) := by
  induction xs with
  | nil => rfl
  | cons x xs ih =>
    have hrest := ih fun later hlater => h later (List.mem_cons_of_mem x hlater)
    rw [List.mapM_cons, h x List.mem_cons_self, hrest]
    rfl

theorem selectedValues?_map {keys : List String} {items : List SelectItem} {group : List Row}
    {value : SelectItem → ℤ} (entry : SelectItem → SelectItem)
    (halias : ∀ item, (entry item).aliasName = item.aliasName)
    (hvalue : ∀ item ∈ items, (entry item).expr.groupValue? keys group = some (value item)) :
    selectedValues? keys (items.map entry) group =
      some (items.map fun item => (item.aliasName, value item)) := by
  rw [selectedValues?, List.mapM_map]
  apply mapM_eq_some_map
  intro item hitem
  simp [hvalue item hitem, halias item]

section Regrouping

variable {α κ μ : Type} [DecidableEq κ] [DecidableEq μ]

/-- Merging keys merges the same groups whether or not repeated keys were left out before. -/
theorem dedup_map_dedup (merge : κ → μ) (keys : List κ) :
    (keys.dedup.map merge).dedup = (keys.map merge).dedup := by
  induction keys with
  | nil => rfl
  | cons key keys ih =>
    by_cases hkey : key ∈ keys
    · have hmerged : merge key ∈ keys.map merge := List.mem_map_of_mem hkey
      rw [List.dedup_cons_of_mem hkey, List.map_cons, List.dedup_cons_of_mem hmerged, ih]
    · rw [List.dedup_cons_of_notMem hkey, List.map_cons, List.map_cons, List.dedup_cons,
        List.dedup_cons, ih]
      have hmem : merge key ∈ keys.dedup.map merge ↔ merge key ∈ keys.map merge := by
        simp only [List.mem_map, List.mem_dedup]
      simp only [hmem]

/-- Rows are, in some order, the rows of their groups taken together. -/
theorem perm_flatMap_filter (key : α → κ) {keys : List κ} (hnodup : keys.Nodup) {rows : List α}
    (hcover : ∀ row ∈ rows, key row ∈ keys) :
    rows.Perm (keys.flatMap fun k => rows.filter fun row => key row = k) := by
  induction keys generalizing rows with
  | nil =>
    have hnil : rows = [] := by
      rw [List.eq_nil_iff_forall_not_mem]
      intro row hrow
      exact List.not_mem_nil (hcover row hrow)
    rw [hnil, List.flatMap_nil]
  | cons k keys ih =>
    obtain ⟨hk, hkeys⟩ := List.nodup_cons.1 hnodup
    have hothers : ∀ row ∈ rows.filter (fun row => !decide (key row = k)), key row ∈ keys := by
      intro row hrow
      obtain ⟨hmem, hne⟩ := List.mem_filter.1 hrow
      simp only [Bool.not_eq_true', decide_eq_false_iff_not] at hne
      exact (List.mem_cons.1 (hcover row hmem)).resolve_left hne
    have hsame : (keys.flatMap fun k' =>
          (rows.filter fun row => !decide (key row = k)).filter fun row => key row = k') =
        keys.flatMap fun k' => rows.filter fun row => key row = k' := by
      apply List.flatMap_congr
      intro k' hk'
      rw [List.filter_filter]
      apply List.filter_congr
      intro row _
      by_cases hrow : key row = k'
      · have hne : k' ≠ k := fun heq => hk (heq ▸ hk')
        simp [hrow, hne]
      · simp [hrow]
    have hrest := ih hkeys hothers
    rw [hsame] at hrest
    exact (List.filter_append_perm (fun row => decide (key row = k)) rows).symm.trans
      (hrest.append_left _)

/-- The rows of a coarse group are the rows of its fine groups. -/
theorem filter_perm_flatMap (key : α → κ) (merge : κ → μ) (rows : List α) (group : μ) :
    (rows.filter fun row => merge (key row) = group).Perm
      (((rows.map key).dedup.filter fun k => merge k = group).flatMap fun k =>
        rows.filter fun row => key row = k) := by
  have hnodup : ((rows.map key).dedup.filter fun k => merge k = group).Nodup :=
    (List.nodup_dedup _).filter _
  have hcover : ∀ row ∈ rows.filter (fun row => merge (key row) = group),
      key row ∈ (rows.map key).dedup.filter fun k => merge k = group := by
    intro row hrow
    obtain ⟨hmem, hgroup⟩ := List.mem_filter.1 hrow
    exact List.mem_filter.2 ⟨List.mem_dedup.2 (List.mem_map_of_mem hmem), hgroup⟩
  have hsame : (((rows.map key).dedup.filter fun k => merge k = group).flatMap fun k =>
        (rows.filter fun row => merge (key row) = group).filter fun row => key row = k) =
      ((rows.map key).dedup.filter fun k => merge k = group).flatMap fun k =>
        rows.filter fun row => key row = k := by
    apply List.flatMap_congr
    intro k hk
    have hgroup : merge k = group := by simpa using (List.mem_filter.1 hk).2
    rw [List.filter_filter]
    apply List.filter_congr
    intro row _
    by_cases hrow : key row = k <;> simp [hrow, hgroup]
  exact hsame ▸ perm_flatMap_filter key hnodup hcover

end Regrouping

namespace Grouping

variable {α : Type} {grouping : Grouping} {items : List SelectItem} {source : List α}
  {row : α → Row} {group : α → ℤ × List ℤ}

theorem rowsIn_map (hgroup : ∀ x ∈ source, grouping.group? (row x) = some (group x))
    (key : ℤ × List ℤ) :
    grouping.rowsIn (source.map row) key = (source.filter fun x => group x = key).map row := by
  rw [rowsIn, List.filter_map]
  congr 1
  apply List.filter_congr
  intro x hx
  simp [hgroup x hx]

/-- What a select list makes of rows whose groups and values are known. -/
theorem evaluate?_map {values : ℤ × List ℤ → List (String × ℤ)}
    (hgroup : ∀ x ∈ source, grouping.group? (row x) = some (group x))
    (hvalues : ∀ key ∈ source.map group,
      selectedValues? grouping.keys items ((source.filter fun x => group x = key).map row) =
        some (values key)) :
    grouping.evaluate? items (source.map row) =
      some ((source.map group).dedup.map fun key =>
        .ofGroup grouping.timeColumn key.1 (values key)) := by
  have hgroups : (source.map row).mapM grouping.group? = some (source.map group) := by
    rw [List.mapM_map]
    exact mapM_eq_some_map hgroup
  have hrows : ∀ key ∈ (source.map group).dedup,
      grouping.rowOf? items (source.map row) key =
        some (.ofGroup grouping.timeColumn key.1 (values key)) := by
    intro key hkey
    rw [rowOf?, rowsIn_map hgroup, hvalues key (List.mem_dedup.1 hkey)]
    rfl
  rw [evaluate?, hgroups]
  exact mapM_eq_some_map hrows

end Grouping

end TimeRollup

import TimeRollup.Proofs.Meaning.Aggregates
import TimeRollup.Proofs.Meaning.Groups
import TimeRollup.Rule.Table

/-!
# Entries with a standard meaning

Group keys under their own names, counts, sums, extremes, and first and last values in time.  Rewriting
such an entry needs no custom rule, gives another one, and gives the same when it is done once more.
What the rewritten entry computes from the values of parts of a group is what the entry computes from the
group.
-/

namespace TimeRollup

namespace SelectItem

/-- The entries whose meaning is that of a group key or of one of six aggregates. -/
inductive Standard (timeColumn : String) (keys : List String) : SelectItem → Prop
  | key {key : String} (hkey : key ∈ keys) : Standard timeColumn keys ⟨.column key, key⟩
  | countRows (aliasName : String) : Standard timeColumn keys ⟨.call "count" [.star], aliasName⟩
  | count (column aliasName : String) :
      Standard timeColumn keys ⟨.call "count" [.column column], aliasName⟩
  | sum (column aliasName : String) :
      Standard timeColumn keys ⟨.call "sum" [.column column], aliasName⟩
  | min (column aliasName : String) :
      Standard timeColumn keys ⟨.call "min" [.column column], aliasName⟩
  | max (column aliasName : String) :
      Standard timeColumn keys ⟨.call "max" [.column column], aliasName⟩
  | first (column aliasName : String) :
      Standard timeColumn keys ⟨.call "first" [.column column, .column timeColumn], aliasName⟩
  | last (column aliasName : String) :
      Standard timeColumn keys ⟨.call "last" [.column column, .column timeColumn], aliasName⟩

namespace Standard

variable {timeColumn : String} {keys : List String} {item : SelectItem}

theorem isForwarded_rewrite (h : item.Standard timeColumn keys) (table : RuleTable) :
    (table.rewrite item).isForwarded = false := by
  cases h <;> rfl

theorem rewrite (h : item.Standard timeColumn keys) (table : RuleTable) :
    (table.rewrite item).item.Standard timeColumn keys := by
  cases h with
  | key hkey => exact .key hkey
  | countRows | count | sum => exact .sum _ _
  | min => exact .min _ _
  | max => exact .max _ _
  | first => exact .first _ _
  | last => exact .last _ _

/-- Rewriting once more changes nothing. -/
theorem rewrite_rewrite (h : item.Standard timeColumn keys) (table : RuleTable) :
    (table.rewrite (table.rewrite item).item).item = (table.rewrite item).item := by
  cases h <;> rfl

end Standard

end SelectItem

section Columns

variable {α : Type} {xs : List α} {row : α → Row}

theorem columnValues?_map {column : String} {value : α → ℤ}
    (h : ∀ x ∈ xs, row x column = some (value x)) :
    columnValues? (xs.map row) column = some (xs.map value) := by
  rw [columnValues?, List.mapM_map]
  exact mapM_eq_some_map h

theorem samples?_map {column order : String} {place value : α → ℤ}
    (hplace : ∀ x ∈ xs, row x order = some (place x))
    (hvalue : ∀ x ∈ xs, row x column = some (value x)) :
    samples? (xs.map row) column order = some (xs.map fun x => (place x, value x)) := by
  rw [samples?, List.mapM_map]
  apply mapM_eq_some_map
  intro x hx
  simp [hplace x hx, hvalue x hx]

@[simp]
theorem columnValues?_ofValues (group : List (String → ℤ)) (column : String) :
    columnValues? (group.map Row.ofValues) column = some (group.map fun values => values column) :=
  columnValues?_map fun _ _ => rfl

@[simp]
theorem samples?_ofValues (group : List (String → ℤ)) (column order : String) :
    samples? (group.map Row.ofValues) column order =
      some (group.map fun values => (values order, values column)) :=
  samples?_map (fun _ _ => rfl) fun _ _ => rfl

end Columns

namespace SelectItem.Standard

variable {timeColumn : String} {keys : List String} {item : SelectItem}

/-- A standard entry has a value for every group of raw rows. -/
theorem exists_groupValue? (h : item.Standard timeColumn keys) {group : List (String → ℤ)}
    (hgroup : group ≠ []) :
    ∃ value, item.expr.groupValue? keys (group.map Row.ofValues) = some value := by
  cases h with
  | @key key hkey =>
    obtain ⟨values, rest, rfl⟩ := List.exists_cons_of_ne_nil hgroup
    exact ⟨values key, by simp [Expr.groupValue?, hkey, -List.map_cons]⟩
  | countRows => exact ⟨_, rfl⟩
  | count | sum => simp [Expr.groupValue?]
  | min =>
    simp only [Expr.groupValue?, columnValues?_ofValues, Option.bind_some]
    exact exists_min? (by simpa using hgroup)
  | max =>
    simp only [Expr.groupValue?, columnValues?_ofValues, Option.bind_some]
    exact exists_max? (by simpa using hgroup)
  | first =>
    simp only [Expr.groupValue?, samples?_ofValues, Option.bind_some]
    exact exists_valueAt? min?_eq_some_iff exists_min? (by simpa using hgroup)
  | last =>
    simp only [Expr.groupValue?, samples?_ofValues, Option.bind_some]
    exact exists_valueAt? max?_eq_some_iff exists_max? (by simpa using hgroup)

end SelectItem.Standard

/-- The rows of a group, in the parts that groups of a finer bucket width make of them. -/
structure InFinerGroups (timeColumn : String) (keys : List String) (bucket : ℤ → ℤ)
    (whole : List (String → ℤ)) (groups : List (ℤ × List ℤ))
    (members : ℤ × List ℤ → List (String → ℤ)) : Prop where
  perm : whole.Perm (groups.flatMap members)
  ne_nil : groups ≠ []
  monotone : Monotone bucket
  bucket_eq : ∀ group ∈ groups, ∀ values ∈ members group,
    bucket (values timeColumn) = group.1
  buckets_nodup : (groups.map Prod.fst).Nodup
  times_nodup : (whole.map fun values => values timeColumn).Nodup
  keys_eq : ∀ key ∈ keys, ∀ values ∈ whole, ∀ other ∈ whole, values key = other key

namespace InFinerGroups

variable {timeColumn : String} {keys : List String} {bucket : ℤ → ℤ}
  {whole : List (String → ℤ)} {groups : List (ℤ × List ℤ)}
  {members : ℤ × List ℤ → List (String → ℤ)}

/-- The parts have the group keys of the whole. -/
theorem head?_key (h : InFinerGroups timeColumn keys bucket whole groups members)
    {key : String} (hkey : key ∈ keys) {value : ℤ × List ℤ → ℤ}
    (hvalue : ∀ group ∈ groups,
      ((members group).map fun values => values key).head? = some (value group)) :
    (groups.map value).head? = (whole.map fun values => values key).head? := by
  obtain ⟨group, later, hgroups⟩ := List.exists_cons_of_ne_nil h.ne_nil
  have hgroup : group ∈ groups := by simp [hgroups]
  obtain ⟨values, hvalues, hsame⟩ := List.mem_map.1 (List.mem_of_head? (hvalue group hgroup))
  have hmem : values ∈ whole := (mem_whole_iff h.perm).2 ⟨group, hgroup, hvalues⟩
  obtain ⟨other, others, hothers⟩ := List.exists_cons_of_ne_nil (List.ne_nil_of_mem hmem)
  have hother : other ∈ whole := by simp [hothers]
  rw [hgroups, hothers, List.map_cons, List.map_cons, List.head?_cons, List.head?_cons, ← hsame,
    h.keys_eq key hkey values hmem other hother]

end InFinerGroups

namespace SelectItem.Standard

variable {timeColumn : String} {keys : List String} {item : SelectItem} {bucket : ℤ → ℤ}
  {whole : List (String → ℤ)} {groups : List (ℤ × List ℤ)}
  {members : ℤ × List ℤ → List (String → ℤ)} {row : ℤ × List ℤ → Row}
  {value : ℤ × List ℤ → ℤ}

/-- What the rewritten entry makes of the rows of the parts is what the entry makes of the whole
group, if the rows of the parts have what the entry makes of each part. -/
theorem groupValue?_rewrite (h : item.Standard timeColumn keys)
    (hwhole : InFinerGroups timeColumn keys bucket whole groups members)
    (htime : ∀ group ∈ groups, row group timeColumn = some group.1)
    (hcolumn : ∀ group ∈ groups, row group item.aliasName = some (value group))
    (hvalue : ∀ group ∈ groups,
      item.expr.groupValue? keys ((members group).map Row.ofValues) = some (value group))
    (table : RuleTable) :
    (table.rewrite item).item.expr.groupValue? keys (groups.map row) =
      item.expr.groupValue? keys (whole.map Row.ofValues) := by
  have hread := columnValues?_map hcolumn
  have hsamples := samples?_map htime hcolumn
  cases h with
  | @key key hkey =>
    have hhead : ∀ group ∈ groups,
        ((members group).map fun values => values key).head? = some (value group) := by
      intro group hgroup
      simpa only [Expr.groupValue?, if_pos hkey, columnValues?_ofValues, Option.bind_some] using
        hvalue group hgroup
    show (if key ∈ keys then (columnValues? (groups.map row) key).bind List.head? else none) =
      if key ∈ keys then (columnValues? (whole.map Row.ofValues) key).bind List.head? else none
    rw [if_pos hkey, if_pos hkey, hread, columnValues?_ofValues, Option.bind_some,
      Option.bind_some]
    exact hwhole.head?_key hkey hhead
  | countRows aliasName =>
    have hlength : ∀ group ∈ groups, value group = (members group).length := by
      intro group hgroup
      simpa [Expr.groupValue?, eq_comm] using hvalue group hgroup
    show (columnValues? (groups.map row) aliasName).map List.sum =
      some ((whole.map Row.ofValues).length : ℤ)
    rw [hread, Option.map_some, List.map_congr_left hlength, length_parts hwhole.perm,
      List.length_map]
  | count column aliasName =>
    have hlength : ∀ group ∈ groups, value group = (members group).length := by
      intro group hgroup
      simpa [Expr.groupValue?, eq_comm] using hvalue group hgroup
    show (columnValues? (groups.map row) aliasName).map List.sum =
      (columnValues? (whole.map Row.ofValues) column).map fun values => ↑values.length
    rw [hread, columnValues?_ofValues, Option.map_some, Option.map_some,
      List.map_congr_left hlength, length_parts hwhole.perm, List.length_map]
  | sum column aliasName =>
    have hsum : ∀ group ∈ groups,
        value group = ((members group).map fun values => values column).sum := by
      intro group hgroup
      simpa [Expr.groupValue?, eq_comm] using hvalue group hgroup
    show (columnValues? (groups.map row) aliasName).map List.sum =
      (columnValues? (whole.map Row.ofValues) column).map List.sum
    rw [hread, columnValues?_ofValues, Option.map_some, Option.map_some,
      List.map_congr_left hsum, sum_parts hwhole.perm]
  | min column aliasName =>
    simp only [Expr.groupValue?, columnValues?_ofValues, Option.bind_some] at hvalue
    show (columnValues? (groups.map row) aliasName).bind List.min? =
      (columnValues? (whole.map Row.ofValues) column).bind List.min?
    rw [hread, columnValues?_ofValues, Option.bind_some, Option.bind_some]
    exact pick_parts min?_eq_some_iff exists_min? hwhole.perm hwhole.ne_nil hvalue
  | max column aliasName =>
    simp only [Expr.groupValue?, columnValues?_ofValues, Option.bind_some] at hvalue
    show (columnValues? (groups.map row) aliasName).bind List.max? =
      (columnValues? (whole.map Row.ofValues) column).bind List.max?
    rw [hread, columnValues?_ofValues, Option.bind_some, Option.bind_some]
    exact pick_parts max?_eq_some_iff exists_max? hwhole.perm hwhole.ne_nil hvalue
  | first column aliasName =>
    simp only [Expr.groupValue?, samples?_ofValues, Option.bind_some] at hvalue
    show (samples? (groups.map row) aliasName timeColumn).bind (valueAt? List.min?) =
      (samples? (whole.map Row.ofValues) column timeColumn).bind (valueAt? List.min?)
    rw [hsamples, samples?_ofValues, Option.bind_some, Option.bind_some]
    exact valueAt?_parts min?_eq_some_iff exists_min? hwhole.perm
      hwhole.ne_nil hwhole.times_nodup (fun hle => hwhole.monotone hle) hwhole.bucket_eq
      hwhole.buckets_nodup hvalue
  | last column aliasName =>
    simp only [Expr.groupValue?, samples?_ofValues, Option.bind_some] at hvalue
    show (samples? (groups.map row) aliasName timeColumn).bind (valueAt? List.max?) =
      (samples? (whole.map Row.ofValues) column timeColumn).bind (valueAt? List.max?)
    rw [hsamples, samples?_ofValues, Option.bind_some, Option.bind_some]
    exact valueAt?_parts max?_eq_some_iff exists_max? hwhole.perm
      hwhole.ne_nil hwhole.times_nodup (fun hle => hwhole.monotone hle) hwhole.bucket_eq
      hwhole.buckets_nodup hvalue

end SelectItem.Standard

end TimeRollup

import Mathlib.Algebra.BigOperators.Group.List.Basic
import TimeRollup.Proofs.Meaning.Rows

/-!
# Aggregates of aggregates

Rows that are given in parts have the aggregates that come of the aggregates of the parts.  Counts and
sums are summed up.  The least value is the least of the least values, and the greatest likewise.  The
first value is that of the first part, as long as the parts follow each other in time, and the last value
likewise.
-/

namespace TimeRollup

theorem lookup_of_mem {κ β : Type} [BEq κ] [LawfulBEq κ] {entries : List (κ × β)}
    (hnodup : (entries.map Prod.fst).Nodup) {key : κ} {value : β} (hmem : (key, value) ∈ entries) :
    entries.lookup key = some value := by
  induction entries with
  | nil => simp at hmem
  | cons entry entries ih =>
    obtain ⟨hfirst, hrest⟩ := List.nodup_cons.1 hnodup
    rw [List.lookup_cons]
    rcases List.mem_cons.1 hmem with rfl | hlater
    · rw [beq_self_eq_true]
    · have hne : key ≠ entry.1 := fun heq => hfirst (heq ▸ List.mem_map_of_mem hlater)
      rw [beq_false_of_ne hne]
      exact ih hrest hlater

theorem mem_of_lookup_eq_some {κ β : Type} [BEq κ] [LawfulBEq κ] {entries : List (κ × β)}
    {key : κ} {value : β} (h : entries.lookup key = some value) : (key, value) ∈ entries := by
  obtain ⟨before, after, rfl, -⟩ := List.lookup_eq_some_iff.1 h
  simp

variable {α κ : Type} {whole : List α} {parts : List κ} {part : κ → List α}

theorem mem_whole_iff (hwhole : whole.Perm (parts.flatMap part)) {x : α} :
    x ∈ whole ↔ ∃ k ∈ parts, x ∈ part k := by
  rw [hwhole.mem_iff, List.mem_flatMap]

theorem sum_parts (hwhole : whole.Perm (parts.flatMap part)) (value : α → ℤ) :
    (parts.map fun k => ((part k).map value).sum).sum = (whole.map value).sum := by
  calc
    (parts.map fun k => ((part k).map value).sum).sum =
        ((parts.flatMap part).map value).sum := by
      rw [List.map_flatMap, List.flatMap, List.sum_flatten, List.map_map]
      rfl
    _ = (whole.map value).sum := (hwhole.map value).sum_eq.symm

theorem length_parts (hwhole : whole.Perm (parts.flatMap part)) :
    (parts.map fun k => ((part k).length : ℤ)).sum = whole.length := by
  have hones : ∀ xs : List α, (xs.map fun _ => (1 : ℤ)).sum = xs.length := by
    intro xs
    simp
  simpa only [hones] using sum_parts hwhole fun _ => 1

section Extremes

variable {r : ℤ → ℤ → Prop}

/-- The value is among those given and stands before all others. -/
def IsExtreme (r : ℤ → ℤ → Prop) (value : ℤ) (values : List ℤ) : Prop :=
  value ∈ values ∧ ∀ other ∈ values, r value other

/-- The value is one whose place comes before all others. -/
def IsExtremeSample (r : ℤ → ℤ → Prop) (value : ℤ) (samples : List (ℤ × ℤ)) : Prop :=
  ∃ place, (place, value) ∈ samples ∧ ∀ sample ∈ samples, r place sample.1

theorem min?_eq_some_iff {values : List ℤ} {value : ℤ} :
    values.min? = some value ↔ IsExtreme (· ≤ ·) value values :=
  List.min?_eq_some_iff

theorem max?_eq_some_iff {values : List ℤ} {value : ℤ} :
    values.max? = some value ↔ IsExtreme (· ≥ ·) value values :=
  List.max?_eq_some_iff

theorem isExtreme_parts [IsTrans ℤ r] (hwhole : whole.Perm (parts.flatMap part))
    {value : α → ℤ} {extreme : κ → ℤ}
    (hparts : ∀ k ∈ parts, IsExtreme r (extreme k) ((part k).map value)) {outermost : ℤ}
    (houtermost : IsExtreme r outermost (parts.map extreme)) :
    IsExtreme r outermost (whole.map value) := by
  obtain ⟨hmem, hbefore⟩ := houtermost
  obtain ⟨k, hk, rfl⟩ := List.mem_map.1 hmem
  constructor
  · obtain ⟨x, hx, hvalue⟩ := List.mem_map.1 (hparts k hk).1
    exact List.mem_map.2 ⟨x, (mem_whole_iff hwhole).2 ⟨k, hk, hx⟩, hvalue⟩
  · intro other hother
    obtain ⟨x, hx, rfl⟩ := List.mem_map.1 hother
    obtain ⟨j, hj, hxj⟩ := (mem_whole_iff hwhole).1 hx
    have hwithin : r (extreme j) (value x) := (hparts j hj).2 _ (List.mem_map_of_mem hxj)
    exact trans_of r (hbefore _ (List.mem_map_of_mem hj)) hwithin

theorem exists_min? {values : List ℤ} (h : values ≠ []) : ∃ value, values.min? = some value :=
  Option.isSome_iff_exists.1 (List.isSome_min?_of_ne_nil h)

theorem exists_max? {values : List ℤ} (h : values ≠ []) : ∃ value, values.max? = some value :=
  Option.isSome_iff_exists.1 (List.isSome_max?_of_ne_nil h)

/-- Where the places differ, the value at the extreme place is that of the extreme sample. -/
theorem valueAt?_eq_some_iff {pick : List ℤ → Option ℤ}
    (hpick : ∀ {values value}, pick values = some value ↔ IsExtreme r value values)
    {samples : List (ℤ × ℤ)} (hplaces : (samples.map Prod.fst).Nodup) {value : ℤ} :
    valueAt? pick samples = some value ↔ IsExtremeSample r value samples := by
  rw [valueAt?, Option.bind_eq_some_iff]
  constructor
  · rintro ⟨place, hplace, hlookup⟩
    obtain ⟨-, hbefore⟩ := hpick.1 hplace
    refine ⟨place, mem_of_lookup_eq_some hlookup, ?_⟩
    intro sample hsample
    exact hbefore _ (List.mem_map_of_mem hsample)
  · rintro ⟨place, hmem, hbefore⟩
    refine ⟨place, hpick.2 ⟨List.mem_map_of_mem hmem, ?_⟩, lookup_of_mem hplaces hmem⟩
    intro other hother
    obtain ⟨sample, hsample, rfl⟩ := List.mem_map.1 hother
    exact hbefore sample hsample

theorem exists_valueAt? {pick : List ℤ → Option ℤ}
    (hpick : ∀ {values value}, pick values = some value ↔ IsExtreme r value values)
    (hexists : ∀ {values}, values ≠ [] → ∃ value, pick values = some value)
    {samples : List (ℤ × ℤ)} (h : samples ≠ []) :
    ∃ value, valueAt? pick samples = some value := by
  have hne : samples.map Prod.fst ≠ [] := mt List.map_eq_nil_iff.1 h
  obtain ⟨place, hplace⟩ := hexists hne
  obtain ⟨sample, hsample, rfl⟩ := List.mem_map.1 (hpick.1 hplace).1
  rw [valueAt?, hplace, Option.bind_some, ← Option.ne_none_iff_exists', ne_eq,
    List.lookup_eq_none_iff]
  intro hnone
  simpa using hnone sample hsample

/-- With the parts in the order of their buckets, the extreme sample of the whole is that of the
extreme part. -/
theorem isExtremeSample_parts [IsLinearOrder ℤ r] (hwhole : whole.Perm (parts.flatMap part))
    {time value : α → ℤ} {bucket : ℤ → ℤ} {bucketOf extreme : κ → ℤ}
    (hmonotone : ∀ {time later}, r time later → r (bucket time) (bucket later))
    (hbucket : ∀ k ∈ parts, ∀ x ∈ part k, bucket (time x) = bucketOf k)
    (hnodup : (parts.map bucketOf).Nodup)
    (hextreme : ∀ k ∈ parts,
      IsExtremeSample r (extreme k) ((part k).map fun x => (time x, value x)))
    {outermost : ℤ}
    (houtermost : IsExtremeSample r outermost (parts.map fun k => (bucketOf k, extreme k))) :
    IsExtremeSample r outermost (whole.map fun x => (time x, value x)) := by
  obtain ⟨place, hplace, hbefore⟩ := houtermost
  obtain ⟨k, hk, hsample⟩ := List.mem_map.1 hplace
  obtain ⟨rfl, rfl⟩ := Prod.mk.inj hsample
  obtain ⟨first, hfirst, hwithin⟩ := hextreme k hk
  obtain ⟨x, hx, hxsample⟩ := List.mem_map.1 hfirst
  have hfirstBucket : bucket first = bucketOf k := by
    rw [← (Prod.mk.inj hxsample).1, hbucket k hk x hx]
  have hwholeMem : x ∈ whole := (mem_whole_iff hwhole).2 ⟨k, hk, hx⟩
  refine ⟨first, List.mem_map.2 ⟨x, hwholeMem, hxsample⟩, ?_⟩
  intro sample hmem
  obtain ⟨y, hy, rfl⟩ := List.mem_map.1 hmem
  obtain ⟨j, hj, hyj⟩ := (mem_whole_iff hwhole).1 hy
  rcases total_of r first (time y) with hle | hge
  · exact hle
  -- If another sample came first, its bucket would come first, so it is in the same part.
  · have hback : r (bucketOf j) (bucketOf k) := by
      rw [← hbucket j hj y hyj, ← hfirstBucket]
      exact hmonotone hge
    have hforth : r (bucketOf k) (bucketOf j) := hbefore _ (List.mem_map_of_mem hj)
    have hsame : j = k := List.inj_on_of_nodup_map hnodup hj hk (antisymm_of r hback hforth)
    subst hsame
    exact hwithin _ (List.mem_map_of_mem hyj)

/-- Whatever picks the value that is extreme in some order picks the same value from the values of the
parts as from the whole. -/
theorem pick_parts [IsTrans ℤ r] {pick : List ℤ → Option ℤ}
    (hpick : ∀ {values value}, pick values = some value ↔ IsExtreme r value values)
    (hexists : ∀ {values}, values ≠ [] → ∃ value, pick values = some value)
    (hwhole : whole.Perm (parts.flatMap part)) (hparts : parts ≠ [])
    {value : α → ℤ} {picked : κ → ℤ}
    (hpicked : ∀ k ∈ parts, pick ((part k).map value) = some (picked k)) :
    pick (parts.map picked) = pick (whole.map value) := by
  have hne : parts.map picked ≠ [] := mt List.map_eq_nil_iff.1 hparts
  obtain ⟨outermost, houtermost⟩ := hexists hne
  have hextreme : ∀ k ∈ parts, IsExtreme r (picked k) ((part k).map value) :=
    fun k hk => hpick.1 (hpicked k hk)
  rw [houtermost, eq_comm, hpick]
  exact isExtreme_parts hwhole hextreme (hpick.1 houtermost)

section Samples

variable {time value : α → ℤ} {bucket : ℤ → ℤ} {bucketOf picked : κ → ℤ}

theorem times_nodup_part (hwhole : whole.Perm (parts.flatMap part))
    (htimes : (whole.map time).Nodup) {k : κ} (hk : k ∈ parts) :
    ((part k).map time).Nodup := by
  have hall : ((parts.flatMap part).map time).Nodup := (hwhole.map time).nodup_iff.1 htimes
  have hsublist : (part k).Sublist (parts.flatMap part) :=
    List.sublist_flatten_of_mem (List.mem_map_of_mem hk)
  exact hall.sublist (hsublist.map time)

/-- The same for the value that comes first or last in time. -/
theorem valueAt?_parts [IsLinearOrder ℤ r] {pick : List ℤ → Option ℤ}
    (hpick : ∀ {values value}, pick values = some value ↔ IsExtreme r value values)
    (hexists : ∀ {values}, values ≠ [] → ∃ value, pick values = some value)
    (hwhole : whole.Perm (parts.flatMap part)) (hparts : parts ≠ [])
    (htimes : (whole.map time).Nodup)
    (hmonotone : ∀ {time later}, r time later → r (bucket time) (bucket later))
    (hbucket : ∀ k ∈ parts, ∀ x ∈ part k, bucket (time x) = bucketOf k)
    (hnodup : (parts.map bucketOf).Nodup)
    (hpicked : ∀ k ∈ parts,
      valueAt? pick ((part k).map fun x => (time x, value x)) = some (picked k)) :
    valueAt? pick (parts.map fun k => (bucketOf k, picked k)) =
      valueAt? pick (whole.map fun x => (time x, value x)) := by
  have hplaces : ∀ {β : Type} {xs : List β} {place value : β → ℤ}, (xs.map place).Nodup →
      ((xs.map fun x => (place x, value x)).map Prod.fst).Nodup := by
    intro β xs place value hxs
    rw [List.map_map]
    exact hxs
  have hne : (parts.map fun k => (bucketOf k, picked k)) ≠ [] :=
    mt List.map_eq_nil_iff.1 hparts
  obtain ⟨outermost, houtermost⟩ := exists_valueAt? hpick hexists hne
  have hextreme : ∀ k ∈ parts,
      IsExtremeSample r (picked k) ((part k).map fun x => (time x, value x)) := by
    intro k hk
    exact (valueAt?_eq_some_iff hpick (hplaces (times_nodup_part hwhole htimes hk))).1
      (hpicked k hk)
  rw [houtermost, eq_comm, valueAt?_eq_some_iff hpick (hplaces htimes)]
  exact isExtremeSample_parts hwhole hmonotone hbucket hnodup hextreme
    ((valueAt?_eq_some_iff hpick (hplaces hnodup)).1 houtermost)

end Samples

end Extremes

end TimeRollup

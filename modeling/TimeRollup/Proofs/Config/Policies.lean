import Mathlib.Data.String.Basic
import TimeRollup.Config.Basic
import TimeRollup.Proofs.Definition.Aliases

/-!
# The policies of a configuration

An aggregate names the bucket widths of its policies, and one width has several names.  The definition
keeps one policy for each width that is named: the one whose name comes last.  So a policy is lost exactly
if a different one stands under a later name of the same width.
-/

namespace TimeRollup

/-! ## Plans -/

namespace RefreshPlan

/-- There is one policy for each bucket width, the finest first. -/
def IsOrdered (plan : RefreshPlan) : Prop :=
  plan.entries.Pairwise fun entry later => entry.1 < later.1

variable {plan : RefreshPlan} {granularity : Granularity} {policy : RefreshPolicy}

theorem mem_insertEntry {entry : Granularity × RefreshPolicy}
    {entries : List (Granularity × RefreshPolicy)}
    (h : entry ∈ insertEntry granularity policy entries) :
    entry = (granularity, policy) ∨ entry ∈ entries := by
  induction entries with
  | nil => exact .inl (List.mem_singleton.1 h)
  | cons head later ih =>
    rw [insertEntry] at h
    split at h
    · exact List.mem_cons.1 h
    split at h
    · exact (List.mem_cons.1 h).imp_right (List.mem_cons_of_mem head)
    · rcases List.mem_cons.1 h with rfl | h
      · exact .inr List.mem_cons_self
      · exact (ih h).imp_right (List.mem_cons_of_mem head)

theorem IsOrdered.insert (h : plan.IsOrdered) : (plan.insert granularity policy).IsOrdered := by
  obtain ⟨entries⟩ := plan
  change (insertEntry granularity policy entries).Pairwise _
  replace h : entries.Pairwise fun entry later => entry.1 < later.1 := h
  induction entries with
  | nil => exact List.pairwise_singleton _ _
  | cons head later ih =>
    obtain ⟨hhead, hlater⟩ := List.pairwise_cons.1 h
    rw [insertEntry]
    split
    · rename_i hfiner
      refine List.pairwise_cons.2 ⟨List.forall_mem_cons.2 ⟨hfiner, ?_⟩, h⟩
      exact fun entry hentry => Granularity.lt_trans hfiner (hhead entry hentry)
    split
    · rename_i hsame
      exact List.pairwise_cons.2 ⟨fun entry hentry => hsame ▸ hhead entry hentry, hlater⟩
    · rename_i hcoarser hdiffers
      refine List.pairwise_cons.2 ⟨fun entry hentry => ?_, ih hlater⟩
      rcases mem_insertEntry hentry with rfl | hentry
      · have hrank : granularity.rank ≠ head.1.rank := mt Granularity.rank_injective hdiffers
        have hnot : ¬ granularity.rank < head.1.rank := hcoarser
        exact (by omega : head.1.rank < granularity.rank)
      · exact hhead entry hentry

/-- The policies of a plan are those that are looked up in it. -/
theorem IsOrdered.get?_eq_some_iff (h : plan.IsOrdered) :
    plan.get? granularity = some policy ↔ (granularity, policy) ∈ plan.entries := by
  obtain ⟨entries⟩ := plan
  change entries.lookup granularity = some policy ↔ (granularity, policy) ∈ entries
  replace h : entries.Pairwise fun entry later => entry.1 < later.1 := h
  induction entries with
  | nil => simp
  | cons head later ih =>
    obtain ⟨hhead, hlater⟩ := List.pairwise_cons.1 h
    have hfound : later.lookup granularity = some policy ↔ (granularity, policy) ∈ later := ih hlater
    rw [List.lookup_cons, List.mem_cons, ← hfound]
    split
    · rename_i hsame
      obtain rfl : granularity = head.1 := by simpa using hsame
      have hnone : later.lookup head.1 ≠ some policy := by
        rw [Ne, hfound]
        exact fun hmem => Granularity.lt_irrefl head.1 (hhead (head.1, policy) hmem)
      simp [hnone, Prod.ext_iff, eq_comm]
    · rename_i hdiffers
      have hne : (granularity, policy) ≠ head := by
        rintro rfl
        simp at hdiffers
      simp [hne]

end RefreshPlan

/-! ## Policies by name -/

namespace AggregateSettings

/-- The policy is the last one whose name is one of the bucket width. -/
def IsLast (granularity : Granularity) (policy : RefreshPolicy)
    (entries : List (String × RefreshPolicy)) : Prop :=
  ∃ before name after, entries = before ++ (name, policy) :: after ∧
    Granularity.ofText name = .ok granularity ∧
    ∀ later ∈ after, Granularity.ofText later.1 ≠ .ok granularity

variable {granularity : Granularity} {policy : RefreshPolicy}
  {entries : List (String × RefreshPolicy)}

theorem isLast_cons_iff {entry : String × RefreshPolicy} :
    IsLast granularity policy (entry :: entries) ↔ IsLast granularity policy entries ∨
      (∀ later ∈ entries, Granularity.ofText later.1 ≠ .ok granularity) ∧
        Granularity.ofText entry.1 = .ok granularity ∧ entry.2 = policy := by
  constructor
  · rintro ⟨before, name, after, htext, hname, hafter⟩
    cases before with
    | nil =>
      obtain ⟨rfl, rfl⟩ := List.cons.inj htext
      exact .inr ⟨hafter, hname, rfl⟩
    | cons first before =>
      obtain ⟨rfl, rfl⟩ := List.cons.inj htext
      exact .inl ⟨before, name, after, rfl, hname, hafter⟩
  · rintro (⟨before, name, after, rfl, hname, hafter⟩ | ⟨hlater, hname, rfl⟩)
    · exact ⟨entry :: before, name, after, rfl, hname, hafter⟩
    · exact ⟨[], entry.1, entries, rfl, hname, hlater⟩

theorem IsLast.mem (h : IsLast granularity policy entries) :
    ∃ name, (name, policy) ∈ entries ∧ Granularity.ofText name = .ok granularity := by
  obtain ⟨before, name, after, rfl, hname, -⟩ := h
  exact ⟨name, by simp, hname⟩

/-- Where a bucket width is named at all, there is a last name. -/
theorem exists_isLast
    (h : ∃ entry ∈ entries, Granularity.ofText entry.1 = .ok granularity) :
    ∃ policy, IsLast granularity policy entries := by
  induction entries with
  | nil => simp at h
  | cons head later ih =>
    by_cases hlater : ∃ entry ∈ later, Granularity.ofText entry.1 = .ok granularity
    · obtain ⟨policy, hpolicy⟩ := ih hlater
      exact ⟨policy, isLast_cons_iff.2 (.inl hpolicy)⟩
    · have hhead : Granularity.ofText head.1 = .ok granularity := by
        obtain ⟨entry, hentry, hname⟩ := h
        rcases List.mem_cons.1 hentry with rfl | hentry
        · exact hname
        · exact absurd ⟨entry, hentry, hname⟩ hlater
      exact ⟨head.2, isLast_cons_iff.2 (.inr ⟨fun entry hentry hname =>
        hlater ⟨entry, hentry, hname⟩, hhead, rfl⟩)⟩

/-- In the order of the names, the last one is the greatest. -/
theorem isLast_iff_of_pairwise (h : entries.Pairwise fun entry later => entry.1 < later.1) :
    IsLast granularity policy entries ↔
      ∃ name, (name, policy) ∈ entries ∧ Granularity.ofText name = .ok granularity ∧
        ∀ other ∈ entries, Granularity.ofText other.1 = .ok granularity → other.1 ≤ name := by
  constructor
  · rintro ⟨before, name, after, rfl, hname, hafter⟩
    obtain ⟨-, -, hbefore⟩ := List.pairwise_append.1 h
    refine ⟨name, by simp, hname, fun other hother hsame => ?_⟩
    rcases List.mem_append.1 hother with hother | hother
    · exact le_of_lt (hbefore other hother (name, policy) List.mem_cons_self)
    · rcases List.mem_cons.1 hother with rfl | hother
      · exact le_rfl
      · exact absurd hsame (hafter other hother)
  · rintro ⟨name, hmem, hname, hgreatest⟩
    obtain ⟨before, after, rfl⟩ := List.append_of_mem hmem
    refine ⟨before, name, after, rfl, hname, fun later hlater hsame => ?_⟩
    have hless := (List.pairwise_cons.1 (List.pairwise_append.1 h).2.1).1 later hlater
    exact not_le_of_gt hless (hgreatest later (by simp [hlater]) hsame)

/-- What is inserted for one name after the other is found under the width that the name stands for. -/
theorem get?_foldlM_insert {plan final : RefreshPlan}
    (h : entries.foldlM (fun plan (name, policy) => do
      return plan.insert (← Granularity.ofText name) policy) plan = Except.ok final) :
    (∀ entry ∈ entries, ∃ granularity, Granularity.ofText entry.1 = .ok granularity) ∧
      (plan.IsOrdered → final.IsOrdered) ∧
      ∀ granularity policy, final.get? granularity = some policy ↔
        IsLast granularity policy entries ∨
          (∀ entry ∈ entries, Granularity.ofText entry.1 ≠ .ok granularity) ∧
            plan.get? granularity = some policy := by
  induction entries generalizing plan with
  | nil =>
    obtain rfl : plan = final := by simpa [pure, Except.pure] using h
    refine ⟨by simp, id, fun granularity policy => ?_⟩
    simp [IsLast]
  | cons entry later ih =>
    rw [List.foldlM_cons, bind_eq_ok_iff] at h
    obtain ⟨next, hstep, hrest⟩ := h
    obtain ⟨named, hnamed, hnext⟩ := bind_eq_ok_iff.1 hstep
    obtain rfl : plan.insert named entry.2 = next := Except.ok.inj hnext
    obtain ⟨hnames, hordered, hget⟩ := ih hrest
    refine ⟨List.forall_mem_cons.2 ⟨⟨named, hnamed⟩, hnames⟩, fun hplan => hordered hplan.insert,
      fun granularity policy => ?_⟩
    rw [hget, isLast_cons_iff, RefreshPlan.get?_insert, List.forall_mem_cons, hnamed,
      Except.ok.injEq]
    split
    · rename_i hsame
      simp [hsame]
    · rename_i hdiffers
      simp [Ne.symm hdiffers]

variable {aggregate : AggregateSettings} {definition : AggregateDefinition}

theorem refreshPlan_eq_ok_of_definition (h : aggregate.definition = .ok definition) :
    aggregate.refreshPlan = .ok definition.refreshPlan := by
  obtain ⟨plan, hplan, hbuild⟩ := bind_eq_ok_iff.1 h
  obtain ⟨-, items, -, -, -, -, rfl⟩ := Draft.build_eq_ok_iff.1 hbuild
  exact hplan

theorem keeps_all_iff (hget : ∀ granularity policy,
      definition.refreshPlan.get? granularity = some policy ↔ IsLast granularity policy entries) :
    (∀ entry ∈ entries, ∀ granularity, Granularity.ofText entry.1 = .ok granularity →
        definition.refreshPlan.get? granularity = some entry.2) ↔
      ∀ entry ∈ entries, ∀ other ∈ entries, ∀ granularity,
        Granularity.ofText entry.1 = .ok granularity →
          Granularity.ofText other.1 = .ok granularity → entry.2 = other.2 := by
  constructor
  · intro hkept entry hentry other hother granularity hname hsame
    have hfirst := hkept entry hentry granularity hname
    rw [hkept other hother granularity hsame] at hfirst
    exact (Option.some.inj hfirst).symm
  · intro hagree entry hentry granularity hname
    obtain ⟨policy, hlast⟩ := exists_isLast ⟨entry, hentry, hname⟩
    obtain ⟨name, hmem, hsame⟩ := hlast.mem
    rw [hget, hagree entry hentry (name, policy) hmem granularity hname hsame]
    exact hlast

/-- In a definition that is built every name of a policy is read, and the policy of a bucket width is the
one whose name comes last: in the order of the names, the one with the greatest name.  There are no other
policies, and none is lost if and only if the names of one bucket width all have the same policy. -/
theorem get?_refreshPlan_iff_isLast (h : aggregate.definition = .ok definition) :
    (∀ entry ∈ aggregate.refreshPolicy,
        ∃ granularity, Granularity.ofText entry.1 = .ok granularity) ∧
      (∀ granularity policy, definition.refreshPlan.get? granularity = some policy ↔
        IsLast granularity policy aggregate.refreshPolicy) ∧
      (∀ granularity policy, (granularity, policy) ∈ definition.refreshPlan.entries ↔
        definition.refreshPlan.get? granularity = some policy) ∧
      ((∀ entry ∈ aggregate.refreshPolicy, ∀ granularity,
          Granularity.ofText entry.1 = .ok granularity →
            definition.refreshPlan.get? granularity = some entry.2) ↔
        ∀ entry ∈ aggregate.refreshPolicy, ∀ other ∈ aggregate.refreshPolicy, ∀ granularity,
          Granularity.ofText entry.1 = .ok granularity →
            Granularity.ofText other.1 = .ok granularity → entry.2 = other.2) ∧
      (aggregate.refreshPolicy.Pairwise (fun entry later => entry.1 < later.1) →
        ∀ granularity policy, definition.refreshPlan.get? granularity = some policy ↔
          ∃ name, (name, policy) ∈ aggregate.refreshPolicy ∧
            Granularity.ofText name = .ok granularity ∧ ∀ other ∈ aggregate.refreshPolicy,
              Granularity.ofText other.1 = .ok granularity → other.1 ≤ name) := by
  obtain ⟨hnames, hordered, hinsert⟩ := get?_foldlM_insert (refreshPlan_eq_ok_of_definition h)
  have hget : ∀ granularity policy, definition.refreshPlan.get? granularity = some policy ↔
      IsLast granularity policy aggregate.refreshPolicy := by
    intro granularity policy
    rw [hinsert]
    simp [RefreshPlan.get?, RefreshPlan.empty]
  refine ⟨hnames, hget, fun granularity policy => ?_, keeps_all_iff hget,
    fun hsorted granularity policy => ?_⟩
  · exact (hordered List.Pairwise.nil).get?_eq_some_iff.symm
  · rw [hget, isLast_iff_of_pairwise hsorted]

/-- Volumes of trades, refreshed as the given policies say. -/
def volumes (refreshPolicy : List (String × RefreshPolicy)) : AggregateSettings where
  name := "volume"
  relation := "trades"
  timeColumn := "ts"
  select := ["sum(amount) as volume"]
  groupBy := []
  filter := none
  granularities := none
  refreshPolicy := refreshPolicy

/-- A refresh once in a bucket of the given width. -/
def each (granularity : Granularity) : RefreshPolicy :=
  ⟨none, none, .ofGranularity granularity⟩

/-- The definition of the volumes with the given plan. -/
def volumesBy (entries : List (Granularity × RefreshPolicy)) : AggregateDefinition where
  name := "volume"
  relation := "trades"
  timeColumn := "ts"
  selectItems := [⟨.call "sum" [.column "amount"], "volume"⟩]
  groupBy := []
  filter := none
  refreshPlan := ⟨entries⟩

theorem get?_refreshPlan_iff_isLast_volumes :
    (volumes [("1 hour", each .minute), ("DAYS", each .hour)]).definition =
        .ok (volumesBy [(.hour, each .minute), (.day, each .hour)]) ∧
      (volumesBy [(.hour, each .minute), (.day, each .hour)]).refreshPlan.get? .day =
        some (each .hour) ∧
      ([("1 hour", each .minute), ("DAYS", each .hour)].Pairwise
        fun entry later => entry.1 < later.1) ∧
      ∃ name, (name, each .hour) ∈ [("1 hour", each .minute), ("DAYS", each .hour)] ∧
        Granularity.ofText name = .ok .day ∧
        ∀ other ∈ [("1 hour", each .minute), ("DAYS", each .hour)],
          Granularity.ofText other.1 = .ok .day → other.1 ≤ name := by
  have hread : (volumes [("1 hour", each .minute), ("DAYS", each .hour)]).definition =
      .ok (volumesBy [(.hour, each .minute), (.day, each .hour)]) := by decide +kernel
  have hpolicy : (volumesBy [(.hour, each .minute), (.day, each .hour)]).refreshPlan.get? .day =
      some (each .hour) := by decide +kernel
  have hsorted : [("1 hour", each .minute), ("DAYS", each .hour)].Pairwise
      fun entry later => entry.1 < later.1 := by decide +kernel
  obtain ⟨-, -, -, -, hgreatest⟩ := get?_refreshPlan_iff_isLast hread
  exact ⟨hread, hpolicy, hsorted, (hgreatest hsorted .day (each .hour)).1 hpolicy⟩

/-- Of the policies for `hour` and `hours` the first is lost. -/
theorem not_get?_refreshPlan_eq :
    ¬ ∀ (aggregate : AggregateSettings) (definition : AggregateDefinition),
      aggregate.definition = .ok definition →
        ∀ entry ∈ aggregate.refreshPolicy, ∃ granularity,
          Granularity.ofText entry.1 = .ok granularity ∧
            definition.refreshPlan.get? granularity = some entry.2 := by
  intro h
  obtain ⟨granularity, hname, hpolicy⟩ := h (volumes [("hour", each .minute), ("hours", each .hour)])
    (volumesBy [(.hour, each .hour)]) (by decide +kernel) ("hour", each .minute) List.mem_cons_self
  obtain rfl : granularity = .hour := by
    have hhour : Granularity.ofText "hour" = .ok .hour := by decide +kernel
    rw [hhour] at hname
    exact (Except.ok.inj hname).symm
  exact absurd hpolicy (by decide +kernel)

end AggregateSettings

end TimeRollup

import Mathlib.Data.List.Find
import Mathlib.Data.List.TakeWhile
import TimeRollup.Interval.Basic
import TimeRollup.Proofs.Text.Lowercase
import TimeRollup.Proofs.Text.Words

/-!
# The terms of an interval

The words of an interval are read as a list of terms, and its length is found by searching the text for
terms.  Both come by the same list: no unit's name is cut short by another that it begins with, and
nothing between two terms is taken for a term.
-/

namespace TimeRollup.Interval

open TimeRollup.Text

/-- The text spells the terms: a count, the name of a unit, and a blank or the end behind it. -/
inductive Spells : List Char → List Term → Prop
  | blank {gap : List Char} (hgap : ∀ c ∈ gap, isBlank c = true) : Spells gap []
  | term {gap digits space name rest : List Char} {unit : TimeUnit} {terms : List Term}
      (hgap : ∀ c ∈ gap, isBlank c = true) (hne : digits ≠ [])
      (hdigits : ∀ c ∈ digits, isDecimalDigit c = true) (hspace : ∀ c ∈ space, isBlank c = true)
      (hname : unitOfName? name = some unit) (hend : ∀ c ∈ rest.head?, isBlank c = true)
      (hrest : Spells rest terms) :
      Spells (gap ++ (digits ++ (space ++ (name ++ rest)))) (⟨digits, unit⟩ :: terms)

/-! ## Reading words -/

theorem mem_unitNames_of_unitOfName? {name : List Char} {unit : TimeUnit}
    (h : unitOfName? name = some unit) : (name, unit) ∈ unitNames := by
  obtain ⟨entry, hfind, rfl⟩ := Option.map_eq_some_iff.1 h
  have hname : entry.1 = name := by simpa using List.find?_some hfind
  rw [← hname]
  exact List.mem_of_find?_eq_some hfind

/-- One term is read from the front of a list of words. -/
theorem exists_of_readTerms?_cons_eq_some {word : List Char} {later : List (List Char)}
    {terms : List Term} (h : readTerms? (word :: later) = some terms) :
    ∃ digits name unit more, digits ≠ [] ∧ (∀ c ∈ digits, isDecimalDigit c = true) ∧
      unitOfName? name = some unit ∧ terms = ⟨digits, unit⟩ :: more ∧
        (word = digits ++ name ∧ readTerms? later = some more ∨
          word = digits ∧ ∃ beyond, later = name :: beyond ∧ readTerms? beyond = some more) := by
  have hword := List.takeWhile_append_dropWhile (p := isDecimalDigit) (l := word)
  have hdigits : ∀ c ∈ word.takeWhile isDecimalDigit, isDecimalDigit c = true :=
    fun c => List.mem_takeWhile_imp
  rw [readTerms?] at h
  split at h
  · simp at h
  · rename_i hempty hne
    rw [hempty, List.append_nil] at hword
    split at h
    · simp at h
    · rename_i name beyond
      simp only [bind, Option.bind_eq_some_iff, pure, Option.some.injEq] at h
      obtain ⟨unit, hname, more, hmore, rfl⟩ := h
      exact ⟨_, name, unit, more, hne, hdigits, hname, rfl, .inr ⟨hword.symm, beyond, rfl, hmore⟩⟩
  · rename_i hne _
    simp only [bind, Option.bind_eq_some_iff, pure, Option.some.injEq] at h
    obtain ⟨unit, hname, more, hmore, rfl⟩ := h
    exact ⟨word.takeWhile isDecimalDigit, word.dropWhile isDecimalDigit, unit, more, hne, hdigits,
      hname, rfl, .inl ⟨hword.symm, hmore⟩⟩

theorem spells_of_readTerms? {ws : List (List Char)} {s : List Char} {terms : List Term}
    (hwords : words s = ws) (h : readTerms? ws = some terms) : Spells s terms := by
  induction hlength : ws.length using Nat.strong_induction_on generalizing ws s terms with
  | _ length ih =>
    cases ws with
    | nil =>
      rw [readTerms?, Option.some.injEq] at h
      exact h ▸ .blank (isBlank_of_words_eq_nil hwords)
    | cons word later =>
      obtain ⟨gap, text, rest, rfl, hgap, ⟨rfl, -, hend⟩, hlater⟩ :=
        exists_isWordBefore_of_words_eq_cons hwords
      obtain ⟨digits, name, unit, more, hne, hdigits, hname, rfl, ⟨rfl, hmore⟩ | ⟨rfl, hapart⟩⟩ :=
        exists_of_readTerms?_cons_eq_some h
      · have hrest := ih later.length (by simp [← hlength]) hlater hmore rfl
        rw [List.append_assoc]
        exact @Spells.term gap digits [] name rest unit more hgap hne hdigits (by simp) hname hend hrest
      · obtain ⟨beyond, rfl, hmore⟩ := hapart
        obtain ⟨space, _, last, rfl, hspace, ⟨rfl, -, hend'⟩, hbeyond⟩ :=
          exists_isWordBefore_of_words_eq_cons hlater
        have hshorter : beyond.length < length := by
          simp only [← hlength, List.length_cons]
          omega
        have hlast := ih beyond.length hshorter hbeyond hmore rfl
        exact .term hgap hne hdigits hspace hname hend' hlast

/-! ## Searching the text -/

theorem isDecimalDigit_eq_false_of_isBlank {c : Char} (h : isBlank c = true) :
    isDecimalDigit c = false := by
  have hranges : inRanges digitRanges c = false :=
    inRanges_eq_false_of_disjoint (by decide +kernel) h
  have hascii : c.isDigit = false := by
    rw [Bool.eq_false_iff]
    intro hdigit
    have hrange : inRanges [('0'.toNat, '9'.toNat)] c = true := by
      simpa [inRanges, Char.isDigit, UInt32.le_iff_toNat_le] using hdigit
    have hblank : isBlank c = false := inRanges_eq_false_of_disjoint (by decide) hrange
    simp [hblank] at h
  simp [isDecimalDigit, hranges, hascii]

/-- A unit's name is a word that does not begin with a digit, and the first of the names that it begins
with is the name itself. -/
structure IsApart (name : List Char) (unit : TimeUnit) : Prop where
  begins : ∃ first more, name = first :: more ∧ isDecimalDigit first = false
  not_isBlank : ∀ c ∈ name, isBlank c = false
  find_eq : (unitNames.find? fun entry => entry.1.isPrefixOf name) = some (name, unit)

theorem unitNames_apart :
    (unitNames.all fun entry => entry.1.head?.any (fun c => !isDecimalDigit c) &&
      entry.1.all (fun c => !isBlank c) &&
        (unitNames.find? fun other => other.1.isPrefixOf entry.1) == some entry) = true := by
  decide +kernel

theorem isApart_of_mem_unitNames {name : List Char} {unit : TimeUnit}
    (h : (name, unit) ∈ unitNames) : IsApart name unit := by
  have hentry := List.all_eq_true.1 unitNames_apart _ h
  simp only [Bool.and_eq_true, beq_iff_eq, List.all_eq_true, Bool.not_eq_true'] at hentry
  obtain ⟨⟨hbegins, hblank⟩, hfind⟩ := hentry
  cases name with
  | nil => simp at hbegins
  | cons first more => exact ⟨⟨first, more, rfl, by simpa using hbegins⟩, hblank, hfind⟩

theorem isPrefixOf_append_of_isBlank {name word rest : List Char}
    (hname : ∀ c ∈ name, isBlank c = false) (hend : ∀ c ∈ rest.head?, isBlank c = true) :
    name.isPrefixOf (word ++ rest) = name.isPrefixOf word := by
  rw [Bool.eq_iff_iff, List.isPrefixOf_iff_prefix, List.isPrefixOf_iff_prefix]
  constructor
  · intro h
    rcases List.prefix_or_prefix_of_prefix h (List.prefix_append word rest) with hle | ⟨more, rfl⟩
    · exact hle
    · cases more with
      | nil => simp
      | cons c more =>
        obtain ⟨rest, rfl⟩ := (List.prefix_append_right_inj word).1 h
        have hblank := hend c (by simp)
        simp [hname c (by simp)] at hblank
  · exact fun h => h.trans (List.prefix_append word rest)

theorem find?_unitNames_append {name rest : List Char} {unit : TimeUnit} (h : IsApart name unit)
    (hend : ∀ c ∈ rest.head?, isBlank c = true) :
    (unitNames.find? fun entry => entry.1.isPrefixOf (name ++ rest)) = some (name, unit) := by
  rw [← h.find_eq]
  apply List.find?_congr
  intro entry hentry
  exact isPrefixOf_append_of_isBlank (isApart_of_mem_unitNames hentry).not_isBlank hend

theorem takeTerm?_append {digits space name rest : List Char} {unit : TimeUnit}
    (hne : digits ≠ []) (hdigits : ∀ c ∈ digits, isDecimalDigit c = true)
    (hspace : ∀ c ∈ space, isBlank c = true) (hname : unitOfName? name = some unit)
    (hend : ∀ c ∈ rest.head?, isBlank c = true) :
    takeTerm? (digits ++ (space ++ (name ++ rest))) = some (⟨digits, unit⟩, rest) := by
  have happart := isApart_of_mem_unitNames (mem_unitNames_of_unitOfName? hname)
  have hfind := find?_unitNames_append happart hend
  obtain ⟨first, more, rfl, hfirst⟩ := happart.begins
  have hstart : trimStart (space ++ (first :: more ++ rest)) = first :: more ++ rest := by
    rw [trimStart, List.dropWhile_append_of_pos hspace]
    exact trimStart_eq_of_head (happart.not_isBlank first List.mem_cons_self)
  have hstop : ∀ c ∈ (space ++ (first :: more ++ rest)).head?, isDecimalDigit c = false := by
    cases space with
    | nil => simpa using hfirst
    | cons c space => simpa using isDecimalDigit_eq_false_of_isBlank (hspace c List.mem_cons_self)
  rw [takeTerm?, takeWhile_run_append hdigits hstop, dropWhile_run_append hdigits hstop, hstart]
  split
  · exact absurd rfl hne
  · simp only [hfind, Option.map_some, List.drop_left]

theorem scanTerms_cons_of_not_digit {c : Char} (h : isDecimalDigit c = false) (rest : List Char) :
    scanTerms (c :: rest) = scanTerms rest := by
  have hnone : takeTerm? (c :: rest) = none := by simp [takeTerm?, h]
  simp [scanTerms, scanTermsAfter, hnone]

theorem scanTerms_append_of_isBlank {gap : List Char} (h : ∀ c ∈ gap, isBlank c = true)
    (s : List Char) : scanTerms (gap ++ s) = scanTerms s := by
  induction gap with
  | nil => rfl
  | cons c gap ih =>
    obtain ⟨hblank, hgap⟩ := List.forall_mem_cons.1 h
    rw [List.cons_append, scanTerms_cons_of_not_digit (isDecimalDigit_eq_false_of_isBlank hblank),
      ih hgap]

/-- The search goes on behind a term that it has found. -/
theorem scanTerms_append_of_takeTerm? {before after : List Char} {term : Term} (hne : before ≠ [])
    (h : takeTerm? (before ++ after) = some (term, after)) :
    scanTerms (before ++ after) = term :: scanTerms after := by
  obtain ⟨c, before, rfl⟩ := List.exists_cons_of_ne_nil hne
  rw [List.cons_append] at h ⊢
  rw [scanTerms, scanTermsAfter, h]
  simp [scanTermsAfter_eq_drop]

/-- What a text spells is what the search finds. -/
theorem Spells.scanTerms_eq {s : List Char} {terms : List Term} (h : Spells s terms) :
    scanTerms s = terms := by
  induction h with
  | blank hgap =>
    have hscan := scanTerms_append_of_isBlank hgap []
    rwa [List.append_nil] at hscan
  | @term gap digits space name rest unit terms hgap hne hdigits hspace hname hend _ ih =>
    have htake := takeTerm?_append hne hdigits hspace hname hend
    have hassoc : digits ++ (space ++ (name ++ rest)) = (digits ++ space ++ name) ++ rest := by
      simp
    rw [scanTerms_append_of_isBlank hgap]
    rw [hassoc] at htake ⊢
    rw [scanTerms_append_of_takeTerm? (by simp [hne]) htake, ih]

end TimeRollup.Interval

import TimeRollup.Proofs.Text.Lowercase
import TimeRollup.Proofs.Text.Trim

/-!
# What matters in a text with quotes

Blank characters and the case of letters mean something in quotes only.  Two texts agree in what
matters if they are equal but for blank characters and case outside of quotes.  Quotes reach across
a whole text, so what matters in two texts written one behind the other is what matters in each
only if no quote that is left open in the first is closed in the second.
-/

namespace TimeRollup.Text

/-- The signs that quote texts and names. -/
def quoteSigns : List Char :=
  ['\'', '"']

/-- The characters of a text, each with the sign between two of which it stands, if any.  The text
starts behind the given sign.  A sign that does not occur again opens no quotes. -/
def quoteMarks (signs : List Char) : Option Char → List Char → List (Option Char × Char)
  | _, [] => []
  | some sign, c :: rest =>
    (some sign, c) :: quoteMarks signs (if c = sign then none else some sign) rest
  | none, c :: rest =>
    if c ∈ signs ∧ c ∈ rest then (some c, c) :: quoteMarks signs (some c) rest
    else (none, c) :: quoteMarks signs none rest

/-- No sign that opens no quotes in the first text occurs in the second. -/
def Apart (signs u v : List Char) : Prop :=
  ∀ sign ∈ signs, (none, sign) ∈ quoteMarks signs none u → sign ∉ v

/-- The letter without its case.  Both forms of the small sigma are one letter. -/
def caseless (c : Char) : List Char :=
  if c = 'ς' then ['σ'] else lowerChar c

/-- A character in quotes matters as it is, others without their case, and blank ones not at all. -/
def essential : Option Char × Char → List (Option Char × Char)
  | (some sign, c) => [(some sign, c)]
  | (none, c) => if isBlank c then [] else (caseless c).map fun d => (none, d)

/-- What matters in a text in which the given signs quote. -/
def essence (signs s : List Char) : List (Option Char × Char) :=
  (quoteMarks signs none s).flatMap essential

section Marks

variable {signs u v s : List Char} {sign c : Char} {state : Option Char}

theorem quoteMarks_append (hstate : ∀ sign ∈ state, sign ∈ u)
    (hopen : ∀ sign ∈ signs, (none, sign) ∈ quoteMarks signs state u → sign ∉ v) :
    quoteMarks signs state (u ++ v) = quoteMarks signs state u ++ quoteMarks signs none v := by
  induction u generalizing state with
  | nil =>
    cases state with
    | none => rfl
    | some sign => simpa using hstate sign rfl
  | cons c u ih =>
    cases state with
    | none =>
      by_cases hopens : c ∈ signs ∧ c ∈ u
      · have hlonger : c ∈ signs ∧ c ∈ u ++ v := ⟨hopens.1, List.mem_append_left v hopens.2⟩
        rw [quoteMarks, if_pos hopens] at hopen
        rw [List.cons_append, quoteMarks, quoteMarks, if_pos hopens, if_pos hlonger, ih,
          List.cons_append]
        · rintro _ ⟨⟩
          exact hopens.2
        · exact fun sign hsign hmem => hopen sign hsign (List.mem_cons_of_mem _ hmem)
      · -- The sign would have to be closed behind `u`, which `hopen` rules out.
        rw [quoteMarks, if_neg hopens] at hopen
        have hlonger : ¬ (c ∈ signs ∧ c ∈ u ++ v) := by
          rintro ⟨hsign, hmem⟩
          rcases List.mem_append.1 hmem with hmem | hmem
          · exact hopens ⟨hsign, hmem⟩
          · exact hopen c hsign List.mem_cons_self hmem
        rw [List.cons_append, quoteMarks, quoteMarks, if_neg hopens, if_neg hlonger, ih,
          List.cons_append]
        · simp
        · exact fun sign hsign hmem => hopen sign hsign (List.mem_cons_of_mem _ hmem)
    | some sign =>
      rw [quoteMarks] at hopen
      rw [List.cons_append, quoteMarks, quoteMarks, ih, List.cons_append]
      · intro other hother
        split at hother
        · simp at hother
        · rename_i hne
          obtain rfl : sign = other := by simpa using hother
          exact (List.mem_cons.1 (hstate sign rfl)).resolve_left (Ne.symm hne)
      · exact fun sign hsign hmem => hopen sign hsign (List.mem_cons_of_mem _ hmem)

theorem Apart.quoteMarks_append (h : Apart signs u v) :
    quoteMarks signs none (u ++ v) = quoteMarks signs none u ++ quoteMarks signs none v :=
  Text.quoteMarks_append (by simp) h

theorem map_snd_quoteMarks : (quoteMarks signs state s).map Prod.snd = s := by
  induction s generalizing state with
  | nil => cases state <;> rfl
  | cons c rest ih =>
    cases state with
    | none =>
      rw [quoteMarks]
      split_ifs <;> rw [List.map_cons, ih]
    | some sign => rw [quoteMarks, List.map_cons, ih]

theorem mem_of_mem_quoteMarks {mark : Option Char} (h : (mark, c) ∈ quoteMarks signs state s) :
    c ∈ s := by
  rw [← @map_snd_quoteMarks signs s state]
  exact List.mem_map_of_mem h

theorem exists_mem_quoteMarks (h : c ∈ s) : ∃ mark, (mark, c) ∈ quoteMarks signs state s := by
  rw [← @map_snd_quoteMarks signs s state] at h
  obtain ⟨⟨mark, d⟩, hmem, rfl⟩ := List.mem_map.1 h
  exact ⟨mark, hmem⟩

/-- Only signs that quote enclose anything. -/
theorem mem_signs_of_mem_quoteMarks (hstate : ∀ sign ∈ state, sign ∈ signs)
    (h : (some sign, c) ∈ quoteMarks signs state s) : sign ∈ signs := by
  induction s generalizing state with
  | nil => cases state <;> simp [quoteMarks] at h
  | cons d rest ih =>
    cases state with
    | none =>
      rw [quoteMarks] at h
      split_ifs at h with hopens
      · rcases List.mem_cons.1 h with heq | h
        · obtain ⟨rfl, rfl⟩ : sign = d ∧ c = d := by simpa using heq
          exact hopens.1
        · refine ih ?_ h
          rintro _ ⟨⟩
          exact hopens.1
      · rcases List.mem_cons.1 h with heq | h
        · simp at heq
        · exact ih (by simp) h
    | some other =>
      rw [quoteMarks] at h
      rcases List.mem_cons.1 h with heq | h
      · obtain ⟨rfl, rfl⟩ : sign = other ∧ c = d := by simpa using heq
        exact hstate _ rfl
      · refine ih ?_ h
        split
        · simp
        · exact hstate

/-- What follows a sign up to its next occurrence stands in quotes. -/
theorem mem_quoteMarks_of_not_mem (hsign : sign ∉ u) :
    (some sign, c) ∈ quoteMarks signs (some sign) (u ++ c :: v) := by
  induction u with
  | nil => simp [quoteMarks]
  | cons d u ih =>
    rw [List.mem_cons, not_or] at hsign
    rw [List.cons_append, quoteMarks, if_neg (Ne.symm hsign.1)]
    exact List.mem_cons_of_mem _ (ih hsign.2)

theorem apart_of_unquoted (h : ∀ c ∈ u, c ∉ signs) : Apart signs u v :=
  fun sign hsign hmem => absurd hsign (h sign (mem_of_mem_quoteMarks hmem))

theorem apart_of_unquoted_right (h : ∀ c ∈ v, c ∉ signs) : Apart signs u v :=
  fun sign hsign _ hmem => h sign hmem hsign

theorem quoteMarks_of_unquoted (h : ∀ c ∈ s, c ∉ signs) :
    quoteMarks signs none s = s.map fun c => (none, c) := by
  induction s with
  | nil => rfl
  | cons c rest ih =>
    have hc : ¬ (c ∈ signs ∧ c ∈ rest) := fun hopens => h c List.mem_cons_self hopens.1
    rw [quoteMarks, if_neg hc, ih fun d hd => h d (List.mem_cons_of_mem c hd), List.map_cons]

end Marks

section Case

theorem ne_finalSigma_of_mem_lowerChar {c d : Char} (hc : c ≠ 'ς') (h : d ∈ lowerChar c) :
    d ≠ 'ς' := by
  rcases mem_lowerChar h with ⟨hascii, rfl⟩ | ⟨-, hd⟩ | ⟨hreached, -⟩ | ⟨rfl, -⟩
  · exact forall_ascii (P := fun c => c.toLower ≠ 'ς') (by decide) hascii
  · have htable : ∀ d ∈ ['i', '\u0307'], d ≠ 'ς' :=
      List.all_iff_forall_prop.1 (by decide)
    exact htable d hd
  · rintro rfl
    exact absurd hreached (by decide)
  · exact hc

theorem flatMap_caseless_lowerChar (c : Char) : (lowerChar c).flatMap caseless = caseless c := by
  by_cases hc : c = 'ς'
  · subst hc
    decide
  · have hkept : ∀ d ∈ lowerChar c, caseless d = [d] := by
      intro d hd
      rw [caseless, if_neg (ne_finalSigma_of_mem_lowerChar hc hd), lowerChar_of_mem hd]
    rw [List.flatMap_congr hkept, List.flatMap_singleton', caseless, if_neg hc]

theorem flatMap_caseless_lower (s : List Char) :
    (lower s).flatMap caseless = s.flatMap caseless := by
  suffices h : ∀ before, (lowerAfter before s).flatMap caseless = s.flatMap caseless from h []
  induction s with
  | nil => exact fun _ => rfl
  | cons c rest ih =>
    intro before
    rw [lowerAfter, List.flatMap_append, ih, List.flatMap_cons]
    congr 1
    by_cases hc : c = 'Σ'
    · subst hc
      rw [if_pos rfl]
      split <;> decide
    · rw [if_neg hc, flatMap_caseless_lowerChar]

/-- Signs that quote have no case, and no letter turns into one. -/
theorem eq_of_mem_caseless {c sign : Char} (hsign : sign ∈ quoteSigns)
    (h : sign ∈ caseless c) : sign = c := by
  by_cases hc : c = 'ς'
  · subst hc
    rw [caseless, if_pos rfl, List.mem_singleton] at h
    subst h
    simp [quoteSigns] at hsign
  rw [caseless, if_neg hc] at h
  rcases mem_lowerChar h with ⟨hascii, heq⟩ | ⟨-, hd⟩ | ⟨hreached, -⟩ | ⟨heq, -⟩
  · have htable : ('\'' = c.toLower → '\'' = c) ∧ ('"' = c.toLower → '"' = c) :=
      forall_ascii (P := fun c => ('\'' = c.toLower → '\'' = c) ∧ ('"' = c.toLower → '"' = c))
        (by decide) hascii
    rcases List.mem_pair.1 hsign with rfl | rfl
    · exact htable.1 heq
    · exact htable.2 heq
  · have htable : ∀ sign ∈ quoteSigns, sign ∉ ['i', '\u0307'] :=
      List.all_iff_forall_prop.1 (by decide)
    exact absurd hd (htable sign hsign)
  · have htable : ∀ sign ∈ quoteSigns, inRanges unreachedRanges sign = true :=
      List.all_iff_forall_prop.1 (by decide)
    simp [htable sign hsign] at hreached
  · exact heq

/-- An opening brace has no case, and no letter turns into one. -/
theorem brace_mem_caseless_iff (c : Char) : '\x7b' ∈ caseless c ↔ c = '\x7b' := by
  constructor
  · intro h
    by_cases hc : c = 'ς'
    · subst hc
      exact absurd h (by decide)
    rw [caseless, if_neg hc, lowerChar] at h
    split at h
    · rename_i hascii
      have htable := forall_ascii (P := fun c => '\x7b' = c.toLower → c = '\x7b') (by decide) hascii
      exact htable (List.mem_singleton.1 h)
    split at h
    · exact absurd h (by decide)
    split at h
    · rename_i run hfind
      have havoids : (lowercaseRuns.all fun run => run.avoids (0x7B, 0x7B)) = true := by
        decide +kernel
      have hrun := List.mem_of_find?_eq_some hfind
      have hcode := List.find?_some hfind
      have houtside := CaseRun.outside_of_avoids (List.all_eq_true.1 havoids run hrun) hcode
      have hmove := (reached_move hrun hcode).1
      rw [CaseRun.move, ← List.mem_singleton.1 h] at hmove
      rw [CaseRun.move, ← hmove] at houtside
      exact absurd houtside (by decide)
    · exact (List.mem_singleton.1 h).symm
  · rintro rfl
    decide

end Case

section Essence

variable {signs u v s : List Char} {c sign : Char}

theorem Apart.essence_append (h : Apart signs u v) :
    essence signs (u ++ v) = essence signs u ++ essence signs v := by
  rw [essence, h.quoteMarks_append, List.flatMap_append]
  rfl

theorem essence_of_unquoted (h : ∀ c ∈ s, c ∉ signs) :
    essence signs s = s.flatMap fun c => essential (none, c) := by
  rw [essence, quoteMarks_of_unquoted h, List.flatMap_map]

theorem essence_cons_of_unquoted (hc : c ∉ signs) :
    essence signs (c :: s) = essential (none, c) ++ essence signs s := by
  have hsingle : ∀ d ∈ [c], d ∉ signs := by simpa using hc
  rw [← List.singleton_append, (apart_of_unquoted hsingle).essence_append,
    essence_of_unquoted hsingle]
  simp

theorem not_mem_of_isSign (hsigns : signs ⊆ quoteSigns) (hc : isSign c = false) : c ∉ signs := by
  have htable : ∀ c ∈ quoteSigns, isSign c = true := List.all_iff_forall_prop.1 (by decide)
  intro hmem
  simp [htable c (hsigns hmem)] at hc

theorem essence_of_isBlank (hsigns : signs ⊆ quoteSigns) (h : ∀ c ∈ s, isBlank c = true) :
    essence signs s = [] := by
  rw [essence_of_unquoted fun c hc => not_mem_of_isSign hsigns (isSign_of_isBlank (h c hc)),
    List.flatMap_eq_nil_iff]
  intro c hc
  rw [essential, if_pos (h c hc)]

/-- Of a name only the case does not matter. -/
theorem essence_of_isPlain (hsigns : signs ⊆ quoteSigns) (h : ∀ c ∈ s, isPlain c = true) :
    essence signs s = (s.flatMap caseless).map fun c => (none, c) := by
  rw [essence_of_unquoted fun c hc => not_mem_of_isSign hsigns (isPlain_iff.1 (h c hc)).2,
    List.map_flatMap]
  apply List.flatMap_congr
  intro c hc
  rw [essential, if_neg (by simp [(isPlain_iff.1 (h c hc)).1])]

theorem essence_lower (hsigns : signs ⊆ quoteSigns) (h : ∀ c ∈ s, isPlain c = true) :
    essence signs (lower s) = essence signs s := by
  rw [essence_of_isPlain hsigns h, essence_of_isPlain hsigns fun c => isPlain_of_mem_lower h,
    flatMap_caseless_lower]

/-- Blank characters around a text do not matter. -/
theorem essence_trim (hsigns : signs ⊆ quoteSigns) (s : List Char) :
    essence signs (trim s) = essence signs s := by
  obtain ⟨before, after, heq, hbefore, hafter⟩ := exists_eq_append_trim s
  have hleft : Apart signs before (trim s ++ after) :=
    apart_of_unquoted fun c hc => not_mem_of_isSign hsigns (isSign_of_isBlank (hbefore c hc))
  have hright : Apart signs (trim s) after :=
    apart_of_unquoted_right fun c hc => not_mem_of_isSign hsigns (isSign_of_isBlank (hafter c hc))
  conv_rhs => rw [heq]
  rw [List.append_assoc, hleft.essence_append, hright.essence_append,
    essence_of_isBlank hsigns hbefore, essence_of_isBlank hsigns hafter, List.nil_append,
    List.append_nil]

/-- What is neither blank nor another case of anything matters as it is. -/
theorem mem_essential_iff_of_caseless (hblank : isBlank c = false)
    (hcase : ∀ d, c ∈ caseless d ↔ d = c) {mark : Option Char} {marked : Option Char × Char} :
    (mark, c) ∈ essential marked ↔ marked = (mark, c) := by
  obtain ⟨quote, d⟩ := marked
  cases quote with
  | some quote => simp [essential, eq_comm]
  | none =>
    constructor
    · intro h
      rw [essential] at h
      split at h
      · simp at h
      · obtain ⟨found, hfound, heq⟩ := List.mem_map.1 h
        obtain ⟨rfl, rfl⟩ := Prod.mk.inj heq
        rw [(hcase d).1 hfound]
    · rintro ⟨⟩
      simp [essential, hblank, hcase]

theorem mem_essential_iff (hsign : sign ∈ quoteSigns) {mark : Option Char}
    {marked : Option Char × Char} : (mark, sign) ∈ essential marked ↔ marked = (mark, sign) := by
  have htable : ∀ sign ∈ quoteSigns, isBlank sign = false ∧ sign ∈ caseless sign :=
    List.all_iff_forall_prop.1 (by decide)
  obtain ⟨hblank, hself⟩ := htable sign hsign
  refine mem_essential_iff_of_caseless hblank fun d => ⟨fun h => (eq_of_mem_caseless hsign h).symm, ?_⟩
  rintro rfl
  exact hself

theorem mem_essence_iff (hsign : sign ∈ quoteSigns) {mark : Option Char} :
    (mark, sign) ∈ essence signs s ↔ (mark, sign) ∈ quoteMarks signs none s := by
  simp [essence, mem_essential_iff hsign]

theorem exists_mem_essence_iff (hblank : isBlank c = false) (hcase : ∀ d, c ∈ caseless d ↔ d = c) :
    (∃ mark, (mark, c) ∈ essence signs s) ↔ c ∈ s := by
  simp only [essence, List.mem_flatMap, mem_essential_iff_of_caseless hblank hcase, exists_eq_right]
  exact ⟨fun ⟨_, hmark⟩ => mem_of_mem_quoteMarks hmark, exists_mem_quoteMarks⟩

/-- Whether two texts stand apart depends on what matters in them only. -/
theorem Apart.congr (hsigns : signs ⊆ quoteSigns) {u' v' : List Char}
    (hu : essence signs u' = essence signs u) (hv : essence signs v' = essence signs v)
    (h : Apart signs u v) : Apart signs u' v' := by
  intro sign hsign hmem hlater
  rw [← mem_essence_iff (hsigns hsign), hu, mem_essence_iff (hsigns hsign)] at hmem
  obtain ⟨mark, hmark⟩ := exists_mem_quoteMarks hlater
  rw [← mem_essence_iff (hsigns hsign), hv, mem_essence_iff (hsigns hsign)] at hmark
  exact h sign hsign hmem (mem_of_mem_quoteMarks hmark)

end Essence

end TimeRollup.Text

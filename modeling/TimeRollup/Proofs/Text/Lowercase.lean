import Mathlib.Data.Bool.AllAny
import TimeRollup.Sql.Name
import TimeRollup.Text.Blank
import TimeRollup.Text.Lowercase

/-!
# Lower-casing once is enough

No letter of the table moves to a letter that moves again, so lower-casing a text twice gives what
lower-casing it once gives.  A character that means nothing to the structure of an expression, as
all characters of names are, stays one when it is lower-cased.
-/

namespace TimeRollup.Text

namespace CaseRun

/-- Where the run moves a code point. -/
def move (run : CaseRun) (code : Nat) : Nat :=
  (code + run.shift).toNat

/-- The letters of the run move to code points outside of the closed range. -/
def avoids (run : CaseRun) (range : Nat × Nat) : Bool :=
  Nat.blt (run.move run.last) range.1 || Nat.blt range.2 (run.move run.first)

/-- The letters of the run move to letters that the other run leaves alone. -/
def misses (run other : CaseRun) : Bool :=
  run.avoids (other.first, other.last) ||
    ((run.first == run.last || run.step == 2) && other.step == 2 &&
      run.move run.first % 2 != other.first % 2)

variable {run other : CaseRun} {code : Nat}

theorem contains_iff : run.contains code = true ↔
    run.first ≤ code ∧ code ≤ run.last ∧ (code - run.first) % run.step = 0 := by
  simp [contains, and_assoc]

theorem outside_of_avoids {range : Nat × Nat} (h : run.avoids range = true)
    (hcode : run.contains code = true) : run.move code < range.1 ∨ range.2 < run.move code := by
  obtain ⟨hfirst, hlast, -⟩ := contains_iff.1 hcode
  simp only [avoids, Bool.or_eq_true, Nat.blt_eq, move] at h ⊢
  omega

theorem not_contains_of_misses (h : run.misses other = true) (hcode : run.contains code = true)
    (hpositive : 0 < run.move run.first) : other.contains (run.move code) = false := by
  rw [Bool.eq_false_iff]
  intro hother
  obtain ⟨hfirst, hlast, hstep⟩ := contains_iff.1 hcode
  obtain ⟨hfirst', hlast', hstep'⟩ := contains_iff.1 hother
  simp only [misses, Bool.or_eq_true, Bool.and_eq_true, beq_iff_eq, bne_iff_ne] at h
  rcases h with h | ⟨⟨hrun, htwo⟩, hparity⟩
  · have := outside_of_avoids h hcode
    omega
  · rw [htwo] at hstep'
    simp only [move] at *
    rcases hrun with hrun | hrun
    · have : code = run.first := by omega
      subst this
      omega
    · rw [hrun] at hstep
      omega

end CaseRun

/-- Code points that no letter moves to: the ASCII characters before the small letters, the letters
with a rule of their own, what is no character, and blank characters. -/
def unreachedRanges : List (Nat × Nat) :=
  (0x00, 0x60) :: (0x130, 0x130) :: (0x3C2, 0x3C2) :: (0xD800, 0xDFFF) :: blankRanges

theorem misses_of_mem {run other : CaseRun} (hrun : run ∈ lowercaseRuns)
    (hother : other ∈ lowercaseRuns) : run.misses other = true := by
  have htable : (lowercaseRuns.all fun run => lowercaseRuns.all run.misses) = true := by
    decide +kernel
  exact List.all_eq_true.1 (List.all_eq_true.1 htable run hrun) other hother

theorem avoids_of_mem {run : CaseRun} (hrun : run ∈ lowercaseRuns) :
    run.move run.last < 0x110000 ∧ ∀ range ∈ unreachedRanges, run.avoids range = true := by
  have htable : (lowercaseRuns.all fun run => Nat.blt (run.move run.last) 0x110000 &&
      unreachedRanges.all run.avoids) = true := by
    decide +kernel
  have hall := List.all_eq_true.1 htable run hrun
  rw [Bool.and_eq_true, Nat.blt_eq, List.all_eq_true] at hall
  exact hall

theorem not_contains_move {run other : CaseRun} {code : Nat} (hrun : run ∈ lowercaseRuns)
    (hother : other ∈ lowercaseRuns) (hcode : run.contains code = true) :
    other.contains (run.move code) = false := by
  apply CaseRun.not_contains_of_misses (misses_of_mem hrun hother) hcode
  have hlow := (avoids_of_mem hrun).2 (0x00, 0x60) List.mem_cons_self
  simp only [CaseRun.avoids, Bool.or_eq_true, Nat.blt_eq] at hlow
  omega

/-- No letter moves to a code point that is out of reach, and each moves to a character. -/
theorem reached_move {run : CaseRun} {code : Nat} (hrun : run ∈ lowercaseRuns)
    (hcode : run.contains code = true) :
    (Char.ofNat (run.move code)).toNat = run.move code ∧
      inRanges unreachedRanges (Char.ofNat (run.move code)) = false := by
  obtain ⟨hbound, havoids⟩ := avoids_of_mem hrun
  have houtside {range : Nat × Nat} (hrange : range ∈ unreachedRanges) :
      run.move code < range.1 ∨ range.2 < run.move code :=
    CaseRun.outside_of_avoids (havoids range hrange) hcode
  have hvalid : (run.move code).isValidChar := by
    have hsurrogate := @houtside (0xD800, 0xDFFF) (by simp [unreachedRanges])
    obtain ⟨hfirst, hlast, -⟩ := CaseRun.contains_iff.1 hcode
    simp only [CaseRun.move, Nat.isValidChar] at *
    omega
  have hcode : (Char.ofNat (run.move code)).toNat = run.move code := by
    rw [Char.ofNat, dif_pos hvalid]
    rfl
  refine ⟨hcode, ?_⟩
  rw [Bool.eq_false_iff, Ne, inRanges_eq_true_iff, hcode]
  rintro ⟨range, hrange, hlow, hhigh⟩
  rcases houtside hrange with h | h <;> omega

theorem forall_ascii {P : Char → Prop} (h : ∀ code < 0x80, P (Char.ofNat code)) {c : Char}
    (hascii : c.toNat < 0x80) : P c := by
  have hc := h c.toNat hascii
  rwa [Char.ofNat_toNat] at hc

theorem toNat_lt_of_isDigit {c : Char} (h : c.isDigit = true) : c.toNat < 0x80 := by
  have hrange : '0' ≤ c ∧ c ≤ '9' := by
    simpa [Char.isDigit, Char.le_def] using h
  exact Nat.lt_of_le_of_lt hrange.2 (by decide)

theorem toNat_lt_of_isAlpha {c : Char} (h : c.isAlpha = true) : c.toNat < 0x80 := by
  have hcase : c.isUpper = true ∨ c.isLower = true := Bool.or_eq_true_iff.1 h
  rcases hcase with hupper | hlower
  · have hrange : 'A' ≤ c ∧ c ≤ 'Z' := of_decide_eq_true hupper
    exact Nat.lt_of_le_of_lt hrange.2 (by decide)
  · have hlast : c ≤ 'z' := of_decide_eq_true (Bool.and_eq_true_iff.1 hlower).2
    exact Nat.lt_of_le_of_lt hlast (by decide)

theorem lowerChar_move {run : CaseRun} {code : Nat} (hrun : run ∈ lowercaseRuns)
    (hcode : run.contains code = true) :
    lowerChar (Char.ofNat (run.move code)) = [Char.ofNat (run.move code)] := by
  obtain ⟨hvalid, hreached⟩ := reached_move hrun hcode
  have hnone : lowercaseRuns.find? (·.contains (run.move code)) = none := by
    rw [List.find?_eq_none]
    intro other hother
    simp [not_contains_move hrun hother hcode]
  generalize Char.ofNat (run.move code) = d at hvalid hreached ⊢
  have hdotted : d ≠ 'İ' := by
    rintro rfl
    exact absurd hreached (by decide)
  by_cases hascii : d.toNat < 0x80
  · have hsmall : d.toLower = d :=
      forall_ascii (P := fun d => inRanges unreachedRanges d = false → d.toLower = d)
        (by decide) hascii hreached
    rw [lowerChar, if_pos hascii, hsmall]
  · rw [lowerChar, if_neg hascii, if_neg hdotted, hvalid, hnone]

/-- What lower-casing makes of a character that stands alone: ASCII letters change as in the Latin
alphabet, the dotted capital I has a rule of its own, a letter of the table moves to one that
stays, and any other character stays. -/
theorem mem_lowerChar {c d : Char} (h : d ∈ lowerChar c) :
    c.toNat < 0x80 ∧ d = c.toLower ∨ c = 'İ' ∧ d ∈ ['i', '\u0307'] ∨
      inRanges unreachedRanges d = false ∧ lowerChar d = [d] ∨ d = c ∧ lowerChar c = [c] := by
  by_cases hascii : c.toNat < 0x80
  · rw [lowerChar, if_pos hascii] at h
    exact .inl ⟨hascii, List.mem_singleton.1 h⟩
  by_cases hdotted : c = 'İ'
  · rw [lowerChar, if_neg hascii, if_pos hdotted] at h
    exact .inr (.inl ⟨hdotted, h⟩)
  cases hfind : lowercaseRuns.find? (·.contains c.toNat) with
  | none =>
    have hkept : lowerChar c = [c] := by
      rw [lowerChar, if_neg hascii, if_neg hdotted, hfind]
    rw [hkept] at h
    exact .inr (.inr (.inr ⟨List.mem_singleton.1 h, hkept⟩))
  | some run =>
    rw [lowerChar, if_neg hascii, if_neg hdotted, hfind] at h
    obtain rfl : d = Char.ofNat (run.move c.toNat) := List.mem_singleton.1 h
    have hrun := List.mem_of_find?_eq_some hfind
    have hcontains := List.find?_some hfind
    exact .inr (.inr (.inl ⟨(reached_move hrun hcontains).2, lowerChar_move hrun hcontains⟩))

/-- Lower-casing a lower-cased letter changes nothing. -/
theorem lowerChar_of_mem {c d : Char} (h : d ∈ lowerChar c) : lowerChar d = [d] := by
  rcases mem_lowerChar h with ⟨hascii, rfl⟩ | ⟨-, hd⟩ | ⟨-, hd⟩ | ⟨rfl, hd⟩
  · exact forall_ascii (P := fun c => lowerChar c.toLower = [c.toLower]) (by decide) hascii
  · have htable : ∀ d ∈ ['i', '\u0307'], lowerChar d = [d] :=
      List.all_iff_forall_prop.1 (by decide)
    exact htable d hd
  · exact hd
  · exact hd

theorem mem_lowerAfter {before s : List Char} {d : Char} (h : d ∈ lowerAfter before s) :
    ∃ c ∈ s, d ∈ lowerChar c ∨ c = 'Σ' ∧ d ∈ ['σ', 'ς'] := by
  induction s generalizing before with
  | nil => simp [lowerAfter] at h
  | cons c rest ih =>
    rw [lowerAfter, List.mem_append] at h
    rcases h with h | h
    · refine ⟨c, List.mem_cons_self, ?_⟩
      split at h
      · rename_i hsigma
        refine .inr ⟨hsigma, ?_⟩
        split at h <;> simp [List.mem_singleton.1 h]
      · exact .inl h
    · obtain ⟨e, he, hd⟩ := ih h
      exact ⟨e, List.mem_cons_of_mem c he, hd⟩

theorem lowerAfter_eq_self {before s : List Char} (h : ∀ c ∈ s, lowerChar c = [c]) :
    lowerAfter before s = s := by
  induction s generalizing before with
  | nil => rfl
  | cons c rest ih =>
    have hc := h c List.mem_cons_self
    have hsigma : c ≠ 'Σ' := by
      rintro rfl
      exact absurd hc (by decide)
    rw [lowerAfter, if_neg hsigma, hc, ih fun d hd => h d (List.mem_cons_of_mem c hd)]
    rfl

@[simp]
theorem lower_lower (s : List Char) : lower (lower s) = lower s := by
  apply lowerAfter_eq_self
  intro d hd
  obtain ⟨c, -, hd | ⟨-, hd⟩⟩ := mem_lowerAfter hd
  · exact lowerChar_of_mem hd
  · have htable : ∀ d ∈ ['σ', 'ς'], lowerChar d = [d] :=
      List.all_iff_forall_prop.1 (by decide)
    exact htable d hd

section Plain

/-- The signs that quote, nest or separate. -/
def allSigns : List Char :=
  ['\'', '"', '(', ')', ',']

def isSign (c : Char) : Bool :=
  allSigns.contains c

/-- Neither blank nor a sign. -/
def isPlain (c : Char) : Bool :=
  !isBlank c && !isSign c

theorem isPlain_iff {c : Char} : isPlain c = true ↔ isBlank c = false ∧ isSign c = false := by
  simp [isPlain]

/-- What no sign has the property of is no sign. -/
theorem isSign_eq_false_of_forall {P : Char → Prop} (hsigns : ∀ c ∈ allSigns, ¬ P c) {c : Char}
    (h : P c) : isSign c = false := by
  rw [Bool.eq_false_iff, isSign, Ne, List.contains_iff_mem]
  exact fun hmem => hsigns c hmem h

theorem isSign_of_isBlank {c : Char} (h : isBlank c = true) : isSign c = false :=
  isSign_eq_false_of_forall (P := (isBlank · = true))
    (List.all_iff_forall_prop.1 (by decide)) h

theorem isPlain_of_unreached {d : Char} (hreached : inRanges unreachedRanges d = false) :
    isPlain d = true := by
  have hsplit : unreachedRanges =
      [(0x00, 0x60), (0x130, 0x130), (0x3C2, 0x3C2), (0xD800, 0xDFFF)] ++ blankRanges := rfl
  rw [hsplit, inRanges_append, Bool.or_eq_false_iff] at hreached
  obtain ⟨hranges, hblank⟩ := hreached
  refine isPlain_iff.2 ⟨hblank, isSign_eq_false_of_forall (P := (inRanges _ · = false)) ?_ hranges⟩
  exact List.all_iff_forall_prop.1 (by decide)

theorem isPlain_of_mem_lowerChar {c d : Char} (hc : isPlain c = true) (h : d ∈ lowerChar c) :
    isPlain d = true := by
  rcases mem_lowerChar h with ⟨hascii, rfl⟩ | ⟨-, hd⟩ | ⟨hreached, -⟩ | ⟨rfl, -⟩
  · exact forall_ascii (P := fun c => isPlain c = true → isPlain c.toLower = true)
      (by decide) hascii hc
  · have htable : ∀ d ∈ ['i', '\u0307'], isPlain d = true :=
      List.all_iff_forall_prop.1 (by decide)
    exact htable d hd
  · exact isPlain_of_unreached hreached
  · exact hc

theorem isPlain_of_mem_lower {s : List Char} (hs : ∀ c ∈ s, isPlain c = true) {d : Char}
    (h : d ∈ lower s) : isPlain d = true := by
  obtain ⟨c, hc, hd | ⟨-, hd⟩⟩ := mem_lowerAfter h
  · exact isPlain_of_mem_lowerChar (hs c hc) hd
  · have htable : ∀ d ∈ ['σ', 'ς'], isPlain d = true :=
      List.all_iff_forall_prop.1 (by decide)
    exact htable d hd

theorem inRanges_eq_false_of_disjoint {left right : List (Nat × Nat)} {c : Char}
    (hdisjoint : (left.all fun range => right.all fun other =>
      Nat.blt range.2 other.1 || Nat.blt other.2 range.1) = true)
    (hleft : inRanges left c = true) : inRanges right c = false := by
  rw [Bool.eq_false_iff]
  intro hright
  obtain ⟨range, hrange, hlow, hhigh⟩ := inRanges_eq_true_iff.1 hleft
  obtain ⟨other, hother, hlow', hhigh'⟩ := inRanges_eq_true_iff.1 hright
  have hapart := List.all_eq_true.1 (List.all_eq_true.1 hdisjoint range hrange) other hother
  simp only [Bool.or_eq_true, Nat.blt_eq] at hapart
  omega

theorem isPlain_of_isNamePart {c : Char} (h : Sql.isNamePart c = true) : isPlain c = true := by
  by_cases hascii : c.toNat < 0x80
  · exact forall_ascii (P := fun c => Sql.isNamePart c = true → isPlain c = true)
      (by decide) hascii h
  · have hnames : inRanges (letterRanges ++ numberRanges) c = true := by
      have hletter : c.isAlpha = false := by
        rw [Bool.eq_false_iff]
        exact fun halpha => hascii (toNat_lt_of_isAlpha halpha)
      have hdigit : c.isDigit = false := by
        rw [Bool.eq_false_iff]
        exact fun hdigit => hascii (toNat_lt_of_isDigit hdigit)
      have hunderscore : c ≠ '_' := by
        rintro rfl
        exact hascii (by decide)
      have hdollar : c ≠ '$' := by
        rintro rfl
        exact hascii (by decide)
      simpa [Sql.isNamePart, isLetter, isNumber, hletter, hdigit, hunderscore, hdollar,
        inRanges_append, Nat.not_lt.1 hascii] using h
    have hblank : isBlank c = false :=
      inRanges_eq_false_of_disjoint (by decide +kernel) hnames
    refine isPlain_iff.2 ⟨hblank, isSign_eq_false_of_forall (P := (¬ ·.toNat < 0x80)) ?_ hascii⟩
    exact List.all_iff_forall_prop.1 (by decide)

end Plain

end TimeRollup.Text

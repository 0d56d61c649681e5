import TimeRollup.Proofs.Expr.Verbatim
import TimeRollup.Proofs.Rule.Tables
import TimeRollup.Proofs.Rule.Templates

/-!
# Custom rules as substitutions

A call for which there is a custom rule is rolled up to the rule's template with all places filled
in one pass, exactly if no text that is put in has an opening brace.  If the template has an opening
brace of its own the call is forwarded, as long as the brace is loose: no text that is put in can
make it the beginning of a place.
-/

namespace TimeRollup.Template

open TimeRollup.Text

section Fillings

variable {fillings : List Filling} {template : List Char}

/-! ## Texts without an opening brace -/

/-- What becomes of a chunk of a template once all places are filled. -/
def put (fillings : List Filling) (chunk : List Char) : List Char :=
  ((fillings.find? (·.place == chunk)).map Filling.text).getD chunk

theorem put_of_not_mem (hplaces : ∀ filling ∈ fillings, IsPlace filling.place) {chunk : List Char}
    (h : '\x7b' ∉ chunk) : put fillings chunk = chunk := by
  have hfind : fillings.find? (·.place == chunk) = none := by
    rw [List.find?_eq_none]
    intro filling hfilling heq
    exact h (eq_of_beq heq ▸ (hplaces filling hfilling).mem)
  rw [put, hfind]
  rfl

theorem put_cons_of_ne {filling : Filling} {chunk : List Char} (h : chunk ≠ filling.place) :
    put (filling :: fillings) chunk = put fillings chunk := by
  simp [put, Ne.symm h]

/-- Filling the places one after the other is filling each by itself, since no text that is put in
begins a place. -/
theorem fillEach_flatten (hplaces : ∀ filling ∈ fillings, IsPlace filling.place)
    {chunks : List (List Char)} (hchunks : ∀ chunk ∈ chunks, '\x7b' ∉ chunk ∨ IsPlace chunk)
    (htexts : ∀ filling ∈ fillings, filling.place ∈ chunks → '\x7b' ∉ filling.text) :
    fillEach fillings chunks.flatten = (chunks.map (put fillings)).flatten := by
  induction fillings generalizing chunks with
  | nil =>
    have hput : put [] = id := rfl
    rw [hput, List.map_id, fillEach, List.foldl_nil]
  | cons filling fillings ih =>
    obtain ⟨hplace, hplacesLater⟩ := List.forall_mem_cons.1 hplaces
    obtain ⟨htext, htextsLater⟩ := List.forall_mem_cons.1 htexts
    have hswap {chunk : List Char} (hmem : chunk ∈ chunks) :
        '\x7b' ∉ filling.swap chunk ∨ filling.swap chunk = chunk := by
      by_cases heq : chunk = filling.place
      · rw [heq, Filling.swap_place]
        exact .inl (htext (heq ▸ hmem))
      · exact .inr (Filling.swap_of_ne heq)
    have hput : ∀ chunk ∈ chunks,
        put fillings (filling.swap chunk) = put (filling :: fillings) chunk := by
      intro chunk hmem
      by_cases heq : chunk = filling.place
      · subst heq
        rw [Filling.swap_place, put_of_not_mem hplacesLater (htext hmem)]
        simp [put]
      · rw [Filling.swap_of_ne heq, put_cons_of_ne heq]
    rw [fillEach, List.foldl_cons, Filling.replaceAll_flatten hplace hchunks,
      ← List.map_congr_left hput]
    refine (ih hplacesLater ?_ ?_).trans (by rw [List.map_map]; rfl)
    · intro swapped hmem
      obtain ⟨chunk, hchunk, rfl⟩ := List.mem_map.1 hmem
      rcases hswap hchunk with hopen | hkept
      · exact .inl hopen
      · exact hkept.symm ▸ hchunks chunk hchunk
    · intro other hother hmem
      obtain ⟨chunk, hchunk, heq⟩ := List.mem_map.1 hmem
      rcases hswap hchunk with hopen | hkept
      · exact absurd (heq ▸ (hplacesLater other hother).mem) hopen
      · exact htextsLater other hother (heq ▸ hkept.symm ▸ hchunk)

/-- Without an opening brace outside of the places, or in what is put in, the places are filled as
if in one pass. -/
theorem fillEach_eq_substitute (hplaces : ∀ filling ∈ fillings, IsPlace filling.place)
    (hnodup : (fillings.map Filling.place).Nodup)
    (hopen : .char '\x7b' ∉ pieces fillings template)
    (htexts : ∀ piece ∈ pieces fillings template, '\x7b' ∉ piece.text) :
    fillEach fillings template = substitute fillings template := by
  have hchar {c : Char} (hc : .char c ∈ pieces fillings template) : '\x7b' ∉ [c] := by
    rw [List.mem_singleton]
    rintro rfl
    exact hopen hc
  have hchunks : ∀ chunk ∈ (pieces fillings template).map Piece.written,
      '\x7b' ∉ chunk ∨ IsPlace chunk := by
    intro chunk hmem
    obtain ⟨piece, hpiece, rfl⟩ := List.mem_map.1 hmem
    cases piece with
    | char c => exact .inl (hchar hpiece)
    | filled filling => exact .inr (hplaces filling (mem_of_filled_mem_piecesAfter hpiece))
  have hfilled : ∀ filling ∈ fillings,
      filling.place ∈ (pieces fillings template).map Piece.written → '\x7b' ∉ filling.text := by
    intro filling hfilling hmem
    obtain ⟨piece, hpiece, heq⟩ := List.mem_map.1 hmem
    cases piece with
    | char c => exact absurd (hplaces filling hfilling).mem (heq ▸ hchar hpiece)
    | filled other =>
      have hother := mem_of_filled_mem_piecesAfter hpiece
      rw [← List.inj_on_of_nodup_map hnodup hother hfilling heq]
      exact htexts _ hpiece
  have hput : ∀ piece ∈ pieces fillings template, put fillings piece.written = piece.text := by
    intro piece hpiece
    cases piece with
    | char c => exact put_of_not_mem hplaces (hchar hpiece)
    | filled filling =>
      have hfound := find?_eq_some_of_nodup_map hnodup (mem_of_filled_mem_piecesAfter hpiece)
      simp [put, Piece.written, Piece.text, hfound]
  calc fillEach fillings template
      = fillEach fillings ((pieces fillings template).map Piece.written).flatten := by
        rw [← List.flatMap_def, flatMap_written_pieces hplaces]
    _ = (((pieces fillings template).map Piece.written).map (put fillings)).flatten :=
        fillEach_flatten hplaces hchunks hfilled
    _ = substitute fillings template := by
        rw [List.map_map, substitute, List.flatMap_def]
        exact congrArg List.flatten (List.map_congr_left hput)

/-! ## Loose braces -/

namespace Piece

def isDigit : Piece → Bool
  | .char c => c.isDigit
  | .filled _ => false

/-- The piece ends a number in braces without closing the braces, and opens none. -/
def EndsNumber : Piece → Prop
  | .char c => c.isDigit = false ∧ c ≠ '\x7b'
  | .filled filling =>
    ∃ c rest, filling.text = c :: rest ∧ c.isDigit = false ∧ c ≠ '\x7b' ∧ c ≠ '\x7d'

end Piece

/-- Behind an opening brace that begins no place, and perhaps digits, stands nothing that is put in
and could make the brace begin one. -/
def IsLoose (after : List Piece) : Prop :=
  ∀ piece ∈ (after.dropWhile Piece.isDigit).head?, piece.EndsNumber

/-- The digits with which pieces begin, and what is written behind them. -/
def leadingDigits (after : List Piece) : List Char :=
  (after.takeWhile Piece.isDigit).flatMap Piece.written

def behindDigits (after : List Piece) : List Char :=
  (after.dropWhile Piece.isDigit).flatMap Piece.written

theorem leadingDigits_append_behindDigits (after : List Piece) :
    leadingDigits after ++ behindDigits after = after.flatMap Piece.written := by
  rw [leadingDigits, behindDigits, ← List.flatMap_append, List.takeWhile_append_dropWhile]

theorem isDigit_of_mem_leadingDigits {after : List Piece} :
    ∀ c ∈ leadingDigits after, c.isDigit = true := by
  intro c hc
  obtain ⟨piece, hpiece, hc⟩ := List.mem_flatMap.1 hc
  have hdigit := List.mem_takeWhile_imp hpiece
  cases piece with
  | char d => exact List.mem_singleton.1 hc ▸ hdigit
  | filled filling => simp [Piece.isDigit] at hdigit

/-- What may stand behind an opening brace and digits, with the places of `fillings` yet to be
filled, so that the brace begins none of them now or later. -/
inductive KeepsOpen (fillings : List Filling) (digits : List Char) : List Char → Prop
  | nil : KeepsOpen fillings digits []
  | char {c : Char} (rest : List Char) (hdigit : c.isDigit = false) (hopen : c ≠ '\x7b')
      (hclose : c = '\x7d' → ∀ filling ∈ fillings, filling.place ≠ '\x7b' :: (digits ++ ['\x7d'])) :
      KeepsOpen fillings digits (c :: rest)
  | place {filling : Filling} (rest : List Char) (hfilling : filling ∈ fillings)
      (hends : (Piece.filled filling).EndsNumber) :
      KeepsOpen fillings digits (filling.place ++ rest)

theorem IsLoose.keepsOpen {after : List Piece} (h : IsLoose after)
    (hmem : ∀ filling, .filled filling ∈ after → filling ∈ fillings)
    (hfree : ∀ filling ∈ fillings, ¬ filling.place <+: '\x7b' :: after.flatMap Piece.written) :
    KeepsOpen fillings (leadingDigits after) (behindDigits after) := by
  rw [← leadingDigits_append_behindDigits] at hfree
  cases hrest : after.dropWhile Piece.isDigit with
  | nil =>
    have hnil : behindDigits after = [] := by rw [behindDigits, hrest, List.flatMap_nil]
    exact hnil ▸ .nil
  | cons piece more =>
    have hcons : behindDigits after = piece.written ++ more.flatMap Piece.written := by
      rw [behindDigits, hrest, List.flatMap_cons]
    have hends := h piece (by simp [hrest])
    rw [hcons] at hfree ⊢
    cases piece with
    | char c =>
      refine .char _ hends.1 hends.2 fun hc filling hfilling hplace => hfree filling hfilling ?_
      rw [hplace, hc]
      simp [Piece.written]
    | filled filling =>
      have hafter : .filled filling ∈ after :=
        (List.dropWhile_sublist Piece.isDigit).subset (hrest ▸ List.mem_cons_self)
      exact .place _ (hmem filling hafter) hends

theorem KeepsOpen.replaceAll {filling : Filling} {digits behind : List Char}
    (hplaces : ∀ other ∈ filling :: fillings, IsPlace other.place)
    (hnodup : ((filling :: fillings).map Filling.place).Nodup)
    (h : KeepsOpen (filling :: fillings) digits behind) :
    KeepsOpen fillings digits (replaceAll filling.place filling.text behind) := by
  obtain ⟨hplace, hlater⟩ := List.forall_mem_cons.1 hplaces
  cases h with
  | nil => exact .nil
  | @char c rest hdigit hopen hclose =>
    have hc : '\x7b' ∉ [c] := by simpa using Ne.symm hopen
    rw [← List.singleton_append, hplace.replaceAll_append hc]
    exact .char _ hdigit hopen fun hc other hother =>
      hclose hc other (List.mem_cons_of_mem filling hother)
  | @place other rest hother hends =>
    rcases List.mem_cons.1 hother with rfl | hother'
    · obtain ⟨c, more, htext, hdigit, hopen, hclose⟩ := hends
      rw [replaceAll_append_pattern hplace.ne_nil, htext, List.cons_append]
      exact .char _ hdigit hopen fun hc => absurd hc hclose
    · have hne : other.place ≠ filling.place := by
        intro heq
        rw [List.map_cons, List.nodup_cons] at hnodup
        exact hnodup.1 (heq ▸ List.mem_map_of_mem hother')
      rw [hplace.replaceAll_place_append (hlater other hother') hne]
      exact .place _ hother' hends

/-- Digits are taken for an argument only if a closing brace is behind them. -/
theorem KeepsOpen.not_begin {digits behind : List Char} {index : Nat}
    (hplaces : ∀ filling ∈ fillings, IsPlace filling.place)
    (hdigits : ∀ c ∈ digits, c.isDigit = true)
    (hplace : argumentPlace index ∈ fillings.map Filling.place)
    (h : KeepsOpen fillings digits behind) :
    ¬ argumentPlace index <+: '\x7b' :: (digits ++ behind) := by
  rintro ⟨more, hmore⟩
  have heq : Nat.toDigits 10 index ++ '\x7d' :: more = digits ++ behind := by
    simpa [argumentPlace] using hmore
  have hnumber : ∀ c ∈ Nat.toDigits 10 index, c.isDigit = true := fun c =>
    Nat.isDigit_of_mem_toDigits (by decide) (by decide)
  have hhead : ∀ c ∈ behind.head?, c.isDigit = false := by
    cases h with
    | nil => simp
    | char rest hdigit => simpa using hdigit
    | @place filling rest hfilling =>
      obtain ⟨name, hname, -⟩ := hplaces filling hfilling
      simp [hname]
  have hsame : Nat.toDigits 10 index = digits := by
    have htake := congrArg (List.takeWhile Char.isDigit) heq
    rwa [takeWhile_run_append hnumber (by simp), takeWhile_run_append hdigits hhead] at htake
  rw [hsame, List.append_cancel_left_eq] at heq
  cases h with
  | nil => simp at heq
  | char rest hdigit hopen hclose =>
    obtain ⟨filling, hfilling, hindex⟩ := List.mem_map.1 hplace
    refine hclose (List.cons.inj heq).1.symm filling hfilling ?_
    rw [hindex, argumentPlace, hsame]
    rfl
  | @place filling rest hfilling =>
    obtain ⟨name, hname, -⟩ := hplaces filling hfilling
    simp [hname] at heq

/-- A brace that is kept open stays while places of arguments are filled. -/
theorem brace_mem_fillEach {digits front behind : List Char}
    (hplaces : ∀ filling ∈ fillings, ∃ index, filling.place = argumentPlace index)
    (hnodup : (fillings.map Filling.place).Nodup) (hdigits : ∀ c ∈ digits, c.isDigit = true)
    (h : KeepsOpen fillings digits behind) :
    '\x7b' ∈ fillEach fillings (front ++ '\x7b' :: (digits ++ behind)) := by
  have hdigitsOpen : '\x7b' ∉ digits := fun hmem => absurd (hdigits _ hmem) (by decide)
  induction fillings generalizing front behind with
  | nil => simp [fillEach]
  | cons filling fillings ih =>
    have hall : ∀ other ∈ filling :: fillings, IsPlace other.place := by
      intro other hother
      obtain ⟨index, hindex⟩ := hplaces other hother
      exact hindex ▸ isPlace_argumentPlace index
    obtain ⟨⟨index, hindex⟩, hlater⟩ := List.forall_mem_cons.1 hplaces
    have hplace := hall filling List.mem_cons_self
    have hbegin : ¬ filling.place <+: '\x7b' :: (digits ++ behind) := by
      rw [hindex]
      exact h.not_begin hall hdigits (hindex ▸ List.mem_map_of_mem List.mem_cons_self)
    rw [fillEach, List.foldl_cons, hplace.replaceAll_append_brace hbegin,
      hplace.replaceAll_append hdigitsOpen]
    exact ih hlater (List.nodup_cons.1 hnodup).2 (h.replaceAll hall hnodup)

end Fillings

/-- A loose brace of the template is left when all places are filled. -/
theorem brace_mem_fill_of_isLoose {template aliasName : List Char} {arguments : List (List Char)}
    {before after : List Piece}
    (hpieces : pieces (fillings aliasName arguments) template = before ++ .char '\x7b' :: after)
    (hloose : IsLoose after) : '\x7b' ∈ fill template aliasName arguments := by
  have hplaces := @isPlace_of_mem_fillings aliasName arguments
  have hnodup := nodup_fillings aliasName arguments
  have hfree := not_prefix_of_piecesAfter_eq hplaces hpieces
  have hmem : ∀ filling, .filled filling ∈ after → filling ∈ fillings aliasName arguments := by
    intro filling hfilling
    have hpiece : .filled filling ∈ pieces (fillings aliasName arguments) template := by
      rw [hpieces]
      exact List.mem_append_right before (List.mem_cons_of_mem _ hfilling)
    exact mem_of_filled_mem_piecesAfter hpiece
  have hkept := hloose.keepsOpen hmem hfree
  have htemplate : template = before.flatMap Piece.written ++
      '\x7b' :: (leadingDigits after ++ behindDigits after) := by
    calc template = (pieces (fillings aliasName arguments) template).flatMap Piece.written :=
          (flatMap_written_pieces hplaces template).symm
      _ = _ := by
        rw [hpieces, List.flatMap_append, List.flatMap_cons, leadingDigits_append_behindDigits]
        rfl
  have hdigits : '\x7b' ∉ leadingDigits after := fun hbrace =>
    absurd (isDigit_of_mem_leadingDigits _ hbrace) (by decide)
  -- The alias is filled first, and its place is no number, so only the template tells it apart.
  have halias : ¬ aliasPlace <+: '\x7b' :: (leadingDigits after ++ behindDigits after) := by
    rw [leadingDigits_append_behindDigits]
    exact hfree _ List.mem_cons_self
  rw [fill_eq_fillEach, htemplate, fillings, fillEach, List.foldl_cons,
    isPlace_aliasPlace.replaceAll_append_brace halias,
    isPlace_aliasPlace.replaceAll_append hdigits]
  refine brace_mem_fillEach ?_ (List.nodup_cons.1 hnodup).2 isDigit_of_mem_leadingDigits
    (hkept.replaceAll hplaces hnodup)
  intro filling hfilling
  obtain ⟨entry, -, rfl⟩ := List.mem_map.1 hfilling
  exact ⟨entry.2, rfl⟩

end TimeRollup.Template

namespace TimeRollup

open TimeRollup.Template

namespace CustomRule

/-- The pieces of the template, with what is put in for a call with the given alias. -/
def pieces (rule : CustomRule) (aliasName : String) (args : List Expr) : List Piece :=
  Template.pieces (fillings aliasName.toList (args.map Expr.render)) rule.template.toList

/-- The template with all places filled in one pass. -/
def substituted (rule : CustomRule) (aliasName : String) (args : List Expr) : List Char :=
  (rule.pieces aliasName args).flatMap Piece.text

theorem brace_mem_substituted_iff {rule : CustomRule} {aliasName : String} {args : List Expr} :
    '\x7b' ∈ rule.substituted aliasName args ↔
      ∃ piece ∈ rule.pieces aliasName args, '\x7b' ∈ piece.text :=
  List.mem_flatMap

theorem coarser?_eq (rule : CustomRule) (aliasName : String) (args : List Expr) :
    rule.coarser? aliasName args =
      if '\x7b' ∈ fill rule.template.toList aliasName.toList (args.map Expr.render) then none
      else some (.parse (fill rule.template.toList aliasName.toList (args.map Expr.render))) := by
  simp [coarser?, isOpen]

end CustomRule

namespace RuleTable

/-- A call for which there is a custom rule becomes the template with its places filled in one pass,
if the template has no other opening brace, exactly if nothing that is put in has one.  It is
forwarded if the template has another opening brace that is loose. -/
theorem rewrite_eq_substituted_iff {rules : List CustomRule} {table : RuleTable} {rule : CustomRule}
    (htable : ofRules rules = .ok table) (hrule : rule ∈ table.custom) (args : List Expr)
    (aliasName : String) :
    (.char '\x7b' ∉ rule.pieces aliasName args →
        (table.rewrite ⟨.call rule.function args, aliasName⟩ =
            .rolled ⟨.parse (rule.substituted aliasName args), aliasName⟩ ↔
          ∀ piece ∈ rule.pieces aliasName args, '\x7b' ∉ piece.text)) ∧
      (∀ before after, rule.pieces aliasName args = before ++ .char '\x7b' :: after →
        IsLoose after →
          table.rewrite ⟨.call rule.function args, aliasName⟩ =
            .forwarded ⟨.call rule.function args, aliasName⟩) := by
  rw [(isAccepted_ofRules htable).rewrite_call hrule, rule.coarser?_eq]
  refine ⟨fun hopen => ⟨fun hrolled => ?_, fun htexts => ?_⟩, fun before after hpieces hloose => ?_⟩
  · split at hrolled
    · simp at hrolled
    · rename_i hfill
      simp only [Option.map_some, Option.getD_some, Rewrite.rolled.injEq, SelectItem.mk.injEq,
        and_true] at hrolled
      have hmem {s : List Char} : '\x7b' ∈ (Expr.parse s).render ↔ '\x7b' ∈ s :=
        Expr.mem_render_parse_iff (by decide) Text.brace_mem_caseless_iff s
      rw [← hmem, hrolled, hmem, CustomRule.brace_mem_substituted_iff] at hfill
      exact fun piece hpiece hbrace => hfill ⟨piece, hpiece, hbrace⟩
  · have hfill : fill rule.template.toList aliasName.toList (args.map Expr.render) =
        rule.substituted aliasName args := by
      rw [fill_eq_fillEach]
      exact fillEach_eq_substitute isPlace_of_mem_fillings (nodup_fillings _ _) hopen htexts
    have hbrace : '\x7b' ∉ rule.substituted aliasName args := by
      rw [CustomRule.brace_mem_substituted_iff]
      exact fun ⟨piece, hpiece, hbrace⟩ => htexts piece hpiece hbrace
    rw [hfill, if_neg hbrace]
    rfl
  · rw [if_pos (brace_mem_fill_of_isLoose hpieces hloose)]
    rfl

/-- A rule for calls with a second argument. -/
def topkRule : CustomRule :=
  ⟨"topk", "topk_merge(\x7balias\x7d, \x7b1\x7d)"⟩

theorem rewrite_eq_substituted_iff_topk :
    ofRules [topkRule] = .ok ⟨[topkRule]⟩ ∧
      rewrite ⟨[topkRule]⟩ ⟨.call "topk" [.column "page", .literal "5"], "top"⟩ =
        .rolled ⟨.call "topk_merge" [.column "top", .literal "5"], "top"⟩ ∧
      rewrite ⟨[topkRule]⟩ ⟨.call "topk" [.column "page"], "top"⟩ =
        .forwarded ⟨.call "topk" [.column "page"], "top"⟩ := by
  have htable : ofRules [topkRule] = .ok ⟨[topkRule]⟩ := by
    decide +kernel
  obtain ⟨hrolled, -⟩ := rewrite_eq_substituted_iff htable List.mem_cons_self
    [.column "page", .literal "5"] "top"
  obtain ⟨-, hforwarded⟩ := rewrite_eq_substituted_iff htable List.mem_cons_self
    [.column "page"] "top"
  refine ⟨htable, ?_, ?_⟩
  · have hparse : Expr.parse (topkRule.substituted "top" [.column "page", .literal "5"]) =
        .call "topk_merge" [.column "top", .literal "5"] := by
      decide +kernel
    have htop := (hrolled (by decide +kernel)).2 (List.all_iff_forall_prop.1 (by decide +kernel))
    rwa [hparse] at htop
  · let pieces := topkRule.pieces "top" [.column "page"]
    have hsplit : pieces = pieces.take 14 ++ .char '\x7b' :: pieces.drop 15 := by
      decide +kernel
    have hbehind : ((pieces.drop 15).dropWhile Piece.isDigit).head? = some (.char '\x7d') := by
      decide +kernel
    refine hforwarded _ _ hsplit ?_
    rw [IsLoose, hbehind]
    rintro _ ⟨⟩
    exact ⟨by decide, by decide⟩

/-- An opening brace in an argument keeps a call from being rolled up. -/
theorem not_rewrite_eq_substituted :
    ¬ ∀ (rules : List CustomRule) (table : RuleTable) (rule : CustomRule) (args : List Expr)
        (aliasName : String), ofRules rules = .ok table → rule ∈ table.custom →
      table.rewrite ⟨.call rule.function args, aliasName⟩ =
        if .char '\x7b' ∈ rule.pieces aliasName args then
          .forwarded ⟨.call rule.function args, aliasName⟩
        else .rolled ⟨.parse (rule.substituted aliasName args), aliasName⟩ := by
  intro h
  have hrewrite := h [⟨"hll", "hll_merge(\x7balias\x7d, \x7b0\x7d)"⟩]
    ⟨[⟨"hll", "hll_merge(\x7balias\x7d, \x7b0\x7d)"⟩]⟩
    ⟨"hll", "hll_merge(\x7balias\x7d, \x7b0\x7d)"⟩ [.literal "'\x7b'"] "v"
    (by decide +kernel) List.mem_cons_self
  exact absurd hrewrite (by decide +kernel)

end RuleTable

end TimeRollup

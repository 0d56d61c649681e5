import Mathlib.Data.List.Basic
import TimeRollup.Expr.Parser
import TimeRollup.Proofs.Sql.Names
import TimeRollup.Proofs.Text.Trim

/-!
# The grammar of calls

A call is a name, an opening parenthesis, arguments with commas between them and a closing
parenthesis at the end of the text.  Nothing but the place in parentheses and single quotes tells a
comma that separates arguments from another one, so a text is an argument exactly if that place is
outside at its end and it has no comma and no closing parenthesis outside on the way.
-/

namespace TimeRollup.Expr

open TimeRollup.Text TimeRollup.Sql

/-- How deep in the parentheses of an argument, and whether in single quotes, a text ends. -/
structure Place where
  depth : Nat
  quoted : Bool
  deriving DecidableEq

namespace Place

def outside : Place :=
  ⟨0, false⟩

/-- The place behind one more character, unless the argument ends before it. -/
def step? (place : Place) (c : Char) : Option Place :=
  if c = '\'' then some { place with quoted := !place.quoted }
  else if place.quoted then some place
  else if c = '(' then some { place with depth := place.depth + 1 }
  else if c = ')' then
    if place.depth = 0 then none else some { place with depth := place.depth - 1 }
  else if c = ',' ∧ place.depth = 0 then none
  else some place

theorem step?_eq_none_iff {place : Place} {c : Char} :
    place.step? c = none ↔ place = outside ∧ (c = ',' ∨ c = ')') := by
  obtain ⟨depth, quoted⟩ := place
  simp only [step?, outside, Place.mk.injEq]
  split_ifs <;> grind

theorem step?_of_isSign {c : Char} (hc : isSign c = false) (place : Place) :
    place.step? c = some place := by
  obtain ⟨hquote, -, hopen, hclose, hcomma⟩ :
      c ≠ '\'' ∧ c ≠ '"' ∧ c ≠ '(' ∧ c ≠ ')' ∧ c ≠ ',' := by
    simpa [isSign, allSigns] using hc
  simp [step?, hquote, hopen, hclose, hcomma]

theorem foldlM_step?_of_isSign {s : List Char} (hs : ∀ c ∈ s, isSign c = false)
    (place : Place) : s.foldlM step? place = some place := by
  induction s with
  | nil => rfl
  | cons c rest ih =>
    rw [List.foldlM_cons, step?_of_isSign (hs c List.mem_cons_self)]
    exact ih fun d hd => hs d (List.mem_cons_of_mem c hd)

/-- The same place within more parentheses. -/
def within (place : Place) (more : Nat) : Place :=
  { place with depth := place.depth + more }

theorem step?_within {place next : Place} {c : Char} (h : place.step? c = some next)
    (more : Nat) : (place.within more).step? c = some (next.within more) := by
  obtain ⟨depth, quoted⟩ := place
  obtain ⟨nextDepth, nextQuoted⟩ := next
  simp only [step?, within] at h ⊢
  grind

theorem foldlM_step?_within {s : List Char} {place next : Place}
    (h : s.foldlM step? place = some next) (more : Nat) :
    s.foldlM step? (place.within more) = some (next.within more) := by
  induction s generalizing place with
  | nil =>
    rw [List.foldlM_nil] at h ⊢
    rw [Option.some.inj h]
    rfl
  | cons c rest ih =>
    rw [List.foldlM_cons, Option.bind_eq_bind, Option.bind_eq_some_iff] at h
    obtain ⟨between, hstep, hrest⟩ := h
    rw [List.foldlM_cons, step?_within hstep]
    exact ih hrest

end Place

/-- A text that is an argument of a call, or would be if it were not blank. -/
def IsArgument (s : List Char) : Prop :=
  s.foldlM Place.step? .outside = some .outside

instance (s : List Char) : Decidable (IsArgument s) :=
  inferInstanceAs (Decidable (_ = _))

/-- Cutting off the first character of a text. -/
theorem pieces?_cons (place : Place) (c : Char) (rest : List Char) :
    pieces? place.depth place.quoted (c :: rest) =
      match place.step? c with
      | some next => (pieces? next.depth next.quoted rest).map (extendFirst c)
      | none =>
        if c = ',' then (pieces? 0 false rest).map ([] :: ·)
        else if rest = [] then some [[]] else none := by
  obtain ⟨depth, quoted⟩ := place
  simp only [pieces?, Place.step?]
  split_ifs <;> simp_all

/-- The pieces of a text are the text between its separating commas. -/
theorem eq_append_of_pieces? {place : Place} {s piece : List Char} {later : List (List Char)}
    (h : pieces? place.depth place.quoted s = some (piece :: later)) :
    s = piece ++ (later.flatMap (',' :: ·) ++ [')']) ∧
      piece.foldlM Place.step? place = some .outside ∧ ∀ next ∈ later, IsArgument next := by
  induction s generalizing place piece later with
  | nil => simp [pieces?] at h
  | cons c rest ih =>
    rw [pieces?_cons] at h
    cases hstep : place.step? c with
    | some next =>
      rw [hstep] at h
      obtain ⟨pieces, hpieces, hextend⟩ := Option.map_eq_some_iff.1 h
      obtain ⟨first, more, rfl⟩ := List.exists_cons_of_ne_nil (pieces?_ne_nil hpieces)
      obtain ⟨rfl, rfl⟩ := List.cons.inj hextend
      obtain ⟨rfl, hfirst, hmore⟩ := ih hpieces
      exact ⟨rfl, by simpa [hstep] using hfirst, hmore⟩
    | none =>
      -- The argument ends here, at a comma or at the parenthesis that closes the call.
      obtain ⟨rfl, rfl | rfl⟩ := Place.step?_eq_none_iff.1 hstep
      · rw [hstep] at h
        obtain ⟨pieces, hpieces, heq⟩ := Option.map_eq_some_iff.1 h
        obtain ⟨first, more, rfl⟩ := List.exists_cons_of_ne_nil (pieces?_ne_nil hpieces)
        obtain ⟨rfl, rfl⟩ := List.cons.inj heq
        obtain ⟨rfl, hfirst, hmore⟩ := @ih .outside first more hpieces
        exact ⟨by simp, rfl, List.forall_mem_cons.2 ⟨hfirst, hmore⟩⟩
      · obtain ⟨rfl, rfl, rfl⟩ : rest = [] ∧ piece = [] ∧ later = [] := by
          simpa [hstep] using h
        exact ⟨rfl, rfl, by simp⟩

theorem foldr_extendFirst (s piece : List Char) (pieces : List (List Char)) :
    s.foldr extendFirst (piece :: pieces) = (s ++ piece) :: pieces := by
  induction s with
  | nil => rfl
  | cons c rest ih => rw [List.foldr_cons, ih, extendFirst, List.cons_append]

/-- As long as the argument goes on, all that is read belongs to the first piece. -/
theorem pieces?_append {place next : Place} {u : List Char}
    (hu : u.foldlM Place.step? place = some next) (v : List Char) :
    pieces? place.depth place.quoted (u ++ v) =
      (pieces? next.depth next.quoted v).map (u.foldr extendFirst) := by
  induction u generalizing place with
  | nil =>
    obtain rfl : place = next := by simpa using hu
    simp
  | cons c u ih =>
    rw [List.foldlM_cons, Option.bind_eq_bind, Option.bind_eq_some_iff] at hu
    obtain ⟨between, hstep, hrest⟩ := hu
    rw [List.cons_append, pieces?_cons, hstep]
    simp only [ih hrest, Option.map_map]
    rfl

/-- Arguments with commas between them are cut apart again. -/
theorem pieces?_flatMap {piece : List Char} {later : List (List Char)} (hpiece : IsArgument piece)
    (hlater : ∀ next ∈ later, IsArgument next) :
    pieces? 0 false (piece ++ (later.flatMap (',' :: ·) ++ [')'])) = some (piece :: later) := by
  have hread (v : List Char) : pieces? 0 false (piece ++ v) =
      (pieces? 0 false v).map (piece.foldr extendFirst) := pieces?_append hpiece v
  induction later generalizing piece with
  | nil =>
    rw [hread, show pieces? 0 false ([].flatMap (',' :: ·) ++ [')']) = some [[]] from rfl,
      Option.map_some, foldr_extendFirst, List.append_nil]
  | cons next later ih =>
    obtain ⟨hnext, hmore⟩ := List.forall_mem_cons.1 hlater
    have hrest := ih hnext hmore (pieces?_append hnext)
    have hcomma (v : List Char) : pieces? 0 false (',' :: v) = (pieces? 0 false v).map ([] :: ·) :=
      pieces?_cons .outside ',' v
    rw [hread, List.flatMap_cons, List.cons_append, List.cons_append, List.append_assoc, hcomma,
      hrest, Option.map_some, Option.map_some, foldr_extendFirst, List.append_nil]

/-- Arguments are separated by commas. -/
theorem intercalate_comma_cons (arg : List Char) (args : List (List Char)) :
    [','].intercalate (arg :: args) = arg ++ args.flatMap (',' :: ·) := by
  induction args generalizing arg with
  | nil => simp [List.intercalate]
  | cons next args ih => rw [List.intercalate_cons_cons, ih next]; simp

/-- A text that can stand among the arguments of a call: an argument that is not blank. -/
def IsProperArgument (s : List Char) : Prop :=
  IsArgument s ∧ ∃ c ∈ s, isBlank c = false

theorem arguments?_eq_some_iff {s : List Char} {args : List (List Char)} :
    arguments? s = some args ↔
      args ≠ [] ∧ s = [','].intercalate args ++ [')'] ∧ ∀ arg ∈ args, IsProperArgument arg := by
  have hproper : (!args.any (·.all isBlank)) = true ↔
      ∀ arg ∈ args, ∃ c ∈ arg, isBlank c = false := by
    simp
  rw [arguments?, Option.filter_eq_some_iff, hproper]
  cases args with
  | nil => simpa using fun h => pieces?_ne_nil h rfl
  | cons arg args =>
    rw [intercalate_comma_cons, List.append_assoc]
    constructor
    · rintro ⟨hpieces, hblank⟩
      obtain ⟨htext, hfirst, hlater⟩ := @eq_append_of_pieces? .outside s arg args hpieces
      exact ⟨List.cons_ne_nil arg args, htext, fun other hother =>
        ⟨(List.forall_mem_cons (p := IsArgument)).2 ⟨hfirst, hlater⟩ other hother,
          hblank other hother⟩⟩
    · rintro ⟨-, rfl, hargs⟩
      obtain ⟨hfirst, hlater⟩ := List.forall_mem_cons.1 fun other hother => (hargs other hother).1
      exact ⟨pieces?_flatMap hfirst hlater, fun other hother => (hargs other hother).2⟩

theorem takeWhile_append_skipSpace (s : List Char) :
    s.takeWhile isSpace ++ skipSpace s = s :=
  List.takeWhile_append_dropWhile

theorem skipSpace_eq_iff {s body : List Char} :
    skipSpace s = body ↔ (∃ gap, (∀ c ∈ gap, isSpace c = true) ∧ s = gap ++ body) ∧
      ∀ c ∈ body.head?, isSpace c = false := by
  constructor
  · rintro rfl
    refine ⟨⟨s.takeWhile isSpace, fun c => List.mem_takeWhile_imp,
      (takeWhile_append_skipSpace s).symm⟩, ?_⟩
    intro c hc
    have hhead := List.head?_dropWhile_not isSpace s
    rw [show s.dropWhile isSpace = skipSpace s from rfl, hc] at hhead
    simpa using hhead
  · rintro ⟨⟨gap, hgap, rfl⟩, hbody⟩
    exact dropWhile_run_append hgap hbody

theorem isBlank_of_isSpace {c : Char} (h : isSpace c = true) : isBlank c = true := by
  have htable : ∀ c ∈ [' ', '\t', '\r', '\n'], isBlank c = true :=
    List.all_iff_forall_prop.1 (by decide)
  exact htable c (by simpa [isSpace, or_assoc] using h)

theorem IsProperArgument.ne_nil {s : List Char} (h : IsProperArgument s) : s ≠ [] := by
  rintro rfl
  simpa using h.2

theorem takeName?_call {function gap : List Char} (hfunction : isIdentifier function = true)
    (hgap : ∀ c ∈ gap, isSpace c = true) (s : List Char) :
    takeName? (function ++ (gap ++ '(' :: s)) = some (function, gap ++ '(' :: s) := by
  refine Sql.takeName?_eq_some_iff.2 ⟨hfunction, rfl, ?_⟩
  cases gap with
  | nil => simp; decide
  | cons c gap =>
    have hblank := isBlank_of_isSpace (hgap c List.mem_cons_self)
    simpa using not_isNamePart_of_isBlank hblank

/-- The text is a name and, in parentheses, arguments with commas between them.  There may be space
before and behind the opening parenthesis. -/
structure IsCall (function : List Char) (args : List (List Char)) (s : List Char) : Prop where
  isIdentifier : isIdentifier function = true
  isProper : ∀ arg ∈ args, IsProperArgument arg
  head_notSpace : ∀ arg ∈ args.head?, ∀ c ∈ arg.head?, isSpace c = false
  exists_text : ∃ gap inner, (∀ c ∈ gap, isSpace c = true) ∧ (∀ c ∈ inner, isSpace c = true) ∧
    s = function ++ (gap ++ '(' :: (inner ++ ([','].intercalate args ++ [')'])))

variable {s function : List Char} {args : List (List Char)}

theorem isCall_of_call? (h : call? s = some (function, args)) : IsCall function args s := by
  unfold call? at h
  split at h
  · simp at h
  rename_i name rest hname
  obtain ⟨hidentifier, rfl, -⟩ := Sql.takeName?_eq_some_iff.1 hname
  split at h
  · rename_i body hbody
    obtain ⟨⟨gap, hgap, rfl⟩, -⟩ := skipSpace_eq_iff.1 hbody
    split at h
    · rename_i hclose
      obtain ⟨⟨inner, hinner, rfl⟩, -⟩ := skipSpace_eq_iff.1 hclose
      obtain ⟨rfl, rfl⟩ : name = function ∧ args = [] := by simpa [eq_comm] using h
      exact ⟨hidentifier, by simp, by simp, gap, inner, hgap, hinner, by simp⟩
    · obtain ⟨found, hargs, heq⟩ := Option.map_eq_some_iff.1 h
      obtain ⟨rfl, rfl⟩ := Prod.mk.inj heq
      obtain ⟨hne, htext, hproper⟩ := arguments?_eq_some_iff.1 hargs
      obtain ⟨⟨inner, hinner, rfl⟩, hhead⟩ := skipSpace_eq_iff.1 htext
      refine ⟨hidentifier, hproper, ?_, gap, inner, hgap, hinner, rfl⟩
      intro arg harg c hc
      obtain ⟨later, rfl⟩ := List.head?_eq_some_iff.1 harg
      obtain ⟨more, rfl⟩ := List.head?_eq_some_iff.1 hc
      exact hhead c (by simp [intercalate_comma_cons])
  · simp at h

theorem IsCall.call?_eq (h : IsCall function args s) : call? s = some (function, args) := by
  obtain ⟨hidentifier, hproper, hhead, gap, inner, hgap, hinner, rfl⟩ := h
  have hopen : skipSpace (gap ++ '(' :: (inner ++ ([','].intercalate args ++ [')']))) =
      '(' :: (inner ++ ([','].intercalate args ++ [')'])) :=
    skipSpace_eq_iff.2 ⟨⟨gap, hgap, rfl⟩, by simp; decide⟩
  have hbody : skipSpace (inner ++ ([','].intercalate args ++ [')'])) =
      [','].intercalate args ++ [')'] := by
    refine skipSpace_eq_iff.2 ⟨⟨inner, hinner, rfl⟩, ?_⟩
    cases args with
    | nil => simp; decide
    | cons arg args =>
      obtain ⟨c, arg, rfl⟩ := List.exists_cons_of_ne_nil (hproper arg List.mem_cons_self).ne_nil
      simpa [intercalate_comma_cons] using hhead
  rw [call?, takeName?_call hidentifier hgap]
  simp only [hopen, hbody]
  cases args with
  | nil => rfl
  | cons arg args =>
    have hargs : arguments? ([','].intercalate (arg :: args) ++ [')']) = some (arg :: args) :=
      arguments?_eq_some_iff.2 ⟨List.cons_ne_nil arg args, rfl, hproper⟩
    split
    · rename_i hclose
      rw [List.append_left_eq_self, intercalate_comma_cons, List.append_eq_nil_iff] at hclose
      exact absurd hclose.1 (hproper arg List.mem_cons_self).ne_nil
    · rw [hargs]
      rfl

/-- A text is read as a call exactly if it has the form of one. -/
theorem call?_eq_some_iff : call? s = some (function, args) ↔ IsCall function args s :=
  ⟨isCall_of_call?, IsCall.call?_eq⟩

theorem IsCall.exists_takeName? (h : IsCall function args s) :
    ∃ rest, takeName? s = some (function, rest) := by
  obtain ⟨gap, inner, hgap, -, rfl⟩ := h.exists_text
  exact ⟨_, takeName?_call h.isIdentifier hgap _⟩

theorem IsCall.getLast?_eq (h : IsCall function args s) : s.getLast? = some ')' := by
  obtain ⟨gap, inner, -, -, rfl⟩ := h.exists_text
  simp [List.getLast?_append, List.getLast?_cons]

/-- A text that is a call is read by its arguments, any other by what is left of it without the
blank characters around it. -/
theorem parse_induction {motive : List Char → Expr → Prop}
    (atom : ∀ s, call? (trim s) = none → motive s (ofAtom (trim s)))
    (call : ∀ s function args, IsCall function args (trim s) →
      (∀ arg ∈ args, motive arg (parse arg)) →
        motive s (.call (String.ofList (lower function)) (args.map parse)))
    (s : List Char) : motive s (parse s) := by
  induction hlength : s.length using Nat.strong_induction_on generalizing s with
  | _ length ih =>
    cases hcall : call? (trim s) with
    | none =>
      rw [parse_eq_atom hcall]
      exact atom s hcall
    | some parts =>
      obtain ⟨function, args⟩ := parts
      rw [parse_eq_call hcall]
      refine call s function args (isCall_of_call? hcall) fun arg harg =>
        ih arg.length ?_ arg rfl
      have hshort := length_lt_of_mem_call? hcall harg
      have htrim := trim_length_le s
      omega

end TimeRollup.Expr

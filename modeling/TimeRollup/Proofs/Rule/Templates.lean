import Mathlib.Data.List.Basic
import Mathlib.Data.List.Nodup
import TimeRollup.Rule.Template

/-!
# Templates filled in one pass

The places of a template are filled one after the other, so a text that was put in is searched for
the places that come later.  This gives what filling all places in one pass gives as long as no text
that is put in has an opening brace.  An opening brace of the template itself that begins no place
stays to the end, unless a text that is put in behind it, and perhaps digits, makes it one.
-/

namespace TimeRollup.Template

open TimeRollup.Text

/-! ## Places -/

/-- A place is a name in braces. -/
def IsPlace (s : List Char) : Prop :=
  ∃ name, s = '\x7b' :: (name ++ ['\x7d']) ∧ '\x7b' ∉ name ∧ '\x7d' ∉ name

theorem isPlace_aliasPlace : IsPlace aliasPlace :=
  ⟨"alias".toList, by decide, by decide, by decide⟩

theorem isPlace_argumentPlace (index : Nat) : IsPlace (argumentPlace index) := by
  have hdigit {c : Char} (hc : c ∈ Nat.toDigits 10 index) : c.isDigit = true :=
    Nat.isDigit_of_mem_toDigits (by decide) (by decide) hc
  exact ⟨Nat.toDigits 10 index, rfl, fun hc => absurd (hdigit hc) (by decide),
    fun hc => absurd (hdigit hc) (by decide)⟩

theorem argumentPlace_injective : Function.Injective argumentPlace := by
  intro index other heq
  have hdigits : Nat.toDigits 10 index = Nat.toDigits 10 other := by
    simpa [argumentPlace] using heq
  have hread := congrArg (fun digits => Nat.ofDigitChars 10 digits 0) hdigits
  simpa only [Nat.ofDigitChars_ten_toDigits] using hread

theorem aliasPlace_ne_argumentPlace (index : Nat) : aliasPlace ≠ argumentPlace index := by
  intro heq
  have hletter : 'a' ∈ argumentPlace index := heq ▸ (by decide : 'a' ∈ aliasPlace)
  have hdigit : 'a' ∈ Nat.toDigits 10 index := by
    simpa [argumentPlace] using hletter
  exact absurd (Nat.isDigit_of_mem_toDigits (by decide) (by decide) hdigit) (by decide)

namespace IsPlace

variable {place other : List Char}

theorem ne_nil (h : IsPlace place) : place ≠ [] := by
  obtain ⟨name, rfl, -⟩ := h
  simp

theorem mem (h : IsPlace place) : '\x7b' ∈ place := by
  obtain ⟨name, rfl, -⟩ := h
  simp

/-- No place is the beginning of another. -/
theorem eq_of_begin (h : IsPlace place) (hother : IsPlace other) {rest : List Char}
    (hbegin : place <+: other ++ rest) : place = other := by
  obtain ⟨name, rfl, -, hname⟩ := h
  obtain ⟨name', rfl, -, hname'⟩ := hother
  obtain ⟨more, hmore⟩ := hbegin
  have heq : name ++ '\x7d' :: more = name' ++ '\x7d' :: rest := by
    simpa using hmore
  rw [(eq_of_append_cons_eq_of_before hname hname' heq).1]

theorem replaceAll_append (h : IsPlace place) {s : List Char} (hs : '\x7b' ∉ s)
    (new rest : List Char) :
    replaceAll place new (s ++ rest) = s ++ replaceAll place new rest := by
  obtain ⟨name, rfl, -⟩ := h
  exact replaceAll_append_of_not_mem hs rest

theorem replaceAll_place_append (h : IsPlace place) (hother : IsPlace other)
    (hne : other ≠ place) (new rest : List Char) :
    replaceAll place new (other ++ rest) = other ++ replaceAll place new rest := by
  have hbegin : place.isPrefixOf (other ++ rest) = false := by
    rw [Bool.eq_false_iff, Ne, List.isPrefixOf_iff_prefix]
    exact fun hbegin => hne (h.eq_of_begin hother hbegin).symm
  obtain ⟨name, rfl, hopen, -⟩ := hother
  have hname : '\x7b' ∉ name ++ ['\x7d'] := by
    simpa using hopen
  rw [List.cons_append] at hbegin ⊢
  rw [replaceAll_cons_of_not_begin hbegin, h.replaceAll_append hname, List.cons_append]

/-- What stands in front of an opening brace that begins no place does not reach over it. -/
theorem replaceAll_append_brace (h : IsPlace place) {new front behind : List Char}
    (hbegin : ¬ place <+: '\x7b' :: behind) :
    replaceAll place new (front ++ '\x7b' :: behind) =
      replaceAll place new front ++ '\x7b' :: replaceAll place new behind := by
  rw [← List.isPrefixOf_iff_prefix, Bool.not_eq_true] at hbegin
  obtain ⟨name, rfl, hopen, -⟩ := h
  rw [replaceAll_append_first (by simpa using hopen), replaceAll_cons_of_not_begin hbegin]

end IsPlace

/-! ## Fillings and pieces -/

/-- A place and the text that is put in for it. -/
structure Filling where
  place : List Char
  text : List Char
  deriving DecidableEq, Repr

namespace Filling

/-- What becomes of a chunk of a template. -/
def swap (filling : Filling) (chunk : List Char) : List Char :=
  if chunk = filling.place then filling.text else chunk

theorem swap_of_ne {filling : Filling} {chunk : List Char} (h : chunk ≠ filling.place) :
    filling.swap chunk = chunk :=
  if_neg h

@[simp]
theorem swap_place (filling : Filling) : filling.swap filling.place = filling.text :=
  if_pos rfl

/-- A text cut into places and texts without an opening brace has no other occurrence of a place. -/
theorem replaceAll_flatten {filling : Filling} (hplace : IsPlace filling.place)
    {chunks : List (List Char)} (hchunks : ∀ chunk ∈ chunks, '\x7b' ∉ chunk ∨ IsPlace chunk) :
    replaceAll filling.place filling.text chunks.flatten = (chunks.map filling.swap).flatten := by
  induction chunks with
  | nil => rfl
  | cons chunk chunks ih =>
    obtain ⟨hchunk, hlater⟩ := List.forall_mem_cons.1 hchunks
    rw [List.flatten_cons, List.map_cons, List.flatten_cons, ← ih hlater]
    by_cases heq : chunk = filling.place
    · rw [heq, swap_place, replaceAll_append_pattern hplace.ne_nil]
    · rw [swap_of_ne heq]
      rcases hchunk with hplain | hchunk
      · exact hplace.replaceAll_append hplain _ _
      · exact hplace.replaceAll_place_append hchunk heq _ _

end Filling

/-- What is put into a template, in the order in which it is done. -/
def fillings (aliasName : List Char) (arguments : List (List Char)) : List Filling :=
  ⟨aliasPlace, aliasName⟩ ::
    arguments.zipIdx.map fun entry => ⟨argumentPlace entry.2, entry.1⟩

def fillEach (fillings : List Filling) (s : List Char) : List Char :=
  fillings.foldl (fun s filling => replaceAll filling.place filling.text s) s

theorem fill_eq_fillEach (template aliasName : List Char) (arguments : List (List Char)) :
    fill template aliasName arguments = fillEach (fillings aliasName arguments) template := by
  rw [fill, fillEach, fillings, List.foldl_cons]
  generalize replaceAll aliasPlace aliasName template = text
  generalize 0 = index
  induction arguments generalizing index text with
  | nil => rfl
  | cons argument arguments ih =>
    rw [fillArguments, ih, List.zipIdx_cons, List.map_cons, List.foldl_cons]

theorem mem_fillings {aliasName : List Char} {arguments : List (List Char)} {filling : Filling}
    (h : filling ∈ fillings aliasName arguments) :
    filling.place = aliasPlace ∨ ∃ index, filling.place = argumentPlace index := by
  rcases List.mem_cons.1 h with rfl | h
  · exact .inl rfl
  · obtain ⟨entry, -, rfl⟩ := List.mem_map.1 h
    exact .inr ⟨entry.2, rfl⟩

theorem isPlace_of_mem_fillings {aliasName : List Char} {arguments : List (List Char)} :
    ∀ filling ∈ fillings aliasName arguments, IsPlace filling.place := by
  intro filling h
  rcases mem_fillings h with hplace | ⟨index, hplace⟩
  · exact hplace ▸ isPlace_aliasPlace
  · exact hplace ▸ isPlace_argumentPlace index

/-- Each place is filled once. -/
theorem nodup_fillings (aliasName : List Char) (arguments : List (List Char)) :
    ((fillings aliasName arguments).map Filling.place).Nodup := by
  have hindex : (arguments.zipIdx.map fun entry =>
      (⟨argumentPlace entry.2, entry.1⟩ : Filling)).map Filling.place =
        (List.range arguments.length).map argumentPlace := by
    rw [List.range_eq_range', ← List.zipIdx_map_snd 0 arguments, List.map_map, List.map_map]
    rfl
  rw [fillings, List.map_cons, hindex, List.nodup_cons]
  constructor
  · rw [List.mem_map]
    rintro ⟨index, -, heq⟩
    exact aliasPlace_ne_argumentPlace index heq.symm
  · exact List.nodup_range.map argumentPlace_injective

/-- A piece of a template: a character that stands for itself, or a place with what is put in. -/
inductive Piece where
  | char (c : Char)
  | filled (filling : Filling)
  deriving DecidableEq, Repr

namespace Piece

/-- The piece as it stands in the template. -/
def written : Piece → List Char
  | .char c => [c]
  | .filled filling => filling.place

def text : Piece → List Char
  | .char c => [c]
  | .filled filling => filling.text

end Piece

/-- Passes over `skip` characters, then cuts a template into its pieces. -/
def piecesAfter (fillings : List Filling) (skip : Nat) : List Char → List Piece
  | [] => []
  | c :: rest =>
    match skip with
    | skip + 1 => piecesAfter fillings skip rest
    | 0 =>
      match fillings.find? (·.place.isPrefixOf (c :: rest)) with
      | some filling => .filled filling :: piecesAfter fillings (filling.place.length - 1) rest
      | none => .char c :: piecesAfter fillings 0 rest

/-- A template is read from the left, once, and each place is a piece of its own. -/
def pieces (fillings : List Filling) (template : List Char) : List Piece :=
  piecesAfter fillings 0 template

/-- The template with all places filled in one pass. -/
def substitute (fillings : List Filling) (template : List Char) : List Char :=
  (pieces fillings template).flatMap Piece.text

section Pieces

variable {fillings : List Filling} {skip : Nat} {s : List Char}

theorem flatMap_written_piecesAfter (hplaces : ∀ filling ∈ fillings, IsPlace filling.place) :
    (piecesAfter fillings skip s).flatMap Piece.written = s.drop skip := by
  induction s generalizing skip with
  | nil => simp [piecesAfter]
  | cons c rest ih =>
    cases skip with
    | succ skip => simpa [piecesAfter] using ih
    | zero =>
      rw [piecesAfter, List.drop_zero]
      cases hfind : fillings.find? (·.place.isPrefixOf (c :: rest)) with
      | none => simp [Piece.written, ih]
      | some filling =>
        have hplace := hplaces filling (List.mem_of_find?_eq_some hfind)
        obtain ⟨name, heq, -⟩ := hplace
        have hbegin := List.find?_some hfind
        rw [heq, List.isPrefixOf_iff_prefix] at hbegin
        obtain ⟨more, hmore⟩ := hbegin
        obtain ⟨rfl, rfl⟩ : '\x7b' = c ∧ name ++ '\x7d' :: more = rest := by
          simpa using hmore
        simp [Piece.written, ih, heq]

/-- The pieces of a template make up the template. -/
theorem flatMap_written_pieces (hplaces : ∀ filling ∈ fillings, IsPlace filling.place)
    (template : List Char) :
    (pieces fillings template).flatMap Piece.written = template :=
  flatMap_written_piecesAfter hplaces

theorem mem_of_filled_mem_piecesAfter {filling : Filling}
    (h : .filled filling ∈ piecesAfter fillings skip s) : filling ∈ fillings := by
  induction s generalizing skip with
  | nil => simp [piecesAfter] at h
  | cons c rest ih =>
    cases skip with
    | succ skip => exact ih h
    | zero =>
      rw [piecesAfter] at h
      cases hfind : fillings.find? (·.place.isPrefixOf (c :: rest)) with
      | none =>
        simp only [hfind, List.mem_cons, reduceCtorEq, false_or] at h
        exact ih h
      | some found =>
        simp only [hfind, List.mem_cons, Piece.filled.injEq] at h
        rcases h with rfl | h
        · exact List.mem_of_find?_eq_some hfind
        · exact ih h

/-- A character is a piece only where no place begins. -/
theorem not_prefix_of_piecesAfter_eq (hplaces : ∀ filling ∈ fillings, IsPlace filling.place)
    {before after : List Piece} {c : Char}
    (h : piecesAfter fillings skip s = before ++ .char c :: after) :
    ∀ filling ∈ fillings, ¬ filling.place <+: c :: after.flatMap Piece.written := by
  induction s generalizing skip before with
  | nil => simp [piecesAfter] at h
  | cons d rest ih =>
    cases skip with
    | succ skip => exact ih h
    | zero =>
      rw [piecesAfter] at h
      cases hfind : fillings.find? (·.place.isPrefixOf (d :: rest)) with
      | none =>
        rw [hfind] at h
        cases before with
        | nil =>
          obtain ⟨hc, rfl⟩ := List.cons.inj h
          rw [← Piece.char.inj hc, flatMap_written_piecesAfter hplaces, List.drop_zero]
          simpa using hfind
        | cons piece before => exact ih (List.cons.inj h).2
      | some found =>
        rw [hfind] at h
        cases before with
        | nil => simp at h
        | cons piece before => exact ih (List.cons.inj h).2

end Pieces

end TimeRollup.Template

import TimeRollup.Toml.Value

/-!
# Tables under construction

A table may be written out under its own header, be implied by the header of a table inside it, or come
about through a key with dots.  How it came about decides whether it may be extended: a header may
follow for a table that was only implied, and keys with dots may extend what keys with dots have made.
Nothing may be set twice.
-/

namespace TimeRollup.Toml

inductive Origin where
  /-- The table has its own header. -/
  | written
  /-- A header of a table inside it names the table. -/
  | implied
  /-- A key with dots names the table. -/
  | dotted
  deriving DecidableEq, Repr

inductive Node where
  | value (value : Value)
  | table (origin : Origin) (entries : List (String × Node))
  /-- An array of tables, of which headers extend the last one. -/
  | tables (last : List (String × Node)) (earlier : List (List (String × Node)))

abbrev Entries := List (String × Node)

/-- Sets an entry in its place, or as the last one. -/
def setEntry (key : String) (node : Node) : Entries → Entries
  | [] => [(key, node)]
  | entry :: entries =>
    if entry.1 = key then (key, node) :: entries else entry :: setEntry key node entries

/-- Setting an entry changes what stands under its own key only. -/
theorem lookup_setEntry (key other : String) (node : Node) (entries : Entries) :
    (setEntry key node entries).lookup other =
      if other = key then some node else entries.lookup other := by
  induction entries with
  | nil =>
    by_cases h : other = key
    · simp [setEntry, h]
    · simp [setEntry, List.lookup_cons, h, beq_false_of_ne h]
  | cons entry entries ih =>
    obtain ⟨name, old⟩ := entry
    by_cases hkey : name = key
    · subst hkey
      by_cases h : other = name
      · simp [setEntry, h]
      · simp [setEntry, List.lookup_cons, h, beq_false_of_ne h]
    · by_cases h : other = name
      · subst h
        simp [setEntry, hkey]
      · simp [setEntry, List.lookup_cons, hkey, beq_false_of_ne h, ih]

mutual

def Node.toValue : Node → Value
  | .value value => value
  | .table _ entries => .table (entriesToValues entries)
  | .tables last earlier =>
    .array ((tablesToValues earlier).reverse ++ [.table (entriesToValues last)])

def entriesToValues : List (String × Node) → List (String × Value)
  | [] => []
  | (key, node) :: entries => (key, node.toValue) :: entriesToValues entries

def tablesToValues : List (List (String × Node)) → List Value
  | [] => []
  | entries :: tables => .table (entriesToValues entries) :: tablesToValues tables

end

/-- Sets a value by its path and key. -/
def insertValue (value : Value) (key : String) : List String → Entries → Option Entries
  | [], entries =>
    if (entries.lookup key).isSome then none else some (setEntry key (.value value) entries)
  | name :: path, entries =>
    match entries.lookup name with
    | none => do
      let inner ← insertValue value key path []
      return setEntry name (.table .dotted inner) entries
    | some (.value _) => none
    | some (.table origin inner) =>
      if origin = .written ∨ origin = .implied ∧ path.isEmpty then none
      else do
        let inner ← insertValue value key path inner
        return setEntry name (.table origin inner) entries
    | some (.tables last earlier) =>
      if path.isEmpty then none
      else do
        let last ← insertValue value key path last
        return setEntry name (.tables last earlier) entries

/-- Adds the table under a header by its path and key.  The header may be that of one more table in an
array; `fill` adds the values under it. -/
def insertTable (inArray : Bool) (fill : Entries → Option Entries) (key : String) :
    List String → Entries → Option Entries
  | [], entries => do
    match entries.lookup key, inArray with
    | none, false => return setEntry key (.table .written (← fill [])) entries
    | none, true => return setEntry key (.tables (← fill []) []) entries
    | some (.table .implied inner), false =>
      return setEntry key (.table .written (← fill inner)) entries
    | some (.tables last earlier), true =>
      return setEntry key (.tables (← fill []) (last :: earlier)) entries
    | _, _ => none
  | name :: path, entries =>
    match entries.lookup name with
    | none => do
      let inner ← insertTable inArray fill key path []
      return setEntry name (.table .implied inner) entries
    | some (.value _) => none
    | some (.table origin inner) => do
      let inner ← insertTable inArray fill key path inner
      return setEntry name (.table origin inner) entries
    | some (.tables last earlier) => do
      let last ← insertTable inArray fill key path last
      return setEntry name (.tables last earlier) entries

/-- A value with the key that it is set by, of which all but the last part are a path. -/
structure Setting where
  path : List String
  key : String
  value : Value

def Setting.ofKey? (parts : List String) (value : Value) : Option Setting :=
  parts.getLast?.map fun key => ⟨parts.dropLast, key, value⟩

def insertSettings (settings : List Setting) (entries : Entries) : Option Entries :=
  settings.foldlM (fun entries setting =>
    insertValue setting.value setting.key setting.path entries) entries

end TimeRollup.Toml

/-
Loading settings.

Settings files come in layers: first the default file, unless the command line takes it
back, then the files that it names.  The default file need not exist, the others must.

In what format a file is written, how it is laid over the files before it, and which
values count as true is nothing that this program decides.  A library does, and `Library`
is what the program asks of it: to read the file of a name, to add what was read to what
was set before, to go through all that is set, and to use a value for a field.  The
program says which files there are, in which order, and which of them have to exist; it
says what the fields are called, what type they have, and what they are when nothing
sets them.

A library may leave things to chance, such as the order in which it goes through what is
set, and with it which of two values that cannot be used is reported.  A `Library` is one
way in which it can go.  What holds for every library therefore holds however it goes.
-/
import LineGlob.Files.Basic
import LineGlob.Settings.Basic

namespace LineGlob.Settings

/-! ### Libraries -/

/-- A library that reads settings files. -/
structure Library where
  /-- What a key can be set to, along with anything that is kept about it. -/
  Value : Type
  /-- What the files so far have set. -/
  Layers : Type
  /-- Nothing is set. -/
  bare : Layers
  /-- Reads the file of a name: the keys that it sets and their values.  The flag tells whether the
  file has to exist. -/
  read : FileSystem → List Char → Bool → Except Error (List (String × Value))
  /-- Lays what a file sets over what was set before. -/
  add : Layers → List (String × Value) → Layers
  /-- The keys that are set and their values, in the order in which the library takes them. -/
  entries : Layers → List (String × Value)
  /-- Uses the value of a key as a truth value. -/
  toBool : String → Value → Except Error Bool
  /-- Uses the value of a key as one of some words.  Together the words have a name. -/
  toWord : String → (words : List String) → String → Value → Except Error (Fin words.length)

namespace Library

variable (lib : Library)

/-! ### Fields -/

/-- Uses the value of a key as a filename mode. -/
def toFilenameMode (key : String) (v : lib.Value) : Except Error FilenameMode :=
  (lib.toWord FilenameMode.wordsName (FilenameMode.all.map FilenameMode.word) key v).map fun i =>
    FilenameMode.all.get (i.cast (List.length_map FilenameMode.word))

/-- A field after one more key.  The field has a value so far and is changed by its own key only. -/
def update {α : Type} (field : String) (convert : String → lib.Value → Except Error α) (sofar : α)
    (entry : String × lib.Value) : Except Error α :=
  if entry.1 = field then convert entry.1 entry.2 else .ok sofar

/-- Settings after one more key.  A key that belongs to no field is passed over. -/
def updateAll (s : Settings) (entry : String × lib.Value) : Except Error Settings := do
  let ignoreCase ← lib.update "ignore-case" lib.toBool s.ignoreCase entry
  let invertMatch ← lib.update "invert-match" lib.toBool s.invertMatch entry
  let withFilename ← lib.update "with-filename" lib.toFilenameMode s.withFilename entry
  return { ignoreCase, invertMatch, withFilename }

/-- The settings that keys amount to.  Fields that no key sets are as they are by default. -/
def ofEntries (entries : List (String × lib.Value)) : Except Error Settings :=
  entries.foldlM lib.updateAll default

/-! ### All files -/

/-- Lays files over each other in order.  The first one that cannot be read is reported. -/
def layers (fs : FileSystem) (sources : List Source) : Except Error lib.Layers :=
  sources.foldlM (fun l s => (lib.read fs s.name s.required).map (lib.add l)) lib.bare

end Library

/-- The files to load: the default file if there is one, and those that are named. -/
def sources (defaultPath : Option Bytes) (names : List String) : List Source :=
  (defaultPath.map fun path => ⟨path, false⟩).toList ++
    names.map fun name => ⟨Text.encode name.toList, true⟩

/-- Loads settings from files, of which later ones go before earlier ones. -/
def load (lib : Library) (fs : FileSystem) (sources : List Source) : Except Error Settings := do
  let l ← lib.layers fs sources
  lib.ofEntries (lib.entries l)

end LineGlob.Settings

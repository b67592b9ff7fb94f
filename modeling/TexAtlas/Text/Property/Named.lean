/-
Properties of Unicode by name. Names are read loosely: case, blanks, hyphens and
underscores do not count, nor does `is` at the beginning.
-/

import TexAtlas.Text.Property.Age
import TexAtlas.Text.Property.Boundary
import TexAtlas.Text.Property.SharedScript

namespace TexAtlas.Text

/-- The part of a name that counts. The name `isc` keeps its beginning, because the rest
alone would be the name of something else. -/
def looseName (name : List Char) : String :=
  let plain := fun (letters : List Char) =>
    (letters.filter (fun c => c != ' ' && c != '_' && c != '-' && c.toNat < 0x80)).map
      Char.toLower
  match name with
  | first :: second :: rest =>
    if first.toLower = 'i' && second.toLower = 's' then
      if plain rest = ['c'] then "isc" else String.ofList (plain rest)
    else String.ofList (plain name)
  | short => String.ofList (plain short)

/-! ### Categories -/

/-- The names of the sets that several categories make up, and the beginning of the short
names of these categories. -/
def categoryGroups : List (List String × Char) :=
  [
    (["l", "letter"], 'l'), (["m", "mark", "combiningmark"], 'm'), (["n", "number"], 'n'),
    (["p", "punctuation", "punct"], 'p'), (["s", "symbol"], 's'), (["z", "separator"], 'z')
  ]

/-- Whether a category has a short name with the given first letter. -/
def NamedSet.hasInitial (initial : Char) (set : NamedSet) : Bool :=
  match set.names with
  | short :: _ => short.toList.head? == some initial
  | [] => false

def categoryGroup (initial : Char) : CharacterSet :=
  CharacterSet.anyOf ((categories.filter (NamedSet.hasInitial initial)).map NamedSet.members)

def casedLetters : CharacterSet :=
  CharacterSet.anyOf [.listed uppercaseLetterRanges, .listed lowercaseLetterRanges,
    .listed titlecaseLetterRanges]

def categoryNamed? (name : String) : Option CharacterSet :=
  match categoryGroups.find? (fun group => group.1.contains name) with
  | some group => some (categoryGroup group.2)
  | none =>
    if name = "any" then some (.others (.listed []))
    else if name = "ascii" then some (.listed [(0, 0x7f)])
    else if name = "assigned" then some .assigned
    else if name = "cn" || name = "unassigned" then some (.others .assigned)
    else if name = "c" || name = "other" then
      some (.joined (categoryGroup 'c') (.others .assigned))
    else if name = "lc" || name = "casedletter" then some casedLetters
    else findNamed? categories name

/-! ### Properties with and without a value -/

/-- The characters with a value of a property. -/
def valueNamed? (property value : String) : Option CharacterSet :=
  if property = "gc" || property = "generalcategory" then categoryNamed? value
  else if property = "sc" || property = "script" then findNamed? scripts value
  else if property = "scx" || property = "scriptextensions" then
    (scripts.find? (fun script => script.names.contains value)).map charactersUsedIn
  else if property = "age" then charactersOfVersion? value
  else if property = "gcb" || property = "graphemeclusterbreak" then
    findNamed? CharacterSet.graphemeClasses value
  else if property = "wb" || property = "wordbreak" then
    findNamed? CharacterSet.wordClasses value
  else if property = "sb" || property = "sentencebreak" then
    findNamed? CharacterSet.sentenceClasses value
  else none

/-- The characters that have a property, or the given value of it. -/
def membersNamed? (property : List Char) (value : Option (List Char)) : Option Intervals :=
  let name := looseName property
  let found := match value with
    | none =>
      (findNamed? CharacterSet.properties name).or
        ((categoryNamed? name).or (findNamed? scripts name))
    | some value => valueNamed? name (looseName value)
  found.map CharacterSet.intervals

end TexAtlas.Text

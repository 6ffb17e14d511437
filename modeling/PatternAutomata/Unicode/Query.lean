import PatternAutomata.Unicode.Age
import PatternAutomata.Unicode.PropertyName
import PatternAutomata.Unicode.Segmentation

/-!
# Finding a set of characters by name

Names are compared loosely: case, spaces, hyphens, underscores and a leading `is` do not count. A
lone name is taken for a property, then for a general category, then for a script; with a value it
names a property that has values.
-/
namespace PatternAutomata.Unicode

/-- The characters of a name that count. The lone letter that remains of `isc` would be the name of
a category, so that name is kept whole. -/
def looseName (name : List Char) : List Char :=
  let counted (c : Char) : Option Char :=
    if c = ' ' ∨ c = '_' ∨ c = '-' ∨ 0x7F < c.toNat then none else some c.toLower
  match name with
  | i :: s :: rest =>
    if i.toLower = 'i' ∧ s.toLower = 's' then
      let kept := rest.filterMap counted
      if kept = ['c'] then ['i', 's', 'c'] else kept
    else name.filterMap counted
  | _ => name.filterMap counted

/-- Whether a name in loose form is one of the given names. -/
def isNamed (name : List Char) (known : List String) : Bool :=
  known.any fun other => looseName other.toList == name

/-- Why no set of characters was found. -/
inductive QueryError where
  | propertyNotFound
  | valueNotFound
  deriving DecidableEq, Repr

/-- What a set of characters is asked for by. -/
inductive Query where
  /-- A property, a general category or a script. -/
  | named (name : List Char)
  /-- A property and its value. -/
  | valued (property value : List Char)
  deriving DecidableEq, Repr

/-- The groups of general categories, with their other names and their members. -/
def categoryGroups : List (String × List String × List String) := [
  ("Cased_Letter", ["LC"], ["Lu", "Ll", "Lt"]),
  ("Letter", ["L"], ["Lu", "Ll", "Lt", "Lm", "Lo"]),
  ("Mark", ["M", "Combining_Mark"], ["Mn", "Mc", "Me"]),
  ("Number", ["N"], ["Nd", "Nl", "No"]),
  ("Other", ["C"], ["Cc", "Cf", "Cs", "Co", "Cn"]),
  ("Punctuation", ["P", "punct"], ["Pc", "Pd", "Ps", "Pe", "Pi", "Pf", "Po"]),
  ("Separator", ["Z"], ["Zs", "Zl", "Zp"]),
  ("Symbol", ["S"], ["Sm", "Sc", "Sk", "So"])]

/-- The answer to a question about a value: no answer if the value is not known, an error if it is
known but no character has it. -/
abbrev Answer := Option (Except QueryError CharSet)

/-- The characters of a general category. All characters, the assigned and those of ASCII count as
categories, and no character is a surrogate. -/
def categoryByName (name : List Char) : Answer :=
  if name = "any".toList then some (.ok .all)
  else if name = "assigned".toList then some (.ok (categories ["Cn"]).negate)
  else if name = "ascii".toList then some (.ok (exactly [(0, 0x7F)]))
  else
    match categoryGroups.find? fun (long, others, _) => isNamed name (long :: others) with
    | some (_, _, members) => some (.ok (categories members))
    | none =>
      (generalCategories.find? fun entry => isNamed name (entry.name :: entry.aliases)).map fun entry =>
        if entry.name = "Surrogate" then .error .valueNotFound else .ok entry.set

/-- The names of scripts that stand for no particular characters. -/
def vacantScripts : List String := ["Unknown", "Zzzz", "Katakana_Or_Hiragana", "Hrkt"]

/-- A script by its name, read by `set`. -/
def scriptByName (set : Packed.Entry → CharSet) (name : List Char) : Answer :=
  if isNamed name vacantScripts then some (.error .valueNotFound)
  else
    (scripts.find? fun entry => isNamed name (entry.name :: entry.aliases)).map fun entry =>
      .ok (set entry)

/-- The long name of a property. -/
def propertyName? (name : List Char) : Option String :=
  (propertyNames.find? fun (long, others) => isNamed name (long :: others)).map (·.1)

/-- A class among those that a text is broken by. -/
def breakClassByName (classes : List BreakClass) (name : List Char) : Answer :=
  (classes.find? fun entry => isNamed name [entry.name, entry.short]).map fun entry => .ok (entry.set ())

def ageByName (name : List Char) : Answer :=
  (ages.find? fun entry => isNamed name (entry.name :: entry.aliases)).map fun entry =>
    .ok (assignedBy entry)

/-- The question whether a property has a value, for the properties that have values. -/
def valueByName (property : String) (name : List Char) : Answer :=
  match property with
  | "Age" => ageByName name
  | "General_Category" => categoryByName name
  | "Grapheme_Cluster_Break" => breakClassByName graphemeClasses name
  | "Script" => scriptByName Packed.Entry.set name
  | "Script_Extensions" => scriptByName scriptUsers name
  | "Sentence_Break" => breakClassByName sentenceClasses name
  | "Word_Break" => breakClassByName wordClasses name
  | _ => none

/-- Short names of categories that are also the short names of mappings and of a property. -/
def categoryFirst : List String := ["cf", "sc", "lc"]

/-- The set of characters that is asked for. -/
def Query.set? : Query → Except QueryError CharSet
  | named name =>
    let name := looseName name
    match if categoryFirst.any (·.toList == name) then none else propertyName? name with
    | some property =>
      match property? property with
      | some set => .ok set
      | none => .error .propertyNotFound
    | none =>
      match categoryByName name with
      | some answer => answer
      | none => (scriptByName Packed.Entry.set name).getD (.error .propertyNotFound)
  | valued property value =>
    match propertyName? (looseName property) with
    | none => .error .propertyNotFound
    | some property => (valueByName property (looseName value)).getD (.error .valueNotFound)

end PatternAutomata.Unicode

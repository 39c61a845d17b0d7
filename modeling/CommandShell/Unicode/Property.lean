import CommandShell.Unicode.AgeTable
import CommandShell.Unicode.BinaryTable
import CommandShell.Unicode.BreakTable
import CommandShell.Unicode.CategoryTable
import CommandShell.Unicode.CodeSet
import CommandShell.Unicode.GraphemeTable
import CommandShell.Unicode.PropertyNames
import CommandShell.Unicode.ScriptTable

/-!
# Properties of characters

The sets of characters that a property names.  Names are compared loosely: case, spaces,
`_` and `-` do not count, and neither does a leading `is`.  A name that stands alone is a
binary property, a general category or a script, in this order; a name with a value is
looked up among the values of that property.  The sets are those of version 16.0 of the
standard.
-/

namespace CommandShell.Unicode

/-! ### Names -/

/-- A name without what does not count in it. -/
def looseName (name : Text) : String :=
  let isPrefixed := match name with
    | i :: s :: _ => (i == 'i' || i == 'I') && (s == 's' || s == 'S')
    | _ => false
  let stripped := (if isPrefixed then name.drop 2 else name).filter fun c =>
    c != ' ' && c != '_' && c != '-' && c.toNat < 128
  let lower := stripped.map Char.toLower
  -- The short name of one property is itself `isc`.
  if isPrefixed && lower = ['c'] then "isc" else String.ofList lower

/-! ### Sets -/

/-- The set of a name in a table. -/
def tableSet? (table : List (String × String)) (name : String) : Option CodeSet :=
  (table.lookup name).map CodeSet.ofTable

/-- The general categories of which a category is made, if it is a group. -/
def categoryGroup : String → List String
  | "L" => ["Lu", "Ll", "Lt", "Lm", "Lo"]
  | "LC" => ["Lu", "Ll", "Lt"]
  | "M" => ["Mn", "Mc", "Me"]
  | "N" => ["Nd", "Nl", "No"]
  | "P" => ["Pc", "Pd", "Ps", "Pe", "Pi", "Pf", "Po"]
  | "S" => ["Sm", "Sc", "Sk", "So"]
  | "Z" => ["Zs", "Zl", "Zp"]
  | "C" => ["Cc", "Cf", "Co", "Cn"]
  | name => [name]

/-- The characters of a general category. -/
def category? (name : String) : Option CodeSet :=
  ((categoryGroup name).mapM (tableSet? categoryTable)).map CodeSet.unions

/-- The characters that have a binary property. -/
def binary? (name : String) : Option CodeSet :=
  tableSet? binaryTable name

/-- The decimal digits of all scripts. -/
def digits : CodeSet :=
  (category? "Nd").getD CodeSet.empty

/-- The white space of all scripts. -/
def spaces : CodeSet :=
  (binary? "White_Space").getD CodeSet.empty

/-- The characters of words: letters, marks, decimal digits, connectors and joiners. -/
def wordCharacters : CodeSet :=
  CodeSet.unions ([binary? "Alphabetic", category? "M", category? "Nd", category? "Pc",
    binary? "Join_Control"].map (·.getD CodeSet.empty))

/-- A character of a word.  Those of the first block are known without the table. -/
def isWordCharacter (c : Char) : Bool :=
  if c.toNat < 128 then Text.isNameChar c else wordCharacters.contains c.toNat

/-- The syllables of Hangul that have no final consonant. -/
def hangulOpen : CodeSet :=
  ⟨(List.range 399).map fun k => (0xAC00 + 28 * k, 0xAC00 + 28 * k)⟩

/-- The syllables of Hangul that have a final consonant. -/
def hangulClosed : CodeSet :=
  ⟨(List.range 399).map fun k => (0xAC00 + 28 * k + 1, 0xAC00 + 28 * k + 27)⟩

/-- The characters of a class of grapheme cluster breaks. -/
def grapheme? : String → Option CodeSet
  | "LV" => some hangulOpen
  | "LVT" => some hangulClosed
  | name => tableSet? graphemeTable name

/-- The characters that some version of the standard up to the given one added. -/
def age? (version : String) : Option CodeSet :=
  if ageTable.any (·.1 == version) then
    let earlier := ageTable.takeWhile (·.1 != version)
    some (CodeSet.unions
      ((earlier ++ ageTable.filter (·.1 == version)).map (CodeSet.ofTable ·.2)))
  else none

/-! ### Queries -/

/-- How a pattern names a set of characters. -/
inductive Query where
  /-- A property, category or script. -/
  | named (name : Text)
  /-- A property with a value. -/
  | valued (name : Text) (value : Text)
deriving Repr, DecidableEq

/-- Why a query names no set. -/
inductive QueryError where
  | noProperty
  | noValue
deriving Repr, DecidableEq

/-- The general category of a name, or one of the three sets that count as such. -/
def categoryByName? (name : String) : Option (Option CodeSet) :=
  match name with
  | "any" => some (some (CodeSet.range 0 CodeSet.last))
  | "assigned" => some ((category? "Cn").map CodeSet.complement)
  | "ascii" => some (some (CodeSet.range 0 127))
  | _ => (categoryAliases.lookup name).map category?

/-- The set of a value, unless it has none. -/
def orNoValue : Option CodeSet → Except QueryError CodeSet
  | some s => .ok s
  | none => .error .noValue

/-- These are short names of other properties too, but standing alone they are categories. -/
def isCategoryFirst (name : String) : Bool :=
  name == "cf" || name == "sc" || name == "lc"

/-- The set of a name that stands alone.  A name of a property that is not binary has none. -/
def findName (name : String) : Except QueryError CodeSet :=
  match if isCategoryFirst name then none else propertyAliases.lookup name with
  | some property =>
    match binary? property with
    | some s => .ok s
    | none => .error .noProperty
  | none =>
    match categoryByName? name with
    | some s => orNoValue s
    | none =>
      match scriptAliases.lookup name with
      | some script => orNoValue (tableSet? scriptTable script)
      | none => .error .noProperty

/-- The set of a value of a property. -/
def findValue (property value : String) : Except QueryError CodeSet :=
  match propertyAliases.lookup property with
  | none => .error .noProperty
  | some "General_Category" => orNoValue ((categoryByName? value).bind id)
  | some "Script" => orNoValue ((scriptAliases.lookup value).bind (tableSet? scriptTable))
  | some "Script_Extensions" =>
    orNoValue ((scriptAliases.lookup value).bind fun script =>
      (tableSet? scriptExtensionTable script).or (tableSet? scriptTable script))
  | some "Age" => orNoValue ((ageAliases.lookup value).bind age?)
  | some "Grapheme_Cluster_Break" => orNoValue ((graphemeAliases.lookup value).bind grapheme?)
  | some "Word_Break" =>
    orNoValue ((wordBreakAliases.lookup value).bind (tableSet? wordBreakTable))
  | some "Sentence_Break" =>
    orNoValue ((sentenceBreakAliases.lookup value).bind (tableSet? sentenceBreakTable))
  | some _ => .error .noValue

/-- The set of characters that a query names. -/
def Query.find : Query → Except QueryError CodeSet
  | .named name => findName (looseName name)
  | .valued name value => findValue (looseName name) (looseName value)

end CommandShell.Unicode

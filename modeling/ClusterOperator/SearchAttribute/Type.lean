/-!
# Types of search attributes

The seven types that a custom search attribute can have, with the name that specs give them and the
name that servers give them.
-/

namespace ClusterOperator

/-- The type of a custom search attribute. -/
inductive AttributeType where
  | text
  | keyword
  | int
  | double
  | bool
  | datetime
  | keywordList
  deriving DecidableEq

namespace AttributeType

def all : List AttributeType := [text, keyword, int, double, bool, datetime, keywordList]

/-- The name in specs. -/
def name : AttributeType → String
  | text => "Text"
  | keyword => "Keyword"
  | int => "Int"
  | double => "Double"
  | bool => "Bool"
  | datetime => "Datetime"
  | keywordList => "KeywordList"

/-- The name on servers. -/
def wireName : AttributeType → String
  | text => "INDEXED_VALUE_TYPE_TEXT"
  | keyword => "INDEXED_VALUE_TYPE_KEYWORD"
  | int => "INDEXED_VALUE_TYPE_INT"
  | double => "INDEXED_VALUE_TYPE_DOUBLE"
  | bool => "INDEXED_VALUE_TYPE_BOOL"
  | datetime => "INDEXED_VALUE_TYPE_DATETIME"
  | keywordList => "INDEXED_VALUE_TYPE_KEYWORD_LIST"

/-- A text with the ASCII capitals made small. -/
def folded (text : String) : List Char := text.toList.map Char.toLower

/-- The type with a name; ASCII case does not matter. -/
def ofName? (text : String) : Option AttributeType :=
  all.find? fun type => folded type.name = folded text

/-- The type with a name on servers. -/
def ofWireName? (text : String) : Option AttributeType :=
  all.find? fun type => type.wireName = text

theorem mem_all (type : AttributeType) : type ∈ all := by cases type <;> decide

end AttributeType

end ClusterOperator

import DirectoryAccess.Filter
/-!
# The written form of filters

What a directory server is sent.  A filter is written in parentheses, its operator in front of its members; a condition
is written as attribute, relation and value, with asterisks for the runs between pieces.  Attributes are written as they
are; in values, asterisks, parentheses, backslashes and nulls are written as a backslash and two digits.

There are relations for "at least" and "at most" only.  So "above" is written as "at least, and not equal", and "below"
as "at most, and not equal".
-/
namespace DirectoryAccess

def escapeFilterChar (c : Char) : List Char :=
  if c = '\\' then ['\\', '5', 'c']
  else if c = '*' then ['\\', '2', 'a']
  else if c = '(' then ['\\', '2', '8']
  else if c = ')' then ['\\', '2', '9']
  else if c.toNat = 0 then ['\\', '0', '0']
  else [c]

def escapeFilterChars (cs : List Char) : List Char := cs.flatMap escapeFilterChar

def escapeFilterValue (s : String) : String := String.ofList (escapeFilterChars s.toList)

namespace Filter

/-- A text inside parentheses. -/
def wrap (cs : List Char) : List Char := '(' :: (cs ++ [')'])

/-- One condition: attribute, relation, value. -/
def relation (attr : String) (sign value : List Char) : List Char := wrap (attr.toList ++ sign ++ value)

def testChars (t : Test) (attr : String) (value : List Char) : List Char :=
  match t with
  | .equals => relation attr ['='] value
  | .contains => relation attr ['='] ('*' :: (value ++ ['*']))
  | .startsWith => relation attr ['='] (value ++ ['*'])
  | .endsWith => relation attr ['='] ('*' :: value)
  | .atLeast => relation attr ['>', '='] value
  | .atMost => relation attr ['<', '='] value
  | .above => wrap ('&' :: (relation attr ['>', '='] value ++ wrap ('!' :: relation attr ['='] value)))
  | .below => wrap ('&' :: (relation attr ['<', '='] value ++ wrap ('!' :: relation attr ['='] value)))

def optionalChars (piece : Option String) : List Char :=
  match piece with
  | some s => escapeFilterChars s.toList
  | none => []

def middleChars (pieces : List String) : List Char := pieces.flatMap (fun s => escapeFilterChars s.toList ++ ['*'])

mutual

def chars : Filter → List Char
  | .test t attr value => testChars t attr (escapeFilterChars value.toList)
  | .substring attr initial middle final =>
    relation attr ['='] (optionalChars initial ++ '*' :: (middleChars middle ++ optionalChars final))
  | .present attr => relation attr ['='] ['*']
  | .all fs => wrap ('&' :: charsOfAll fs)
  | .any fs => wrap ('|' :: charsOfAll fs)
  | .not f => wrap ('!' :: chars f)

def charsOfAll : List Filter → List Char
  | [] => []
  | f :: fs => chars f ++ charsOfAll fs

end

def text (f : Filter) : String := String.ofList f.chars

end Filter
end DirectoryAccess

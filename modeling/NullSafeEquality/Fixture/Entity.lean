/-!
Entities in the descriptions of expected warnings. The five entities are decoded one kind after
another over the whole text, the ampersand last, so that a decoded character is never part of
another entity.
-/

namespace NullSafeEquality.Fixture

/-- Put a text in the place of each occurrence of another, from the left. So many characters are
passed over first. -/
def replaceFrom (pattern replacement : List Char) : Nat → List Char → List Char
  | _, [] => []
  | skip + 1, _ :: rest => replaceFrom pattern replacement skip rest
  | 0, c :: rest =>
      if pattern.isPrefixOf (c :: rest) then
        replacement ++ replaceFrom pattern replacement (pattern.length - 1) rest
      else c :: replaceFrom pattern replacement 0 rest

/-- The entities with their characters, in the order in which they are decoded. -/
def entities : List (List Char × Char) :=
  [("&quot;".toList, '"'), ("&apos;".toList, '\''), ("&lt;".toList, '<'), ("&gt;".toList, '>'),
   ("&amp;".toList, '&')]

def unescapeChars (cs : List Char) : List Char :=
  entities.foldl (fun cs (entity, c) => replaceFrom entity [c] 0 cs) cs

def unescape (s : String) : String := String.ofList (unescapeChars s.toList)

end NullSafeEquality.Fixture

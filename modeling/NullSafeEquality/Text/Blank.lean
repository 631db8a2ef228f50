/-!
Blank characters, as the property White_Space lists them, and texts cut at them.
-/

namespace NullSafeEquality.Text

def isBlank (c : Char) : Bool :=
  let n := c.toNat
  (9 ≤ n && n ≤ 13) || n = 0x20 || n = 0x85 || n = 0xa0 || n = 0x1680 ||
  (0x2000 ≤ n && n ≤ 0x200a) || n = 0x2028 || n = 0x2029 || n = 0x202f || n = 0x205f || n = 0x3000

/-- Put one blank for each run of blanks inside a text and none at its ends. The flag says whether
blanks were passed since the last character that was kept. -/
def collapseFrom (started pending : Bool) : List Char → List Char
  | [] => []
  | c :: rest =>
      if isBlank c then collapseFrom started true rest
      else if started && pending then ' ' :: c :: collapseFrom true false rest
      else c :: collapseFrom true false rest

/-- A text with each run of blanks as one blank, and none at its ends. -/
def collapse (s : String) : String := String.ofList (collapseFrom false false s.toList)

def isAllBlank (s : String) : Bool := s.toList.all isBlank

end NullSafeEquality.Text

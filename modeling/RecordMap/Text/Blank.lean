/-!
# White space

`isBlank` is the Unicode `White_Space` property: the ASCII tab, line feed, vertical tab,
form feed, carriage return and space, next line, no-break space, ogham space mark, the spaces
from en quad to hair space, the line and paragraph separators, narrow no-break space, medium
mathematical space and ideographic space. Text read from a user or a column is trimmed of
exactly these characters.
-/

namespace RecordMap.Text

/-- The Unicode `White_Space` property. -/
def isBlank (c : Char) : Bool :=
  let n := c.toNat
  (0x09 ≤ n && n ≤ 0x0D) || n == 0x20 || n == 0x85 || n == 0xA0 || n == 0x1680 ||
    (0x2000 ≤ n && n ≤ 0x200A) || n == 0x2028 || n == 0x2029 || n == 0x202F ||
    n == 0x205F || n == 0x3000

/-- The characters after the leading white space. -/
def dropBlank (cs : List Char) : List Char := cs.dropWhile isBlank

/-- Text without white space at either end. -/
def trimBlank (s : String) : String :=
  String.ofList (dropBlank (dropBlank s.toList).reverse).reverse

end RecordMap.Text

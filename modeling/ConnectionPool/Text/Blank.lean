/-!
Contract: white space.

Owns: `isSpace`, the characters that separate words or lines in any script, and `isBlankText`.

Does not own: the blanks of a file format, which are fewer.
-/

namespace ConnectionPool.Text

def isSpace (char : Char) : Bool :=
  let code := char.toNat
  (9 ≤ code && code ≤ 13) || code = 32 || code = 0x85 || code = 0xa0 || code = 0x1680 ||
    (0x2000 ≤ code && code ≤ 0x200a) || code = 0x2028 || code = 0x2029 || code = 0x202f ||
    code = 0x205f || code = 0x3000

def isBlankText (text : String) : Bool :=
  text.toList.all isSpace

end ConnectionPool.Text

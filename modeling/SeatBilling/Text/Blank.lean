/-!
# Blank characters

The characters of the Unicode `White_Space` property: the controls tab to carriage return,
the space, the next-line control, the no-break space, the Ogham space mark, the spaces
U+2000 to U+200A, the line and paragraph separators, the narrow no-break space, the medium
mathematical space and the ideographic space. Trimming a text removes them at both ends.
-/

namespace SeatBilling.Text

/-- Whether a character has the Unicode `White_Space` property. -/
def isBlank (char : Char) : Bool :=
  let code := char.toNat
  (9 ≤ code && code ≤ 13) || code == 32 || code == 0x85 || code == 0xA0 || code == 0x1680 ||
    (0x2000 ≤ code && code ≤ 0x200A) || code == 0x2028 || code == 0x2029 || code == 0x202F ||
    code == 0x205F || code == 0x3000

/-- A text without the blank characters at its ends. -/
def trimBlank (text : String) : String :=
  String.ofList ((text.toList.dropWhile isBlank).reverse.dropWhile isBlank).reverse

end SeatBilling.Text

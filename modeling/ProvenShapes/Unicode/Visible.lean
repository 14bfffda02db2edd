/-
**Characters in descriptions and names.**

Descriptions show characters that can be seen, and names are made of letters and numbers.  Both
follow an edition of the standard that is one year younger than the one of the other tables, so the
characters which that edition added are listed here.

Main definitions:

* `Unicode.unseen` — characters without a visible form of their own;
* `Unicode.isVisible` — characters that a description shows as they are;
* `Unicode.isLetter`, `Unicode.isNumeral` — characters of names.
-/

import ProvenShapes.Unicode.Property

set_option autoImplicit false

namespace ProvenShapes.Unicode

/-- The visible characters of the youngest edition. -/
def youngVisible : String :=
  "88F C5C CDC 20C1 2B96 A7CE-A7CF A7D2 A7D4 A7F1 FBC3-FBD2 FD90-FD91 FDC8-FDCE 10940-10959
  10EC5-10EC7 10ED0-10ED8 11B61 11B65 11B67 11DB0-11DDB 11DE0-11DE9 16EA0-16EB8 16EBB-16ED3
  16FF2-16FF6 187F8-187FF 18D09-18D1E 18D80-18DF2 1CCFA-1CCFC 1CEBA-1CED0 1CEE0-1CEF0 1E6C0-1E6DE
  1E6E0-1E6E2 1E6E4-1E6E5 1E6E7-1E6ED 1E6F0-1E6F4 1E6FE-1E6FF 1F6D8 1F777-1F77A 1F8D0-1F8D8
  1FA54-1FA57 1FA8A 1FA8E 1FAC8 1FACD 1FAEA 1FAEF 1FBFA 2B73A-2B73F 2CEA2-2CEAD 323B0-33479"

/-- The alphabetic characters of the youngest edition. -/
def youngAlphabetic : String :=
  "88F C5C CDC A7CE-A7CF A7D2 A7D4 A7F1 10940-10959 10EC5-10EC7 10EFA-10EFB 11B60-11B67 11DB0-11DDB
  16EA0-16EB8 16EBB-16ED3 16FF2-16FF6 187F8-187FF 18D09-18D1E 18D80-18DF2 1E6C0-1E6DE 1E6E0-1E6F5
  1E6FE-1E6FF 2B73A-2B73F 2CEA2-2CEAD 323B0-33479"

/-- The numbers of the youngest edition. -/
def youngNumeric : String := "11DE0-11DE9 16FF4-16FF6"

/-- Characters without a visible form of their own: controls, formats, separators but the plain
space, unassigned and private ones, fillers, and marks that attach to the character before them.  The
two half-width marks of Katakana can be seen. -/
def unseen : CharClass :=
  Listing.chars
    { names := []
      categories := ["Cc", "Cf", "Cs", "Co", "Cn", "Zl", "Zp", "Zs", "Mn", "Me"]
      more := otherGraphemeExtend ++ " 115F-1160 3164 FFA0"
      less := youngVisible ++ " 20 FF9E-FF9F" }

/-- A description shows the character as it is. -/
def isVisible (c : Char) : Bool := !unseen.contains c

/-- Letters of names. -/
def nameLetters : CharClass := alphabetic ++ rangesOfText youngAlphabetic

/-- The character is a letter of names. -/
def isLetter (c : Char) : Bool := nameLetters.contains c

/-- Numbers of names. -/
def nameNumerals : CharClass := categoryClass ["Nd", "Nl", "No"] ++ rangesOfText youngNumeric

/-- The character is a number of names. -/
def isNumeral (c : Char) : Bool := nameNumerals.contains c

end ProvenShapes.Unicode

namespace ComponentCompiler
namespace Text

/-!
# Blank characters

Names are cut into words at blanks, dashes and underscores.  The blanks are
those of the character standard together with the four information
separators.  Zero-width characters are not blank.
-/

/-- Whether the character is white space. -/
def isBlank (character : Char) : Bool :=
  let code := character.toNat
  (0x09 ≤ code && code ≤ 0x0D) || (0x1C ≤ code && code ≤ 0x20) || code == 0x85 ||
    code == 0xA0 || code == 0x1680 || (0x2000 ≤ code && code ≤ 0x200A) ||
    code == 0x2028 || code == 0x2029 || code == 0x202F || code == 0x205F || code == 0x3000

/-- The characters between leading and trailing ones that pass a test. -/
def between (isEdge : Char → Bool) (characters : List Char) : List Char :=
  ((characters.dropWhile isEdge).reverse.dropWhile isEdge).reverse

/-- The characters between leading and trailing blanks. -/
def trim (characters : List Char) : List Char :=
  between isBlank characters

/-- Whether a character around a number is passed over.  The four information
separators are not. -/
def isPadding (character : Char) : Bool :=
  isBlank character && !(0x1C ≤ character.toNat && character.toNat ≤ 0x1F)

/-- The characters between the leading and the trailing padding. -/
def unpadded (characters : List Char) : List Char :=
  between isPadding characters

end Text
end ComponentCompiler

/-!
# Control characters

The characters of the Unicode general category `Cc`: the two blocks of 32 control
codes and the delete character between them.
-/

namespace GatedResolver.Text

/-- The characters of the Unicode general category `Cc`. -/
def isControl (character : Char) : Bool :=
  character.toNat < 0x20 || (0x7F ≤ character.toNat && character.toNat ≤ 0x9F)

end GatedResolver.Text

import GatedResolver.Binary64.Shortest

/-!
# Floating point numbers in documents

The layout of the digits of a floating point number, which documents and complaints about
documents share.
-/

namespace GatedResolver.Json

/-- Floating point numbers have no exponent while their leading digit stands between five
places behind and sixteen places before the point. Of two equally near decimals the even
one is written. -/
def numberLayout : Binary64.DecimalLayout :=
  ⟨fun leading => -5 ≤ leading && leading ≤ 15, .toEven⟩

/-- The text of a floating point number. -/
def floatText (number : Binary64) : String :=
  String.ofList (Binary64.textIn numberLayout number)

end GatedResolver.Json

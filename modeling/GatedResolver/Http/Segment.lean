import GatedResolver.Http.Percent
import GatedResolver.Text.Utf8

/-!
# Segments of paths

A resource may be named by the last segment of its path. Escapes in a segment are decoded
when it is used, and the bytes have to be UTF-8.
-/

namespace GatedResolver.Http

/-- The segment of a path that is all there is behind a beginning. It has no slash in it
and is not empty. -/
def segmentBehind? (beginning path : String) : Option String :=
  if beginning.toList.isPrefixOf path.toList then
    let segment := path.toList.drop beginning.length
    if segment.isEmpty || segment.contains '/' then none else some (String.ofList segment)
  else none

/-- The text that a segment stands for. -/
def segmentText? (segment : String) : Option String :=
  Text.decodeUtf8? (Percent.decode (Text.utf8 segment))

end GatedResolver.Http

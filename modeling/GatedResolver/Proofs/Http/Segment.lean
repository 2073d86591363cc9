import GatedResolver.Http.Segment
import GatedResolver.Proofs.Http.Form

/-!
# What segments stand for

A text without slashes is the segment behind a beginning that it is appended to. If it is ASCII
and has no percent signs, it stands for itself. Any text has a segment that stands for it: the one
with all its bytes escaped.
-/

namespace GatedResolver.Http

/-- What is behind a beginning is a segment, unless it is empty or has a slash in it. -/
theorem segmentBehind?_append (beginning segment : String) :
    segmentBehind? beginning (beginning ++ segment) =
      if segment.isEmpty || segment.toList.contains '/' then none else some segment := by
  have begins : beginning.toList.isPrefixOf (beginning ++ segment).toList = true := by
    simp [List.isPrefixOf_iff_prefix]
  have rest : (beginning ++ segment).toList.drop beginning.length = segment.toList := by
    rw [String.toList_append, ← String.length_toList, List.drop_left]
  have empty : segment.toList.isEmpty = segment.isEmpty := by
    rw [Bool.eq_iff_iff]
    simp
  simp only [segmentBehind?, if_pos begins, rest, empty, String.ofList_toList]

/-- Bytes without percent signs stand for themselves. -/
theorem decodeOnto_of_noEscape (done : Bytes) {bytes : Bytes} (noEscape : 0x25 ∉ bytes) :
    Percent.decodeOnto done bytes = done.reverse ++ bytes := by
  induction bytes generalizing done with
  | nil => simp [Percent.decodeOnto]
  | cons octet rest inductionHypothesis =>
    obtain ⟨first, others⟩ := List.ne_and_not_mem_of_not_mem_cons noEscape
    rw [Form.decodeOnto_cons done first.symm, inductionHypothesis _ others]
    simp

/-- A segment of ASCII without percent signs stands for itself. -/
theorem segmentText?_of_noEscape {segment : String}
    (plain : ∀ character ∈ segment.toList, character.toNat < 0x80 ∧ character ≠ '%') :
    segmentText? segment = some segment := by
  have ascii := Text.utf8_ofList_ascii fun character member => (plain character member).1
  rw [String.ofList_toList] at ascii
  have noEscape : 0x25 ∉ Text.utf8 segment := by
    rw [ascii, List.mem_map]
    rintro ⟨character, member, same⟩
    obtain ⟨small, noPercent⟩ := plain character member
    have code := congrArg UInt8.toNat same
    rw [Text.byte, Text.toNat_ofNat_of_lt (Nat.lt_trans small (by decide))] at code
    exact noPercent (Char.toNat_inj.mp code)
  rw [segmentText?, Percent.decode, decodeOnto_of_noEscape [] noEscape, List.reverse_nil,
    List.nil_append, Text.decodeUtf8?_utf8]

/-- A segment of a path that stands for a text. -/
structure Names (segment text : String) : Prop where
  present : segment.isEmpty = false
  single : '/' ∉ segment.toList
  text : segmentText? segment = some text

/-- The segment with all bytes of a text escaped. -/
def escapedSegment (text : String) : String :=
  String.ofList ((Text.utf8 text).flatMap Percent.escape)

/-- An escape consists of ASCII, and has no slash in it. -/
theorem plain_of_mem_escape {octet : UInt8} {character : Char}
    (belongs : character ∈ Percent.escape octet) : character.toNat < 0x80 ∧ character ≠ '/' := by
  have all : ∀ value : Fin 16, (Percent.upperHexDigit value).toNat < 0x80 ∧
      Percent.upperHexDigit value ≠ '/' := by decide
  have bound := octet.toNat_lt
  simp only [Percent.escape, List.mem_cons, List.not_mem_nil, or_false] at belongs
  rcases belongs with rfl | rfl | rfl
  · decide
  · exact all ⟨octet.toNat / 16, by omega⟩
  · exact all ⟨octet.toNat % 16, by omega⟩

/-- Escaped bytes stand for themselves. -/
theorem decodeOnto_escaped (done bytes : Bytes) :
    Percent.decodeOnto done ((bytes.flatMap Percent.escape).map Text.byte) =
      done.reverse ++ bytes := by
  induction bytes generalizing done with
  | nil => simp [Percent.decodeOnto]
  | cons octet rest inductionHypothesis =>
    rw [List.flatMap_cons, List.map_append, Form.decodeOnto_escape, inductionHypothesis]
    simp

/-- A text that is not empty is what its escaped segment stands for. -/
theorem names_escapedSegment {text : String} (present : text.isEmpty = false) :
    Names (escapedSegment text) text := by
  have plain : ∀ character ∈ (Text.utf8 text).flatMap Percent.escape,
      character.toNat < 0x80 ∧ character ≠ '/' := by
    intro character belongs
    obtain ⟨octet, -, inside⟩ := List.mem_flatMap.mp belongs
    exact plain_of_mem_escape inside
  refine ⟨?_, ?_, ?_⟩
  · have bytes : Text.utf8 text ≠ [] := by
      intro none
      have size := Text.length_utf8 text
      rw [none, List.length_nil, eq_comm, String.utf8ByteSize_eq_zero_iff] at size
      rw [size] at present
      cases present
    obtain ⟨octet, rest, parts⟩ := List.exists_cons_of_ne_nil bytes
    simp [escapedSegment, parts, Percent.escape]
  · rw [escapedSegment, String.toList_ofList]
    exact fun slash => (plain '/' slash).2 rfl
  · rw [segmentText?, escapedSegment,
      Text.utf8_ofList_ascii fun character belongs => (plain character belongs).1, Percent.decode,
      decodeOnto_escaped, List.reverse_nil, List.nil_append, Text.decodeUtf8?_utf8]

end GatedResolver.Http

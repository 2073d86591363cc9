import GatedResolver.Proofs.Settings.Environment
import GatedResolver.Proofs.Text.Trimming

/-!
# The members of the quorum in a text

The members of the quorum may be given as a text: items between commas, with blanks around them, and
with parts between them that are blank. What such a text lists is said without the reader
(`Enumerates`): it is cut at its commas, and the parts that are not blank give the items, in their
order. The reader finds exactly these (`memberList_eq_iff`). It reads texts with a comma between
them one after the other, so a list of items that is joined with commas comes back as it was.
-/

namespace GatedResolver

/-- An item of a list: a text that is not empty, has no comma in it, and no blank at either of its
ends. -/
structure IsItem (item : String) : Prop where
  present : item ≠ ""
  apart : ',' ∉ item.toList
  trimmed : Text.IsTrimmed item.toList

/-- The items that parts give, one after the other: none if the part is blank, and else the item
that it is with blanks around. -/
inductive Yields : List String → List String → Prop
  | none : Yields [] []
  | blank {part : String} {parts items : List String} :
      Text.isBlankText part = true → Yields parts items → Yields (part :: parts) items
  | item {front item back : String} {parts items : List String} :
      Text.isBlankText front = true → Text.isBlankText back = true → IsItem item →
      Yields parts items → Yields ((front ++ item ++ back) :: parts) (item :: items)

/-- A text enumerates items: its parts between commas give them. Neither blanks nor items have a
comma in them, so the text is cut at each of its commas. -/
def Enumerates (text : String) (items : List String) : Prop :=
  ∃ parts, ",".intercalate parts = text ∧ Yields parts items

section Parts

variable {part : String}

/-- A blank text has no comma in it. -/
theorem comma_notMem_of_isBlankText (blank : Text.isBlankText part = true) : ',' ∉ part.toList := by
  intro comma
  have isBlank : Text.isBlank ',' = true := List.all_eq_true.mp blank ',' comma
  exact absurd isBlank (by decide)

/-- A text without a comma is a single part. -/
theorem memberList_of_notMem (apart : ',' ∉ part.toList) :
    memberList part = [Text.trim part].filter fun item => !item.isEmpty := by
  rw [memberList, Text.split_of_notMem apart, List.map_singleton, Text.trim]

/-- A blank part gives no item. -/
theorem memberList_of_isBlankText (blank : Text.isBlankText part = true) :
    memberList part = [] := by
  rw [memberList_of_notMem (comma_notMem_of_isBlankText blank), Text.trim_eq_empty_iff.mpr blank]
  rfl

/-- A part that is an item with blanks around it gives this item. -/
theorem memberList_of_isItem {front item back : String} (blankFront : Text.isBlankText front = true)
    (blankBack : Text.isBlankText back = true) (isItem : IsItem item) :
    memberList (front ++ item ++ back) = [item] := by
  have apart : ',' ∉ (front ++ item ++ back).toList := by
    simp [comma_notMem_of_isBlankText blankFront, comma_notMem_of_isBlankText blankBack,
      isItem.apart]
  rw [memberList_of_notMem apart, Text.trim_append blankFront blankBack isItem.trimmed,
    List.filter_cons_of_pos (by simpa using isItem.present), List.filter_nil]

/-- A part that is not blank is an item with blanks around it. -/
theorem exists_isItem (apart : ',' ∉ part.toList) (solid : Text.isBlankText part ≠ true) :
    ∃ front item back, Text.isBlankText front = true ∧ Text.isBlankText back = true ∧
      IsItem item ∧ part = front ++ item ++ back := by
  obtain ⟨trimmed, front, back, blankFront, blankBack, whole⟩ :=
    Text.trim_eq_iff.mp (Eq.refl (Text.trim part))
  have inside : ',' ∉ (Text.trim part).toList := by
    intro comma
    apply apart
    rw [whole]
    simp [comma]
  exact ⟨front, Text.trim part, back, blankFront, blankBack,
    ⟨fun nothing => solid (Text.trim_eq_empty_iff.mp nothing), inside, trimmed⟩, whole⟩

/-- A part gives what is read from it. -/
theorem Yields.of_part {parts items : List String} (apart : ',' ∉ part.toList)
    (rest : Yields parts items) : Yields (part :: parts) (memberList part ++ items) := by
  by_cases blank : Text.isBlankText part = true
  · rw [memberList_of_isBlankText blank]
    exact .blank blank rest
  · obtain ⟨front, item, back, blankFront, blankBack, isItem, rfl⟩ := exists_isItem apart blank
    rw [memberList_of_isItem blankFront blankBack isItem]
    exact .item blankFront blankBack isItem rest

end Parts

/-- The items of a text come before those of another one behind a comma. -/
theorem memberList_append (front back : String) :
    memberList (front ++ "," ++ back) = memberList front ++ memberList back := by
  have comma : ",".toList = [','] := rfl
  rw [memberList, String.toList_append, String.toList_append, comma, List.append_assoc,
    List.singleton_append, Text.split_append, List.map_append, List.filter_append]
  rfl

/-- The items of texts with commas between them are those of the texts, one after the other. -/
theorem memberList_intercalate (texts : List String) :
    memberList (",".intercalate texts) = texts.flatMap memberList := by
  induction texts with
  | nil => rfl
  | cons text rest inductionHypothesis =>
    cases rest with
    | nil => simp
    | cons next others =>
      rw [String.intercalate_cons_cons, memberList_append, inductionHypothesis, ← List.flatMap_cons]

/-- What parts give is what is read from them. -/
theorem Yields.flatMap_eq {parts items : List String} (yields : Yields parts items) :
    parts.flatMap memberList = items := by
  induction yields with
  | none => rfl
  | blank isBlank _ inductionHypothesis =>
    rw [List.flatMap_cons, memberList_of_isBlankText isBlank, inductionHypothesis, List.nil_append]
  | item blankFront blankBack isItem _ inductionHypothesis =>
    rw [List.flatMap_cons, memberList_of_isItem blankFront blankBack isItem, inductionHypothesis,
      List.singleton_append]

/-- Parts without commas give what is read from them. -/
theorem yields_flatMap {parts : List String} (apart : ∀ part ∈ parts, ',' ∉ part.toList) :
    Yields parts (parts.flatMap memberList) := by
  induction parts with
  | nil => exact .none
  | cons part rest inductionHypothesis =>
    rw [List.flatMap_cons]
    exact .of_part (apart part List.mem_cons_self)
      (inductionHypothesis fun other later => apart other (List.mem_cons_of_mem _ later))

/-- What parts give are items. -/
theorem Yields.isItem {parts items : List String} (yields : Yields parts items) :
    ∀ item ∈ items, IsItem item := by
  induction yields with
  | none => simp
  | blank _ _ inductionHypothesis => exact inductionHypothesis
  | item _ _ isItem _ inductionHypothesis =>
    exact List.forall_mem_cons.mpr ⟨isItem, inductionHypothesis⟩

/-- Every text is cut at its commas. -/
theorem exists_parts (text : String) :
    ∃ parts, ",".intercalate parts = text ∧ ∀ part ∈ parts, ',' ∉ part.toList := by
  refine ⟨(Text.split ',' text.toList).map String.ofList, ?_, fun part isPart => ?_⟩
  · have comma : ",".toList = [','] := rfl
    apply String.toList_injective
    rw [String.toList_intercalate, comma, List.map_map]
    simpa [Function.comp_def] using Text.intercalate_split ',' text.toList
  · obtain ⟨characters, cut, rfl⟩ := List.mem_map.mp isPart
    rw [String.toList_ofList]
    exact Text.notMem_of_mem_split cut

/-- What is read from a text is what it enumerates. -/
theorem memberList_eq_iff {text : String} {items : List String} :
    memberList text = items ↔ Enumerates text items := by
  constructor
  · rintro rfl
    obtain ⟨parts, whole, apart⟩ := exists_parts text
    refine ⟨parts, whole, ?_⟩
    rw [← whole, memberList_intercalate]
    exact yields_flatMap apart
  · rintro ⟨parts, rfl, yields⟩
    rw [memberList_intercalate, yields.flatMap_eq]

/-- Only items are read from a text. -/
theorem isItem_of_mem_memberList {text item : String} (member : item ∈ memberList text) :
    IsItem item := by
  obtain ⟨_, _, yields⟩ := memberList_eq_iff.mp (Eq.refl (memberList text))
  exact yields.isItem item member

/-- Items are their own parts. -/
theorem Yields.refl {items : List String} (areItems : ∀ item ∈ items, IsItem item) :
    Yields items items := by
  induction items with
  | nil => exact .none
  | cons item rest inductionHypothesis =>
    obtain ⟨isItem, others⟩ := List.forall_mem_cons.mp areItems
    have yields : Yields (("" ++ item ++ "") :: rest) (item :: rest) :=
      .item rfl rfl isItem (inductionHypothesis others)
    simpa using yields

/-- A list comes back from its items with commas between them exactly if they are items. -/
theorem memberList_intercalate_eq_iff {items : List String} :
    memberList (",".intercalate items) = items ↔ ∀ item ∈ items, IsItem item := by
  constructor
  · intro same item member
    rw [← same] at member
    exact isItem_of_mem_memberList member
  · intro areItems
    exact memberList_eq_iff.mpr ⟨items, rfl, .refl areItems⟩

/-- The members that the environment gives the quorum are those that its text enumerates. -/
theorem Settings.enumerates_members (settings : Settings) {environment : Environment}
    {text : String} (listed : .members ∈ Setting.faultless environment)
    (said : Setting.members.given? environment = some text) :
    Enumerates text (settings.withEnvironment environment).1.quorum.members :=
  memberList_eq_iff.mp (means_get_withEnvironment settings environment listed said).symm

/-- From every text items are read, and they are those that it enumerates: what stands between its
commas, in this order, without the blanks around it and without what is blank. A list comes back
from its items with commas between them exactly if these are items; so what is read from a text
comes back when it is joined and read again. The items of two texts with a comma between them are
those of the first one and then those of the second one. -/
theorem memberList_lists_items :
    (∀ text, ∀ item ∈ memberList text, IsItem item) ∧
    (∀ text items, memberList text = items ↔ Enumerates text items) ∧
    (∀ items, memberList (",".intercalate items) = items ↔ ∀ item ∈ items, IsItem item) ∧
    (∀ text, memberList (",".intercalate (memberList text)) = memberList text) ∧
    ∀ front back, memberList (front ++ "," ++ back) = memberList front ++ memberList back :=
  ⟨fun _ _ => isItem_of_mem_memberList, fun _ _ => memberList_eq_iff,
    fun _ => memberList_intercalate_eq_iff,
    fun _ => memberList_intercalate_eq_iff.mpr fun _ => isItem_of_mem_memberList,
    memberList_append⟩

/-- Three items are read from a text with blanks of several kinds around them, a part that is empty
and one that is blank; joined with commas they are read again. -/
theorem memberList_lists_items_spaced :
    memberList " cloudflare ,,\u3000google dns\u00a0, ,quad9\n" =
      ["cloudflare", "google dns", "quad9"] ∧
    (∀ item ∈ ["cloudflare", "google dns", "quad9"], IsItem item) ∧
    Enumerates " cloudflare ,,\u3000google dns\u00a0, ,quad9\n"
      ["cloudflare", "google dns", "quad9"] ∧
    memberList "cloudflare,google dns,quad9" = ["cloudflare", "google dns", "quad9"] := by
  have read : memberList " cloudflare ,,\u3000google dns\u00a0, ,quad9\n" =
      ["cloudflare", "google dns", "quad9"] := by decide +kernel
  obtain ⟨areItems, enumerated, joined, -, -⟩ := memberList_lists_items
  have items : ∀ item ∈ ["cloudflare", "google dns", "quad9"], IsItem item := by
    rw [← read]
    exact areItems _
  exact ⟨read, items, (enumerated _ _).mp read, (joined _).mpr items⟩

end GatedResolver

import GatedResolver.Proofs.Http.Form
import GatedResolver.Proofs.Success
import GatedResolver.Remote.Exchange
import Mathlib.Data.List.Basic
import Mathlib.Data.List.TakeWhile

/-!
# Targets with a name

An address without a query stays the address of the same path when a pair is put behind it, and
the pair is its query then. So a path can be asked about any name that is not too long.
-/

namespace GatedResolver.Http.Target

/-- Characters with a query behind them, and in front of a fragment. -/
def withQuery (query characters : List Char) : List Char :=
  characters.takeWhile (· ≠ '#') ++ '?' :: query ++ characters.dropWhile (· ≠ '#')

/-- What is in front of the fragment goes on behind characters that begin none. -/
theorem takeWhile_append_of_noFragment {front : List Char} (noFragment : '#' ∉ front)
    (back : List Char) :
    (front ++ back).takeWhile (· ≠ '#') = front ++ back.takeWhile (· ≠ '#') ∧
      (front ++ back).dropWhile (· ≠ '#') = back.dropWhile (· ≠ '#') := by
  have all : ∀ character ∈ front, decide (character ≠ '#') = true := by
    intro character belongs
    rw [decide_eq_true_eq]
    rintro rfl
    exact noFragment belongs
  exact ⟨List.takeWhile_append_of_pos all, List.dropWhile_append_of_pos all⟩

/-- A query is put behind what has no fragment in it. -/
theorem withQuery_append (query : List Char) {front : List Char} (noFragment : '#' ∉ front)
    (back : List Char) : withQuery query (front ++ back) = front ++ withQuery query back := by
  obtain ⟨shown, fragment⟩ := takeWhile_append_of_noFragment noFragment back
  simp only [withQuery, shown, fragment, List.append_assoc]

/-- What is shown of characters has no fragment in it, and what follows it is empty or begins
the fragment. -/
theorem takeWhile_shown (characters : List Char) {middle : List Char} (noFragment : '#' ∉ middle) :
    (characters.takeWhile (· ≠ '#') ++ middle ++ characters.dropWhile (· ≠ '#')).takeWhile
        (· ≠ '#') = characters.takeWhile (· ≠ '#') ++ middle := by
  have all : ∀ character ∈ characters.takeWhile (· ≠ '#') ++ middle,
      decide (character ≠ '#') = true := by
    intro character belongs
    rcases List.mem_append.mp belongs with shown | inside
    · have other := List.mem_takeWhile_imp shown
      exact other
    · rw [decide_eq_true_eq]
      rintro rfl
      exact noFragment inside
  rw [List.takeWhile_append_of_pos all]
  have ends := List.head_dropWhile_not (fun character => decide (character ≠ '#')) (l := characters)
  cases rest : characters.dropWhile (· ≠ '#') with
  | nil => rw [List.takeWhile_nil, List.append_nil]
  | cons head tail =>
    have stops : decide (head ≠ '#') = false := by
      have found := ends (by rw [rest]; exact List.cons_ne_nil head tail)
      simpa only [rest, List.head_cons] using found
    rw [List.takeWhile_cons, if_neg (by rw [stops]; exact Bool.false_ne_true), List.append_nil]

/-- Where no query is, what is shown is the path. -/
theorem ofRelative_ok {characters : List Char} {path : String}
    (accepted : ofRelative characters = .ok ⟨path, none⟩) :
    '?' ∉ characters.takeWhile (· ≠ '#') ∧
      (characters.takeWhile (· ≠ '#')).all isPathChar = true ∧
      path = if (characters.takeWhile (· ≠ '#')).isEmpty then "/"
        else String.ofList (characters.takeWhile (· ≠ '#')) := by
  unfold ofRelative at accepted
  simp only at accepted
  split at accepted
  · next fine =>
    simp only [Except.ok.injEq, Target.mk.injEq] at accepted
    obtain ⟨named, noQuery⟩ := accepted
    have whole : (characters.takeWhile (· ≠ '#')).takeWhile (· ≠ '?') =
        characters.takeWhile (· ≠ '#') := by
      refine (List.takeWhile_prefix _).eq_of_length_le ?_
      split at noQuery
      · cases noQuery
      · omega
    rw [whole] at named fine
    refine ⟨fun belongs => ?_, (Bool.and_eq_true_iff.mp fine).1, named.symm⟩
    rw [← whole] at belongs
    have wrong := List.mem_takeWhile_imp belongs
    cases wrong
  · cases accepted

/-- A query behind a path is taken as the query. -/
theorem ofRelative_withQuery {characters query : List Char} {path : String}
    (accepted : ofRelative characters = .ok ⟨path, none⟩) (noFragment : '#' ∉ query)
    (valid : query.all isQueryChar = true) :
    ofRelative (withQuery query characters) = .ok ⟨path, some (String.ofList query)⟩ := by
  obtain ⟨noQuery, pathChars, named⟩ := ofRelative_ok accepted
  have shown : (withQuery query characters).takeWhile (· ≠ '#') =
      characters.takeWhile (· ≠ '#') ++ '?' :: query := by
    have absent : '#' ∉ '?' :: query := by
      intro belongs
      rcases List.mem_cons.mp belongs with wrong | inside
      · cases wrong
      · exact noFragment inside
    exact takeWhile_shown characters absent
  have beforeQuery : ∀ character ∈ characters.takeWhile (· ≠ '#'),
      decide (character ≠ '?') = true := by
    intro character belongs
    rw [decide_eq_true_eq]
    rintro rfl
    exact noQuery belongs
  have pathCut : (characters.takeWhile (· ≠ '#') ++ '?' :: query).takeWhile (· ≠ '?') =
      characters.takeWhile (· ≠ '#') := by
    rw [List.takeWhile_append_of_pos beforeQuery]
    simp
  have queryCut : ((characters.takeWhile (· ≠ '#') ++ '?' :: query).dropWhile (· ≠ '?')).drop 1 =
      query := by
    rw [List.dropWhile_append_of_pos beforeQuery]
    simp
  unfold ofRelative
  simp only [shown, pathCut, queryCut, pathChars, valid, Bool.and_self, ↓reduceIte]
  rw [named]
  exact congrArg (fun query => Except.ok (Target.mk _ query))
    (if_pos (by rw [List.length_append, List.length_cons]; omega))

/-- An authority is split off by what it consists of, whatever stands behind it. -/
theorem splitAuthority_ok {characters authority rest : List Char}
    (splits : splitAuthority characters = .ok (authority, rest)) :
    authority = characters.takeWhile (fun character => !isAuthorityEnd character) ∧
      characters = authority ++ rest ∧
      ∀ other, (authority ++ other).takeWhile (fun character => !isAuthorityEnd character) =
          authority → splitAuthority (authority ++ other) = .ok (authority, other) := by
  unfold splitAuthority at splits
  obtain ⟨met, folded, last⟩ := ok_of_bind splits
  split at last
  · next whole =>
    simp only [pure, Except.pure, Except.ok.injEq, Prod.mk.injEq] at last
    obtain ⟨named, left⟩ := last
    subst named left
    refine ⟨rfl, ?_, fun other same => ?_⟩
    · exact (List.prefix_iff_eq_append.mp (List.takeWhile_prefix _)).symm
    · unfold splitAuthority
      simp only [same, folded, bind, Except.bind, whole, if_true, List.drop_left]
      rfl
  · cases last

/-- Characters with a query begin like an end of an authority if they begin so, or not at all,
without it. -/
theorem withQuery_ends (query : List Char) {characters : List Char}
    (ends : ∀ head ∈ characters.head?, isAuthorityEnd head = true) :
    ∃ head tail, withQuery query characters = head :: tail ∧ isAuthorityEnd head = true := by
  cases characters with
  | nil => exact ⟨'?', query, by simp [withQuery], by decide⟩
  | cons head tail =>
    by_cases fragment : head = '#'
    · exact ⟨'?', query ++ head :: tail, by simp [withQuery, fragment], by decide⟩
    · exact ⟨head, _, by simp [withQuery, fragment]; rfl, ends head rfl⟩

/-- What is split off in front of a rest that begins with an end is the whole front. -/
theorem takeWhile_authority {authority rest : List Char}
    (inside : ∀ character ∈ authority, isAuthorityEnd character = false)
    (ends : ∃ head tail, rest = head :: tail ∧ isAuthorityEnd head = true) :
    (authority ++ rest).takeWhile (fun character => !isAuthorityEnd character) = authority := by
  obtain ⟨head, tail, rfl, stops⟩ := ends
  rw [List.takeWhile_append_of_pos fun character belongs => by simp [inside character belongs]]
  simp [stops]

/-- A target with an authority has one that is not empty, and a target behind it. -/
theorem ofAuthority_ok {characters : List Char} {target : Target}
    (accepted : ofAuthority characters = .ok target) :
    ∃ authority rest, splitAuthority characters = .ok (authority, rest) ∧
      authority.isEmpty = false ∧ ofRelative rest = .ok target := by
  unfold ofAuthority at accepted
  dsimp only at accepted
  split at accepted
  · cases accepted
  · obtain ⟨⟨authority, rest⟩, split, named⟩ := ok_of_bind accepted
    dsimp only at named
    split at named
    · cases named
    · next present => exact ⟨authority, rest, split, Bool.eq_false_iff.mpr present, named⟩

/-- What is split off as an authority consists of its characters, and an end follows it. -/
theorem splitAuthority_parts {characters authority rest : List Char}
    (splits : splitAuthority characters = .ok (authority, rest)) :
    (∀ character ∈ authority, isAuthorityEnd character = false) ∧
      ∀ head ∈ rest.head?, isAuthorityEnd head = true := by
  obtain ⟨cut, whole, -⟩ := splitAuthority_ok splits
  have inside : ∀ character ∈ authority, isAuthorityEnd character = false := by
    intro character belongs
    rw [cut] at belongs
    have other := List.mem_takeWhile_imp belongs
    simpa using other
  refine ⟨inside, fun head first => ?_⟩
  cases rest with
  | nil => cases first
  | cons other tail =>
    cases first
    by_contra inner
    rw [whole, List.takeWhile_append_of_pos fun character belongs => by
      simp [inside character belongs]] at cut
    simp [inner] at cut

/-- A query behind an authority and a path is taken as the query. -/
theorem ofAuthority_withQuery {characters query : List Char} {path : String}
    (accepted : ofAuthority characters = .ok ⟨path, none⟩) (noFragment : '#' ∉ query)
    (valid : query.all isQueryChar = true) :
    ofAuthority (withQuery query characters) = .ok ⟨path, some (String.ofList query)⟩ := by
  obtain ⟨authority, rest, splits, present, relative⟩ := ofAuthority_ok accepted
  obtain ⟨-, whole, again⟩ := splitAuthority_ok splits
  obtain ⟨inside, ends⟩ := splitAuthority_parts splits
  have noHash : '#' ∉ authority := fun belongs => by
    have wrong := inside '#' belongs
    cases wrong
  have written : withQuery query characters = authority ++ withQuery query rest := by
    rw [whole, withQuery_append query noHash]
  have splitAgain := again _ (takeWhile_authority inside (withQuery_ends query ends))
  have notEmpty : (authority ++ withQuery query rest).isEmpty = false := by
    obtain ⟨head, tail, form, -⟩ := withQuery_ends query ends
    simp [form]
  rw [written]
  unfold ofAuthority
  simp only [notEmpty, Bool.false_eq_true, ↓reduceIte, splitAgain, present, bind, Except.bind]
  exact ofRelative_withQuery relative noFragment valid

/-- What stands behind a scheme begins behind the scheme and three more characters. -/
theorem behindScheme?_ok {characters rest : List Char}
    (found : behindScheme? characters = some rest) :
    characters = characters.takeWhile isSchemeChar ++ ':' :: '/' :: '/' :: rest ∧
      characters.length ≠ 3 := by
  have whole := List.takeWhile_append_dropWhile (p := isSchemeChar) (l := characters)
  unfold behindScheme? at found
  split at found
  · cases found
  · next notThree dropped =>
    cases found
    rw [dropped] at whole
    refine ⟨whole.symm, fun three => ?_⟩
    obtain ⟨first, second, third, rfl⟩ := List.length_eq_three.mp three
    exact notThree first second third rfl
  · cases found

/-- Characters with a query have the same scheme, and the query stands behind it. -/
theorem behindScheme?_withQuery {characters rest : List Char}
    (found : behindScheme? characters = some rest) (query : List Char) :
    behindScheme? (withQuery query characters) = some (withQuery query rest) ∧
      (withQuery query characters).takeWhile isSchemeChar = characters.takeWhile isSchemeChar ∧
      withQuery query characters =
        characters.takeWhile isSchemeChar ++ ':' :: '/' :: '/' :: withQuery query rest := by
  obtain ⟨whole, notThree⟩ := behindScheme?_ok found
  have scheme : ∀ character ∈ characters.takeWhile isSchemeChar, isSchemeChar character = true := by
    intro character belongs
    exact List.mem_takeWhile_imp belongs
  have noHash : '#' ∉ characters.takeWhile isSchemeChar ++ [':', '/', '/'] := by
    intro belongs
    rcases List.mem_append.mp belongs with inside | sign
    · have wrong := scheme '#' inside
      cases wrong
    · simp at sign
  have written : withQuery query characters =
      characters.takeWhile isSchemeChar ++ ':' :: '/' :: '/' :: withQuery query rest := by
    have placed := withQuery_append query noHash rest
    rw [List.append_assoc, List.append_assoc] at placed
    exact (congrArg (withQuery query) whole).trans placed
  have cut : (withQuery query characters).dropWhile isSchemeChar =
      ':' :: '/' :: '/' :: withQuery query rest := by
    rw [written, List.dropWhile_append_of_pos scheme]
    rfl
  refine ⟨?_, ?_, written⟩
  · unfold behindScheme?
    split
    · next three =>
      have length := congrArg List.length (written.symm.trans three)
      have behind : (withQuery query rest).length ≠ 0 := by simp [withQuery]
      simp only [List.length_append, List.length_cons, List.length_nil] at length
      omega
    · next again _ =>
      rw [cut] at again
      cases again
      rfl
    · next other =>
      exact absurd cut (other _)
  · rw [written, List.takeWhile_append_of_pos scheme]
    exact List.append_nil _

/-- An address of a path is a path itself, or has a scheme and an authority in front of it. -/
theorem ofText_ok {text path : String} (accepted : ofText text = .ok ⟨path, none⟩)
    (located : path ≠ "*" ∧ path ≠ "") :
    (∃ rest, text.toList = '/' :: rest ∧ ofRelative ('/' :: rest) = .ok ⟨path, none⟩) ∨
      ∃ rest, (∀ tail, text.toList ≠ '/' :: tail) ∧ behindScheme? text.toList = some rest ∧
        ¬ schemeLimit < (text.toList.takeWhile isSchemeChar).length ∧
        ofAuthority rest = .ok ⟨path, none⟩ := by
  unfold ofText at accepted
  split at accepted
  · cases accepted
  · split at accepted
    · cases accepted
    · cases accepted
      exact absurd rfl located.1
    · next rest form => exact .inl ⟨rest, form, accepted⟩
    · next notSlash =>
      split at accepted
      · next rest found =>
        split at accepted
        · cases accepted
        · next short => exact .inr ⟨rest, notSlash, found, short, accepted⟩
      · unfold ofAuthorityAlone at accepted
        obtain ⟨⟨authority, rest⟩, -, alone⟩ := ok_of_bind accepted
        dsimp only at alone
        split at alone
        · cases alone
          exact absurd rfl located.2
        · cases alone

/-- An address without a query stays the address of the same path when a query is put behind it,
as long as it does not get too long. -/
theorem ofText_withQuery {text path : String} {query : List Char}
    (accepted : ofText text = .ok ⟨path, none⟩) (located : path ≠ "*" ∧ path ≠ "")
    (fits : (String.ofList (withQuery query text.toList)).utf8ByteSize ≤ sizeLimit)
    (noFragment : '#' ∉ query) (valid : query.all isQueryChar = true) :
    ofText (String.ofList (withQuery query text.toList)) =
      .ok ⟨path, some (String.ofList query)⟩ := by
  rcases ofText_ok accepted located with
    ⟨rest, form, relative⟩ | ⟨rest, notSlash, found, short, authority⟩
  · have placed := ofRelative_withQuery relative noFragment valid
    rw [ofText, if_neg (Nat.not_lt.mpr fits), String.toList_ofList, form]
    exact placed
  · have placed := ofAuthority_withQuery authority noFragment valid
    obtain ⟨whole, -⟩ := behindScheme?_ok found
    obtain ⟨foundAgain, sameScheme, written⟩ := behindScheme?_withQuery found query
    rw [ofText, if_neg (Nat.not_lt.mpr fits), String.toList_ofList]
    split
    · next empty => simp [written] at empty
    · next star =>
      have length := congrArg List.length (written.symm.trans star)
      simp only [List.length_append, List.length_cons, List.length_nil] at length
      omega
    · next tail slash =>
      rw [written] at slash
      cases scheme : text.toList.takeWhile isSchemeChar with
      | nil =>
        rw [scheme] at slash
        cases slash
      | cons first others =>
        rw [scheme] at slash whole
        obtain ⟨rfl, -⟩ := List.cons.inj slash
        exact absurd whole (notSlash _)
    · simp only [foundAgain, sameScheme, if_neg short]
      exact placed

/-- An address without a query has no sign of one in front of its fragment. -/
theorem noQuery_of_ofText {text path : String} (accepted : ofText text = .ok ⟨path, none⟩)
    (located : path ≠ "*" ∧ path ≠ "") : '?' ∉ text.toList.takeWhile (· ≠ '#') := by
  rcases ofText_ok accepted located with
    ⟨rest, form, relative⟩ | ⟨rest, -, found, -, authorized⟩
  · rw [form]
    exact (ofRelative_ok relative).1
  · obtain ⟨whole, -⟩ := behindScheme?_ok found
    obtain ⟨authority, behind, splits, -, relative⟩ := ofAuthority_ok authorized
    obtain ⟨-, parts, -⟩ := splitAuthority_ok splits
    obtain ⟨inside, -⟩ := splitAuthority_parts splits
    have front : ∀ character ∈ text.toList.takeWhile isSchemeChar ++ [':', '/', '/'] ++ authority,
        character ≠ '#' ∧ character ≠ '?' := by
      intro character belongs
      have ends : isSchemeChar character = true ∨ character ∈ [':', '/', '/'] ∨
          isAuthorityEnd character = false := by
        rcases List.mem_append.mp belongs with before | named
        · rcases List.mem_append.mp before with scheme | sign
          · have inScheme := List.mem_takeWhile_imp scheme
            exact .inl inScheme
          · exact .inr (.inl sign)
        · exact .inr (.inr (inside character named))
      constructor
      · rintro rfl
        rcases ends with wrong | wrong | wrong
        · cases wrong
        · simp at wrong
        · cases wrong
      · rintro rfl
        rcases ends with wrong | wrong | wrong
        · cases wrong
        · simp at wrong
        · cases wrong
    have form : text.toList =
        text.toList.takeWhile isSchemeChar ++ [':', '/', '/'] ++ authority ++ behind := by
      rw [parts] at whole
      rw [List.append_assoc, List.append_assoc]
      exact whole
    rw [form, (takeWhile_append_of_noFragment (fun belongs => (front _ belongs).1 rfl) behind).1]
    intro belongs
    rcases List.mem_append.mp belongs with before | shown
    · exact (front '?' before).2 rfl
    · exact (ofRelative_ok relative).1 shown

/-- The characters of an encoded pair can stand in a query. -/
theorem isQueryChar_encode (pair : String × String) :
    '#' ∉ (Form.encode [pair]).toList ∧ (Form.encode [pair]).toList.all isQueryChar = true := by
  have valid : ∀ character ∈ (Form.encode [pair]).toList, isQueryChar character = true := by
    intro character belongs
    rw [Form.toList_encode] at belongs
    rcases Form.isEncoded_of_mem_encodePair belongs with encoded | rfl
    · have ascii : character.toNat < 128 := by
        simp only [Form.isEncoded, Bool.and_eq_true, decide_eq_true_eq] at encoded
        exact encoded.1
      have shown : Form.isEncoded character = true → isQueryChar character = true :=
        Text.forall_ascii (by decide) ascii
      exact shown encoded
    · decide
  refine ⟨fun belongs => ?_, List.all_eq_true.mpr valid⟩
  have wrong := valid '#' belongs
  cases wrong

/-- A pair behind an address without a query is its query. -/
theorem withPair_eq {url path : String} (accepted : ofText url = .ok ⟨path, none⟩)
    (located : path ≠ "*" ∧ path ≠ "") (pair : String × String) :
    Remote.withPair url pair =
      String.ofList (withQuery (Form.encode [pair]).toList url.toList) := by
  have noQuery := noQuery_of_ofText accepted located
  have absent : (url.toList.takeWhile (· ≠ '#')).contains '?' = false := by
    simpa using noQuery
  simp only [Remote.withPair, absent, Bool.false_eq_true, ↓reduceIte, withQuery]
  simp

/-- An address without a query stays the address of the same path when a name is put behind it,
as long as it does not get too long. -/
theorem ofText_withName {url path : String} (accepted : ofText url = .ok ⟨path, none⟩)
    (located : path ≠ "*" ∧ path ≠ "") {name : String}
    (fits : (Remote.withName url name).utf8ByteSize ≤ sizeLimit) :
    ofText (Remote.withName url name) = .ok ⟨path, some (Form.encode [("name", name)])⟩ := by
  obtain ⟨noFragment, valid⟩ := isQueryChar_encode ("name", name)
  rw [Remote.withName, withPair_eq accepted located] at fits ⊢
  rw [ofText_withQuery accepted located fits noFragment valid, String.ofList_toList]

end GatedResolver.Http.Target

namespace GatedResolver.Http

/-- A request for a path with a name in its query string can be made if the name is not too long,
and says that name. -/
theorem ofTexts_get (path : String) {name : String} (accepted : Target.ofText path = .ok ⟨path, none⟩)
    (located : path ≠ "*" ∧ path ≠ "") (bare : '#' ∉ path.toList)
    (fits : path.utf8ByteSize + 3 * name.utf8ByteSize + 14 ≤ Target.sizeLimit) :
    Request.ofTexts "GET" (path ++ "?" ++ Form.encode [("name", name)]) none [] =
      .ok ⟨.get, ⟨path, some (Form.encode [("name", name)])⟩, []⟩ := by
  obtain ⟨noFragment, valid⟩ := Target.isQueryChar_encode ("name", name)
  have written : String.ofList (Target.withQuery (Form.encode [("name", name)]).toList path.toList) =
      path ++ "?" ++ Form.encode [("name", name)] := by
    have behind := Target.withQuery_append (Form.encode [("name", name)]).toList bare []
    rw [List.append_nil] at behind
    rw [behind, ← String.toList_inj]
    simp [Target.withQuery]
  have size := Form.utf8ByteSize_encode_le ("name", name)
  have short : (path ++ "?" ++ Form.encode [("name", name)]).utf8ByteSize ≤ Target.sizeLimit := by
    rw [String.utf8ByteSize_append, String.utf8ByteSize_append]
    have sign : "?".utf8ByteSize = 1 := rfl
    have key : "name".utf8ByteSize = 4 := rfl
    simp only [key] at size
    omega
  have target := Target.ofText_withQuery accepted located (written ▸ short) noFragment valid
  rw [written, String.ofList_toList] at target
  have method : Method.ofName? "GET" = some .get := rfl
  simp only [Request.ofTexts, method, target]
  rfl

end GatedResolver.Http

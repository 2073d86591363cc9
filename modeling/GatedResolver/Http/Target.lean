/-!
# Request targets

A target says which resource a request is for. It is a path with an optional query, or an
absolute address with a scheme and an authority in front of them, or an authority alone.
Only the path and the query are kept; a fragment is cut off. Escapes are left as they are.
-/

namespace GatedResolver.Http

/-- The resource that a request is for. -/
structure Target where
  path : String
  query : Option String
deriving DecidableEq

/-- Why a text is no target. -/
inductive TargetFault where
  | tooLong
  /-- There is nothing, be it at all or behind a scheme. -/
  | empty
  | schemeTooLong
  /-- A character stands where it may not. -/
  | character
  /-- The parts of the authority do not fit together. -/
  | authority
  /-- There is a path without a scheme or a scheme without an authority. -/
  | form
deriving DecidableEq

/-- A fault of a target in words. -/
def TargetFault.message : TargetFault → String
  | .tooLong => "uri too long"
  | .empty => "empty string"
  | .schemeTooLong => "scheme too long"
  | .character => "invalid uri character"
  | .authority => "invalid authority"
  | .form => "invalid format"

namespace Target

/-- The longest target, in bytes. -/
def sizeLimit : Nat := 65534

/-- The longest scheme. -/
def schemeLimit : Nat := 64

/-- The most colons that may stand together in an authority. -/
def colonLimit : Nat := 8

/-- Letters and digits of ASCII. -/
def isWordChar (character : Char) : Bool :=
  character.isAlpha || character.isDigit

/-- Characters of a scheme. -/
def isSchemeChar (character : Char) : Bool :=
  isWordChar character || ['+', '-', '.', '~'].contains character

/-- Characters that end an authority. -/
def isAuthorityEnd (character : Char) : Bool :=
  ['/', '?', '#'].contains character

/-- Characters of an authority that have no meaning of their own in it. -/
def isAuthorityChar (character : Char) : Bool :=
  isWordChar character ||
    ['!', '$', '&', '\'', '(', ')', '*', '+', ',', '-', '.', ';', '=', '_', '~'].contains character

/-- Characters that are visible, and those beyond ASCII. -/
def isVisible (character : Char) : Bool :=
  0x20 < character.toNat && character.toNat ≠ 0x7F

/-- Characters of a path: what is visible, except for those that end the path and three
more. -/
def isPathChar (character : Char) : Bool :=
  isVisible character && !(['#', '?', '<', '>', '\x60'].contains character)

/-- Characters of a query: what is visible, except for the one that ends the query and
three more. -/
def isQueryChar (character : Char) : Bool :=
  isVisible character && !(['#', '"', '<', '>'].contains character)

/-- What was met of an authority so far: colons and escapes since the latest part that may
have them, brackets, and whether an at sign came last. -/
structure Authority where
  colons : Nat := 0
  opened : Bool := false
  closed : Bool := false
  escaped : Bool := false
  afterAt : Bool := false
deriving DecidableEq

/-- Read one character of an authority. The part before an at sign and the part between
brackets may have several colons, and the former may have escapes. -/
def Authority.take (authority : Authority) (character : Char) :
    Except TargetFault Authority :=
  let next := { authority with afterAt := false }
  match character with
  | ':' =>
    if authority.colons < colonLimit then .ok { next with colons := authority.colons + 1 }
    else .error .authority
  | '[' =>
    if authority.escaped || authority.opened then .error .authority
    else .ok { next with opened := true }
  | ']' =>
    if authority.opened && !authority.closed then
      .ok { next with closed := true, colons := 0, escaped := false }
    else .error .authority
  | '@' => .ok { next with colons := 0, escaped := false, afterAt := true }
  | '%' => .ok { next with escaped := true }
  | other => if isAuthorityChar other then .ok next else .error .character

/-- Whether what was read can be a whole authority. -/
def Authority.isWhole (authority : Authority) : Bool :=
  authority.opened == authority.closed && authority.colons ≤ 1 && !authority.afterAt &&
    !authority.escaped

/-- Split an authority, be it an empty one, from what stands behind it. -/
def splitAuthority (characters : List Char) : Except TargetFault (List Char × List Char) := do
  let content := characters.takeWhile fun character => !isAuthorityEnd character
  let authority ← content.foldlM Authority.take {}
  if authority.isWhole then return (content, characters.drop content.length)
  else throw .authority

/-- What stands behind a scheme and the three characters after it. These three alone have
no scheme. -/
def behindScheme? (characters : List Char) : Option (List Char) :=
  match characters, characters.dropWhile isSchemeChar with
  | [_, _, _], _ => none
  | _, ':' :: '/' :: '/' :: rest => some rest
  | _, _ => none

/-- The target of a path, which may be empty, and a query behind it. -/
def ofRelative (characters : List Char) : Except TargetFault Target :=
  let shown := characters.takeWhile (· ≠ '#')
  let path := shown.takeWhile (· ≠ '?')
  let query := (shown.dropWhile (· ≠ '?')).drop 1
  if path.all isPathChar && query.all isQueryChar then
    .ok ⟨if path.isEmpty then "/" else String.ofList path,
      if path.length < shown.length then some (String.ofList query) else none⟩
  else .error .character

/-- The target of an authority, which may not be empty here, and what stands behind it. -/
def ofAuthority (characters : List Char) : Except TargetFault Target := do
  if characters.isEmpty then throw .empty
  let (authority, rest) ← splitAuthority characters
  if authority.isEmpty then throw .form
  ofRelative rest

/-- The target of an authority alone. A single character that ends an authority is a wrong
character, and a longer rest a wrong form. -/
def ofAuthorityAlone (characters : List Char) : Except TargetFault Target := do
  let (_, rest) ← splitAuthority characters
  if rest.isEmpty then return ⟨"", none⟩
  else throw (if characters.length = 1 then .character else .form)

/-- The target that a text stands for. -/
def ofText (text : String) : Except TargetFault Target :=
  if sizeLimit < text.utf8ByteSize then .error .tooLong
  else
    match text.toList with
    | [] => .error .empty
    | ['*'] => .ok ⟨"*", none⟩
    | '/' :: rest => ofRelative ('/' :: rest)
    | characters =>
      match behindScheme? characters with
      | some rest =>
        if schemeLimit < (characters.takeWhile isSchemeChar).length then .error .schemeTooLong
        else ofAuthority rest
      | none => ofAuthorityAlone characters

end Target

end GatedResolver.Http

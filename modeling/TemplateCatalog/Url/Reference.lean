import TemplateCatalog.Url.Host

/-!
# References

A reference is a URL, or the end of one that goes on from where it is found. Only what can make a
reference fail is kept of a URL: its scheme, and whether it has a path to go on from.

Main statements:

* `resolve_fragment`: a reference to a place within leads back to where it is found.
-/

namespace TemplateCatalog.Url

/-- How what follows a scheme is read. -/
inductive SchemeKind where
  /-- Files. -/
  | file
  /-- Hosts of a network. -/
  | network
  /-- Anything else. -/
  | other
  deriving DecidableEq, Repr

/-- The kind of a scheme. -/
def SchemeKind.ofName (name : String) : SchemeKind :=
  if name = "file" then .file
  else if ["http", "https", "ws", "wss", "ftp"].contains name then .network
  else .other

/-- A URL that references are found at. -/
structure Base where
  /-- The scheme. -/
  scheme : String
  /-- References can go on from its path. -/
  hasPath : Bool
  deriving DecidableEq, Repr

/-- The kind of the scheme. -/
def Base.kind (base : Base) : SchemeKind :=
  .ofName base.scheme

/-- The character separates the parts of a path, in one of the two ways to write that. -/
def isSlash (c : Char) : Bool :=
  c == '/' || c == '\\'

/-- The character ends the authority of a URL of the given kind. -/
def endsAuthority (kind : SchemeKind) (c : Char) : Bool :=
  c == '/' || c == '?' || c == '#' || (kind != .other && c == '\\')

/-- The scheme that a text starts with, and what follows its colon. -/
def scheme? (cs : List Char) : Option (String × List Char) :=
  let inScheme (c : Char) : Bool := c.isAlphanum || c == '+' || c == '-' || c == '.'
  match cs.dropWhile inScheme with
  | ':' :: rest =>
    if cs.head?.any Char.isAlpha then
      some (String.ofList ((cs.takeWhile inScheme).map Char.toLower), rest)
    else none
  | _ => none

/-- The text before the last occurrence of a character, if there is one, and the text behind it. -/
def splitLast (mark : Char) (cs : List Char) : Option (List Char) × List Char :=
  let behind := (cs.reverse.takeWhile (· ≠ mark)).reverse
  if behind.length = cs.length then (none, cs)
  else (some (cs.take (cs.length - behind.length - 1)), behind)

/-- The host at the start of a text, up to a colon outside of brackets, and what follows it. -/
def splitHost (bracketed : Bool) : List Char → List Char × List Char
  | [] => ([], [])
  | c :: rest =>
    if c = ':' ∧ !bracketed then ([], c :: rest)
    else
      let found := splitHost (if c = '[' then true else if c = ']' then false else bracketed) rest
      (c :: found.1, found.2)

/-- Check what follows a host: nothing, or a colon and a port. -/
def checkPort : List Char → Except Fault Unit
  | ':' :: port =>
    let digits := port.takeWhile Char.isDigit
    if !(Text.digits? 10 digits).all (· < twoTo 16) then .error .port
    else if (port.dropWhile Char.isDigit).head?.any (!isSlash ·) then .error .port
    else .ok ()
  | _ => .ok ()

/-- Check the authority of a URL: a user behind an at sign, a host and a port. -/
def checkAuthority (kind : SchemeKind) (cs : List Char) : Except Fault Unit := do
  let authority := cs.takeWhile (!endsAuthority kind ·)
  let more := (cs.dropWhile (!endsAuthority kind ·)).isEmpty
  let (user, rest) := splitLast '@' authority
  if user = some [] && rest.isEmpty && !more then throw .emptyHost
  let (host, rest) := splitHost false rest
  if kind = .other then
    checkOpaque host
    let named := user.any fun user => user ≠ [] && user ≠ [':']
    if host.isEmpty && (rest.head? = some ':' || named) then throw .emptyHost
  else if host.isEmpty then throw .emptyHost
  else checkDomain host
  checkPort rest

/-- The text is the letter of a drive. -/
def isDrive : List Char → Bool
  | [letter, mark] => letter.isAlpha && (mark == ':' || mark == '|')
  | _ => false

/-- Check what follows the scheme of a file. -/
def checkFile (cs : List Char) : Except Fault Unit :=
  match cs with
  | a :: b :: rest =>
    if isSlash a && isSlash b then
      let host := rest.takeWhile (!endsAuthority .file ·)
      if host.isEmpty || isDrive host then .ok () else checkDomain host
    else .ok ()
  | _ => .ok ()

/-- A path begins behind the authority of a URL. Hosts of a network always have one. -/
def hasPathBehind (kind : SchemeKind) (cs : List Char) : Bool :=
  kind != .other || (cs.dropWhile (!endsAuthority kind ·)).head? == some '/'

/-- The URL with the given scheme and an authority that the text starts with. -/
def Base.ofAuthority (scheme : String) (cs : List Char) : Except Fault Base :=
  let kind := SchemeKind.ofName scheme
  (checkAuthority kind cs).map fun _ => ⟨scheme, hasPathBehind kind cs⟩

/-- The URL that a reference without a scheme leads to from a URL with a path. -/
def Base.relative (base : Base) (cs : List Char) : Except Fault Base :=
  if 2 ≤ (cs.takeWhile isSlash).length then
    Base.ofAuthority base.scheme
      (if "//".toList.isPrefixOf cs then cs.drop 2 else cs.dropWhile isSlash)
  else .ok base

/-- The characters of a reference that count: none that steer, nor blanks at either end. -/
def significant (text : String) : List Char :=
  let isEdge (c : Char) : Bool := c.toNat ≤ 0x20
  let cs := ((text.toList.dropWhile isEdge).reverse.dropWhile isEdge).reverse
  cs.filter fun c => c ≠ '\t' && c ≠ '\n' && c ≠ '\r'

/-- The URL that a reference leads to. -/
def Base.resolve (base : Base) (reference : String) : Except Fault Base :=
  let cs := significant reference
  match scheme? cs with
  | some (scheme, rest) =>
    match SchemeKind.ofName scheme with
    | .file => (checkFile rest).map fun _ => ⟨scheme, true⟩
    | .network =>
      if (rest.takeWhile isSlash).length < 2 && base.scheme = scheme then base.relative rest
      else Base.ofAuthority scheme (rest.dropWhile isSlash)
    | .other =>
      match rest with
      | '/' :: '/' :: rest => Base.ofAuthority scheme rest
      | rest => .ok ⟨scheme, rest.head? == some '/'⟩
  | none =>
    if cs.head? = some '#' then .ok base
    else if !base.hasPath then .error .noPath
    else if base.kind = .file then (checkFile cs).map fun _ => base
    else base.relative cs

/-- A reference to a place within leads back to where it is found. -/
theorem resolve_fragment {base : Base} {reference : String} {cs : List Char}
    (fragment : significant reference = '#' :: cs) : base.resolve reference = .ok base := by
  have noScheme : scheme? ('#' :: cs) = none := by
    simp only [scheme?, List.dropWhile_cons]
    rfl
  simp [Base.resolve, fragment, noScheme]

end TemplateCatalog.Url

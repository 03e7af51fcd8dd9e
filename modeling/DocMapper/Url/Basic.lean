import DocMapper.Url.Host
/-!
Addresses of resources, as the web reads them. Blanks around an address and line breaks in
it do not count. What follows a number sign is the fragment, what follows a question mark
the query; a path is cut at slashes, segments of one dot are dropped, and segments of two
dots take the segment before them away. Whatever may not stand where it stands is
percent-encoded, while a percent sign stays as it is.
-/

namespace DocMapper

inductive UrlPath where
  /-- No path at all, but a text that nobody looks into. -/
  | opaqueText (text : String)
  | segments (names : List String)
deriving DecidableEq, Repr

structure Url where
  scheme : String
  username : String
  password : Option String
  host : Option String
  port : Option Nat
  path : UrlPath
  query : Option String
  fragment : Option String
deriving DecidableEq, Repr

namespace Url

/-- The schemes of the web, with the ports they mean where none is given. -/
def specialSchemes : List (String × Option Nat) :=
  [("http", some 80), ("https", some 443), ("ws", some 80), ("wss", some 443), ("ftp", some 21), ("file", none)]

def isSpecialScheme (scheme : String) : Bool :=
  (specialSchemes.lookup scheme).isSome

def defaultPort? (scheme : String) : Option Nat :=
  (specialSchemes.lookup scheme).join

/-! ## Paths -/

def isHere (segment : List Char) : Bool :=
  -- A segment of one dot, which may be encoded.
  let lowered := segment.map Char.toLower
  lowered = ['.'] || lowered = ['%', '2', 'e']

def isUp (segment : List Char) : Bool :=
  -- A segment of two dots, each of which may be encoded.
  let lowered := segment.map Char.toLower
  lowered = ['.', '.'] || lowered = ['.', '%', '2', 'e'] || lowered = ['%', '2', 'e', '.'] ||
    lowered = ['%', '2', 'e', '%', '2', 'e']

def encodeSegment (segment : List Char) : String :=
  String.ofList (Percent.encode Percent.inPath segment)

/-- Adds segments to a path that is in reverse. Dots at the end leave an empty segment. -/
def follow : List String → List (List Char) → List String
  | path, [] => path
  | path, [last] =>
      if isUp last then "" :: path.tail
      else if isHere last then "" :: path
      else encodeSegment last :: path
  | path, segment :: next :: rest =>
      if isUp segment then follow path.tail (next :: rest)
      else if isHere segment then follow path (next :: rest)
      else follow (encodeSegment segment :: path) (next :: rest)

def isSlash (special : Bool) (c : Char) : Bool :=
  c = '/' || (special && c = '\\')

/-- A path as its pieces between slashes. -/
def cutPath (special : Bool) (path : List Char) : List (List Char) :=
  Text.pieces '/' (path.map fun c => if isSlash special c then '/' else c)

/-- The segments of a path that starts with a slash or is empty. -/
def segmentsOf (special : Bool) : List Char → List String
  | [] => if special then [""] else []
  | first :: rest =>
      (follow [] (cutPath special (if isSlash special first then rest else first :: rest))).reverse

/-! ## Authorities -/

structure Authority where
  username : String
  password : Option String
  host : String
  port : Option Nat

/-- What stands before and after the last of a character. -/
def cutAtLast? (c : Char) (text : List Char) : Option (List Char × List Char) :=
  (Text.cutAt? c text.reverse).map fun (after, before) => (before.reverse, after.reverse)

/-- A host, and the port after the first colon that stands in no brackets. -/
def cutPort (inBrackets : Bool) : List Char → List Char × Option (List Char)
  | [] => ([], none)
  | c :: rest =>
      if c = ':' && !inBrackets then ([], some rest)
      else
        let (host, port) := cutPort (if c = '[' then true else if c = ']' then false else inBrackets) rest
        (c :: host, port)

def port? (scheme : String) (digits : List Char) : Option (Option Nat) :=
  -- A port is not written down where the scheme means it anyway.
  if !digits.all Char.isDigit then none
  else if digits.isEmpty then some none
  else
    let n := digits.foldl (fun n c => 10 * n + (c.toNat - '0'.toNat)) 0
    if n < 65536 then some (if some n = defaultPort? scheme then none else some n) else none

def userinfo (text : List Char) : String :=
  String.ofList (Percent.encode Percent.inUserinfo text)

def authority? (scheme : String) (text : List Char) : Option Authority := do
  let (credentials, address) := match cutAtLast? '@' text with
    | some (credentials, address) => (some credentials, address)
    | none => (none, text)
  let (username, password) := match credentials with
    | none => ([], none)
    | some credentials =>
        match Text.cutAt? ':' credentials with
        | some (username, password) => (username, some password)
        | none => (credentials, none)
  let (host, port) := cutPort false address
  if host.isEmpty && (credentials.isSome || port.isSome) then none
  let host ← if isSpecialScheme scheme then Host.parse? host else Host.opaque? host
  let port ← port? scheme (port.getD [])
  return ⟨userinfo username, (password.filter fun p => !p.isEmpty).map userinfo, host, port⟩

/-! ## Reading -/

def isSchemeChar (c : Char) : Bool :=
  c.isAlphanum || c = '+' || c = '-' || c = '.'

def scheme? (text : List Char) : Option (String × List Char) :=
  match Text.cutAt? ':' text with
  | some (scheme, rest) =>
      if (scheme.head?.map Char.isAlpha).getD false && scheme.all isSchemeChar then
        some (String.ofList (scheme.map Char.toLower), rest)
      else none
  | none => none

/-- An address without blanks around it, and without the breaks that do not count. -/
def cleaned (text : List Char) : List Char :=
  let blank (c : Char) : Bool := c.toNat ≤ 0x20
  let trimmed := ((text.dropWhile blank).reverse.dropWhile blank).reverse
  trimmed.filter fun c => c ≠ '\t' && c ≠ '\n' && c ≠ '\r'

/-- A text up to the first of a character, and what follows if there is one. -/
def cutOff (c : Char) (text : List Char) : List Char × Option (List Char) :=
  match Text.cutAt? c text with
  | some (before, after) => (before, some after)
  | none => (text, none)

/-- The part of an address between its scheme and its query. -/
def located? (scheme : String) (text : List Char) : Option (Option Authority × UrlPath) :=
  let special := isSpecialScheme scheme
  let hosted (rest : List Char) : Option (Option Authority × UrlPath) :=
    let (name, path) := (rest.takeWhile fun c => !isSlash special c, rest.dropWhile fun c => !isSlash special c)
    if name.isEmpty && (!special || scheme = "file") then
      some (some ⟨"", none, "", none⟩, .segments (segmentsOf special path))
    else (authority? scheme name).map fun a => (some a, .segments (segmentsOf special path))
  if scheme = "file" then
    match text with
    | a :: b :: rest =>
        if isSlash true a && isSlash true b then hosted rest else hosted ('/' :: text)
    | _ => hosted ('/' :: text)
  else if special then hosted (text.dropWhile (isSlash true))
  else match text with
    | '/' :: '/' :: rest => hosted rest
    | '/' :: _ => some (none, .segments (segmentsOf false text))
    | _ => some (none, .opaqueText (String.ofList (Percent.encode Percent.controls text)))

def parse? (text : String) : Option Url := do
  let (scheme, rest) ← scheme? (cleaned text.toList)
  let (rest, fragment) := cutOff '#' rest
  let (rest, query) := cutOff '?' rest
  let (authority, path) ← located? scheme rest
  let querySet := if isSpecialScheme scheme then Percent.inSpecialQuery else Percent.inQuery
  return {
    scheme
    username := (authority.map Authority.username).getD ""
    password := authority.bind Authority.password
    host := authority.map Authority.host
    port := authority.bind Authority.port
    path
    query := query.map fun q => String.ofList (Percent.encode querySet q)
    fragment := fragment.map fun f => String.ofList (Percent.encode Percent.inFragment f) }

/-! ## Using an address -/

def withPairs (url : Url) (pairs : List (String × String)) : Url :=
  -- Adds pairs to the query. An address that gets none has an empty query all the same.
  let written := pairs.map fun (name, value) =>
    String.ofList (Percent.formText name.toList ++ '=' :: Percent.formText value.toList)
  let before := (url.query.filter fun q => q ≠ "").toList
  { url with query := some (String.intercalate "&" (before ++ written)) }

def pathText (url : Url) : String :=
  match url.path with
  | .opaqueText text => text
  | .segments names => String.join (names.map fun name => "/" ++ name)

/-- What a request for an address asks its host for. -/
def target (url : Url) : String :=
  (if url.pathText = "" then "/" else url.pathText) ++
    match url.query with
    | some query => "?" ++ query
    | none => ""

end Url

end DocMapper

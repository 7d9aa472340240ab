import RdfStore.Url.Path

/-!
# Absolute URLs and their normal form

Reads a URL by the rules of the URL standard, without a base. `normalize` is the text of the
URL that was read: scheme and domain in lower case, the default port of the scheme left out, dot
segments resolved, and unsafe characters percent-encoded.
-/

namespace RdfStore.Url

structure Authority where
  /-- User name and password as written, with the `@`; empty without them. -/
  userInfo : List Char
  host : List Char
  /-- The port, unless it is the default of the scheme. -/
  port : Option Nat
  deriving DecidableEq, Repr

structure Parts where
  scheme : List Char
  authority : Option Authority
  path : List Char
  query : Option (List Char)
  fragment : Option (List Char)
  deriving DecidableEq, Repr

def Authority.text (a : Authority) : List Char :=
  a.userInfo ++ a.host ++
    (match a.port with
      | some n => ':' :: Number.digits n
      | none => [])

/-- The text of a URL. A path that starts with two slashes where there is no authority is kept
apart from one by `/.`. -/
def Parts.text (u : Parts) : List Char :=
  u.scheme ++ ':' ::
    (match u.authority with
      | some a => '/' :: '/' :: a.text
      | none => if Text.startsWith u.path ['/', '/'] then ['/', '.'] else []) ++
    u.path ++
    (match u.query with
      | some q => '?' :: q
      | none => []) ++
    (match u.fragment with
      | some f => '#' :: f
      | none => [])

def kindOf (scheme : List Char) : Kind :=
  if String.ofList scheme ∈ ["http", "https", "ws", "wss", "ftp"] then .special
  else if String.ofList scheme = "file" then .file
  else .other

def defaultPort (scheme : List Char) : Option Nat :=
  match String.ofList scheme with
  | "http" => some 80
  | "ws" => some 80
  | "https" => some 443
  | "wss" => some 443
  | "ftp" => some 21
  | _ => none

def isMark (c : Char) : Bool := c = '?' || c = '#'

/-- The scheme in lower case, and what follows its colon. -/
def scheme? (cs : List Char) : Option (List Char × List Char) :=
  let inScheme (c : Char) : Bool := c.isAlphanum || c = '+' || c = '-' || c = '.'
  match cs.dropWhile inScheme with
  | ':' :: rest =>
    let name := cs.takeWhile inScheme
    if (name.head?.map Char.isAlpha).getD false then some (name.map Char.toLower, rest) else none
  | _ => none

/-- The characters that user names and passwords may hold unencoded. -/
def safeInUserInfo (c : Char) : Bool :=
  safeInPath c && c ∉ ['/', ':', ';', '=', '@', '[', '\\', ']', '^', '|']

/-- User name and password in their normal form, from the text before the last `@`. The first
colon ends the user name; an empty password has none. -/
def userInfoText (cs : List Char) : List Char :=
  let encode := Text.percentEncode safeInUserInfo
  let user := encode (cs.takeWhile (· ≠ ':'))
  let text :=
    match cs.dropWhile (· ≠ ':') with
    | _ :: c :: password => user ++ ':' :: encode (c :: password)
    | _ => user
  if text.isEmpty then [] else text ++ ['@']

/-- The text before the last `@`, if there is one, and the text after it. -/
def splitUserInfo (cs : List Char) : Option (List Char) × List Char :=
  if cs.contains '@' then
    let host := (cs.reverse.takeWhile (· ≠ '@')).reverse
    (some (cs.take (cs.length - host.length - 1)), host)
  else (none, cs)

/-- The host of an authority and what follows it: a colon outside brackets ends the host. -/
def splitHost (inBrackets : Bool) : List Char → List Char × List Char
  | [] => ([], [])
  | c :: cs =>
    if c = ':' ∧ ¬inBrackets then ([], c :: cs)
    else
      let inside := if c = '[' then true else if c = ']' then false else inBrackets
      let (host, rest) := splitHost inside cs
      (c :: host, rest)

/-- The port before the end of an authority, and whether the text goes on behind it. A
backslash ends a port under every scheme. -/
def port? (scheme cs : List Char) : Except UrlError (Option Nat × List Char) :=
  let ds := cs.takeWhile Char.isDigit
  let rest := cs.dropWhile Char.isDigit
  match Text.readDigits? ds with
  | none => .error .port
  | some n =>
    if n > 65535 ∨ (rest ≠ [] ∧ rest.head? ≠ some '\\') then .error .port
    else .ok (if ds.isEmpty ∨ defaultPort scheme = some n then none else some n, rest)

/-- The query and the fragment of a URL, from the text behind its path. -/
def tail (kind : Kind) (cs : List Char) : Option (List Char) × Option (List Char) :=
  let safeInQuery (c : Char) : Bool :=
    isPrintable c && c ∉ [' ', '"', '#', '<', '>'] && !(kind.isSpecial && c = '\'')
  let safeInFragment (c : Char) : Bool :=
    isPrintable c && c ∉ [' ', '"', '<', '>', (Char.ofNat 0x60)]
  let fragment (cs : List Char) : Option (List Char) :=
    match cs with
    | '#' :: f => some (Text.percentEncode safeInFragment f)
    | _ => none
  match cs with
  | '?' :: rest =>
    (some (Text.percentEncode safeInQuery (rest.takeWhile (· ≠ '#'))),
      fragment (rest.dropWhile (· ≠ '#')))
  | rest => (none, fragment rest)

/-- The path that follows an authority. A scheme that is not special may go without one. -/
def pathAfterAuthority (kind : Kind) (cs : List Char) : Resolved × List Char :=
  match cs with
  | [] =>
    let r := resolvePath kind [] []
    (r, if kind.isSpecial then r.text else [])
  | c :: rest =>
    let r := resolvePath kind [] (if kind.isSlash c then rest else c :: rest)
    (r, r.text)

def withAuthority (kind : Kind) (scheme cs : List Char) : Except UrlError Parts := do
  let ends (c : Char) : Bool := kind.isSlash c || isMark c
  let (user, hostText) := splitUserInfo (cs.takeWhile fun c => !ends c)
  let after := cs.dropWhile fun c => !ends c
  if user = some [] ∧ hostText.isEmpty ∧ ¬after.isEmpty then .error .emptyHost
  else
    let userInfo := (user.map userInfoText).getD []
    let (hostText, portText) := splitHost false hostText
    let host ←
      if kind.isSpecial then
        if hostText.isEmpty then .error .emptyHost else specialHost hostText
      else opaqueHost hostText
    if host.isEmpty ∧ ¬portText.isEmpty then .error .emptyHost
    else
      let (port, behind) ←
        match portText with
        | [] => Except.ok (none, [])
        | _ :: ds => port? scheme ds
      if host.isEmpty ∧ ¬userInfo.isEmpty then .error .emptyHost
      else
        let after := behind ++ after
        let (_, path) := pathAfterAuthority kind (after.takeWhile fun c => !isMark c)
        let (query, fragment) := tail kind (after.dropWhile fun c => !isMark c)
        return { scheme, authority := some ⟨userInfo, host, port⟩, path, query, fragment }

/-- The authority of a file and its path, from the text behind the two slashes. Without a host the
slash that starts the path counts as an empty segment, so a drive letter behind it is not the
first one. -/
def fileAuthority (cs : List Char) : Except UrlError (List Char × List Char) := do
  let written := cs.takeWhile fun c => !Kind.file.isSlash c
  let after := cs.dropWhile fun c => !Kind.file.isSlash c
  let name := withoutBreaks written
  if isDriveLetter name then return ([], (resolvePath .file [] cs).text)
  else
    let host ← if name.isEmpty then .ok [] else specialHost name
    if host.isEmpty ∨ String.ofList host = "localhost" then
      return ([], (resolvePath .file (if after.isEmpty then [] else [[]]) (after.drop 1)).text)
    else
      let (r, path) := pathAfterAuthority .file after
      return (if r.drive then [] else host, path)

/-- The URL of a file, from the text behind the colon, tabs and line ends included. -/
def fileUrl (scheme cs : List Char) : Except UrlError Parts := do
  let before := (cs.takeWhile fun c => !isMark c).dropWhile isBreak
  let (query, fragment) := tail .file (withoutBreaks (cs.dropWhile fun c => !isMark c))
  let build (host path : List Char) : Parts :=
    { scheme, authority := some ⟨[], host, none⟩, path := filePath path, query, fragment }
  match before with
  | a :: rest =>
    if Kind.file.isSlash a then
      match rest.dropWhile isBreak with
      | b :: rest' =>
        if Kind.file.isSlash b then
          let (host, path) ← fileAuthority rest'
          return build host path
        else return build [] (resolvePath .file [] rest).text
      | [] => return build [] (resolvePath .file [] rest).text
    else return build [] (resolvePath .file [] before).text
  | [] => return build [] ['/']

/-- A URL of a scheme without a kind of its own, from the text behind the colon. Without two
slashes there is no authority, and without any the path is opaque. -/
def otherUrl (scheme cs : List Char) : Except UrlError Parts :=
  match cs with
  | '/' :: '/' :: rest => withAuthority .other scheme rest
  | _ =>
    let before := cs.takeWhile fun c => !isMark c
    let (query, fragment) := tail .other (cs.dropWhile fun c => !isMark c)
    let path :=
      match before with
      | '/' :: rest => (resolvePath .other [] rest).text
      | opaquePath => Text.percentEncode isPrintable opaquePath
    .ok { scheme, authority := none, path, query, fragment }

/-- The parts of the URL that a text stands for. White space and control characters around it
and tabs and line ends inside it do not count, but the path of a file may tell where they were. -/
def read (text : List Char) : Except UrlError Parts :=
  let cs := Text.strip (fun c => c.toNat ≤ 32) text
  match scheme? (withoutBreaks cs) with
  | none => .error .relative
  | some (scheme, rest) =>
    match kindOf scheme with
    | .special => withAuthority .special scheme (rest.dropWhile Kind.special.isSlash)
    | .file => fileUrl scheme ((cs.dropWhile (· ≠ ':')).drop 1)
    | .other => otherUrl scheme rest

def normalize (text : String) : Except UrlError String :=
  (read text.toList).map fun u => String.ofList u.text

end RdfStore.Url

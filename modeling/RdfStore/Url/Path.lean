import RdfStore.Url.Host

/-!
# Paths of a URL

A hierarchical path is a slash and segments between slashes. Dot segments are resolved while
the segments are read: `.` names the place reached so far, `..` drops the last segment, and
both may be spelled with percent-encoded dots. A segment that looks like a drive letter is never
dropped, and the first segment of a file's path is put in order if it is one.
-/

namespace RdfStore.Url

/-- How a scheme treats hosts and paths. -/
inductive Kind where
  /-- A scheme whose host is a domain or an address, such as `http`. -/
  | special
  | file
  | other
  deriving DecidableEq, Repr

/-- Whether backslashes count as slashes. -/
def Kind.isSpecial (k : Kind) : Bool := k ≠ .other

def Kind.isSlash (k : Kind) (c : Char) : Bool := c = '/' || (k.isSpecial && c = '\\')

def safeInPath (c : Char) : Bool :=
  isPrintable c && c ∉ [' ', '"', '<', '>', (Char.ofNat 0x60), '#', '?', '\x7b', '\x7d']

def isSingleDot (seg : List Char) : Bool :=
  String.ofList (seg.map Char.toLower) ∈ [".", "%2e"]

def isDoubleDot (seg : List Char) : Bool :=
  String.ofList (seg.map Char.toLower) ∈ ["..", ".%2e", "%2e.", "%2e%2e"]

def isDriveLetter : List Char → Bool
  | [a, b] => a.isAlpha && (b = ':' || b = '|')
  | _ => false

/-- The segments that are complete so far, last one first, when one more is `..`. -/
def dropLast : List (List Char) → List (List Char)
  | [] => []
  | seg :: done => if isDriveLetter seg then seg :: done else done

/-- What the segments of a path come to. -/
structure Resolved where
  /-- The segments that a slash follows, last one first. -/
  done : List (List Char)
  last : List Char
  /-- Whether a drive letter stood first in the path of a file. -/
  drive : Bool
  deriving DecidableEq, Repr

/-- Whether a character is a tab or a line end; these do not count inside a URL. -/
def isBreak (c : Char) : Bool := c = '\t' || c = '\n' || c = '\r'

def withoutBreaks (cs : List Char) : List Char := cs.filter fun c => !isBreak c

/-- A drive letter and the text behind it, in a segment where a tab or a line end stands between
the two. -/
def splitDrive (raw : List Char) : Option (List Char × List Char) :=
  match raw.dropWhile isBreak with
  | a :: cs =>
    match cs.dropWhile isBreak with
    | ':' :: c :: rest =>
      let behind := withoutBreaks rest
      if a.isAlpha ∧ isBreak c ∧ ¬behind.isEmpty then some ([a, ':'], behind) else none
    | _ => none
  | [] => none

/-- A drive letter in its normal form, with a colon. -/
def normalDrive : List Char → List Char
  | a :: _ => [a, ':']
  | [] => []

/-- One segment after those that are done; `final` says that no slash follows it. -/
def resolveSegment (kind : Kind) (done : List (List Char)) (final : Bool) (seg : List Char) :
    Resolved :=
  let close (done : List (List Char)) (seg : List Char) (drive : Bool) : Resolved :=
    if final then ⟨done, seg, drive⟩ else ⟨seg :: done, [], drive⟩
  if isDoubleDot seg then ⟨dropLast done, [], false⟩
  else if isSingleDot seg then ⟨done, [], false⟩
  else if kind = .file ∧ done = [] ∧ isDriveLetter seg then close done (normalDrive seg) true
  else close done seg false

/-- One segment as it was written, after those that are done. A tab or a line end behind a
drive letter ends a segment of a file's path; what follows it is kept as it is, even if it looks
like a dot segment. -/
def resolveRaw (kind : Kind) (done : List (List Char)) (final : Bool) (raw : List Char) :
    Resolved :=
  match (if kind = .file ∧ done = [] then splitDrive raw else none) with
  | some (drive, rest) =>
    let rest := Text.percentEncode safeInPath rest
    if final then ⟨drive :: done, rest, false⟩ else ⟨rest :: drive :: done, [], false⟩
  | none => resolveSegment kind done final (Text.percentEncode safeInPath (withoutBreaks raw))

/-- The segments of a path, as they were written, resolved from left to right. -/
def resolve (kind : Kind) : List (List Char) → List (List Char) → Bool → Resolved
  | done, [], drive => ⟨done, [], drive⟩
  | done, [seg], drive =>
    let r := resolveRaw kind done true seg
    { r with drive := drive || r.drive }
  | done, seg :: segs, drive =>
    let r := resolveRaw kind done false seg
    resolve kind r.done segs (drive || r.drive)

/-- A text cut at every slash of a scheme's kind. -/
def segments (kind : Kind) (cs : List Char) : List (List Char) :=
  Text.pieces '/' (cs.map fun c => if kind.isSlash c then '/' else c)

def Resolved.text (r : Resolved) : List Char :=
  '/' :: r.done.reverse.flatMap (fun seg => seg ++ ['/']) ++ r.last

/-- The path whose text after its first slash is given, after segments that are done. -/
def resolvePath (kind : Kind) (done : List (List Char)) (cs : List Char) : Resolved :=
  resolve kind done (segments kind cs) false

/-- The path of a file: leading slashes count as one. -/
def filePath (path : List Char) : List Char :=
  '/' :: path.dropWhile (· = '/')

end RdfStore.Url

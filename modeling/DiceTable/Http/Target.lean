import DiceTable.Json.Reader
import DiceTable.Text.Encoding

/-! # Targets of requests

A target is a path, in front of which a scheme and an authority may stand; a query and a fragment
behind it count for nothing. A target that names both a scheme and a host says where its path
starts. The path of any other target starts at the root, whatever slashes are in front of it. Dot
segments are taken out of a path before it is percent-decoded, which happens twice.
-/

namespace DiceTable.Http

/-- The parts of a target that count. -/
structure Target where
  scheme : List Char := []
  authority : List Char := []
  path : List Char
  deriving DecidableEq, Repr

namespace Target

def isSchemeChar (c : Char) : Bool :=
  c.isAlphanum || c == '+' || c == '-' || c == '.'

/-- Takes the name of a scheme off the front of a target, with the colon behind it. A name starts
with a letter, or is left out. -/
def takeScheme (target : List Char) : List Char × List Char :=
  let name := target.takeWhile isSchemeChar
  match target.dropWhile isSchemeChar with
  | ':' :: rest => if name.head?.all Char.isAlpha then (name, rest) else ([], target)
  | _ => ([], target)

/-- Takes the authority that two slashes announce off the front of a target. -/
def takeAuthority : List Char → List Char × List Char
  | '/' :: '/' :: rest => (rest.takeWhile (· != '/'), rest.dropWhile (· != '/'))
  | rest => ([], rest)

def ofChars (written : List Char) : Target :=
  let (scheme, rest) := takeScheme (written.takeWhile fun c => c != '?' && c != '#')
  let (authority, path) := takeAuthority rest
  { scheme, authority, path }

/-- The host of an authority, or at least its start: without a user in front and a port behind. -/
def host (target : Target) : List Char :=
  let behindUser := match target.authority.dropWhile (· != '@') with
    | [] => target.authority
    | _ :: rest => rest
  behindUser.takeWhile (· != ':')

/-- Whether the target says by itself where its path starts. -/
def isAbsolute (target : Target) : Bool :=
  target.scheme ≠ [] && target.host ≠ []

def segments (path : List Char) : List (List Char) :=
  path.splitOn '/'

/-- Takes the next piece of a path to those before it, of which the last comes first. One dot stands
for nothing, and two dots take back a piece, though never the root. -/
def takeSegment (kept : List (List Char)) (piece : List Char) : List (List Char) :=
  match piece with
  | ['.'] => kept
  | ['.', '.'] => if kept = [[]] then kept else kept.tail
  | _ => piece :: kept

def dropDotSegments (path : List Char) : List Char :=
  ['/'].intercalate ((segments path).foldl takeSegment []).reverse

/-- A path with one slash at its front. -/
def rooted (path : List Char) : List Char :=
  '/' :: path.dropWhile (· == '/')

/-- Whether the target is nothing but a path. An authority of mere marks does not count. -/
def isBare (target : Target) : Bool :=
  target.scheme = [] && target.authority.all fun c => c == '@' || c == ':'

/-- The path of a target without dot segments. Only where it is not bare they are taken out before
the path is moved to the root. -/
def plainPath (target : Target) : List Char :=
  if target.isAbsolute then dropDotSegments target.path
  else if target.isBare then dropDotSegments (rooted target.path)
  else dropDotSegments (rooted (dropDotSegments target.path))

/-- Replaces each percent sign and two hexadecimal digits by the byte they stand for. -/
def percentBytes : List UInt8 → List UInt8
  | [] => []
  | 0x25 :: a :: b :: rest =>
    match Json.hexValue? (Char.ofNat a.toNat), Json.hexValue? (Char.ofNat b.toNat) with
    | some high, some low => UInt8.ofNat (high * 16 + low) :: percentBytes rest
    | _, _ => 0x25 :: percentBytes (a :: b :: rest)
  | byte :: rest => byte :: percentBytes rest

def percentDecode (path : List Char) : List Char :=
  Text.decodeUtf8Leniently (percentBytes (String.ofList path).toUTF8.toList)

/-- The path that routes are looked up by. An encoded percent sign may start another escape. -/
def decodedPath (target : Target) : List Char :=
  percentDecode (percentDecode target.plainPath)

end Target

end DiceTable.Http

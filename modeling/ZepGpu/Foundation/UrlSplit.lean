import ZepGpu.Foundation.IpAddress

namespace ZepGpu
namespace Foundation

/-!
# Splitting URLs

A URL is split into its five parts, and the authority into user, host and
port.  What is done to texts with other characters than ASCII is taken from the
tables of the Unicode standard.
-/

/-- The functions on texts that need the tables of the Unicode standard. -/
structure Unicode where
  lower : List Char -> List Char
  nfkc : List Char -> List Char
  /-- `text.encode("idna")` -/
  idna : List Char -> Option (List Char)

def isAscii (text : List Char) : Bool :=
  text.all (fun c => c.toNat < 128)

/-- `text.lower()` -/
def Unicode.toLower (U : Unicode) (text : List Char) : List Char :=
  if isAscii text then text.map Char.toLower else U.lower text

/-- `text.encode("idna").decode("ascii")` -/
def Unicode.toIdna (U : Unicode) (text : List Char) : Option (List Char) :=
  if isAscii text then
    let labels := text.splitOn '.'
    if labels.dropLast.all (fun label => 0 < label.length && label.length < 64) &&
        labels.getLast?.all (fun label => label.length < 64) then some text
    else none
  else U.idna text

/-- `text.partition(separator)`, without the separator -/
def partition (separator : Char) (text : List Char) : List Char × List Char :=
  (splitOnce? [separator] text).getD (text, [])

/-- What stands after the last `separator`. -/
def afterLast (separator : Char) (text : List Char) : List Char :=
  (text.reverse.takeWhile (· ≠ separator)).reverse

/-- The five parts of a URL. -/
structure SplitResult where
  scheme : List Char
  netloc : List Char
  path : List Char
  query : List Char
  fragment : List Char
  deriving DecidableEq

def isSchemeChar (c : Char) : Bool :=
  c.isAlphanum || c = '+' || c = '-' || c = '.'

def splitScheme (url : List Char) : List Char × List Char :=
  match splitOnce? [':'] url with
  | some (scheme, rest) =>
    if scheme.head?.any Char.isAlpha && scheme.all isSchemeChar then (scheme.map Char.toLower, rest)
    else ([], url)
  | none => ([], url)

def checkBracketedHost (hostname : List Char) : Bool :=
  match hostname with
  | 'v' :: rest =>
    let version := rest.takeWhile (fun c => (Json.hexDigit? c).isSome)
    match rest.drop version.length with
    | '.' :: address => version ≠ [] && address ≠ [] && '\n' ∉ address
    | _ => false
  | _ =>
    match IpAddress.ofString? (String.ofList hostname) with
    | some (.v6 _ _) => true
    | _ => false

/-- The brackets of an authority are around an address. -/
def checkBrackets (netloc : List Char) : Bool :=
  if '[' ∈ netloc ∧ ']' ∈ netloc then
    checkBracketedHost (partition ']' (partition '[' netloc).2).1
  else '[' ∉ netloc ∧ ']' ∉ netloc

/-- `_checknetloc` -/
def checkNetloc (U : Unicode) (netloc : List Char) : Bool :=
  isAscii netloc ||
    let plain := netloc.filter (fun c => c ∉ ['@', ':', '#', '?'])
    let normal := U.nfkc plain
    plain = normal || normal.all (fun c => c ∉ ['/', '?', '#', '@', ':'])

/-- `urlsplit(url)`, and `none` for its exception -/
def urlSplit (U : Unicode) (url : List Char) : Option SplitResult :=
  let url := (url.dropWhile (fun c => c.toNat ≤ 32)).filter (fun c => c ∉ ['\t', '\r', '\n'])
  let (scheme, rest) := splitScheme url
  let isDelimiter := fun c : Char => c = '/' || c = '?' || c = '#'
  let (netloc, rest) :=
    if ['/', '/'] <+: rest then
      let rest := rest.drop 2
      (rest.takeWhile (fun c => !isDelimiter c), rest.dropWhile (fun c => !isDelimiter c))
    else ([], rest)
  let (rest, fragment) := partition '#' rest
  let (path, query) := partition '?' rest
  if checkBrackets netloc && checkNetloc U netloc then some ⟨scheme, netloc, path, query, fragment⟩
  else none

namespace SplitResult

variable (parsed : SplitResult)

/-- `_hostinfo` -/
def hostInfo : List Char × List Char :=
  let info := afterLast '@' parsed.netloc
  match splitOnce? ['['] info with
  | some (_, bracketed) =>
    let (hostname, rest) := partition ']' bracketed
    (hostname, (partition ':' rest).2)
  | none => partition ':' info

/-- `parsed.username is not None or parsed.password is not None` -/
def hasCredentials : Bool :=
  '@' ∈ parsed.netloc

/-- `parsed.hostname`, with the zone of an address as it is -/
def hostname (U : Unicode) : Option (List Char) :=
  let hostname := parsed.hostInfo.1
  if hostname = [] then none
  else
    match splitOnce? ['%'] hostname with
    | some (name, zone) => some (U.toLower name ++ '%' :: zone)
    | none => some (U.toLower hostname)

/-- `parsed.port`, and `none` for its exception -/
def port : Option (Option Nat) :=
  let port := parsed.hostInfo.2
  if port = [] then some none
  else if port.all Char.isDigit then
    ((some (port.foldl (fun value c => value * 10 + (c.toNat - 48)) 0)).filter (· ≤ 65535)).map some
  else none

end SplitResult

end Foundation
end ZepGpu

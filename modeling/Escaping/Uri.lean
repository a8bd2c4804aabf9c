import Escaping.Text.Basic

/-!
URI references. A reference is split into its components without decoding any of them, put
together again, and canonicalized component by component. Components are put together as they are,
so that a delimiter that comes out of an escape stands in the result like any other.
-/

namespace Escaping

/-- A parameter of a query; the value is absent where there is no equals sign. -/
structure QueryParameter where
  name : Text
  value : Option Text
deriving DecidableEq

structure Uri where
  scheme : Option Text
  userInfo : Option Text
  host : Option Text
  port : Option Text
  path : Text
  query : Option (List QueryParameter)
  fragment : Option Text
deriving DecidableEq

namespace Uri

def upTo (delimiters : List CodePoint) (text : Text) : Text × Text :=
  (text.takeWhile (· ∉ delimiters), text.dropWhile (· ∉ delimiters))

/-- A scheme is not empty, ends at a colon, and holds none of the other delimiters. -/
def splitScheme (text : Text) : Option Text × Text :=
  match upTo [':', '/', '?', '#'] text with
  | (head :: tail, delimiter :: rest) =>
      if delimiter = ':' then (some (head :: tail), rest) else (none, text)
  | _ => (none, text)

def slashes : Text := ['/', '/']

/-- An authority follows two slashes. -/
def splitAuthority (text : Text) : Option Text × Text :=
  match Text.stripOpening slashes text with
  | none => (none, text)
  | some rest =>
      let (authority, remaining) := upTo ['/', '?', '#'] rest
      (some authority, remaining)

/-- What follows a delimiter at the start of a text, up to one of some others. -/
def splitAfter (opening : CodePoint) (delimiters : List CodePoint) (text : Text) :
    Option Text × Text :=
  match text with
  | [] => (none, [])
  | head :: tail =>
      if head = opening then
        let (part, rest) := upTo delimiters tail
        (some part, rest)
      else (none, head :: tail)

/-- The user information is what stands before the last at sign of an authority. -/
def splitUserInfo (authority : Text) : Option Text × Text :=
  match Text.cutLast '@' authority with
  | some (userInfo, rest) => (some userInfo, rest)
  | none => (none, authority)

/-- The port follows the last colon, unless that stands inside the brackets of an address. -/
def splitPort (hostAndPort : Text) : Text × Option Text :=
  match Text.cutLast ':' hostAndPort with
  | some (host, port) => if CodePoint.ofChar ']' ∈ port then (hostAndPort, none) else (host, some port)
  | none => (hostAndPort, none)

def splitParameter (parameter : Text) : QueryParameter :=
  match Text.cutFirst '=' parameter with
  | some (name, value) => ⟨name, some value⟩
  | none => ⟨parameter, none⟩

def splitQuery (query : Text) : List QueryParameter :=
  (Text.splitAt '&' query).map splitParameter

def ofText (text : Text) : Uri :=
  let (scheme, afterScheme) := splitScheme text
  let (authority, afterAuthority) := splitAuthority afterScheme
  let (path, afterPath) := upTo ['?', '#'] afterAuthority
  let (query, afterQuery) := splitAfter '?' ['#'] afterPath
  let (fragment, _) := splitAfter '#' [] afterQuery
  match authority with
  | none => ⟨scheme, none, none, none, path, query.map splitQuery, fragment⟩
  | some authority =>
      let (userInfo, hostAndPort) := splitUserInfo authority
      let (host, port) := splitPort hostAndPort
      ⟨scheme, userInfo, some host, port, path, query.map splitQuery, fragment⟩

/-- A part with text around it, or nothing for an absent part. -/
def around (before : Text) (part : Option Text) (after : Text) : Text :=
  match part with
  | some part => before ++ part ++ after
  | none => []

def joinParameter (parameter : QueryParameter) : Text :=
  parameter.name ++ around ['='] parameter.value []

def joinQuery (parameters : List QueryParameter) : Text :=
  Text.join ['&'] (parameters.map joinParameter)

/-- The authority with its slashes. Without a host there is none. -/
def joinAuthority (uri : Uri) : Text :=
  match uri.host with
  | none => []
  | some host => slashes ++ around [] uri.userInfo ['@'] ++ host ++ around [':'] uri.port []

def toText (uri : Uri) : Text :=
  around [] uri.scheme [':'] ++ uri.joinAuthority ++ uri.path
    ++ around ['?'] (uri.query.map joinQuery) [] ++ around ['#'] uri.fragment []

section Canonicalize

variable {Effect : Type → Type} [Monad Effect]

def onPart (operation : Text → Effect Text) : Option Text → Effect (Option Text)
  | none => pure none
  | some part => do
      let result ← operation part
      pure (some result)

def onParameters (operation : Text → Effect Text) : List QueryParameter → Effect (List QueryParameter)
  | [] => pure []
  | parameter :: rest => do
      let name ← operation parameter.name
      let value ← onPart operation parameter.value
      let others ← onParameters operation rest
      pure (⟨name, value⟩ :: others)

def onQuery (operation : Text → Effect Text) :
    Option (List QueryParameter) → Effect (Option (List QueryParameter))
  | none => pure none
  | some parameters => do
      let results ← onParameters operation parameters
      pure (some results)

/-- Applies an operation to every component that is present: the query first, and then the others
in the order in which they are written. -/
def onComponents (operation : Text → Effect Text) (uri : Uri) : Effect Uri := do
  let query ← onQuery operation uri.query
  let scheme ← onPart operation uri.scheme
  let userInfo ← onPart operation uri.userInfo
  let host ← onPart operation uri.host
  let port ← onPart operation uri.port
  let path ← operation uri.path
  let fragment ← onPart operation uri.fragment
  pure ⟨scheme, userInfo, host, port, path, query, fragment⟩

def canonicalize (operation : Text → Effect Text) (text : Text) : Effect Text := do
  let uri ← onComponents operation (ofText text)
  pure uri.toText

end Canonicalize

end Uri

end Escaping

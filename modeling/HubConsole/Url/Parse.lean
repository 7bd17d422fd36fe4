import HubConsole.Url.Basic

namespace HubConsole.Url

open HubConsole.Text

def isLineMark (c : Char) : Bool := c = '\t' || c = '\n' || c = '\r'

/-- What of a text counts: no tabs or line ends, and no blanks and controls at its ends. -/
def counted (cs : List Char) : List Char :=
  (dropEnd (·.toNat ≤ 0x20) (cs.dropWhile (·.toNat ≤ 0x20))).filter (!isLineMark ·)

def isSchemeChar (c : Char) : Bool := c.isAlphanum || c = '+' || c = '-' || c = '.'

/-- The scheme, in small letters, and what comes after its colon. -/
def readScheme? (cs : List Char) : Option (Scheme × List Char) :=
  match cs, cutBefore (!isSchemeChar ·) cs with
  | c :: _, (name, ':' :: rest) =>
    if c.isAlpha then some (.ofName (String.ofList (name.map Char.toLower)), rest) else none
  | _, _ => none

/-- The sides of the last `@`, if there is one. -/
def cutUserinfo (cs : List Char) : Option (List Char × List Char) :=
  if '@' ∈ cs then
    let host := (cs.reverse.takeWhile (· ≠ '@')).reverse
    some ((cs.take (cs.length - host.length)).dropLast, host)
  else none

/-- User and password; an empty password is left out with its colon. -/
def userinfoText (cs : List Char) : List Char :=
  let (user, rest) := cutBefore (· = ':') cs
  let written := escape .userinfo user ++
    (match rest with
      | _ :: c :: password => ':' :: escape .userinfo (c :: password)
      | _ => [])
  if written.isEmpty then [] else written ++ ['@']

/-- A host up to the colon of its port; colons in brackets belong to the host. -/
def cutHost (inBrackets : Bool) : List Char → List Char × List Char
  | [] => ([], [])
  | c :: cs =>
    if c = ':' && !inBrackets then ([], c :: cs)
    else
      let inBrackets := if c = '[' then true else if c = ']' then false else inBrackets
      let rest := cutHost inBrackets cs
      (c :: rest.1, rest.2)

/-- The digits after the colon; none at all leave the port open. -/
def readPort (scheme : Scheme) (cs : List Char) : Except Fault (Option Nat) :=
  match cutBefore (!Char.isDigit ·) cs with
  | (_, c :: _) => if c = '\\' then port (cs.takeWhile Char.isDigit) else .error .invalidPort
  | (ds, []) => port ds
where
  port (ds : List Char) : Except Fault (Option Nat) :=
    if valueOf ds > 65535 then .error .invalidPort
    else if ds.isEmpty || scheme.defaultPort? = some (valueOf ds) then .ok none
    else .ok (some (valueOf ds))

/-- Reads an authority; `more` tells whether anything follows it. -/
def readAuthority (scheme : Scheme) (more : Bool) (cs : List Char) : Except Fault Authority :=
  let (userinfo, rest) := match cutUserinfo cs with
    | some (user, rest) => (some user, rest)
    | none => (none, cs)
  let (host, port) := cutHost false rest
  let written := userinfoText (userinfo.getD [])
  if userinfo = some [] ∧ rest.isEmpty ∧ more then .error .emptyHost
  else if host.isEmpty ∧ (scheme.isSpecial ∨ !port.isEmpty) then .error .emptyHost
  else do
    let host ← if scheme.isSpecial then Host.ofSpecial host else Host.ofOpaque host
    let port ← readPort scheme (port.drop 1)
    if host = .name [] ∧ !written.isEmpty then .error .emptyHost
    else return ⟨written, host, port⟩

/-- What may follow an authority. -/
def endsAuthority (scheme : Scheme) (c : Char) : Bool :=
  c = '/' || c = '?' || c = '#' || (scheme.isSpecial && c = '\\')

/-- Path, query and fragment. -/
def readRest (scheme : Scheme) (authority : Authority) (cs : List Char) : Address :=
  let (path, rest) := cutBefore (fun c => c = '?' || c = '#') cs
  let (query, fragment) := cutBefore (· = '#') rest
  { scheme, authority
    path := .ofText (match path with
      | [] => []
      | _ :: path => path)
    query := match query with
      | [] => none
      | _ :: query => some (escape .query query)
    fragment := match fragment with
      | [] => none
      | _ :: fragment => some (escape .fragment fragment) }

/-- Reads what comes after the slashes. -/
def readAddress (scheme : Scheme) (cs : List Char) : Except Fault Address := do
  let (authority, rest) := cutBefore (endsAuthority scheme) cs
  return readRest scheme (← readAuthority scheme (!rest.isEmpty) authority) rest

/-- Checks the host of a file, which may be left out, or be a drive. -/
def checkFile (cs : List Char) : Except Fault Unit :=
  match cs with
  | a :: b :: rest =>
    if (a = '/' || a = '\\') && (b = '/' || b = '\\') then
      let host := (cutBefore (endsAuthority .file) rest).1
      if host.isEmpty || isDrive host then .ok ()
      else (Host.ofSpecial host).map fun _ => ()
    else .ok ()
  | _ => .ok ()

/-- What a text is as an address: one of a hub, or one of a scheme that no hub listens on. -/
inductive Target where
  | hub (address : Address)
  | unsupported (scheme : String)
  deriving DecidableEq

def parse (s : String) : Except Fault Target :=
  match readScheme? (counted s.toList) with
  | none => .error .noScheme
  | some (scheme, rest) =>
    match scheme with
    | .ws | .wss =>
      (readAddress scheme (rest.dropWhile fun c => c = '/' || c = '\\')).map .hub
    | .web name =>
      (readAddress scheme (rest.dropWhile fun c => c = '/' || c = '\\')).map
        fun _ => .unsupported name
    | .file => (checkFile rest).map fun _ => .unsupported "file"
    | .other name =>
      match rest with
      | '/' :: '/' :: rest => (readAddress scheme rest).map fun _ => .unsupported name
      | _ => .ok (.unsupported name)

end HubConsole.Url

import HubConsole.Url.Address
import HubConsole.Url.Domain
import HubConsole.Url.Path

namespace HubConsole.Url

open HubConsole.Text

inductive Fault where
  | emptyHost
  | invalidPort
  | invalidDotted
  | invalidColons
  | invalidName
  | invalidCharacter
  | noScheme
  deriving DecidableEq

def Fault.message : Fault → String
  | .emptyHost => "empty host"
  | .invalidPort => "invalid port number"
  | .invalidDotted => "invalid IPv4 address"
  | .invalidColons => "invalid IPv6 address"
  | .invalidName => "invalid international domain name"
  | .invalidCharacter => "invalid domain character"
  | .noScheme => "relative URL without a base"

/-- How an address is read depends on its scheme. -/
inductive Scheme where
  | ws
  | wss
  /-- Schemes of the same shape that no hub listens on. -/
  | web (name : String)
  | file
  | other (name : String)
  deriving DecidableEq

namespace Scheme

def ofName (s : String) : Scheme :=
  if s = "ws" then .ws
  else if s = "wss" then .wss
  else if s = "file" then .file
  else if s ∈ ["http", "https", "ftp"] then .web s
  else .other s

def name : Scheme → String
  | .ws => "ws"
  | .wss => "wss"
  | .web s => s
  | .file => "file"
  | .other s => s

/-- Whether a backslash counts as a slash. -/
def isSpecial : Scheme → Bool
  | .other _ => false
  | _ => true

/-- The port that need not be written. -/
def defaultPort? : Scheme → Option Nat
  | .ws => some 80
  | .wss => some 443
  | _ => none

end Scheme

inductive Host where
  | name (text : List Char)
  | dotted (value : Nat)
  | colons (groups : List Nat)
  deriving DecidableEq

namespace Host

def text : Host → List Char
  | .name cs => cs
  | .dotted n => dottedText n
  | .colons gs => '[' :: colonText gs ++ [']']

/-- A host in brackets, whose first one is gone. -/
def ofBracketed (cs : List Char) : Except Fault Host :=
  if cs.getLast? = some ']' then
    match readColons? cs.dropLast with
    | some gs => .ok (.colons gs)
    | none => .error .invalidColons
  else .error .invalidColons

/-- A host that is a name or a number. -/
def ofName (cs : List Char) : Except Fault Host :=
  match (textOf? (unescape cs)).bind asciiName? with
  | none => .error .invalidName
  | some [] => .error .emptyHost
  | some ascii =>
    if endsInNumber ascii then
      match readDotted? ascii with
      | some n => .ok (.dotted n)
      | none => .error .invalidDotted
    else .ok (.name ascii)

def ofSpecial : List Char → Except Fault Host
  | '[' :: cs => ofBracketed cs
  | cs => ofName cs

/-- A host of a scheme of which nothing is known. -/
def ofOpaque : List Char → Except Fault Host
  | '[' :: cs => ofBracketed cs
  | cs =>
    if cs.any fun c => c.toNat = 0 || " #/:<>?@[\\]^|".toList.contains c then
      .error .invalidCharacter
    else .ok (.name (escape .controls cs))

end Host

/-- The part of an address between the slashes and the path. -/
structure Authority where
  /-- With the `@` after it, if there is any. -/
  userinfo : List Char
  host : Host
  port : Option Nat
  deriving DecidableEq

/-- An address. -/
structure Address where
  scheme : Scheme
  authority : Authority
  path : Path
  query : Option (List Char)
  fragment : Option (List Char)
  deriving DecidableEq

namespace Authority

def text (a : Authority) : List Char :=
  a.userinfo ++ a.host.text ++
    (match a.port with
      | some n => ':' :: digits n
      | none => [])

end Authority

namespace Address

def text (a : Address) : String :=
  String.ofList (a.scheme.name.toList ++ "://".toList ++ a.authority.text ++ a.path.text ++
    (match a.query with
      | some q => '?' :: q
      | none => []) ++
    (match a.fragment with
      | some f => '#' :: f
      | none => []))

end Address
end HubConsole.Url

import HubConsole.Rpc.Frame
import HubConsole.Text.Blank
import HubConsole.Url.Parse

namespace HubConsole.Session

open HubConsole.Text

inductive ConfigError where
  | invalidUrl (url : String) (reason : Url.Fault)
  | unsupportedScheme (scheme : String)
  deriving DecidableEq

def ConfigError.message : ConfigError → String
  | .invalidUrl url reason => s!"invalid hub url {url}: {reason.message}"
  | .unsupportedScheme scheme => s!"unsupported hub url scheme: {scheme}"

structure Config where
  hubUrl : String
  /-- The last segment of the endpoint's path, unless blank. -/
  passphrase : String
  /-- How often, and how many milliseconds apart, a caller looks whether the connection has opened. -/
  pollAttempts : Nat
  pollIntervalMs : Nat
  reconnectMs : Nat
  /-- The attempts to connect that may fail in a row before the session ends for good. -/
  maxReconnect : Nat
  maxFrameBytes : Nat

namespace Config

def defaultHubUrl : String := "ws://localhost:3012"

def defaultPassphrase : String := "passphrase"

def new (hubUrl passphrase : String) : Config where
  hubUrl := hubUrl
  passphrase := passphrase
  pollAttempts := 100
  pollIntervalMs := 50
  reconnectMs := 1000
  maxReconnect := 5
  maxFrameBytes := Rpc.defaultMaxBytes

/-- For how long a call waits for the connection, in milliseconds. -/
def connectWaitMs (c : Config) : Nat := c.pollIntervalMs * c.pollAttempts

/-- The first of the two that is given and not blank. -/
def choose (flag env : Option String) : Option String :=
  (flag.filter (!isBlankText ·)).or (env.filter (!isBlankText ·))

/-- A blank address counts as none; a passphrase that is given counts even if it is empty. -/
def resolve (flagUrl envUrl flagPassphrase envPassphrase : Option String) : Config :=
  new ((choose flagUrl envUrl).getD defaultHubUrl)
    ((flagPassphrase.or envPassphrase).getD defaultPassphrase)

/-- Whether a text has `://` in it. -/
def hasSlashes : List Char → Bool
  | [] => false
  | c :: cs => "://".toList.isPrefixOf (c :: cs) || hasSlashes cs

/-- The address to read; without a scheme it is a host. -/
def rawUrl (c : Config) : String :=
  let raw := trim c.hubUrl
  if hasSlashes raw.toList then raw else "ws://" ++ raw

/-- The address to connect to. -/
def endpoint (c : Config) : Except ConfigError Url.Address :=
  match Url.parse c.rawUrl with
  | .error e => .error (.invalidUrl c.rawUrl e)
  | .ok (.unsupported scheme) => .error (.unsupportedScheme scheme)
  | .ok (.hub address) =>
    let passphrase := (trim c.passphrase).toList
    if passphrase.isEmpty then .ok address
    else .ok { address with path := address.path.push passphrase }

end Config
end HubConsole.Session

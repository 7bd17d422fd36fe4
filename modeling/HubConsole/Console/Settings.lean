import HubConsole.Session.Config

namespace HubConsole.Console

open HubConsole.Session HubConsole.Text

/-- The environment variables that count. -/
structure Environment where
  hubUrl : Option String
  passphrase : Option String
  title : Option String
  logFileHost : Option String
  logDir : Option String

namespace Environment

def hubUrlName : String := "CCD_AGENT_HUB_URL"
def passphraseName : String := "CCD_AGENT_HUB_PASSPHRASE"
def titleName : String := "CCD_TITLE"
def logFileHostName : String := "CCD_LOG_FILE_HOST"
def logDirName : String := "CCD_LOG_DIR"

end Environment

/-- The flags that every command takes. -/
structure Flags where
  hubUrl : Option String
  passphrase : Option String
  logDir : Option String
  deriving DecidableEq

structure Settings where
  session : Config
  title : String
  /-- Under which address the log files of the nodes are found. -/
  logFileHost : Option String
  /-- The folder of the console's own log; empty for none. -/
  logDir : String

namespace Settings

def defaultTitle : String := "CodeChain Dashboard"

def resolve (flags : Flags) (env : Environment) : Settings where
  session := .resolve flags.hubUrl env.hubUrl flags.passphrase env.passphrase
  title := ((Config.choose none env.title).map trim).getD defaultTitle
  logFileHost := (Config.choose none env.logFileHost).map trim
  logDir := ((Config.choose flags.logDir env.logDir).map trim).getD ""

/-- Where the log file of a node is found. -/
def logFileLink (s : Settings) (node : String) : Option String :=
  s.logFileHost.map fun host =>
    String.ofList (dropEnd (· = '/') host.toList) ++ "/" ++ node

end Settings
end HubConsole.Console

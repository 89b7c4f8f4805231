import Laforge.Go.Basic
import Laforge.Go.Filepath
import Laforge.Go.Utf8
import Laforge.Go.Strconv
import Laforge.Go.Time
import Laforge.Go.TimeFormat
import Laforge.Go.Xxhash
import Laforge.Go.Json.Scanner
import Laforge.Go.Json.Encode
import Laforge.Go.Json.Decode
import Laforge.Go.Json.RoundTrip
import Laforge.Core.Revision
import Laforge.Core.RevisionPath
import Laforge.Core.RevisionJson
import Laforge.Core.RevisionRoundTrip
import Laforge.Core.RemoteState
import Laforge.Core.Formatter
import Laforge.Provisioner.Run
import Laforge.Provisioner.Retry
import Laforge.Provisioner.Scripts
import Laforge.Provisioner.Checks
import Laforge.Provisioner.Cmd
import Laforge.Provisioner.Ssh
import Laforge.Provisioner.Powershell
import Laforge.Provisioner.PowershellProvision
import Laforge.Provisioner.WindowsRestart
import Laforge.Provisioner.RebootCheck

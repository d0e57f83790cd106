import RetroShareTor.Util.ByteArray
import RetroShareTor.Tor.StrUtil
import RetroShareTor.Tor.SplitScan
import RetroShareTor.Tor.Quoting
import RetroShareTor.Tor.PendingOperation
import RetroShareTor.Pqi.FdBinInterface
import RetroShareTor.Pqi.InputBuffer
import RetroShareTor.Pqi.OutputBuffer
import RetroShareTor.Pqi.Descriptor
import RetroShareTor.Tor.TorControl.State
import RetroShareTor.Tor.TorControl.Version
import RetroShareTor.Tor.TorControl.Publication
import RetroShareTor.Tor.TorControl.Events
import RetroShareTor.Tor.TorControl.Authentication
import RetroShareTor.Tor.TorControl.Orchestrator
import RetroShareTor.Tor.TorControl.StatusLaw
import RetroShareTor.Tor.TorControl.InfoReply
import RetroShareTor.Tor.TorControl.Bootstrap
import RetroShareTor.Tor.TorControl.SaveConfig
import RetroShareTor.Tor.CryptoKey
import RetroShareTor.Tor.HashedPassword
import RetroShareTor.Tor.TorControl.Invariants

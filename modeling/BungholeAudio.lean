import BungholeAudio.Basic
import BungholeAudio.Ring.Basic
import BungholeAudio.Ring.Refinement
import BungholeAudio.Ring.Concurrent
import BungholeAudio.Ring.ConcurrentSafety
import BungholeAudio.Transport.Framing
import BungholeAudio.Transport.Egress
import BungholeAudio.Plugin.Float
import BungholeAudio.Plugin.Driver
import BungholeAudio.Plugin.Volume
import BungholeAudio.Plugin.Properties
import BungholeAudio.Plugin.IO
import BungholeAudio.Plugin.Clock
import BungholeAudio.Transport.Ingress
import BungholeAudio.System
import BungholeAudio.Transport.Gain
import BungholeAudio.Process
import BungholeAudio.Transport.Loopback
import BungholeAudio.Plugin.Lifecycle

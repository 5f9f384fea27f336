import DnsSd.Common.Batch
import DnsSd.Common.Context
import DnsSd.Common.Slots
import DnsSd.Avahi.Handlers
import DnsSd.Avahi.Loop
import DnsSd.Avahi.Rounds
import DnsSd.Avahi.Group
import DnsSd.Avahi.Invariant
import DnsSd.Avahi.Gating
import DnsSd.Avahi.Session
import DnsSd.Avahi.Projection
import DnsSd.Avahi.Teardown
import DnsSd.Avahi.Retry
import DnsSd.Avahi.Reentry
import DnsSd.MacOS.Announce
import DnsSd.MacOS.Events
import DnsSd.MacOS.Lifecycle
import DnsSd.MacOS.Resources
import DnsSd.MacOS.Dispatch
import DnsSd.MacOS.Stop
import DnsSd.Backends

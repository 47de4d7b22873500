import Zeropod.Strings
import Zeropod.ConfigLoader
import Zeropod.Task.Basic
import Zeropod.Task.Exits
import Zeropod.Task.Wrapper
import Zeropod.Task.Interleaving
import Zeropod.Task.Races
import Zeropod.Task.Bookkeeping
import Zeropod.Task.Lifecycle
import Zeropod.Legacy.Wrapper
import Zeropod.Legacy.Service
import Zeropod.Legacy.Panics

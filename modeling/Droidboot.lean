import Droidboot.CLib
import Droidboot.Config
import Droidboot.World
import Droidboot.Flash
import Droidboot.Boot
import Droidboot.Commands
import Droidboot.Update
import Droidboot.System
import Droidboot.Countdown
import Droidboot.Mutex
import Droidboot.Main
import Droidboot.Input
import Droidboot.Handover

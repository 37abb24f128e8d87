import RmpEval.Cpp
import RmpEval.Text
import RmpEval.Check
import RmpEval.LiveSource
import RmpEval.CpuList
import RmpEval.Checks.System
import RmpEval.Checks.Core
import RmpEval.Checks.Frequency
import RmpEval.Checks.Interrupts
import RmpEval.Checks.Nic
import RmpEval.Catalog
import RmpEval.Sender
import RmpEval.Main
import RmpEval.Banner
import RmpEval.Threads
import RmpEval.FileDescriptor

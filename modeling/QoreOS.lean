import QoreOS.Bootloader.FramesInUse
import QoreOS.Bootloader.HandOver
import QoreOS.Memory.MapPage
import QoreOS.Memory.AddressSpace
import QoreOS.Display.HitAreas
import QoreOS.Display.CanvasPicture
import QoreOS.Display.BootConsole
import QoreOS.Display.BootPicture
import QoreOS.Input.Cursor
import QoreOS.Input.Delivery
import QoreOS.Network.FrameFields
import QoreOS.Network.Preemption
import QoreOS.Network.ReceiveRing
import QoreOS.Network.Handshake
import QoreOS.Network.DescriptorRings
import QoreOS.Network.CraftedFrames
import QoreOS.Network.SegmentGrammar
import QoreOS.Network.ArpMessages
import QoreOS.Startup.QueuePointers
import QoreOS.Startup.BootInformation
import QoreOS.Startup.Discovery
import QoreOS.Storage.Directory
import QoreOS.Storage.Ownership
import QoreOS.Storage.PayloadText
import QoreOS.Storage.ClusterAddress
import QoreOS.Storage.Mount
import QoreOS.Runtime.DriverAgreement
import QoreOS.Runtime.HeapBudget
import QoreOS.Runtime.HeapLock
import QoreOS.Runtime.SyscallReturns
import QoreOS.Processor.Ring3
import QoreOS.Processor.TrampolineMap
import QoreOS.Network.FileService
import QoreOS.Runtime.Console
import QoreOS.Audio.Controller
import QoreOS.Audio.Mirror
import QoreOS.Audio.Tone

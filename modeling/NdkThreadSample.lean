import NdkThreadSample.Library.LabelledRun
import NdkThreadSample.Library.Refinement
import NdkThreadSample.Library.Custody
import NdkThreadSample.Library.Countdown
import NdkThreadSample.Library.CText
import NdkThreadSample.Library.Terminated
import NdkThreadSample.Library.Interleaving
import NdkThreadSample.Library.OwnedStore
import NdkThreadSample.Library.Preceded
import NdkThreadSample.Library.Halves
import NdkThreadSample.TestIDS.Common
import NdkThreadSample.TestIDS.IdCard
import NdkThreadSample.TestIDS.Commands
import NdkThreadSample.TestIDS.Device
import NdkThreadSample.TestIDS.Session
import NdkThreadSample.TestIDS.SessionProtocol
import NdkThreadSample.TestIDS.CardBuffer
import NdkThreadSample.TestIDS.CardText
import NdkThreadSample.TestIDS.CardBounds
import NdkThreadSample.TestIDS.CardEncoding
import NdkThreadSample.TestIDS.CardWait
import NdkThreadSample.TestIDS.ScanSettings
import NdkThreadSample.TestIDS.Polls
import NdkThreadSample.TestIDS.TestLoop
import NdkThreadSample.JniDriver.Entries
import NdkThreadSample.JniDriver.InitPath
import NdkThreadSample.JniDriver.StatusBytes
import NdkThreadSample.JniDriver.TextResults
import NdkThreadSample.JniDriver.VersionTexts
import NdkThreadSample.JniDriver.ReadRF
import NdkThreadSample.JniDriver.EntryRuns
import NdkThreadSample.UsbDriver.Operations
import NdkThreadSample.UsbDriver.Effects
import NdkThreadSample.UsbDriver.Connection
import NdkThreadSample.UsbDriver.LateGrant
import NdkThreadSample.UsbDriver.SessionStability
import NdkThreadSample.UsbDriver.Receiver
import NdkThreadSample.UsbDriver.OpenResult
import NdkThreadSample.UsbDriver.RecvData
import NdkThreadSample.UsbDriver.Calls
import NdkThreadSample.UsbDriver.ScannerOnly
import NdkThreadSample.UsbDriver.Transfers
import NdkThreadSample.CCallJava.Operations
import NdkThreadSample.CCallJava.Effects
import NdkThreadSample.CCallJava.Lifetime
import NdkThreadSample.CCallJava.Receive
import NdkThreadSample.CCallJava.Transparent
import NdkThreadSample.CCallJava.JavaRun
import NdkThreadSample.CCallJava.Attachment
import NdkThreadSample.NativeLib.Threads
import NdkThreadSample.NativeLib.WorkerIndex
import NdkThreadSample.NativeLib.ThreadLife
import NdkThreadSample.NativeLib.CommData
import NdkThreadSample.NativeLib.JavaHeap
import NdkThreadSample.NativeLib.Notify
import NdkThreadSample.NativeLib.CheckedVm
import NdkThreadSample.NativeLib.Lifecycle

import FleetWiseEdge.Manager.Types
import FleetWiseEdge.Manager.Maps
import FleetWiseEdge.Manager.TimeLine
import FleetWiseEdge.Manager.Run
import FleetWiseEdge.Manager.Wait
import FleetWiseEdge.Manager.Coverage
import FleetWiseEdge.Manager.StateTemplates
import FleetWiseEdge.Manager.DoWork
import FleetWiseEdge.Manager.Mailbox
import FleetWiseEdge.Manager.LastKnownState
import FleetWiseEdge.Manager.Interleaving
import FleetWiseEdge.DataSource.ActiveDictionary
import FleetWiseEdge.DataSource.CANDataSource
import FleetWiseEdge.DataSource.OBDOverCANModule
import FleetWiseEdge.DataSource.OBDECUDetection
import FleetWiseEdge.DataSource.OBDRequestLoop
import FleetWiseEdge.DataSource.MyBlobDataSource
import FleetWiseEdge.DataSource.CANInterfaceIDTranslator
import FleetWiseEdge.DataSender.WorkerThread

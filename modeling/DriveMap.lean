import DriveMap.Spelling
import DriveMap.Status
import DriveMap.Handle
import DriveMap.Node
import DriveMap.DevicePath.Basic
import DriveMap.DevicePath.Error
import DriveMap.DevicePath.Read
import DriveMap.DevicePath.Scan
import DriveMap.DevicePath.Builder
import DriveMap.DevicePath.Order
import DriveMap.DevicePath.Raw
import DriveMap.Node.Bus
import DriveMap.Node.Media
import DriveMap.Node.Fields
import DriveMap.Medium
import DriveMap.Device.Basic
import DriveMap.Drive.Drives
import DriveMap.Partition.Entry
import DriveMap.Partition.Walker
import DriveMap.Partition.Search
import DriveMap.Drive.Number
import DriveMap.Event
import DriveMap.Survey
import DriveMap.Survey.Visit
import DriveMap.Context.Basic
import DriveMap.Context.Resolution
import DriveMap.Context.Lookup
import DriveMap.Context.LiveLookup
import DriveMap.Context.Transfer
import DriveMap.Context.Session
import DriveMap.Machine.Disk
import DriveMap.Machine.Board
import DriveMap.Machine.Table
import DriveMap.Machine.Step
import DriveMap.Proofs.DriveNumbers
import DriveMap.Proofs.LittleEndian
import DriveMap.Proofs.NodeBytes
import DriveMap.Proofs.Reading
import DriveMap.Proofs.Grammar
import DriveMap.Proofs.PathOrder
import DriveMap.Proofs.Children
import DriveMap.Proofs.RosterOrder
import DriveMap.Proofs.RosterView
import DriveMap.Proofs.RosterRuns
import DriveMap.Proofs.Placement
import DriveMap.Proofs.TableSearch
import DriveMap.Proofs.Inquiries
import DriveMap.Proofs.Lookups
import DriveMap.Proofs.RoundTrips
import DriveMap.Proofs.ReportOrder
import DriveMap.Proofs.Aliasing
import DriveMap.Proofs.PathAnswers
import DriveMap.Proofs.PairAnswers
import DriveMap.Proofs.DiskCalls
import DriveMap.Proofs.DiskBytes
import DriveMap.Proofs.Building
import DriveMap.Proofs.RawPaths
import DriveMap.Proofs.Parents
import DriveMap.Proofs.RawRuns
import DriveMap.Proofs.Accounting
import DriveMap.Proofs.Sessions
import DriveMap.Proofs.Naming
import DriveMap.Proofs.Anomalies
import DriveMap.Proofs.DriveAccess
import DriveMap.Proofs.BootImages
import DriveMap.Proofs.Faults
import DriveMap.Proofs.SectorAddresses
import DriveMap.Proofs.TransferEnds
import DriveMap.Proofs.FirstMatch
import DriveMap.Proofs.TableLookups
import DriveMap.Proofs.LiveAnswers
import DriveMap.Proofs.ChildSearch
import DriveMap.Proofs.RosterPlaces
import DriveMap.Proofs.LeafCuts
import DriveMap.Proofs.TypeCuts
import DriveMap.Proofs.MediaFields
import DriveMap.Proofs.Tails
import DriveMap.Proofs.CommonBeginnings
import DriveMap.Proofs.DeviceOrder
import DriveMap.Proofs.LeafPlaces

import Ectobase.Mesh.Supersede
import Ectobase.Mesh.Converge
import Ectobase.Mesh.EdgeView
import Ectobase.Flowplane.NatStoreRuns
import Ectobase.Flowplane.RouteArbitration
import Ectobase.Dispatch.FenceProtocol
import Ectobase.Dispatch.FenceRelease
import Ectobase.Dispatch.BatchBinding
import Ectobase.Dispatch.DrainReport
import Ectobase.Dispatch.SignerDisjoint
import Ectobase.Mesh.VpcRuns
import Ectobase.Mesh.WithdrawAuthz
import Ectobase.Mesh.NicTwins
import Ectobase.Handover.OnePool
import Ectobase.Flowplane.FwEquivalence6
import Ectobase.Flowplane.FwProgrammable
import Ectobase.Flowplane.FwEpoch
import Ectobase.Flowplane.Fragments
import Ectobase.Flowplane.FailClosed
import Ectobase.Handover.TwinIsolation
import Ectobase.Mesh.NatIntent
import Ectobase.Mesh.Converged
import Ectobase.Mesh.NatSupply
import Ectobase.Mesh.PeerImports
import Ectobase.Mesh.RibFence
import Ectobase.Mesh.SessionQueue

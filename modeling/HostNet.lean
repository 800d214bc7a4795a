import HostNet.ApiServer
import HostNet.Host.Drill
import HostNet.Host.Machine
import HostNet.Main
import HostNet.Proofs.Assembly
import HostNet.Proofs.AttributeOrder
import HostNet.Proofs.BestEffort
import HostNet.Proofs.ChainLifecycle
import HostNet.Proofs.CommandLines
import HostNet.Proofs.FilterRefinement
import HostNet.Proofs.Histories
import HostNet.Proofs.Isolation
import HostNet.Proofs.KernelRefinement
import HostNet.Proofs.NodeRouting
import HostNet.Proofs.OutcomeReading
import HostNet.Proofs.InterfaceParameter
import HostNet.Proofs.ParameterRefinement
import HostNet.Proofs.PolicyOrder
import HostNet.Proofs.RouteConfirmation
import HostNet.Proofs.RoutePlaces
import HostNet.Proofs.RouteRequests
import HostNet.Proofs.RuleNaming
import HostNet.Proofs.RuleRace
import HostNet.Proofs.Tiling
import HostNet.Proofs.ToolRuns
import HostNet.Proofs.UnmodelledRules

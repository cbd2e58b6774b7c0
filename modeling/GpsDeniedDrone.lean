import GpsDeniedDrone.PastTime
import GpsDeniedDrone.Streak
import GpsDeniedDrone.Cadence
import GpsDeniedDrone.OrderedRoute
import GpsDeniedDrone.QuaternionRotation
import GpsDeniedDrone.OrthogonalVariance
import GpsDeniedDrone.FrameTransforms
import GpsDeniedDrone.RotationAction
import GpsDeniedDrone.Messages
import GpsDeniedDrone.OdometryBridge
import GpsDeniedDrone.BoundedDeque
import GpsDeniedDrone.StateTfPublisher
import GpsDeniedDrone.FlightTrace
import GpsDeniedDrone.PoseRoundTrip
import GpsDeniedDrone.OffboardControl
import GpsDeniedDrone.ControlLoop
import GpsDeniedDrone.ControlStep
import GpsDeniedDrone.FlightRuns
import GpsDeniedDrone.FlightGrammar
import GpsDeniedDrone.Readings
import GpsDeniedDrone.Handshake
import GpsDeniedDrone.Routes
import GpsDeniedDrone.Faults
import GpsDeniedDrone.DwellTimers
import GpsDeniedDrone.Supervision
import GpsDeniedDrone.Watchdog
import GpsDeniedDrone.Landing
import GpsDeniedDrone.Geofence
import GpsDeniedDrone.FloatCodes
import GpsDeniedDrone.PythonFloat
import GpsDeniedDrone.RegisterLink
import GpsDeniedDrone.AnswerQueue
import GpsDeniedDrone.SetLocalizationSource
import GpsDeniedDrone.ParamConfirmation
import GpsDeniedDrone.MavlinkCodec
import GpsDeniedDrone.ReceiveQueue
import GpsDeniedDrone.LocalizationSwitch
import GpsDeniedDrone.SwitchHistory
import GpsDeniedDrone.Descent
import GpsDeniedDrone.TwoRuns
import GpsDeniedDrone.Missions
import GpsDeniedDrone.RuntimePlans
import GpsDeniedDrone.StaticMission
import GpsDeniedDrone.ClockFree
import GpsDeniedDrone.ValidityBlips
import GpsDeniedDrone.BoundingBox
import GpsDeniedDrone.FenceGeometry
import GpsDeniedDrone.HoverStation
import GpsDeniedDrone.Components
import GpsDeniedDrone.RouteLedger
import GpsDeniedDrone.GoalRelay
import GpsDeniedDrone.Navigation
import GpsDeniedDrone.RequestedFlights
import GpsDeniedDrone.LaunchSystem
import GpsDeniedDrone.Alarms
import GpsDeniedDrone.WorldMarkers
import GpsDeniedDrone.Stamps
import GpsDeniedDrone.RoundedDecisions
import GpsDeniedDrone.VisionBridges
import GpsDeniedDrone.UnheededStatus
import GpsDeniedDrone.Bringup
import GpsDeniedDrone.SwitchedLaunch
import GpsDeniedDrone.CommandedMotion
import GpsDeniedDrone.Headings
import GpsDeniedDrone.PromptSteps
import GpsDeniedDrone.Progress
import GpsDeniedDrone.FlightTime

import Mathlib.Data.Rat.Floor
import GpsDeniedDrone.PastTime
import GpsDeniedDrone.PythonFloat
import GpsDeniedDrone.RegisterLink

/-!
set_localization_source.py: the switch between GPS and vision, one PARAM_SET after the
other over MAVLink, each confirmed by the next PARAM_VALUE that comes in. PX4 keeps a
parameter as the 32-bit word of the wire.
-/
namespace SetLocalizationSource
open PythonFloat PastTime RegisterLink

def sources : List (String × List (String × Int)) :=
  [("gps", [("EKF2_GPS_CTRL", 7), ("EKF2_EV_CTRL", 0)]),
   ("vision", [("EKF2_GPS_CTRL", 0), ("EKF2_EV_CTRL", 5), ("EKF2_NOAID_TOUT", 10000000)])]

def visionLeverArmFrd : List (String × PyFloat) :=
  [("EKF2_EV_POS_X", decimal false 12 2),
   ("EKF2_EV_POS_Y", decimal true 3 2),
   ("EKF2_EV_POS_Z", decimal true 242 3)]

def visionNoiseValues : List (String × PyFloat) :=
  [("EKF2_EVP_NOISE", decimal false 3 1),
   ("EKF2_EVV_NOISE", decimal false 15 2)]

/-- `None` where struct raises. -/
def int32ToMavlinkFloat (value : Int) : Option PyFloat := (packInt value).map unpackFloat

def mavlinkFloatToInt32 (value : PyFloat) : Option Int := (packFloat value).map unpackInt

inductive ParamType where
  | int32 | real32
  deriving DecidableEq

structure ParamSet where
  paramId : String
  paramValue : BitVec 32
  paramType : ParamType
  deriving DecidableEq

/-- As pymavlink hands it over, the name without its padding. -/
structure ParamValue where
  paramId : String
  paramValue : PyFloat
  deriving DecidableEq

/-- A value and with it the sender: `_set_param` or `_set_float_param`. -/
inductive Value where
  | int (value : Int)
  | float (value : PyFloat)
  deriving DecidableEq

structure Param where
  name : String
  value : Value
  deriving DecidableEq

inductive Line where
  | unknownSource (source : String)
  | connecting
  | noHeartbeat
  | connected
  | noAck (name : String)
  | mismatch (asked : Param) (ack : ParamValue)
  | confirmed (param : Param)
  | sourceSet (source : String)
  | failed (source : String)
  deriving DecidableEq

/- `_set_param` and `_set_float_param`, before and after the wait for the answer. -/

def paramSetSend (name : String) (value : Int) : Option ParamSet := do
  let slot ← int32ToMavlinkFloat value
  let word ← packFloat slot
  return ⟨name, word, .int32⟩

def floatParamSetSend (name : String) (value : PyFloat) : Option ParamSet := do
  let word ← packFloat value
  return ⟨name, word, .real32⟩

def confirmParam (name : String) (value : Int) : Option ParamValue → Bool × Line
  | none => (false, .noAck name)
  | some ack =>
    if ack.paramId ≠ name ∨ mavlinkFloatToInt32 ack.paramValue ≠ some value then
      (false, .mismatch ⟨name, .int value⟩ ack)
    else (true, .confirmed ⟨name, .int value⟩)

def confirmFloatParam (name : String) (value : PyFloat) : Option ParamValue → Bool × Line
  | none => (false, .noAck name)
  | some ack =>
    if ack.paramId ≠ name ∨ exceeds (absDiff ack.paramValue value) (1 / 10000) then
      (false, .mismatch ⟨name, .float value⟩ ack)
    else (true, .confirmed ⟨name, .float value⟩)

def Param.send (p : Param) : Option ParamSet :=
  match p.value with
  | .int value => paramSetSend p.name value
  | .float value => floatParamSetSend p.name value

def Param.confirm (p : Param) (ack : Option ParamValue) : Bool × Line :=
  match p.value with
  | .int value => confirmParam p.name value ack
  | .float value => confirmFloatParam p.name value ack

/-- What the three loops of `set_localization_source` go through. An empty dictionary
    is false in Python, so it falls back to the default as None does. -/
def profile (source : String) (ints : List (String × Int))
    (leverArmFrd : List (String × PyFloat)) : List Param :=
  ints.map (fun p => ⟨p.1, .int p.2⟩) ++
    if source = "vision" then
      ((if leverArmFrd = [] then visionLeverArmFrd else leverArmFrd) ++ visionNoiseValues).map
        fun p => ⟨p.1, .float p.2⟩
    else []

/-- The three values of `--ev-pos-x`, `--ev-pos-y` and `--ev-pos-z`. -/
structure LeverArm where
  x : PyFloat
  y : PyFloat
  z : PyFloat

def LeverArm.frd (arm : LeverArm) : List (String × PyFloat) :=
  [("EKF2_EV_POS_X", arm.x), ("EKF2_EV_POS_Y", arm.y), ("EKF2_EV_POS_Z", arm.z)]

def leverArmFrd : Option LeverArm → List (String × PyFloat)
  | none => []
  | some arm => arm.frd

/- The call, cut at the points where it waits for the link. -/

inductive Phase where
  | connecting
  | deciding
  | awaiting (param : Param)
  | returned (ok : Bool)
  | raised
  deriving DecidableEq

structure Call where
  source : String
  phase : Phase
  pending : List Param
  ok : Bool
  deriving DecidableEq

inductive Output where
  | log (line : Line)
  | sent (msg : ParamSet)
  deriving DecidableEq

/-- Up to the wait for the heartbeat. -/
def setLocalizationSource (source : String) (leverArmFrd : List (String × PyFloat)) :
    Call × List Output :=
  match sources.lookup source with
  | none => (⟨source, .returned false, [], false⟩, [.log (.unknownSource source)])
  | some ints =>
    (⟨source, .connecting, profile source ints leverArmFrd, true⟩, [.log .connecting])

def Call.connect (c : Call) (heartbeat : Bool) : Call × List Output :=
  if heartbeat then ({ c with phase := .deciding }, [.log .connected])
  else ({ c with phase := .returned false }, [.log .noHeartbeat])

/-- The next parameter is sent, or the loops are over. -/
def Call.proceed (c : Call) : Call × List Output :=
  match c.pending with
  | [] =>
    ({ c with phase := .returned c.ok },
      [.log (if c.ok then .sourceSet c.source else .failed c.source)])
  | param :: pending =>
    match param.send with
    | none => ({ c with phase := .raised }, [])
    | some msg => ({ c with phase := .awaiting param, pending := pending }, [.sent msg])

/-- `ok = _set_param(conn, name, value) and ok`, once the wait is over. -/
def Call.answer (c : Call) (param : Param) (ack : Option ParamValue) : Call × List Output :=
  let (good, line) := param.confirm ack
  ({ c with phase := .deciding, ok := good && c.ok }, [.log line])

/- The call and the link to PX4. -/

structure System where
  call : Call
  link : Link String (BitVec 32)

inductive Action where
  | heartbeat (came : Bool)
  | proceed
  | serve (name : String) (word : BitVec 32)
  | report (name : String)
  | receive (name : String) (word : BitVec 32)
  | timeout
  deriving DecidableEq

def Link.submit (l : Link String (BitVec 32)) (out : List Output) : Link String (BitVec 32) :=
  out.foldl (fun l o =>
    match o with
    | .sent msg => l.request msg.paramId msg.paramValue
    | .log _ => l) l

/-- An action that is not possible in a state leaves it as it is. -/
def step (s : System) (a : Action) : System × List Output :=
  match a with
  | .heartbeat came =>
    if s.call.phase = .connecting then
      let (call, out) := s.call.connect came
      (⟨call, s.link⟩, out)
    else (s, [])
  | .proceed =>
    if s.call.phase = .deciding then
      let (call, out) := s.call.proceed
      (⟨call, Link.submit s.link out⟩, out)
    else (s, [])
  | .serve name word =>
    if (name, word) ∈ s.link.requests then ({ s with link := s.link.serve name word }, [])
    else (s, [])
  | .report name => ({ s with link := s.link.report name }, [])
  | .receive name word =>
    match s.call.phase with
    | .awaiting param =>
      if (name, word) ∈ s.link.reports then
        let (call, out) := s.call.answer param (some ⟨name, unpackFloat word⟩)
        (⟨call, s.link⟩, out)
      else (s, [])
    | _ => (s, [])
  | .timeout =>
    match s.call.phase with
    | .awaiting param =>
      let (call, out) := s.call.answer param none
      (⟨call, s.link⟩, out)
    | _ => (s, [])

def switch (source : String) (arm : Option LeverArm) (start : String → BitVec 32) :
    Machine System Action Output :=
  ⟨⟨(setLocalizationSource source (leverArmFrd arm)).1, Link.idle start⟩, step⟩

end SetLocalizationSource

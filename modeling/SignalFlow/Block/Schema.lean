import SignalFlow.Block.Kind
import SignalFlow.Value

/-! # What a kind of block offers

The parameters of each kind with their defaults (`Kind.parameters`) and what an editor shows of it:
its name, category, color and description.
-/

namespace SignalFlow

/-- What a parameter's value becomes. -/
inductive ParameterType where
  | float | int | list | string
deriving DecidableEq

/-- The name of a parameter type. -/
def ParameterType.name : ParameterType → String
  | .float => "float"
  | .int => "int"
  | .list => "list"
  | .string => "string"

/-- A parameter of a block. -/
structure Parameter where
  name : String
  type : ParameterType
  initial : Value
  doc : String

namespace Parameter

/-- A parameter that is a number. -/
def number (name : String) (initial : Float) (doc : String) : Parameter :=
  ⟨name, .float, .float initial, doc⟩

/-- A parameter that is a list of coefficients. -/
def coefficients (name : String) (initial : List Float) (doc : String) : Parameter :=
  ⟨name, .list, .list (initial.map .float), doc⟩

/-- A parameter that is a text. -/
def text (name initial doc : String) : Parameter :=
  ⟨name, .string, .text initial, doc⟩

/-- The description of a sample period. -/
def samplePeriodDoc : String := "Sample period in seconds (0 = global step, minimum 0.001)."

/-- The sample period of a clocked block. -/
def samplePeriod (initial : Float) : Parameter := number "ts" initial samplePeriodDoc

/-- The coefficients of a scalar state-space model. -/
def stateSpace (a : Float) : List Parameter :=
  [number "A" a "State coefficient.", number "B" 1.0 "Input coefficient.",
   number "C" 1.0 "Output coefficient.", number "D" 0.0 "Feedthrough coefficient."]

/-- The name of a signal bus. -/
def signalName : Parameter := text "name" "" "Signal name (defaults to the block id)."

/-- The cutoff frequency of a filter. -/
def cutoff : Parameter := number "cutoff" 1.0 "Cutoff frequency in Hz."

end Parameter

namespace Kind

open Parameter

/-- The parameters of a kind, in the order in which they are resolved. -/
def parameters : Kind → List Parameter
  | .constant => [number "value" 1.0 "Constant output value."]
  | .step => [number "stepTime" 1.0 "Time at which the step occurs."]
  | .ramp => [number "slope" 1.0 "Rate of change (units/sec).",
      number "start" 0.0 "Start time of the ramp."]
  | .impulse => [number "time" 0.0 "Time of the impulse.", number "amp" 1.0 "Impulse area."]
  | .sine => [number "amp" 1.0 "Amplitude of the sine wave.", number "freq" 1.0 "Frequency in Hz.",
      number "phase" 0.0 "Phase shift in radians."]
  | .chirp => [number "amp" 1.0 "Amplitude.", number "f0" 1.0 "Start frequency in Hz.",
      number "f1" 5.0 "Frequency reached at t1, in Hz.",
      number "t1" 10.0 "Sweep duration in seconds."]
  | .noise => [number "amp" 1.0 "Noise amplitude.",
      ⟨"seed", .int, .int 1, "Initial generator state."⟩]
  | .gain => [number "gain" 1.0 "Multiplication factor."]
  | .sum => [⟨"signs", .list, .list [.int 1, .int 1, .int 1], "Sign per input port."⟩]
  | .saturation => [number "min" (-1.0) "Lower saturation limit.",
      number "max" 1.0 "Upper saturation limit."]
  | .switch => [number "threshold" 0.0 "Control threshold.",
      text "condition" "ge" "'ge', 'gt' or 'ne'."]
  | .integrator => [number "initial" 0.0 "Initial condition."]
  | .delay => [number "delay" 0.1 "Delay time τ in seconds."]
  | .rate => [number "rise" 1.0 "Maximum rising rate.", number "fall" 1.0 "Maximum falling rate."]
  | .backlash => [number "width" 1.0 "Total dead-band width."]
  | .lpf => [cutoff]
  | .hpf => [cutoff]
  | .pid => [number "kp" 1.0 "Proportional gain.", number "ki" 0.0 "Integral gain.",
      number "kd" 0.0 "Derivative gain."]
  | .tf => [coefficients "num" [1.0] "Numerator coefficients (descending powers of s).",
      coefficients "den" [1.0, 1.0] "Denominator coefficients (descending powers of s)."]
  | .stateSpace => Parameter.stateSpace (-1.0)
  | .ddelay => [⟨"steps", .float, .int 1, "Delay length in samples."⟩, samplePeriod 0.1]
  | .zoh => [samplePeriod 0.0]
  | .foh => [samplePeriod 0.0]
  | .dtf => [coefficients "num" [1.0] "Numerator coefficients (descending powers of z).",
      coefficients "den" [1.0, -0.5] "Denominator coefficients (descending powers of z).",
      samplePeriod 0.0]
  | .dstateSpace => Parameter.stateSpace 0.5 ++ [samplePeriod 0.0]
  | .labelSource => [signalName]
  | .labelSink => [signalName]
  | .scope => [text "labels" "" "Trace label (defaults to the block id)."]
  | .fileSink => [text "filename" "" "Suggested output file name."]
  | .mult | .derivative | .unsupported => []

/-- The value of a parameter: the one given, or the initial one. -/
def parameter (kind : Kind) (given : List (String × Value)) (name : String) : Value :=
  match Entries.get? given name with
  | some value => value
  | none => ((kind.parameters.find? (·.name == name)).map (·.initial)).getD .null

/-- The name of a kind in an editor. -/
def title : Kind → String
  | .constant => "Constant"
  | .step => "Step"
  | .ramp => "Ramp"
  | .impulse => "Impulse"
  | .sine => "Sine"
  | .chirp => "Chirp"
  | .noise => "Noise"
  | .gain => "Gain"
  | .sum => "Sum"
  | .mult => "Product"
  | .saturation => "Saturation"
  | .switch => "Switch"
  | .integrator => "Integrator"
  | .derivative => "Deriv"
  | .delay => "TransportDelay"
  | .rate => "RateLimiter"
  | .backlash => "Backlash"
  | .lpf => "LowPass"
  | .hpf => "HighPass"
  | .pid => "PID"
  | .tf => "TranFn"
  | .stateSpace => "StateSpace"
  | .ddelay => "Delay"
  | .zoh => "ZeroOrderHold"
  | .foh => "FirstOrderHold"
  | .dtf => "DiscreteTranFn"
  | .dstateSpace => "DiscreteStateSpace"
  | .labelSource => "From"
  | .labelSink => "Goto"
  | .scope => "Scope"
  | .fileSink => "Export"
  | .unsupported => "Unsupported"

/-- The group in which an editor lists a kind. -/
def category : Kind → String
  | .constant | .step | .ramp | .impulse | .sine | .chirp | .noise => "Sources"
  | .gain | .sum | .mult | .derivative => "Math"
  | .saturation | .backlash => "Nonlinear"
  | .switch | .labelSource | .labelSink => "Routing"
  | .integrator | .delay | .rate | .pid | .tf | .stateSpace | .dtf | .dstateSpace => "Control"
  | .lpf | .hpf => "Filters"
  | .ddelay | .zoh | .foh => "Discrete"
  | .scope | .fileSink => "Sinks"
  | .unsupported => "Other"

/-- The color of a kind in an editor. -/
def color : Kind → String
  | .constant => "green"
  | .step | .ramp | .impulse | .sine | .chirp | .noise => "blue"
  | .gain => "yellow"
  | .sum | .mult | .derivative => "lime_green"
  | .switch | .labelSource | .labelSink => "orange"
  | .delay | .lpf | .hpf => "cyan"
  | .saturation | .backlash | .integrator | .rate | .pid | .tf | .stateSpace | .dtf
  | .dstateSpace => "magenta"
  | .ddelay | .zoh | .foh => "purple"
  | .scope | .fileSink => "red"
  | .unsupported => "gray"

/-- Whether an unconnected input of a kind is worth reporting. -/
def requiresInputs (kind : Kind) : Bool :=
  kind.category != "Sources" && !kind.inputs.isEmpty

/-- Whether a kind has no parameter values that are limited or derived from others. -/
def hasPlainParameters : Kind → Bool
  | .chirp | .noise | .sum | .switch | .delay | .rate | .backlash | .lpf | .hpf | .tf | .ddelay
  | .zoh | .foh | .dtf | .dstateSpace => false
  | _ => true

/-- The group of an input port, if it belongs to one. -/
def inputGroup? (kind : Kind) (port : String) : Option String :=
  if kind == .switch && port == "ctrl" then some "control" else none

/-- What a kind does, in the words an editor shows. -/
def doc : Kind → String
  | .constant =>
      "Outputs a constant value.\n\nParameters:\n" ++
      "- Value: The constant output value (number or expression).\n\nUsage:\n" ++
      "Useful for setpoints, constant parameters, or biasing a signal."
  | .step =>
      "Step Input.\n\nOutputs 0.0 for t < Step Time and 1.0 afterwards.\n\nUsage:\n" ++
      "Testing system response (step response), setpoint changes."
  | .ramp =>
      "Ramp Signal.\n\ny(t) = slope * (t - start) for t >= start, else 0.\n\nParameters:\n" ++
      "- Slope: Rate of change (units/sec).\n- Start: Time at which the ramp begins."
  | .sine =>
      "Sine Wave Generator.\n\ny(t) = Amplitude * sin(2*pi*Frequency*t + Phase)\n\n" ++
      "Parameters:\n- Amplitude: Peak value.\n- Frequency: Oscillation frequency in Hz.\n" ++
      "- Phase: Phase shift in radians."
  | .chirp =>
      "Chirp (swept sine).\n\n" ++
      "y(t) = amp * sin(2*pi*(f0*t + 0.5*k*t^2)), k = (f1 - f0) / t1\n\n" ++
      "The sweep keeps going past t1 at the same rate.\n\nUsage:\n" ++
      "Frequency response identification."
  | .noise =>
      "Uniform Noise Generator.\n\nOutputs amp * u with u uniform in [-1, 1], advancing a\n" ++
      "linear congruential generator once per tick.\n\nParameters:\n" ++
      "- Amplitude: Peak noise value.\n" ++
      "- Seed: Initial generator state (same seed, same sequence)."
  | .gain =>
      "Scalar Gain.\n\ny = gain * u\n\nUsage:\n" ++
      "Amplify or attenuate signals, controller proportional terms."
  | .mult =>
      "Multiplies its input signals.\n\ny = u1 * u2 * u3\n\nUsage:\n" ++
      "Signal modulation, gain scheduling, power computation."
  | .saturation =>
      "Clips the input signal to specified min/max limits."
  | .switch =>
      "Passes the first input when the control input satisfies the\n" ++
      "condition against the threshold, otherwise the third input.\n\n" ++
      "Conditions: ge (u2 >= threshold), gt (u2 > threshold), ne (u2 != threshold)."
  | .integrator =>
      "Integrates the input signal over time."
  | .derivative =>
      "Time Derivative (du/dt).\n\n" ++
      "Backward difference (u - u_prev) / dt, published one tick\n" ++
      "later so the block never forms a zero-delay path.\n\nWarning:\n" ++
      "Derivative is sensitive to noise. Use with a low-pass filter if possible."
  | .delay =>
      "Transport Delay / Time Delay.\n\n" ++
      "Delays the input signal by a specified time amount.\n" ++
      "y(t) = u(t - Delay), 0 before the delay has elapsed.\n\nParameters:\n" ++
      "- Delay: Amount of delay in seconds, rounded to whole steps (minimum one).\n\n" ++
      "Usage:\nModels pipe flow, conveyor belts, or communication latency."
  | .rate =>
      "Rate Limiter.\n\nLimits the rate of change (slope) of the input signal.\n\n" ++
      "Parameters:\n- Rise: Max positive slope (units/sec), negative values count as 0.\n" ++
      "- Fall: Max negative slope magnitude (units/sec), negative values count as 0.\n\n" ++
      "Usage:\nPrevents abrupt changes in control signals or models actuator speed limits."
  | .backlash =>
      "Backlash (play).\n\nThe output stays put while the input moves inside a band of\n" ++
      "the given width around it, then is dragged along at the band edge.\n\nUsage:\n" ++
      "Gear play, loose linkages."
  | .pid =>
      "PID Controller.\n\nu = Kp*e + Ki*∫e dt + Kd*de/dt\n\nParameters:\n" ++
      "- Kp: Proportional gain.\n- Ki: Integral gain.\n" ++
      "- Kd: Derivative gain (backward difference).\n\n" ++
      "Input: error signal. Output: control action, one tick behind."
  | .tf =>
      "Continuous Transfer Function.\n\nH(s) = num(s) / den(s)\n\nParameters:\n" ++
      "- Numerator: Coefficients in descending powers of s. Example: [1] for 1.\n" ++
      "- Denominator: Coefficients in descending powers of s. Example: [1, 1] for s + 1.\n" ++
      "\nUsage:\nModel linear time-invariant (LTI) systems: motors, filters, plants."
  | .stateSpace =>
      "Continuous State-Space Model (scalar).\n\nx' = A*x + B*u\ny  = C*x + D*u\n\n" ++
      "The state is advanced with forward Euler each step."
  | .ddelay =>
      "Discrete Delay (z^-N).\n\n" ++
      "Shifts the sampled input through N slots, one per sample period.\n\nParameters:\n" ++
      "- Steps: Number of sample periods of delay (minimum 1).\n" ++
      "- ts: Sample period (default 0.1 s)."
  | .zoh =>
      "Zero-Order Hold.\n\nSamples the input when the sample clock fires and holds it\n" ++
      "constant until the next sample.\n\nUsage:\n" ++
      "Model a D/A converter or a sampled measurement."
  | .dtf =>
      "Discrete Transfer Function.\n\n" ++
      "H(z) = num(z) / den(z), coefficients in descending powers of z.\n\n" ++
      "y[k] = sum(b_i*u[k-i]) - sum(a_j*y[k-j])\n\nThe output is held between samples."
  | .dstateSpace =>
      "Discrete State-Space Model (scalar).\n\nx[k+1] = A*x[k] + B*u[k]\n" ++
      "y[k]   = C*x[k+1] + D*u[k]\n\n" ++
      "Evaluated when the sample clock fires; the output is held between samples."
  | .labelSource =>
      "Receives the signal published by a Goto (label sink) with the same name, " ++
        "or an external input."
  | .labelSink =>
      "Publishes its input under a name, as a diagram output and for From blocks " ++
        "with the same name."
  | .scope =>
      "Displays input signals on a plot."
  | .fileSink =>
      "Captures the input signal as a trace.\n\n" ++
      "The trace is part of the simulation result; `diagsim run --traces`\n" ++
      "writes all captured traces to a CSV file."
  | _ => ""

end Kind

end SignalFlow

import AquariumControl.Rule.Schedule
import AquariumControl.Rule.Thermostat
import AquariumControl.Rule.TopUp

/-!
# The standard rules

The three rules that the program brings along, as one type, so that they can stand in one
registry.
-/

set_option autoImplicit false

namespace AquariumControl

/-- A thermostat, a top-up rule or a schedule. -/
inductive StandardRule
  | thermostat (r : Thermostat)
  | topUp (r : TopUp)
  | schedule (r : Schedule)

namespace StandardRule

def kind : StandardRule → RuleKind
  | .thermostat _ => .thermostat
  | .topUp _ => .topUp
  | .schedule _ => .schedule

def run (rule : StandardRule) (s : Situation) : Command (RunStatus × StandardRule) :=
  match rule with
  | .thermostat r => do
    let (status, r') ← r.run s
    pure (status, .thermostat r')
  | .topUp r => do
    let (status, r') ← r.run s
    pure (status, .topUp r')
  | .schedule r => do
    let (status, r') ← r.run s
    pure (status, .schedule r')

def save (rule : StandardRule) (capacity : Nat) : Except CodecError Block :=
  match rule with
  | .thermostat r => Rule.save r capacity
  | .topUp r => Rule.save r capacity
  | .schedule r => Rule.save r capacity

def load (rule : StandardRule) (bytes : List UInt8) : Except CodecError (StandardRule × Nat) :=
  match rule with
  | .thermostat r => (Rule.load r bytes).map fun (r', used) => (.thermostat r', used)
  | .topUp r => (Rule.load r bytes).map fun (r', used) => (.topUp r', used)
  | .schedule r => (Rule.load r bytes).map fun (r', used) => (.schedule r', used)

def reset : StandardRule → StandardRule
  | .thermostat r => .thermostat r.reset
  | .topUp r => .topUp r.reset
  | .schedule r => .schedule r.reset

instance : Rule StandardRule where
  kind := StandardRule.kind
  run := StandardRule.run
  save := StandardRule.save
  load := StandardRule.load
  reset := StandardRule.reset

end StandardRule

end AquariumControl

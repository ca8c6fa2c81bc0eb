import AquariumControl.Device.Sensor

/-!
# Bench probes

A sensor without hardware behind it: it gives the answer it was told to give.
-/

set_option autoImplicit false

namespace AquariumControl

/-- A sensor with a given answer. -/
structure Probe where
  answer : Except SensorError Binary64

namespace Probe

/-- A probe that does not respond. -/
def silent : Probe := ⟨.error .probeNoResponse⟩

instance : Sensor Probe where
  kind := fun _ => .custom
  read := fun p => (p.answer, p)

end Probe

end AquariumControl

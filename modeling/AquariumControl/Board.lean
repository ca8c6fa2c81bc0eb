import AquariumControl.Journal

/-!
# The board without hardware

Off the board there is no converter and no hardware timer.  Starting them succeeds and is only
reported; ticks have to be raised by hand.
-/

set_option autoImplicit false

namespace AquariumControl

namespace Board

/-- The pins of the eight switched outlets. -/
def outletPins : List Nat := [4, 5, 6, 7, 15, 16, 17, 18]

/-- The pin of the float switch. -/
def levelSwitchPin : Nat := 8

/-- The pin that dims the light. -/
def lightPin : Nat := 10

/-- The frequency of the light's dimming signal in hertz. -/
def lightFrequency : Nat := 1000

/-- Starts the converter for a number of channels. -/
def startConverter (channels : Nat) : Except ConverterError Unit × Journal :=
  (.ok (), [.notice (.converterSimulated channels)])

/-- Starts the control timer; answers whether it runs. -/
def startTimer (periodMs : Nat) : Bool × Journal :=
  (true, [.notice (.timerSimulated periodMs)])

end Board

end AquariumControl

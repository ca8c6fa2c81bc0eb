import AquariumControl.Assignment
import AquariumControl.Device.Sensor
import AquariumControl.TimeOfDay

/-!
# Commands of a rule

A rule does not touch the actuators itself.  It is given a `Situation` and answers with a
`Command`: a program of questions and switching commands, in which later steps may depend on
earlier answers.  `Command.perform` carries the program out on a `Plant` on behalf of one
controller.  This is where it is decided that a controller moves its own actuators only
(`Plant.switch`).
-/

set_option autoImplicit false

namespace AquariumControl

/-- What a rule knows when it is run: who it is, the readings, and the time. -/
structure Situation where
  controller : SlotId
  readings : Readings
  /-- Milliseconds since the start, modulo `2 ^ 64`. -/
  uptime : UInt64
  /-- The wall clock, if it is set. -/
  timeOfDay : Option TimeOfDay

/-! ## Programs -/

/-- A program that asks about actuators and switches them, and ends with a value. -/
inductive Command (α : Type)
  | done (a : α)
  /-- Switch one actuator; the answer is whether it accepted the command. -/
  | switchThen (actuator : SlotId) (on : Bool) (next : Bool → Command α)
  /-- Switch every assigned actuator; the answer is how many accepted the command. -/
  | switchAllThen (on : Bool) (next : Nat → Command α)
  /-- Ask whether an actuator is this controller's. -/
  | ownsThen (actuator : SlotId) (next : Bool → Command α)
  /-- Ask for the state of any actuator. -/
  | isOnThen (actuator : SlotId) (next : Option Bool → Command α)
  /-- Ask for the places of all assigned actuators. -/
  | assignedThen (next : List SlotId → Command α)
  /-- Put a line into the log. -/
  | noteThen (notice : Notice) (next : Command α)

namespace Command

variable {α β : Type}

/-- Runs one program after the other, the second depending on the value of the first. -/
def bind : Command α → (α → Command β) → Command β
  | .done a, f => f a
  | .switchThen id on next, f => .switchThen id on fun ok => bind (next ok) f
  | .switchAllThen on next, f => .switchAllThen on fun n => bind (next n) f
  | .ownsThen id next, f => .ownsThen id fun b => bind (next b) f
  | .isOnThen id next, f => .isOnThen id fun b => bind (next b) f
  | .assignedThen next, f => .assignedThen fun ids => bind (next ids) f
  | .noteThen n next, f => .noteThen n (bind next f)

instance : Monad Command where
  pure := Command.done
  bind := Command.bind

def switch (actuator : SlotId) (on : Bool) : Command Bool := .switchThen actuator on .done

def switchAll (on : Bool) : Command Nat := .switchAllThen on .done

def owns (actuator : SlotId) : Command Bool := .ownsThen actuator .done

def isOn (actuator : SlotId) : Command (Option Bool) := .isOnThen actuator .done

def assigned : Command (List SlotId) := .assignedThen .done

def note (n : Notice) : Command Unit := .noteThen n (.done ())

theorem bind_done (c : Command α) : bind c .done = c := by
  induction c with
  | done a => rfl
  | switchThen id on next ih => simp only [bind, ih]
  | switchAllThen on next ih => simp only [bind, ih]
  | ownsThen id next ih => simp only [bind, ih]
  | isOnThen id next ih => simp only [bind, ih]
  | assignedThen next ih => simp only [bind, ih]
  | noteThen n next ih => simp only [bind, ih]

theorem bind_bind {γ : Type} (c : Command α) (f : α → Command β) (g : β → Command γ) :
    bind (bind c f) g = bind c fun a => bind (f a) g := by
  induction c with
  | done a => rfl
  | switchThen id on next ih => simp only [bind, ih]
  | switchAllThen on next ih => simp only [bind, ih]
  | ownsThen id next ih => simp only [bind, ih]
  | isOnThen id next ih => simp only [bind, ih]
  | assignedThen next ih => simp only [bind, ih]
  | noteThen n next ih => simp only [bind, ih]

instance : LawfulMonad Command :=
  LawfulMonad.mk' Command bind_done (fun _ _ => rfl) bind_bind

end Command

/-! ## Carrying programs out -/

/-- Switches recorded per cycle.  Later ones still happen, but are not reported. -/
def switchLogCapacity : Nat := 32

/-- What rules act on: the actuators, the switches made so far, and what was reported. -/
structure Plant (δ : Type) where
  actuators : Actuators δ
  switches : List Switch
  journal : Journal

namespace Plant

variable {δ : Type}

/-- Whether a controller may command an actuator. -/
def owns (p : Plant δ) (controller actuator : SlotId) : Bool :=
  match p.actuators.get? actuator with
  | none => false
  | some slot => slot.controller == controller

/-- Records a switch while there is room. -/
def record (log : List Switch) (s : Switch) : List Switch :=
  if log.length < switchLogCapacity then log ++ [s] else log

variable [Actuator δ]

/-- Switches one actuator on behalf of a controller.  The answer is `false` if the actuator is not
the controller's, or if its driver failed. -/
def switch (p : Plant δ) (controller actuator : SlotId) (on : Bool) : Bool × Plant δ :=
  match p.actuators.get? actuator with
  | none => (false, p)
  | some slot =>
    if slot.controller = controller then
      let done := slot.switch on
      let p' : Plant δ := { p with
        actuators := p.actuators.modify actuator fun _ => done.state
        journal := p.journal ++ done.journal }
      match done.answer with
      | .ok changed =>
        if changed then
          (true, { p' with switches := record p.switches ⟨actuator, controller, on⟩ })
        else
          (true, p')
      | .error e =>
        (false, { p' with
          journal := p'.journal ++ [.notice (.actuatorFailed slot.label slot.name e)] })
    else
      (false, { p with journal := p.journal ++ [.notice (.notOwned slot.label controller)] })

/-- Switches every actuator of a controller, in ascending order of their places. -/
def switchAll (p : Plant δ) (controller : SlotId) (on : Bool) : Nat × Plant δ :=
  (p.actuators.assignedIds controller).foldl
    (fun (count, p) id =>
      let (ok, p') := p.switch controller id on
      (if ok then count + 1 else count, p'))
    (0, p)

end Plant

/-- Carries a program out on behalf of a controller. -/
def Command.perform {α δ : Type} [Actuator δ] (controller : SlotId) :
    Command α → Plant δ → α × Plant δ
  | .done a, p => (a, p)
  | .switchThen id on next, p =>
    let (ok, p') := p.switch controller id on
    (next ok).perform controller p'
  | .switchAllThen on next, p =>
    let (count, p') := p.switchAll controller on
    (next count).perform controller p'
  | .ownsThen id next, p => (next (p.owns controller id)).perform controller p
  | .isOnThen id next, p =>
    (next ((p.actuators.get? id).map ActuatorSlot.isOn)).perform controller p
  | .assignedThen next, p => (next (p.actuators.assignedIds controller)).perform controller p
  | .noteThen n next, p =>
    next.perform controller { p with journal := p.journal ++ [.notice n] }

/-! ## Rules -/

/-- The kinds of rule a record can describe. -/
inductive RuleKind
  | thermostat
  | topUp
  | schedule
  | custom
deriving DecidableEq

/-- The stored form of the kind. -/
def RuleKind.tag : RuleKind → UInt8
  | .thermostat => 1
  | .topUp => 2
  | .schedule => 3
  | .custom => 0xF0

/-- How a run of a rule ended. -/
inductive RunStatus
  /-- The rule was evaluated. -/
  | ran
  /-- Something that the rule needs is missing; it touched nothing. -/
  | skipped
  /-- The rule has stopped and waits for a reset. -/
  | latched
deriving DecidableEq

def RunStatus.word : RunStatus → String
  | .ran => "Ran"
  | .skipped => "Skipped"
  | .latched => "Latched"

/-- A control rule. -/
class Rule (ρ : Type) where
  kind : ρ → RuleKind
  /-- Evaluates the rule once. -/
  run : ρ → Situation → Command (RunStatus × ρ)
  /-- Writes the parameters and the latched state into a buffer of the given capacity. -/
  save : ρ → Nat → Except CodecError Block
  /-- Takes parameters from bytes; says how many it used. -/
  load : ρ → List UInt8 → Except CodecError (ρ × Nat)
  /-- Drops what the rule has latched. -/
  reset : ρ → ρ := fun r => r

/-- The most controllers that can be registered. -/
def controllerCapacity : Nat := 8

/-- A rule in the registry. -/
structure ControllerSlot (ρ : Type) where
  name : Name
  /-- The place it was labelled with; none before it is registered. -/
  place : SlotId
  rule : ρ

/-- All controllers. -/
abbrev Controllers (ρ : Type) := Registry (ControllerSlot ρ) controllerCapacity

/-- No controllers. -/
def Controllers.empty {ρ : Type} : Controllers ρ := Registry.empty (by decide)

namespace ControllerSlot

variable {ρ : Type}

/-- A controller that is not registered yet. -/
def fresh (name : String) (rule : ρ) : ControllerSlot ρ :=
  ⟨Name.ofString name, .unassigned, rule⟩

def label (s : ControllerSlot ρ) : Label :=
  ⟨.controller, s.place⟩

variable [Rule ρ]

def kind (s : ControllerSlot ρ) : RuleKind :=
  Rule.kind s.rule

end ControllerSlot

end AquariumControl

import AquariumControl.Scheduler

/-!
# Bench uplinks

An uplink that gives the answer it was told to give, and what a journal looks like to those who
watch the bench: the lines of the log, the events, and the batches that were accepted.
-/

set_option autoImplicit false

namespace AquariumControl

/-- How the uplink answers. -/
inductive UplinkMode
  | accept
  /-- Accepts, and prints the samples into the log as well. -/
  | print
  | offline
  | reject
deriving DecidableEq

namespace UplinkMode

def uplink (mode : UplinkMode) : Uplink := fun _ =>
  match mode with
  | .accept | .print => .ok ()
  | .offline => .error .offline
  | .reject => .error .rejected

/-- What the uplink itself puts into the log. -/
def notices (mode : UplinkMode) (batch : List Sample) : List Notice :=
  match mode with
  | .print => Telemetry.printed batch
  | .accept | .offline | .reject => []

end UplinkMode

/-- The lines of one entry, with events in the log at the moment they arise. -/
def Entry.lines (mode : UplinkMode) : Entry → List LogLine
  | .notice n => [n.line]
  | .event e => [e.line]
  | .offer batch _ => (mode.notices batch).map Notice.line

namespace Journal

def lines (mode : UplinkMode) (j : Journal) : List LogLine :=
  j.flatMap (Entry.lines mode)

def events (j : Journal) : List Event :=
  j.filterMap fun
    | .event e => some e
    | _ => none

theorem events_append (j k : Journal) : events (j ++ k) = events j ++ events k :=
  List.filterMap_append

/-- The batches that the uplink accepted. -/
def accepted (j : Journal) : List (List Sample) :=
  j.filterMap fun
    | .offer batch (.ok ()) => some batch
    | _ => none

end Journal

end AquariumControl

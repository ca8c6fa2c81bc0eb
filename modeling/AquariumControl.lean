import AquariumControl.Aquarium.Status
import AquariumControl.Bench.Rig
import AquariumControl.Bench.Stand
import AquariumControl.Board
import AquariumControl.Proofs.Accounting
import AquariumControl.Proofs.Capacity
import AquariumControl.Proofs.Confinement
import AquariumControl.Proofs.Dimming
import AquariumControl.Proofs.FailedSaves
import AquariumControl.Proofs.Interchange
import AquariumControl.Proofs.Isolation
import AquariumControl.Proofs.Names
import AquariumControl.Proofs.Occupancy
import AquariumControl.Proofs.Ownership
import AquariumControl.Proofs.Pacing
import AquariumControl.Proofs.Permission
import AquariumControl.Proofs.Printing
import AquariumControl.Proofs.Provenance
import AquariumControl.Proofs.Reloading
import AquariumControl.Proofs.Restart
import AquariumControl.Proofs.RoundTrip
import AquariumControl.Proofs.Schedule.Arcs
import AquariumControl.Proofs.Schedule.Sharing
import AquariumControl.Proofs.Spelling
import AquariumControl.Proofs.SwitchLog
import AquariumControl.Proofs.Thermostat.Lending
import AquariumControl.Proofs.Thermostat.Settling
import AquariumControl.Proofs.TopUp.Pumping
import AquariumControl.Proofs.TopUp.Uptime
import AquariumControl.Proofs.Truncation

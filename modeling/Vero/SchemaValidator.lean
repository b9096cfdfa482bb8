import Vero.ValidatorStatusTrackerService

/-!
The statuses validators are looked for by, and a validator as the beacon node tells of it.
-/

namespace Vero.SchemaValidator

open SchemaBeaconAPI

def pendingStatuses : List ValidatorStatus := [.pendingInitialized, .pendingQueued]

def activeStatuses : List ValidatorStatus := [.activeOngoing, .activeExiting, .activeSlashed]

def exitedStatuses : List ValidatorStatus := [.exitedUnslashed, .exitedSlashed]

def withdrawalStatuses : List ValidatorStatus := [.withdrawalPossible, .withdrawalDone]

def slashedStatuses : List ValidatorStatus := [.activeSlashed, .exitedSlashed]

structure ValidatorIndexPubkey extends ValidatorStatusTrackerService.ValidatorIndexPubkey where
  status : ValidatorStatus
  deriving DecidableEq

end Vero.SchemaValidator

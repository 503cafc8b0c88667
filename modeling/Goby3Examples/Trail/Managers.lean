/-
The three managers, `auv_manager.cpp`, `usv_manager.cpp` and `topside_manager.cpp`.

A manager is what its constructor registers: one handler for the vehicle's own
status, and a list of subscriptions to reports from other modems.  A handler
returns what it publishes.

Which report reaches which subscription is Goby's doing, and the part of it the
managers rely on is `Subscription.Accepts`: the sender is one of the publishers
asked for, and the subscriber's own function finds the report in the group.
-/
import Goby3Examples.Trail.Config
import Goby3Examples.Trail.Nav

namespace Trail

/-- What a manager publishes. -/
inductive Output
  /-- On the links, after `nav_publisher`'s hook. -/
  | intervehicle (nav : NavigationReport)
  /-- On the interprocess layer, as `frontseat::groups::node_status`. -/
  | nodeStatus (status : NodeStatus)
  /-- On the interprocess layer, for the helm. -/
  | usvNav (nav : NavigationReport)
  deriving DecidableEq

/-- `intervehicle().publish<group>(nav, nav_publisher())` -/
def publish (group : Group) (nav : NavigationReport) : Output :=
  .intervehicle (navPublisher nav group)

/-- `intervehicle().subscribe<group, NavigationReport>(handler, subscriber)` -/
structure Subscription where
  group : Group
  handler : NavigationReport → List Output
  subscriber : Subscriber

/-- Goby posts a report from this sender to the subscription. -/
def Subscription.Accepts (sub : Subscription) (sender : Int) (nav : NavigationReport) : Prop :=
  sender ∈ sub.subscriber.cfg.publisherId ∧ sub.subscriber.group nav = sub.group

/-- Only the newest report waits. -/
def newestOnly : Buffer := { ackRequired := false, maxQueue := 1, newestFirst := true }

variable (geodesy : UTMGeodesy) (clock : SystemClock)

namespace AUVManager

variable (cfg : AUVManagerConfig)

/-- The AUV publishes its report on its own group. -/
def onNodeStatus (status : NodeStatus) : List Output :=
  [publish auvNav (toDccl geodesy clock status cfg.vehicleId)]

/-- It passes the USV's reports on to its helm. -/
def subscriptions : List Subscription :=
  [{ group := usvNav
     handler := fun nav => [.usvNav nav]
     subscriber :=
       navSubscriber
         { publisherId := [cfg.usvModemId], broadcast := true, buffer := newestOnly } }]

end AUVManager

namespace USVManager

variable (cfg : USVManagerConfig)

/-- The USV publishes its report on its own group. -/
def onNodeStatus (status : NodeStatus) : List Output :=
  [publish usvNav (toDccl geodesy clock status cfg.vehicleId)]

/-- It relays each AUV's reports. -/
def subscriptions : List Subscription :=
  cfg.auvModemId.map fun auvModemId =>
    { group := auvNav
      handler := fun nav => [publish auvNav nav]
      subscriber := navSubscriber { publisherId := [auvModemId], buffer := newestOnly } }

end USVManager

namespace TopsideManager

variable (cfg : TopsideManagerConfig)

/-- A report is republished as a status. -/
def republish (nav : NavigationReport) : List Output :=
  [.nodeStatus (toNodeStatus geodesy clock nav)]

/-- Relayed reports interleave, so that subscription keeps them all. -/
def subscriptions : List Subscription :=
  [{ group := usvNav
     handler := republish geodesy clock
     subscriber := navSubscriber { publisherId := [cfg.usvModemId], buffer := newestOnly } },
   { group := auvNav
     handler := republish geodesy clock
     subscriber :=
       navSubscriber
         { publisherId := [cfg.usvModemId]
           buffer := { ackRequired := true, maxQueue := 10, newestFirst := false } } }]

end TopsideManager

namespace ManagerConfig

/-- What a manager does with its own vehicle's status; the topside's does not ask for one. -/
def onNodeStatus (cfg : ManagerConfig) (status : NodeStatus) : List Output :=
  match cfg with
  | .topside _ => []
  | .usv cfg => USVManager.onNodeStatus geodesy clock cfg status
  | .auv cfg => AUVManager.onNodeStatus geodesy clock cfg status

/-- What a manager subscribes to. -/
def subscriptions (cfg : ManagerConfig) : List Subscription :=
  match cfg with
  | .topside cfg => TopsideManager.subscriptions geodesy clock cfg
  | .usv cfg => USVManager.subscriptions cfg
  | .auv cfg => AUVManager.subscriptions cfg

end ManagerConfig

end Trail

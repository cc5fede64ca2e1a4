import FleetDashboard.Kubernetes.Workload
import FleetDashboard.Views.Basic

/-!
# The view of cron jobs

A cron job runs when it is said that it is not held; one that says nothing waits.
-/

namespace FleetDashboard

open Selection (Property Value HasProperties)

/-- A cron job in a listing. -/
structure CronJobItem where
  /-- Its metadata. -/
  summary : ObjectSummary
  /-- When it runs. -/
  schedule : String
  /-- Whether it is held. -/
  suspended : Option Bool
  /-- How many of its jobs run. -/
  active : Nat
  /-- When the last one was started. -/
  lastScheduled : Option Instant
  /-- The images of its pods. -/
  images : List String
deriving DecidableEq

namespace CronJobItem

/-- The item of a cron job. -/
def ofCronJob (job : CronJob) : CronJobItem :=
  let spec := job.spec.getD .empty
  let status := job.status.getD .empty
  { summary := .ofMetadata job.metadata
    schedule := spec.schedule
    suspended := spec.suspended
    active := (status.active.getD []).length
    lastScheduled := status.lastScheduled
    images := (spec.jobTemplate.spec.map fun spec => spec.template.images).getD [] }

/-- Whether it is said that the job is not held. -/
def isRunning (item : CronJobItem) : Bool :=
  item.suspended == some false

/-- The properties of a cron job. -/
def property? (item : CronJobItem) : Property → Option Value
  | .kind => some (.str ResourceKind.cronJob.jsonName)
  | .other "schedule" => some (.str item.schedule)
  | .other "active" => some (.int (Int64.ofNat item.active))
  | other => item.summary.property? other

instance : Item CronJobItem where
  property? := property?
  toJson item :=
    .obj [("objectMeta", item.summary.toJson), ("typeMeta", kindJson .cronJob),
      ("schedule", .str item.schedule),
      ("suspend", (item.suspended.map Json.bool).getD .null), ("active", .nat item.active),
      ("lastSchedule", .ofOption (item.lastScheduled.map Instant.text)),
      ("containerImages", .strings item.images)]

end CronJobItem

/-- The list of cron jobs. -/
def listCronJobs (request : ListRequest) : Task Call (ViewResult (ListPage CronJobItem)) :=
  request.single "items" (fun items => some (.ofRunning CronJobItem.isRunning items))
    CronJobItem.ofCronJob

end FleetDashboard

import ChopNow.Lib.Interleave
import ChopNow.Spec.Finance

/-! The loops of sweepWeeklyVendorPayouts and sweepDailyRiderPayouts. Each row has a `try` of
its own. -/

namespace ChopNow

open Interleave

def MAX_VENDORS_PER_RUN : ℕ := 500

def MAX_RIDERS_PER_RUN : ℕ := 500

inductive PayoutSweepKind
  | vendors | riders
  deriving DecidableEq

def PayoutSweepKind.maxPerRun : PayoutSweepKind → ℕ
  | .vendors => MAX_VENDORS_PER_RUN
  | .riders => MAX_RIDERS_PER_RUN

def PayoutSweepKind.party : PayoutSweepKind → ℕ → Party
  | .vendors, id => .vendor id
  | .riders, id => .rider id

/-- The books, and the two columns that nothing but a sweep reads. -/
structure SweepDb where
  books : Books
  vendorType : VendorId → VendorType
  riderPhone : RiderId → Phone

/-- `select: { id, momoPhone }`. -/
structure SweepRow where
  id : ℕ
  momoPhone : Phone
  deriving DecidableEq

def SweepDb.matching (db : SweepDb) : PayoutSweepKind → List SweepRow
  | .vendors => (db.books.vendors.filter fun v => v.status == .active &&
      (db.vendorType v.id == .semiFormal || db.vendorType v.id == .restaurant)).map fun v => ⟨v.id, v.momoPhone⟩
  | .riders => (db.books.riders.filter fun r => r.status == .active).map fun r => ⟨r.id, db.riderPhone r.id⟩

/-- `take` without `orderBy`: which rows it gives and in which order is the database's choice. -/
def SweepDb.mayFind (db : SweepDb) (kind : PayoutSweepKind) (rows : List SweepRow) : Prop :=
  (rows.map (·.id)).Nodup ∧ (∀ row ∈ rows, row ∈ db.matching kind) ∧
    rows.length = min kind.maxPerRun (db.matching kind).length

instance (db : SweepDb) (kind : PayoutSweepKind) (rows : List SweepRow) : Decidable (db.mayFind kind rows) :=
  inferInstanceAs (Decidable (_ ∧ _ ∧ _))

/-- The closing log line. `failedRows` are the `row_failed` lines before it, and `failed` their number. -/
structure SweepReport where
  candidates : ℕ
  scheduled : ℕ := 0
  skippedBelowMin : ℕ := 0
  skippedOpenDisputes : ℕ := 0
  skippedNonPositive : ℕ := 0
  skippedKycIncomplete : ℕ := 0
  failedRows : List ℕ := []
  totalXAF : ℤ := 0

/-- The `switch`, and the `catch`. -/
def SweepReport.count (report : SweepReport) (row : SweepRow) : ScheduleOutcome → SweepReport
  | .scheduled netXAF => { report with scheduled := report.scheduled + 1, totalXAF := report.totalXAF + netXAF }
  | .belowMinimum _ => { report with skippedBelowMin := report.skippedBelowMin + 1 }
  | .openDisputes => { report with skippedOpenDisputes := report.skippedOpenDisputes + 1 }
  | .nonPositive _ => { report with skippedNonPositive := report.skippedNonPositive + 1 }
  | .kycIncomplete _ => { report with skippedKycIncomplete := report.skippedKycIncomplete + 1 }
  | .thrown _ | .failed _ => { report with failedRows := report.failedRows ++ [row.id] }
  | .alreadyScheduled _ | .requestNotFound | .requestNotPending => report

inductive PayoutSweep
  | findMany (kind : PayoutSweepKind) (startedAt : Time)
  | trying (kind : PayoutSweepKind) (startedAt : Time) (current : SweepRow) (t : Scheduler) (rest : List SweepRow)
      (report : SweepReport)
  | completed (kind : PayoutSweepKind) (startedAt : Time) (report : SweepReport)
  | crashed

def PayoutSweepKind.trySchedule (kind : PayoutSweepKind) (startedAt : Time) (row : SweepRow) : Scheduler :=
  match kind with
  | .vendors => .readBalance (.vendorCron row.id row.momoPhone startedAt)
  | .riders => .checkKyc row.id row.momoPhone startedAt

/-- The head of the loop. -/
def PayoutSweep.loop (kind : PayoutSweepKind) (startedAt : Time) (report : SweepReport) : List SweepRow → PayoutSweep
  | [] => .completed kind startedAt report
  | row :: rest => .trying kind startedAt row (kind.trySchedule startedAt row) rest report

/-- After a statement of the current row. -/
def PayoutSweep.next (kind : PayoutSweepKind) (startedAt : Time) (current : SweepRow) (rest : List SweepRow)
    (report : SweepReport) : Scheduler → PayoutSweep
  | .done outcome => loop kind startedAt (report.count current outcome) rest
  | t => .trying kind startedAt current t rest report

inductive SweepReply
  | found (rows : List SweepRow)
  | statement (e : Reply)

def PayoutSweep.step (db : SweepDb) : PayoutSweep → SweepReply → Option (SweepDb × PayoutSweep)
  | .findMany kind startedAt, .found rows =>
    if db.mayFind kind rows then some (db, loop kind startedAt { candidates := rows.length } rows) else none
  | .findMany .., .statement (.fail _) => some (db, .crashed)
  | .trying kind startedAt current t rest report, .statement e =>
    (t.step db.books e).map fun r => ({ db with books := r.1 }, next kind startedAt current rest report r.2)
  | _, _ => none

/-! Sweeps next to everything else that writes the books. -/

inductive CronThread
  | call (t : Scheduler)
  | sweep (s : PayoutSweep)

/-- `accounts` is whatever other services write to the vendors and the riders. -/
inductive CronEvent
  | books (n : BooksEvent)
  | accounts (vendors : List Vendor) (vendorType : VendorId → VendorType) (riders : List Rider) (riderPhone : RiderId → Phone)
  | sweep (kind : PayoutSweepKind)

/-- A sweep starts at the present moment, and so may another. -/
def cronEvent (db : SweepDb) : CronEvent → SweepDb × List CronThread
  | .books n => ({ db with books := (booksEvent db.books n).1 }, (booksEvent db.books n).2.map .call)
  | .accounts vendors vendorType riders riderPhone =>
    ({ books := { db.books with vendors, riders }, vendorType, riderPhone }, [])
  | .sweep kind => (db, [.sweep (.findMany kind db.books.clock)])

def cronStep (db : SweepDb) : CronThread → SweepReply → Option (SweepDb × List CronThread)
  | .call t, .statement e => (t.step db.books e).map fun r => ({ db with books := r.1 }, [.call r.2])
  | .sweep s, e => (s.step db e).map fun r => (r.1, [.sweep r.2])
  | .call _, .found _ => none

def cronMachine : Machine SweepDb CronThread CronEvent SweepReply where
  event db n := some (cronEvent db n)
  step := cronStep

end ChopNow
